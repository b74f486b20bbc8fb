import ModuleBundler.Proofs.Script.Positions

/-!
The names in a script that refer to no variable. They are known by the tree that carries them,
wherever it stands, so what a script says by such names is told position by position.
-/

set_option autoImplicit false

namespace ModuleBundler.Script

/-- What a name in a script is, if it does not stand for the value of a variable. -/
inductive FixedName where
  /-- A property that is read or assigned to, behind a point. -/
  | property (isPrivate : Bool) (name : String)
  /-- The key of a property of an object or a pattern, or of a member of a class. -/
  | key (name : String)
  | privateKey (name : String)
  | stringKey (s : StringLiteral)
  | numberKey (v : Binary64)
  | bigKey (i : Int)
  /-- A label, where it is set or jumped to. -/
  | label (name : String)
  /-- A variable, a parameter, a function or a class, where it is declared or given a value. -/
  | bound (name : String)
  /-- A property of a word of the language. -/
  | metaProperty (word property : String)
deriving DecidableEq

/-- The name that a tree carries itself, if it stands for no value of a variable. A shorthand
property is a key, too. -/
def Node.fixedName? : {c : Category} → Node c → Option FixedName
  | _, .functionValue name _ => name.map .bound
  | _, .classValue name _ _ => name.map .bound
  | _, .member _ isPrivate _ name => some (.property isPrivate name)
  | _, .newTarget => some (.metaProperty "new" "target")
  | _, .importMeta => some (.metaProperty "import" "meta")
  | _, .shorthand name => some (.key name)
  | _, .shorthandDefault _ name _ => some (.key name)
  | _, .nameKey name => some (.key name)
  | _, .privateKey name => some (.privateKey name)
  | _, .stringKey s => some (.stringKey s)
  | _, .numberKey v => some (.numberKey v)
  | _, .bigKey i => some (.bigKey i)
  | _, .binding name => some (.bound name)
  | _, .namePattern name _ => some (.key name)
  | _, .labelled label _ => some (.label label)
  | _, .breakStatement label => label.map .label
  | _, .continueStatement label => label.map .label
  | _, .functionDeclaration name _ => some (.bound name)
  | _, .classDeclaration name _ _ => some (.bound name)
  | _, _ => none

/-- The name of this kind at a position, if there is one. -/
def Tree.fixedNameAt? (t : Tree) (π : List Nat) : Option FixedName :=
  (t.at? π).bind (·.2.fixedName?)

theorem Tree.fixedNameAt?_eq_some {t : Tree} {π : List Nat} {name : FixedName} :
    t.fixedNameAt? π = some name ↔ ∃ part, t.at? π = some part ∧ part.2.fixedName? = some name := by
  rw [fixedNameAt?, Option.bind_eq_some_iff]

end ModuleBundler.Script
