import ModuleBundler.Proofs.Number.Shortest
import ModuleBundler.Proofs.Script.Lexer.Spelling
import ModuleBundler.Script.Build
import ModuleBundler.Script.Context
import ModuleBundler.Script.LiteralText

/-!
Plain expressions and statements, and the tokens of their texts. A path is a name with accesses and
calls; a value is a path, a literal, an array or an object of values, or a function without a name
that returns a path. Data is of this form, and so is what a program writes to load a module and to
define what it exports. No operator, no declaration with a scope and no statement inside another
one is among them, so nothing in their texts depends on what stands around it.

A program marks its own names as generated and writes no text of its own for a string; both marks
are lost in a text. `Node.asWritten` is the tree with the marks that a text gives it.
-/

set_option autoImplicit false

namespace ModuleBundler.Script

/-! ## Marks -/

/-- A string literal with the text it has. -/
def StringLiteral.asWritten (s : StringLiteral) : StringLiteral :=
  ⟨s.value, some (String.ofList s.text)⟩

/-- A plain tree with the marks that its text gives it. -/
def Node.asWritten : {c : Category} → Node c → Node c
  | _, .cons head tail => .cons head.asWritten tail.asWritten
  | _, .present n => .present n.asWritten
  | _, .identifier _ name => .identifier .written name
  | _, .stringLiteral s => .stringLiteral s.asWritten
  | _, .array elements trailingComma => .array elements.asWritten trailingComma
  | _, .object properties => .object properties.asWritten
  | _, .functionValue name f => .functionValue name f.asWritten
  | _, .unary op operand => .unary op operand.asWritten
  | _, .call optional callee arguments => .call optional callee.asWritten arguments.asWritten
  | _, .member optional isPrivate holder name => .member optional isPrivate holder.asWritten name
  | _, .index optional holder key => .index optional holder.asWritten key.asWritten
  | _, .plainElement value => .plainElement value.asWritten
  | _, .keyValue key value => .keyValue key.asWritten value.asWritten
  | _, .stringKey s => .stringKey s.asWritten
  | _, .function isAsync isGenerator parameters body =>
    .function isAsync isGenerator parameters body.asWritten
  | _, .expressionStatement e => .expressionStatement e.asWritten
  | _, .returnStatement value => .returnStatement value.asWritten
  | _, .variableDeclaration kind declarators => .variableDeclaration kind declarators.asWritten
  | _, .declarator target init => .declarator target init.asWritten
  -- trees without marks, and trees that are not plain
  | _, n => n

theorem Node.asWritten_ofList {c : Category} (ns : List (Node c)) :
    (Node.ofList ns).asWritten = .ofList (ns.map Node.asWritten) := by
  induction ns with
  | nil => rfl
  | cons n ns ih => exact congrArg (Node.cons n.asWritten) ih

/-! ## Words -/

/-- Words that mean something of their own, in some context at least. -/
def grammarWords : List String :=
  alwaysReserved ++ strictlyUnbound ++ ["enum", "let", "await", "async", "eval", "arguments"]

/-- A word that is a name in every context. -/
def isPlainName (w : String) : Bool := !grammarWords.contains w && isWord w

section PlainNames

variable {w : String}

theorem contains_eq_false (hw : isPlainName w = true) {words : List String}
    (hwords : words ⊆ grammarWords) : words.contains w = false := by
  rw [isPlainName, Bool.and_eq_true, Bool.not_eq_true', List.contains_eq_mem,
    decide_eq_false_iff_not] at hw
  rw [List.contains_eq_mem, decide_eq_false_iff_not]
  exact fun hmem => hw.1 (hwords hmem)

theorem beq_eq_false_of_isPlainName (hw : isPlainName w = true) {text : String}
    (htext : text ∈ grammarWords) : (w == text) = false := by
  have hcontains := contains_eq_false hw (List.forall_mem_singleton.mpr htext)
  rwa [List.contains_cons, List.contains_nil, Bool.or_false] at hcontains

theorem isWord_of_isPlainName (hw : isPlainName w = true) : isWord w = true :=
  (Bool.and_eq_true_iff.mp hw).2

/-- A plain name is a name in every context. -/
theorem reserves_eq_false (hw : isPlainName w = true) (ctx : Context) : ctx.reserves w = false := by
  have hreserved : alwaysReserved.contains w = false := contains_eq_false hw (by decide)
  have hstrict : strictlyReserved.contains w = false := contains_eq_false hw (by decide)
  have hword : ∀ text ∈ ["enum", "let", "await", "yield"], (w == text) = false :=
    fun text htext => beq_eq_false_of_isPlainName hw (by revert text; decide)
  simp only [Context.reserves, hreserved, hstrict, hword _ (by decide : "enum" ∈ _),
    hword _ (by decide : "let" ∈ _), hword _ (by decide : "await" ∈ _),
    hword _ (by decide : "yield" ∈ _), Bool.false_and, Bool.and_false, Bool.or_false]

end PlainNames

/-! ## Phrases -/

/-- A number with a text that is read as the number. -/
def IsWritable (v : Binary64) : Prop := ∃ n : Numeral, v.plain = n.text ∧ n.value = v

/-- A finite value is written as its shortest decimal, and read as itself. -/
theorem isWritable_finite {m : Nat} {e : Int} (h : Binary64.IsValue m e) :
    IsWritable (.finite false m e) := by
  obtain ⟨n, htext, hvalue⟩ := Numeral.exists_text_plain (Binary64.shortest m e)
  exact ⟨n, htext, hvalue.trans (Binary64.ofDecimal_shortest false h)⟩

/-- A string literal with a text in quotes that is read as its value, character by character. -/
def StringLiteral.IsQuoted (s : StringLiteral) : Prop :=
  ∃ write : Char → List Char, (∀ c, WritesChar c (write c)) ∧ s.text = quoted write s.value

/-- No null character stands after a backslash, where it would not be printed. -/
def KeepsNulls (s : String) : Prop := ¬ ['\\', '\x00'] <:+: s.toList

instance (s : String) : Decidable (KeepsNulls s) :=
  inferInstanceAs (Decidable (¬ ['\\', '\x00'] <:+: s.toList))

theorem escaped_eq_flatMap {cs : List Char} (h : ¬ ['\\', '\x00'] <:+: cs) :
    escaped cs = cs.flatMap escapedChar := by
  induction cs with
  | nil => rfl
  | cons c cs ih =>
    rw [List.flatMap_cons, ← ih fun hwithin => h (hwithin.trans (List.suffix_cons c cs).isInfix)]
    refine escaped.eq_2 c cs fun rest hc hcs => h ?_
    rw [hc, hcs]
    exact (List.prefix_append ['\\', '\x00'] rest).isInfix

/-- A string literal that was not written. -/
theorem isQuoted_ofValue {s : String} (hs : KeepsNulls s) : (StringLiteral.ofValue s).IsQuoted :=
  ⟨escapedChar, writesChar_escapedChar, congrArg ('"' :: · ++ ['"']) (escaped_eq_flatMap hs)⟩

/-- The token of a key. -/
def Node.keyToken : Key → Token
  | .nameKey w => .word w
  | .stringKey s => .string s.asWritten
  | _ => .broken

/-- A word or a string that names a property. -/
inductive IsPlainKey : Key → Prop where
  | name {w : String} (hw : isWord w = true) (hreturn : w ≠ "return") : IsPlainKey (.nameKey w)
  | string {s : StringLiteral} (hs : s.IsQuoted) : IsPlainKey (.stringKey s)

/-- Tokens with a comma before each of them. -/
def commaed (parts : List (List Token)) : List Token := parts.flatMap (.punctuator "," :: ·)

/-- Tokens with commas between them. -/
def commas : List (List Token) → List Token
  | [] => []
  | part :: parts => part ++ commaed parts

/-- The tokens of a property: those of its key, a colon and those of its value. -/
def fieldTokens (f : Key × Expr × List Token) : List Token :=
  f.1.keyToken :: .punctuator ":" :: f.2.2

/-- What a phrase is: a path, which goes on with accesses and calls, or a value. -/
inductive Form where
  | path
  | value
deriving DecidableEq

/-- An expression that is written by tokens. -/
inductive Phrase : Form → Expr → List Token → Prop where
  | name (origin : Origin) {w : String} (hw : isPlainName w = true) :
      Phrase .path (.identifier origin w) [.word w]
  | member {e : Expr} {ts : List Token} {w : String} (he : Phrase .path e ts)
      (hw : isWord w = true) (hreturn : w ≠ "return") :
      Phrase .path (.member false false e w) (ts ++ [.punctuator ".", .word w])
  | index {e k : Expr} {ts us : List Token} (he : Phrase .path e ts) (hk : Phrase .value k us) :
      Phrase .path (.index false e k) (ts ++ .punctuator "[" :: (us ++ [.punctuator "]"]))
  | call {e : Expr} {ts : List Token} {arguments : List (Expr × List Token)}
      (he : Phrase .path e ts) (harguments : ∀ a ∈ arguments, Phrase .value a.1 a.2) :
      Phrase .path (.call false e (.ofList (arguments.map fun a => .plainElement a.1)))
        (ts ++ .punctuator "(" :: (commas (arguments.map (·.2)) ++ [.punctuator ")"]))
  | path {e : Expr} {ts : List Token} (he : Phrase .path e ts) : Phrase .value e ts
  | null : Phrase .value .nullLiteral [.word "null"]
  | bool (b : Bool) : Phrase .value (.boolLiteral b) [.word (if b then "true" else "false")]
  | string {s : StringLiteral} (hs : s.IsQuoted) :
      Phrase .value (.stringLiteral s) [.string s.asWritten]
  | number {v : Binary64} (hv : IsWritable v) : Phrase .value (.numberLiteral v) [.number v]
  | negative {v : Binary64} (hv : IsWritable v) :
      Phrase .value (.unary .minus (.numberLiteral v)) [.punctuator "-", .number v]
  | array {elements : List (Expr × List Token)}
      (helements : ∀ a ∈ elements, Phrase .value a.1 a.2) :
      Phrase .value (.array (.ofList (elements.map fun a => .present (.plainElement a.1))) false)
        (.punctuator "[" :: (commas (elements.map (·.2)) ++ [.punctuator "]"]))
  | object {fields : List (Key × Expr × List Token)} (hkeys : ∀ f ∈ fields, IsPlainKey f.1)
      (hvalues : ∀ f ∈ fields, Phrase .value f.2.1 f.2.2) :
      Phrase .value (.object (.ofList (fields.map fun f => .keyValue f.1 f.2.1)))
        (.punctuator "\x7b" :: (commas (fields.map fieldTokens) ++ [.punctuator "\x7d"]))
  | getter {e : Expr} {ts : List Token} (he : Phrase .path e ts) :
      Phrase .value (Build.lambda [] [Build.returns e])
        ([.word "function", .punctuator "(", .punctuator ")", .punctuator "\x7b", .word "return"] ++
          (ts ++ [.punctuator ";", .punctuator "\x7d"]))

/-- A statement that is written by tokens. -/
inductive Sentence : Statement → List Token → Prop where
  | path {e : Expr} {ts : List Token} (he : Phrase .path e ts) :
      Sentence (.expressionStatement e) (ts ++ [.punctuator ";"])
  | string {s : StringLiteral} (hs : s.IsQuoted) :
      Sentence (.expressionStatement (.stringLiteral s)) [.string s.asWritten, .punctuator ";"]
  | var {w : String} {e : Expr} {ts : List Token} (hw : isPlainName w = true)
      (he : Phrase .value e ts) :
      Sentence (Build.var w e)
        (.word "var" :: .word w :: .punctuator "=" :: (ts ++ [.punctuator ";"]))

/-- A program of plain statements, without a line for its interpreter. -/
structure Program.IsPlain (p : Program) : Prop where
  interpreter_eq : p.interpreter = none
  body : ∀ s ∈ p.body, ∃ ts, Sentence s ts

/-- A program with the marks that its text gives it. -/
def Program.asWritten (p : Program) : Program := ⟨p.interpreter, p.body.map Node.asWritten⟩

/-! ## First tokens -/

namespace Token

/-- A property that a token has and a word or punctuator has not tells the two apart. -/
theorem is_eq_false {p : Token → Bool} {t : Token} (ht : p t = true) {text : String}
    (hword : p (.word text) = false) (hmark : p (.punctuator text) = false) :
    t.is text = false := by
  cases t with
  | word w =>
    refine beq_eq_false_iff_ne.mpr ?_
    rintro rfl
    exact absurd ht (Bool.eq_false_iff.mp hword)
  | punctuator q =>
    refine beq_eq_false_iff_ne.mpr ?_
    rintro rfl
    exact absurd ht (Bool.eq_false_iff.mp hmark)
  | _ => rfl

/-- A token that a path begins with. -/
def beginsPath : Token → Bool
  | .word w => isPlainName w
  | _ => false

/-- A token that a value begins with, unless it is a negative number. -/
def beginsPrimary : Token → Bool
  | .string _ | .number _ => true
  | .word w => isPlainName w || valueWords.contains w || w == "function"
  | .punctuator p => p == "[" || p == "\x7b"
  | _ => false

/-- A token that a value begins with. -/
def beginsValue (t : Token) : Bool := t.beginsPrimary || t == .punctuator "-"

/-- A token that closes something or separates its parts. -/
def closes : Token → Bool
  | .punctuator p => [",", "]", "\x7d", ")", ";"].contains p
  | _ => false

theorem beginsPrimary_of_beginsPath {t : Token} (ht : t.beginsPath = true) :
    t.beginsPrimary = true := by
  cases t with
  | word w => exact Bool.or_eq_true_iff.mpr (.inl (Bool.or_eq_true_iff.mpr (.inl ht)))
  | _ => cases ht

theorem beginsValue_of_beginsPrimary {t : Token} (ht : t.beginsPrimary = true) :
    t.beginsValue = true :=
  Bool.or_eq_true_iff.mpr (.inl ht)

theorem isEnd_of_beginsValue {t : Token} (ht : t.beginsValue = true) : t.isEnd = false := by
  cases t with
  | endOfInput => cases ht
  | _ => rfl

end Token

namespace Phrase

variable {e : Expr} {ts : List Token}

/-- A path begins with a name. -/
theorem exists_first_path (h : Phrase .path e ts) : ∃ t us, ts = t :: us ∧ t.beginsPath = true := by
  generalize hform : Form.path = form at h
  induction h with
  | name _ hw => exact ⟨_, [], rfl, hw⟩
  | member _ _ _ ih =>
    obtain ⟨t, us, rfl, ht⟩ := ih hform
    exact ⟨t, _, rfl, ht⟩
  | index _ _ ih =>
    obtain ⟨t, us, rfl, ht⟩ := ih hform
    exact ⟨t, _, rfl, ht⟩
  | call _ _ ih =>
    obtain ⟨t, us, rfl, ht⟩ := ih hform
    exact ⟨t, _, rfl, ht⟩
  | _ => cases hform

end Phrase

/-- A token that a plain statement begins with. -/
def Token.beginsSentence (t : Token) : Bool := t.beginsPrimary || t == .word "var"

/-- What a statement begins with: a name, a string or the word for variables. -/
theorem Sentence.exists_first {s : Statement} {ts : List Token} (h : Sentence s ts) :
    ∃ t us, ts = t :: us ∧ t.beginsSentence = true := by
  cases h with
  | path he =>
    obtain ⟨t, us, rfl, ht⟩ := he.exists_first_path
    exact ⟨t, _, rfl, Bool.or_eq_true_iff.mpr (.inl (Token.beginsPrimary_of_beginsPath ht))⟩
  | string _ => exact ⟨_, _, rfl, rfl⟩
  | var _ _ => exact ⟨_, _, rfl, by decide⟩

end ModuleBundler.Script
