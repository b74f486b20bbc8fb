import ModuleBundler.Regex.Escape

/-!
Sets of characters in brackets. A set lists characters, ranges, escapes and sets that have a name
or brackets of their own; operators combine what stands before them with what follows.
-/

set_option autoImplicit false

namespace ModuleBundler.Regex

/-- A set of characters, and how deep the brackets and operators that make it up nest. -/
structure Bracket where
  set : Text.CharSet
  depth : Nat

namespace Bracket

/-! ## Items -/

/-- A character that is known. -/
def single? (f : Flags) (c : Char) : Option Bracket :=
  if f.unicode || c.toNat < 0x80 then some ⟨.range c.toNat c.toNat, 0⟩ else none

/-- A named set of ASCII characters. -/
def named? (name : List Char) : Option Text.CharSet :=
  let range (a b : Char) : Text.CharSet := .range a.toNat b.toNat
  let digits := range '0' '9'
  let letters : Text.CharSet := .unions [range 'a' 'z', range 'A' 'Z']
  match String.ofList name with
  | "alnum" => some (.unions [letters, digits])
  | "alpha" => some letters
  | "ascii" => some (range '\x00' '\x7f')
  | "blank" => some (.unions [range '\t' '\t', range ' ' ' '])
  | "cntrl" => some (.unions [range '\x00' '\x1f', range '\x7f' '\x7f'])
  | "digit" => some digits
  | "graph" => some (range '!' '~')
  | "lower" => some (range 'a' 'z')
  | "print" => some (range ' ' '~')
  | "punct" =>
    some (.unions [range '!' '/', range ':' '@', range '[' '\x60', range '\x7b' '~'])
  | "space" => some (.unions [range '\t' '\r', range ' ' ' '])
  | "upper" => some (range 'A' 'Z')
  | "word" => some (.unions [letters, digits, range '_' '_'])
  | "xdigit" => some (.unions [digits, range 'a' 'f', range 'A' 'F'])
  | _ => none

/-- A set by its name, its bracket already taken: `:name:]` or `:^name:]`. Where only ASCII is
known, it cannot be turned around. The outer result says whether there is such a name. -/
def readNamed? (f : Flags) : List Char → Option (Option Bracket × List Char)
  | ':' :: rest =>
    let (negated, rest) := match rest with
      | '^' :: rest => (true, rest)
      | _ => (false, rest)
    let name := rest.takeWhile (· != ':')
    match rest.drop name.length with
    | ':' :: ']' :: rest => do
      let s := f.fold (← named? name)
      if !negated then return (some ⟨s, 0⟩, rest)
      else return (if f.unicode then some ⟨s.complement, 0⟩ else none, rest)
    | _ => none
  | _ => none

/-- A character or an escaped set. -/
def readItem (f : Flags) : List Char → Option ((Char ⊕ Text.CharSet) × List Char)
  | '\\' :: rest => do
    match ← Escape.read f rest with
    | (.char c, rest) => some (.inl c, rest)
    | (.set s, rest) => some (.inr s, rest)
    | (.assertion _, _) => none
  | c :: rest => some (.inl c, rest)
  | [] => none

/-- A range, or what stands alone. -/
def readRange (f : Flags) (cs : List Char) : Option (Bracket × List Char) := do
  let (item, rest) ← readItem f cs
  let rest := f.skip rest
  let alone := match item with
    | .inl c => (single? f c).map fun b => (b, rest)
    | .inr s => some (⟨s, 0⟩, rest)
  match rest with
  | [] => none
  | '-' :: after =>
    let after := f.skip after
    if after.head? == some ']' || after.head? == some '-' then alone
    else match item, ← readItem f after with
      | .inl first, (.inl last, rest) =>
        let isKnown := f.unicode || (first.toNat < 0x80 && last.toNat < 0x80)
        if first ≤ last && isKnown then some (⟨.range first.toNat last.toNat, 0⟩, rest)
        else none
      | _, _ => none
  | _ => alone

/-! ## Combining -/

/-- How two sets are combined. -/
inductive Operator where
  | both
  | difference
  | exactlyOne

/-- The members of two sets that an operator keeps. -/
def Operator.apply (a b : Text.CharSet) : Operator → Text.CharSet
  | .both => a.intersection b
  | .difference => a.minus b
  | .exactlyOne => .unions [a.minus b, b.minus a]

/-- All of some items. -/
def all (items : List Bracket) : Bracket :=
  let depth := (items.map (·.depth)).foldl max 0
  ⟨.unions (items.map (·.set)), if items.length ≤ 1 then depth else depth + 1⟩

/-- Combines what stands before an operator with what follows it. -/
def combine (f : Flags) (left : Option (Operator × Bracket)) (b : Bracket) : Bracket :=
  match left with
  | none => b
  | some (o, a) => ⟨o.apply (f.fold a.set) (f.fold b.set), max a.depth b.depth + 1⟩

/-- A set in brackets from what stands between them. -/
def close (f : Flags) (negated : Bool) (b : Bracket) : Bracket :=
  let s := f.fold b.set
  ⟨if negated then s.complement else s, b.depth + 1⟩

/-- The operator that a text begins with. -/
def operator? : List Char → Option (Operator × List Char)
  | '&' :: '&' :: rest => some (.both, rest)
  | '-' :: '-' :: rest => some (.difference, rest)
  | '~' :: '~' :: rest => some (.exactlyOne, rest)
  | _ => none

/-! ## Reading -/

mutual

/-- The rest of a set after its bracket; `fuel` bounds the characters. Hyphens that come first
stand for themselves, and so does a closing bracket in their place. -/
def read (f : Flags) : Nat → List Char → Option (Bracket × List Char)
  | 0, _ => none
  | fuel + 1, cs => do
    let (negated, cs) := match f.skip cs with
      | '^' :: rest => (true, f.skip rest)
      | cs => (false, cs)
    let (hyphens, rest) := f.takeWhile (· == '-') (cs.length + 1) cs
    let first := hyphens.filterMap (single? f)
    let (first, rest) := match first, rest with
      | [], ']' :: rest => ((single? f ']').toList, rest)
      | first, rest => (first, rest)
    if negated && !f.unicode then none
    else
      let (b, rest) ← readItems f fuel none first rest
      return (b.close f negated, rest)

/-- The items of a set up to its closing bracket, the last one before all others. -/
def readItems (f : Flags) : Nat → Option (Operator × Bracket) → List Bracket → List Char →
    Option (Bracket × List Char)
  | 0, _, _, _ => none
  | fuel + 1, left, items, cs =>
    let cs := f.skip cs
    match operator? cs with
    | some (o, rest) => readItems f fuel (some (o, combine f left (all items))) [] rest
    | none =>
      match cs with
      | [] => none
      | ']' :: rest => some (combine f left (all items), rest)
      | '[' :: rest =>
        match readNamed? f rest with
        | some (some b, rest) => readItems f fuel left (b :: items) rest
        | some (none, _) => none
        | none =>
          match read f fuel rest with
          | some (b, rest) => readItems f fuel left (b :: items) rest
          | none => none
      | cs =>
        match readRange f cs with
        | some (b, rest) => readItems f fuel left (b :: items) rest
        | none => none

end

end Bracket

end ModuleBundler.Regex
