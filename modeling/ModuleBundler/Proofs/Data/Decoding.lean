import ModuleBundler.Proofs.Data.Integers
import ModuleBundler.Proofs.Sequencing

/-!
Literals read back. A literal of data is one way to write plain data: null, booleans, numbers, big
integers, texts, lists, and lists of entries. Every piece of data has a normal form that is plain
data, unless some part of it has no plain form at all. It forgets how the data came: what only
wraps a value, which of the ways to say nothing was used, the width of an integer, whether a text
was the name of a variant. A map is normal as its entries, which are made from its steps: each value
belongs to the key that was given last before it.

Decoding the literal of data gives its normal form (`Data.decodesToNormal`), so data of different
normal forms has different literals. In the steps of a map the keys vary that are pending, so the
induction is about all keys that may be pending; of those that are used up it need not know
anything, for a value that comes without a new key is refused.
-/

set_option autoImplicit false

namespace ModuleBundler

open Script

/-! ## Plain data -/

/-- Data without regard to where it comes from. -/
inductive Plain where
  | null
  | bool (b : Bool)
  | number (v : Binary64)
  | big (i : Int)
  | text (s : String)
  | list (elements : List Plain)
  /-- Keys and their values in order. A key may be there more than once. -/
  | entries (es : List (Plain × Plain))

namespace Plain

/-- An integer is a number if it is one of those that are exact with all below them. -/
def ofInt (i : Int) : Plain := if i.natAbs ≤ 2 ^ 53 - 1 then .number (.ofInt i) else .big i

/-- A step of a map: a key or a value. -/
inductive Step where
  | key (k : Plain)
  | value (v : Plain)

/-- The entries that steps make when `latest` is the key given last before them: each value with
the key that was given last before it. A key that no value follows makes none. -/
def joined : (latest : Option Plain) → List Step → List (Plain × Plain)
  | _, [] => []
  | _, .key k :: rest => joined (some k) rest
  | some k, .value v :: rest => (k, v) :: joined (some k) rest
  | none, .value _ :: rest => joined none rest

end Plain

/-! ## Decoding -/

/-- What a part of a literal stands for. -/
def PlainPart : Category → Type
  | .property => Plain × Plain
  | .list c => List (PlainPart c)
  | .option c => PlainPart c
  | _ => Plain

/-- The plain data that a part of a literal stands for, if it is one. -/
def Script.Node.plain? : {c : Category} → Node c → Option (PlainPart c)
  | .list c, .nil => some ([] : List (PlainPart c))
  | .list c, .cons head tail =>
    (do return (← head.plain?) :: (← tail.plain?) : Option (List (PlainPart c)))
  | .option c, .present node => (node.plain? : Option (PlainPart c))
  | .expression, .nullLiteral => some Plain.null
  | .expression, .boolLiteral b => some (Plain.bool b)
  | .expression, .numberLiteral v => some (Plain.number v)
  | .expression, .bigLiteral i => some (Plain.big i)
  | .expression, .stringLiteral s => some (Plain.text s.value)
  | .expression, .array elements _ => (elements.plain? : Option (List Plain)).map Plain.list
  | .expression, .object properties =>
    (properties.plain? : Option (List (Plain × Plain))).map Plain.entries
  | .element, .plainElement value => (value.plain? : Option Plain)
  | .property, .keyValue key value =>
    (do return (← (key.plain? : Option Plain), ← (value.plain? : Option Plain)) :
      Option (Plain × Plain))
  | .key, .stringKey s => some (Plain.text s.value)
  | .key, .numberKey v => some (Plain.number v)
  | .key, .bigKey i => some (Plain.big i)
  | _, _ => none

namespace Data

/-! ## Normal forms -/

/-- What data of a shape has as its normal form. -/
def Normal : Shape → Type
  | .value => Plain
  | .values => List Plain
  | .fields => List (Plain × Plain)
  | .steps => List Plain.Step

/-- The normal form of data. Where a shape has no plain form, there is none. -/
def normal? : {s : Shape} → Data s → Option (Normal s)
  | _, .bool b => some (Plain.bool b)
  | _, .integer i => some (Plain.ofInt i)
  | _, .float v => some (Plain.number v)
  | _, .char c => some (Plain.text (String.singleton c))
  | _, .text s => some (Plain.text s)
  | _, .absent => some Plain.null
  | _, .present d => (d.normal? : Option Plain)
  | _, .unit => some Plain.null
  | _, .unitRecord => some Plain.null
  | _, .unitVariant name => some (Plain.text name)
  | _, .wrapper d => (d.normal? : Option Plain)
  | _, .sequence elements => (elements.normal? : Option (List Plain)).map Plain.list
  | _, .tuple elements => (elements.normal? : Option (List Plain)).map Plain.list
  | _, .record fields => (fields.normal? : Option (List (Plain × Plain))).map Plain.entries
  | _, .map steps => (steps.normal? : Option (List Plain.Step)).map fun steps =>
    Plain.entries (Plain.joined none steps)
  | _, .nil => some ([] : List Plain)
  | _, .cons head tail =>
    (do return (← (head.normal? : Option Plain)) :: (← (tail.normal? : Option (List Plain))) :
      Option (List Plain))
  | _, .noFields => some ([] : List (Plain × Plain))
  | _, .field name d others =>
    (do
      return (Plain.text name, ← (d.normal? : Option Plain)) ::
        (← (others.normal? : Option (List (Plain × Plain)))) : Option (List (Plain × Plain)))
  | _, .noSteps => some ([] : List Plain.Step)
  | _, .key d others =>
    (do
      return Plain.Step.key (← (d.normal? : Option Plain)) ::
        (← (others.normal? : Option (List Plain.Step))) : Option (List Plain.Step))
  | _, .value d others =>
    (do
      return Plain.Step.value (← (d.normal? : Option Plain)) ::
        (← (others.normal? : Option (List Plain.Step))) : Option (List Plain.Step))
  | .value, _ => none

/-! ## Parts of literals -/

section Parts

variable {c : Category} {e : Expr} {p : Plain}

theorem plain?_cons {head : Node c} {tail : Node (.list c)} {x : PlainPart c}
    {xs : List (PlainPart c)} (hhead : head.plain? = some x) (htail : tail.plain? = some xs) :
    (Node.cons head tail).plain? = some (x :: xs) := by
  change (do return (← head.plain?) :: (← tail.plain?) : Option (List (PlainPart c))) = _
  rw [hhead, htail]
  rfl

theorem plain?_keyValue {k : Key} {q : Plain} (hkey : k.plain? = some q)
    (hvalue : e.plain? = some p) : (Node.keyValue k e).plain? = some (q, p) := by
  change (do return (← (k.plain? : Option Plain), ← (e.plain? : Option Plain)) :
    Option (Plain × Plain)) = _
  rw [hkey, hvalue]
  rfl

theorem plain?_array {elements : Node (.list (.option .element))} {ps : List Plain}
    (h : elements.plain? = some ps) (trailingComma : Bool) :
    (Node.array elements trailingComma).plain? = some (Plain.list ps) := by
  change (elements.plain? : Option (List Plain)).map Plain.list = _
  rw [h]
  rfl

theorem plain?_object {properties : Node (.list .property)} {es : List (Plain × Plain)}
    (h : properties.plain? = some es) :
    (Node.object properties).plain? = some (Plain.entries es) := by
  change (properties.plain? : Option (List (Plain × Plain))).map Plain.entries = _
  rw [h]
  rfl

/-- The key that a literal can be stands for the same as the literal. -/
theorem plain?_of_keyOf? {k : Key} (h : keyOf? e = some k) : k.plain? = e.plain? := by
  unfold keyOf? at h
  split at h
  · cases h
    rfl
  · cases h
    rfl
  · cases h
    rfl
  · cases h

/-- The literal of an integer stands for the integer. -/
theorem plain?_integerLiteral (i : Int) : (integerLiteral i).plain? = some (Plain.ofInt i) := by
  by_cases h : i.natAbs ≤ exactIntegerLimit
  · have hplain : Plain.ofInt i = .number (.ofInt i) := if_pos h
    rw [integerLiteral_of_le h, hplain]
    rfl
  · have hplain : Plain.ofInt i = .big i := if_neg h
    rw [integerLiteral_of_lt (not_le.mp h), hplain]
    rfl

end Parts

/-! ## Steps of maps -/

/-- Each value among steps comes right behind a key; `keyed` says whether the step before them is
one. -/
def EachKeyed : (keyed : Bool) → List Plain.Step → Prop
  | _, [] => True
  | _, .key _ :: rest => EachKeyed true rest
  | true, .value _ :: rest => EachKeyed false rest
  | false, .value _ :: _ => False

/-- Where each value comes right behind a key, there is a key of its own before each value. -/
theorem EachKeyed.exists_key {before after : List Plain.Step} {v : Plain} {keyed : Bool}
    (h : EachKeyed keyed (before ++ .value v :: after)) :
    (before = [] ∧ keyed = true) ∨ ∃ earlier k, before = earlier ++ [.key k] := by
  induction before generalizing keyed with
  | nil =>
    cases keyed with
    | true => exact .inl ⟨rfl, rfl⟩
    | false => exact h.elim
  | cons step rest ih =>
    right
    have hrest : ∃ stepKeyed, EachKeyed stepKeyed (rest ++ .value v :: after) ∧
        (stepKeyed = true → ∃ k, step = .key k) := by
      cases step with
      | key k => exact ⟨true, h, fun _ => ⟨k, rfl⟩⟩
      | value w =>
        cases keyed with
        | true => exact ⟨false, h, fun hfalse => nomatch hfalse⟩
        | false => exact h.elim
    obtain ⟨stepKeyed, hkeyed, hstep⟩ := hrest
    rcases ih hkeyed with ⟨rfl, htrue⟩ | ⟨earlier, k, rfl⟩
    · obtain ⟨k, rfl⟩ := hstep htrue
      exact ⟨[], k, rfl⟩
    · exact ⟨step :: earlier, k, rfl⟩

/-! ## Decoding gives normal forms -/

/-- What data of a shape becomes stands for its normal form. The steps of a map become properties
under a pending key, if there is one, and this stands for the key given last before them; where no
key is pending, it does not matter which key was given last. -/
def DecodesTo : {s : Shape} → Data s → Prop
  | .value, d => ∀ e : Expr, d.literal = .ok e →
    ∃ p : Plain, d.normal? = some p ∧ e.plain? = some p
  | .values, d => ∀ es : List Element, d.literal = .ok es →
    ∃ ps : List Plain, d.normal? = some ps ∧
      (Node.ofList (es.map fun e => .present e)).plain? = some ps
  | .fields, d => ∀ properties : List Property, d.literal = .ok properties →
    ∃ es : List (Plain × Plain), d.normal? = some es ∧ (Node.ofList properties).plain? = some es
  | .steps, d => ∀ (pending : Option Key) (latest : Option Plain) (properties : List Property),
    (∀ k, pending = some k → ∃ p, latest = some p ∧ k.plain? = some p) →
    d.literal pending = .ok properties →
    ∃ steps : List Plain.Step, d.normal? = some steps ∧
      (Node.ofList properties).plain? = some (Plain.joined latest steps) ∧
      EachKeyed pending.isSome steps

theorem decodesTo {s : Shape} (d : Data s) : d.DecodesTo := by
  induction d with
  | bool b =>
    intro e h
    cases h
    exact ⟨.bool b, rfl, rfl⟩
  | integer i =>
    intro e h
    cases h
    exact ⟨.ofInt i, rfl, plain?_integerLiteral i⟩
  | float v =>
    intro e h
    cases h
    exact ⟨.number v, rfl, rfl⟩
  | char c =>
    intro e h
    cases h
    exact ⟨.text (String.singleton c), rfl, rfl⟩
  | text s =>
    intro e h
    cases h
    exact ⟨.text s, rfl, rfl⟩
  | unitVariant name =>
    intro e h
    cases h
    exact ⟨.text name, rfl, rfl⟩
  | absent | unit | unitRecord =>
    intro e h
    cases h
    exact ⟨.null, rfl, rfl⟩
  | wideInteger | bytes | wrapperVariant | tupleRecord | tupleVariant | recordVariant | failing =>
    intro e h
    cases h
  | present d ih => exact ih
  | wrapper d ih => exact ih
  | sequence elements ih | tuple elements ih =>
    intro e h
    obtain ⟨es, helements, he⟩ := bind_eq_ok.mp h
    cases he
    obtain ⟨ps, hnormal, hplain⟩ := ih es helements
    exact ⟨.list ps, congrArg (Option.map Plain.list) hnormal, plain?_array hplain false⟩
  | record fields ih =>
    intro e h
    obtain ⟨properties, hproperties, he⟩ := bind_eq_ok.mp h
    cases he
    obtain ⟨es, hnormal, hplain⟩ := ih properties hproperties
    exact ⟨.entries es, congrArg (Option.map Plain.entries) hnormal, plain?_object hplain⟩
  | map steps ih =>
    intro e h
    obtain ⟨properties, hproperties, he⟩ := bind_eq_ok.mp h
    cases he
    obtain ⟨steps, hnormal, hplain, -⟩ :=
      ih none none properties (fun k hk => nomatch hk) hproperties
    exact ⟨.entries (Plain.joined none steps),
      congrArg (Option.map fun steps => Plain.entries (Plain.joined none steps)) hnormal,
      plain?_object hplain⟩
  | nil =>
    intro es h
    cases h
    exact ⟨[], rfl, rfl⟩
  | cons head tail hhead htail =>
    intro es h
    obtain ⟨e, he, h⟩ := bind_eq_ok.mp h
    obtain ⟨others, hothers, h⟩ := bind_eq_ok.mp h
    cases h
    obtain ⟨p, hp, hplain⟩ := hhead e he
    obtain ⟨ps, hps, hplains⟩ := htail others hothers
    refine ⟨p :: ps, ?_, plain?_cons hplain hplains⟩
    change (do return (← (head.normal? : Option Plain)) ::
      (← (tail.normal? : Option (List Plain))) : Option (List Plain)) = _
    rw [hp, hps]
    rfl
  | noFields =>
    intro properties h
    cases h
    exact ⟨[], rfl, rfl⟩
  | field name d others hd hothers =>
    intro properties h
    obtain ⟨e, he, h⟩ := bind_eq_ok.mp h
    obtain ⟨rest, hrest, h⟩ := bind_eq_ok.mp h
    cases h
    obtain ⟨p, hp, hplain⟩ := hd e he
    obtain ⟨es, hes, hplains⟩ := hothers rest hrest
    refine ⟨(.text name, p) :: es, ?_, plain?_cons (plain?_keyValue rfl hplain) hplains⟩
    change (do return (Plain.text name, ← (d.normal? : Option Plain)) ::
      (← (others.normal? : Option (List (Plain × Plain)))) : Option (List (Plain × Plain))) = _
    rw [hp, hes]
    rfl
  | noSteps =>
    intro pending latest properties hlatest h
    cases h
    exact ⟨[], rfl, by cases latest <;> rfl, by cases pending <;> trivial⟩
  | key d others hd hothers =>
    intro pending latest properties hlatest h
    obtain ⟨e, he, h⟩ := bind_eq_ok.mp h
    obtain ⟨p, hp, hplain⟩ := hd e he
    cases hkey : keyOf? e with
    | none =>
      rw [hkey] at h
      cases h
    | some k =>
      rw [hkey] at h
      -- the new key takes the place of one that is pending, and is the latest from here on
      obtain ⟨steps, hsteps, hjoined, hkeyed⟩ := hothers (some k) (some p) properties
        (fun k' hk' => ⟨p, rfl, by rw [← Option.some.inj hk', plain?_of_keyOf? hkey, hplain]⟩) h
      refine ⟨.key p :: steps, ?_, by cases latest <;> exact hjoined,
        by cases pending <;> exact hkeyed⟩
      change (do return Plain.Step.key (← (d.normal? : Option Plain)) ::
        (← (others.normal? : Option (List Plain.Step))) : Option (List Plain.Step)) = _
      rw [hp, hsteps]
      rfl
  | value d others hd hothers =>
    intro pending latest properties hlatest h
    cases pending with
    | none => cases h
    | some k =>
      obtain ⟨q, rfl, hkey⟩ := hlatest k rfl
      obtain ⟨e, he, h⟩ := bind_eq_ok.mp h
      obtain ⟨rest, hrest, h⟩ := bind_eq_ok.mp h
      cases h
      obtain ⟨p, hp, hplain⟩ := hd e he
      -- the key is used up: it stays the latest, but no value can come before the next one
      obtain ⟨steps, hsteps, hjoined, hkeyed⟩ := hothers none (some q) rest
        (fun k' hk' => nomatch hk') hrest
      refine ⟨.value p :: steps, ?_, plain?_cons (plain?_keyValue hkey hplain) hjoined, hkeyed⟩
      change (do return Plain.Step.value (← (d.normal? : Option Plain)) ::
        (← (others.normal? : Option (List Plain.Step))) : Option (List Plain.Step)) = _
      rw [hp, hsteps]
      rfl

/-! ## Decoding undoes writing -/

/-- **Decoding the literal of data gives its normal form.** There is one whenever there is a
literal, so data with different normal forms has different literals. Where a map has a literal, a
key stands right before each value, so that the entries of its normal form are pairs of a value and
a key of its own. -/
theorem decodesToNormal :
    (∀ (d : Data .value) (e : Expr), d.literal = .ok e →
      ∃ p : Plain, d.normal? = some p ∧ e.plain? = some p) ∧
    (∀ (d d' : Data .value) (e e' : Expr), d.literal = .ok e → d'.literal = .ok e' →
      (d.normal? : Option Plain) ≠ d'.normal? → e ≠ e') ∧
    ∀ (steps : Data .steps) (e : Expr), (Data.map steps).literal = .ok e →
      ∃ normal : List Plain.Step, steps.normal? = some normal ∧
        e.plain? = some (.entries (Plain.joined none normal)) ∧
        ∀ before v after, normal = before ++ .value v :: after →
          ∃ earlier k, before = earlier ++ [.key k] := by
  refine ⟨fun d => d.decodesTo, ?_, ?_⟩
  · rintro d d' e e' h h' hne rfl
    obtain ⟨p, hp, hplain⟩ := d.decodesTo e h
    obtain ⟨p', hp', hplain'⟩ := d'.decodesTo e h'
    rw [hplain] at hplain'
    exact hne (by rw [hp, hp', Option.some.inj hplain'])
  · intro steps e h
    obtain ⟨properties, hproperties, he⟩ := bind_eq_ok.mp h
    cases he
    obtain ⟨normal, hnormal, hplain, hkeyed⟩ :=
      steps.decodesTo none none properties (fun k hk => nomatch hk) hproperties
    refine ⟨normal, hnormal, plain?_object hplain, ?_⟩
    rintro before v after rfl
    rcases hkeyed.exists_key with ⟨-, hfalse⟩ | hkey
    · cases hfalse
    · exact hkey

/-- Steps with two keys in a row, a key that is used twice, and one that is left over. -/
def rekeyedSteps : Data .steps :=
  .key (.text "a") (.key (.unitVariant "b") (.value
    (.sequence (.cons (.present (.integer (-1))) (.cons .absent .nil)))
    (.key (.char 'b') (.value (.wrapper (.integer 9223372036854775808))
      (.key (.float .nan) .noSteps)))))

theorem decodesToNormal_rekeyedSteps :
    ∃ e : Expr, (Data.map rekeyedSteps).literal = .ok e ∧ e.plain? = some (.entries
      [(.text "b", .list [.number (.ofInt (-1)), .null]),
        (.text "b", .big 9223372036854775808)]) := by
  have hliteral : (Data.map rekeyedSteps).literal = .ok (.object (.ofList
      [.keyValue (.stringKey (.ofValue "b")) (.array (.ofList
        [.present (.plainElement (integerLiteral (-1))), .present (.plainElement .nullLiteral)])
          false),
        .keyValue (.stringKey (.ofValue "b")) (integerLiteral 9223372036854775808)])) := rfl
  obtain ⟨p, hnormal, hplain⟩ := decodesToNormal.1 _ _ hliteral
  cases hnormal
  exact ⟨_, hliteral, hplain⟩

end Data

end ModuleBundler
