import ModuleBundler.Proofs.Json.Expression
import ModuleBundler.Proofs.Number.Rounding
import ModuleBundler.Proofs.Script.Phrase

/-!
The text of a document spells the tokens of its expression. Documents and scripts write the same
literals in the same way but for numbers under a sign, which are operations in a script, and for
what a script gives a meaning of its own: a brace where a statement begins, a minus sign before
another one, a name after a number. None of these comes up between the brackets, braces and commas
of a document. So the text of a value spells the tokens of a phrase (`spells_text`), and the phrase
is the expression that is made of the same parts (`phrase_expression`), with the marks that the text
gives it already (`asWritten_expression`).
-/

set_option autoImplicit false

namespace ModuleBundler.Json

open Script

/-! ## Numbers -/

/-- The sign of a number. -/
def signText (negative : Bool) : List Char := if negative then ['-'] else []

theorem exists_numeral_integer (i : Int) :
    ∃ n : Numeral, (Value.integer i).text = signText (decide (i < 0)) ++ n.text ∧
      n.value = .ofNat i.natAbs := by
  refine ⟨.ofNat i.natAbs, ?_, Numeral.value_ofNat i.natAbs⟩
  rw [Value.text, Text.decimalInt, Numeral.text_ofNat, signText]
  simp only [decide_eq_true_eq]

theorem exists_numeral_real (negative : Bool) (m : Nat) (e : Int) :
    ∃ n : Numeral, (Value.real (.finite negative m e)).text = signText negative ++ n.text ∧
      n.value = .ofDecimal false (Binary64.shortest m e).digits (Binary64.shortest m e).power :=
  Numeral.exists_text_scientific negative m e

/-- The tokens of a number. -/
def signedTokens (negative : Bool) (v : Binary64) : List Token :=
  if negative then [.punctuator "-", .number v] else [.number v]

theorem phrase_signed (negative : Bool) {v : Binary64} (hv : IsWritable v) :
    Phrase .value (signed negative v) (signedTokens negative v) := by
  cases negative with
  | false => exact .number hv
  | true => exact .negative hv

theorem spells_signed (negative : Bool) (n : Numeral) {cs : List Char} {ts : List Token}
    (hcs : EndsToken cs) (h : Spells cs ts) :
    Spells (signText negative ++ n.text ++ cs) (signedTokens negative n.value ++ ts) := by
  cases negative with
  | false => exact .numeral n hcs h
  | true => exact .negative n hcs h

theorem isWritable_ofNat {n : Nat} (hn : n < wordBound) : IsWritable (.ofNat n) := by
  obtain ⟨m, e, hofNat, -⟩ := Binary64.exists_finite_ofNat (k := 63) (by decide) hn
  rw [hofNat]
  exact isWritable_finite (Binary64.isValue_of_ofRatio Nat.one_ne_zero hofNat)

/-! ## Tokens -/

mutual

/-- The tokens of the text of a document. -/
def Value.tokens : Value → List Token
  | .null => [.word "null"]
  | .bool b => [.word (if b then "true" else "false")]
  | .integer i => signedTokens (decide (i < 0)) (.ofNat i.natAbs)
  | .real (.finite negative m e) =>
    signedTokens negative
      (.ofDecimal false (Binary64.shortest m e).digits (Binary64.shortest m e).power)
  | .real r => [.number r]
  | .string s => [.string (literalString s)]
  | .array vs => .punctuator "[" :: (commas (elementTokens vs) ++ [.punctuator "]"])
  | .object fs => .punctuator "\x7b" :: (commas (propertyTokens fs) ++ [.punctuator "\x7d"])

/-- The tokens of each element of an array. -/
def elementTokens : List Value → List (List Token)
  | [] => []
  | v :: rest => v.tokens :: elementTokens rest

/-- The tokens of each property of an object. -/
def propertyTokens : List (String × Value) → List (List Token)
  | [] => []
  | (k, v) :: rest =>
    (.string (literalString k) :: .punctuator ":" :: v.tokens) :: propertyTokens rest

end

/-! ## Phrases -/

theorem text_literalString (s : String) : (literalString s).text = stringText s :=
  String.toList_ofList

theorem isQuoted_literalString (s : String) : (literalString s).IsQuoted :=
  ⟨stringChar, writesChar_stringChar, text_literalString s⟩

theorem asWritten_literalString (s : String) : (literalString s).asWritten = literalString s := by
  rw [StringLiteral.asWritten, text_literalString, literalString]

theorem elementNodes_eq_map (vs : List Value) :
    elementNodes vs = vs.map fun v => .present (.plainElement v.expression) := by
  induction vs with
  | nil => rfl
  | cons v vs ih => rw [elementNodes, ih, List.map_cons]

theorem elementTokens_eq_map (vs : List Value) : elementTokens vs = vs.map Value.tokens := by
  induction vs with
  | nil => rfl
  | cons v vs ih => rw [elementTokens, ih, List.map_cons]

theorem propertyNodes_eq_map (fs : List (String × Value)) :
    propertyNodes fs =
      fs.map fun f => .keyValue (.stringKey (literalString f.1)) f.2.expression := by
  induction fs with
  | nil => rfl
  | cons f fs ih => rw [propertyNodes, ih, List.map_cons]

theorem propertyTokens_eq_map (fs : List (String × Value)) :
    propertyTokens fs = fs.map fun f =>
      fieldTokens (.stringKey (literalString f.1), f.2.expression, f.2.tokens) := by
  induction fs with
  | nil => rfl
  | cons f fs ih =>
    rw [propertyTokens, ih, List.map_cons, fieldTokens, Node.keyToken, asWritten_literalString]

/-- **The expression of a document is a phrase.** -/
theorem phrase_expression {v : Value} (hv : v.IsFinite) :
    Phrase .value v.expression v.tokens := by
  induction hv with
  | null => exact .null
  | bool b => exact .bool b
  | integer hi =>
    rw [Value.expression, Value.tokens]
    exact phrase_signed _ (isWritable_ofNat hi)
  | real negative hvalue =>
    rw [Value.expression, Value.tokens, Binary64.ofDecimal_shortest false hvalue]
    exact phrase_signed negative (isWritable_finite hvalue)
  | string s =>
    have hstring := Phrase.string (isQuoted_literalString s)
    rwa [asWritten_literalString] at hstring
  | @array vs _ ih =>
    have hparts : ∀ a ∈ vs.map fun v => (v.expression, v.tokens), Phrase .value a.1 a.2 :=
      List.forall_mem_map.mpr ih
    have harray := Phrase.array hparts
    rw [List.map_map, List.map_map] at harray
    rw [Value.expression, Value.tokens, elementNodes_eq_map, elementTokens_eq_map]
    exact harray
  | @object fs _ ih =>
    have hkeys : ∀ f ∈ fs.map fun f =>
        ((.stringKey (literalString f.1), f.2.expression, f.2.tokens) : Key × Expr × List Token),
        IsPlainKey f.1 :=
      List.forall_mem_map.mpr fun f _ => .string (isQuoted_literalString f.1)
    have hobject := Phrase.object hkeys (List.forall_mem_map.mpr ih)
    rw [List.map_map, List.map_map] at hobject
    rw [Value.expression, Value.tokens, propertyNodes_eq_map, propertyTokens_eq_map]
    exact hobject

/-- A text has given the expression of a document its marks. -/
theorem asWritten_expression {v : Value} (hv : v.IsFinite) :
    v.expression.asWritten = v.expression := by
  have hsigned : ∀ (negative : Bool) (v : Binary64),
      (signed negative v).asWritten = signed negative v := by
    rintro (_ | _) v <;> rfl
  induction hv with
  | null => rfl
  | bool b => rfl
  | integer _ =>
    rw [Value.expression]
    exact hsigned _ _
  | real negative _ =>
    rw [Value.expression]
    exact hsigned negative _
  | string s => exact congrArg Node.stringLiteral (asWritten_literalString s)
  | @array vs _ ih =>
    rw [Value.expression, elementNodes_eq_map]
    refine congrArg (Node.array · false) ?_
    rw [Node.asWritten_ofList, List.map_map]
    exact congrArg Node.ofList (List.map_congr_left fun v hv =>
      congrArg (fun e => Node.present (.plainElement e)) (ih v hv))
  | @object fs _ ih =>
    rw [Value.expression, propertyNodes_eq_map]
    refine congrArg Node.object ?_
    rw [Node.asWritten_ofList, List.map_map]
    refine congrArg Node.ofList (List.map_congr_left fun f hf => ?_)
    exact congrArg₂ (fun s e => Node.keyValue (.stringKey s) e) (asWritten_literalString f.1)
      (ih f hf)

/-! ## Texts -/

/-- The text of a value spells its tokens before what ends them. -/
def SpellsTokens (v : Value) : Prop :=
  ∀ {cs : List Char} {ts : List Token}, EndsToken cs → Spells cs ts →
    Spells (v.text ++ cs) (v.tokens ++ ts)

theorem spells_elementsText {vs : List Value} (hvs : ∀ v ∈ vs, SpellsTokens v) {cs : List Char}
    {ts : List Token} (hcs : EndsToken cs) (h : Spells cs ts) :
    Spells (elementsText vs ++ cs) (commas (elementTokens vs) ++ ts) := by
  induction vs with
  | nil => exact h
  | cons v vs ih =>
    obtain ⟨hv, hvs⟩ := List.forall_mem_cons.mp hvs
    cases vs with
    | nil =>
      rw [elementsText, elementTokens, elementTokens, commas, List.append_assoc]
      exact hv hcs h
    | cons w vs =>
      have htext : elementsText (v :: w :: vs) ++ cs =
          v.text ++ ',' :: (elementsText (w :: vs) ++ cs) := by
        rw [elementsText, List.append_assoc, List.cons_append]
        exact List.cons_ne_nil w vs
      rw [htext, elementTokens, commas, List.append_assoc]
      exact hv (endsToken_cons (by decide) _) (.mark (c := ',') (by decide) (ih hvs))

theorem spells_fieldsText {fs : List (String × Value)} (hfs : ∀ f ∈ fs, SpellsTokens f.2)
    {cs : List Char} {ts : List Token} (hcs : EndsToken cs) (h : Spells cs ts) :
    Spells (fieldsText fs ++ cs) (commas (propertyTokens fs) ++ ts) := by
  have hfield : ∀ {k : String} {v : Value} {cs : List Char} {ts : List Token},
      Spells (v.text ++ cs) (v.tokens ++ ts) → Spells (stringText k ++ ':' :: (v.text ++ cs))
        (.string (literalString k) :: .punctuator ":" :: (v.tokens ++ ts)) := fun h =>
    .quoted writesChar_stringChar _ (.mark (c := ':') (by decide) h)
  induction fs with
  | nil => exact h
  | cons f fs ih =>
    obtain ⟨hf, hothers⟩ := List.forall_mem_cons.mp hfs
    obtain ⟨k, v⟩ := f
    cases fs with
    | nil =>
      rw [fieldsText, propertyTokens, propertyTokens, commas, List.append_assoc, List.append_assoc]
      exact hfield (hf hcs h)
    | cons g fs =>
      have htext : fieldsText ((k, v) :: g :: fs) ++ cs =
          stringText k ++ ':' :: (v.text ++ ',' :: (fieldsText (g :: fs) ++ cs)) := by
        rw [fieldsText, List.append_assoc, List.append_assoc, List.cons_append, List.cons_append]
        exact List.cons_ne_nil g fs
      rw [htext, propertyTokens, commas, List.append_assoc]
      exact hfield (hf (endsToken_cons (by decide) _) (.mark (c := ',') (by decide) (ih hothers)))

/-- **The text of a document spells the tokens of its expression.** -/
theorem spells_text {v : Value} (hv : v.IsFinite) : SpellsTokens v := by
  induction hv with
  | null => exact fun hcs h => .word (by decide) hcs.endsWord nofun h
  | bool b => cases b <;> exact fun hcs h => .word (by decide) hcs.endsWord nofun h
  | @integer i _ =>
    intro cs ts hcs h
    obtain ⟨n, htext, hvalue⟩ := exists_numeral_integer i
    rw [htext, Value.tokens, ← hvalue]
    exact spells_signed _ n hcs h
  | @real negative m e _ =>
    intro cs ts hcs h
    obtain ⟨n, htext, hvalue⟩ := exists_numeral_real negative m e
    rw [htext, Value.tokens, ← hvalue]
    exact spells_signed negative n hcs h
  | string s => exact fun _ h => .quoted writesChar_stringChar s h
  | @array vs _ ih =>
    intro cs ts hcs h
    change Spells ('[' :: (elementsText vs ++ [']'] ++ cs))
      (.punctuator "[" :: (commas (elementTokens vs) ++ [.punctuator "]"] ++ ts))
    rw [List.append_assoc, List.append_assoc]
    exact .mark (c := '[') (by decide)
      (spells_elementsText ih (endsToken_cons (by decide) cs) (.mark (c := ']') (by decide) h))
  | @object fs _ ih =>
    intro cs ts hcs h
    change Spells ('\x7b' :: (fieldsText fs ++ ['\x7d'] ++ cs))
      (.punctuator "\x7b" :: (commas (propertyTokens fs) ++ [.punctuator "\x7d"] ++ ts))
    rw [List.append_assoc, List.append_assoc]
    exact .mark (c := '\x7b') (by decide)
      (spells_fieldsText ih (endsToken_cons (by decide) cs) (.mark (c := '\x7d') (by decide) h))

end ModuleBundler.Json
