import ModuleBundler.Proofs.Script.Reader.Layers

/-!
What is read of the tokens of literals, names, lists and plain functions. A value is read before
what closes (`ReadsValue`), and lists of values are read between their marks: arguments, the
elements of an array and the properties of an object. They are taken one after another, each with
the comma after it, until the closing mark comes.
-/

set_option autoImplicit false

namespace ModuleBundler.Script.Reader

variable {r : Readers} {ts us vs : List Token} {comma : Bool} {e : Expr}

/-- Tokens are read as an expression before what closes. -/
structure ReadsValue (r : Readers) (e : Expr) (ts : List Token) : Prop where
  first : ∃ t us, ts = t :: us ∧ t.beginsValue = true
  reads : ∀ us comma, (firstToken us).closes = true →
    Reads (At (ts ++ us) comma) r.assignment (Covers e) (At us false)

theorem ReadsValue.beginsValue (h : ReadsValue r e ts) (us : List Token) :
    (firstToken (ts ++ us)).beginsValue = true := by
  obtain ⟨t, us', rfl, ht⟩ := h.first
  exact ht

/-! ## Primary expressions -/

/-- A token that is a literal by itself. -/
inductive IsLiteral : Token → Expr → Prop where
  | string (s : StringLiteral) : IsLiteral (.string s) (.stringLiteral s)
  | number (v : Binary64) : IsLiteral (.number v) (.numberLiteral v)
  | null : IsLiteral (.word "null") .nullLiteral
  | bool (b : Bool) : IsLiteral (.word (if b then "true" else "false")) (.boolLiteral b)

theorem reads_primary_literal {t : Token} (ht : IsLiteral t e) (arrowAllowed : Bool) :
    Reads (At (t :: ts) comma) (primary r arrowAllowed) (Covers e) (At ts false) := by
  refine reads_current.bind fun l hl => ?_
  rw [hl.token_eq]
  cases ht with
  | string s => exact reads_advance.bind fun _ _ => .pure ⟨rfl, nofun⟩ fun _ h => h.at
  | number v => exact reads_advance.bind fun _ _ => .pure ⟨rfl, nofun⟩ fun _ h => h.at
  | null => exact reads_advance.bind fun _ _ => .pure ⟨rfl, nofun⟩ fun _ h => h.at
  | bool b =>
    cases b with
    | false => exact reads_advance.bind fun _ _ => .pure ⟨rfl, nofun⟩ fun _ h => h.at
    | true => exact reads_advance.bind fun _ _ => .pure ⟨rfl, nofun⟩ fun _ h => h.at

/-! ## Names -/

theorem reads_word? {w : String} :
    Reads (At (.word w :: ts) comma) word? (· = some w) (At (.word w :: ts) comma) := by
  refine reads_look.bind fun l hl => ?_
  rw [hl.token_eq]
  exact .pure rfl fun _ h => h

/-- Whether a name comes next; before a punctuator there is none. -/
theorem reads_atName? : Reads (At ts comma) atName?
    (fun b => ∀ p, firstToken ts = .punctuator p → b = false) (At ts comma) := by
  have hword : Reads (At ts comma) word? (fun o => ∀ p, firstToken ts = .punctuator p → o = none)
      (At ts comma) := by
    refine reads_look.bind fun l hl => ?_
    rw [hl.token_eq]
    split
    · rename_i heq
      exact .pure (fun p hp => by rw [hp] at heq; cases heq) fun _ h => h
    · exact .pure (fun _ _ => rfl) fun _ h => h
  exact hword.bind fun o ho => .ofContext fun _ _ =>
    .pure (fun p hp => by rw [ho p hp]; rfl) fun _ h => h

/-- A token that a key is. -/
def isKeyToken : Token → Bool
  | .string _ => true
  | .word w => isWord w
  | _ => false

/-- Where every word is a name. -/
theorem reads_anyName {w : String} (hw : isWord w = true) :
    Reads (At (.word w :: ts) comma) anyName (· = w) (At ts false) := by
  have hkey : isKeyToken (.word w) = true := hw
  have hcomma : (Token.word w).is "," = false := Token.is_eq_false hkey (by decide) rfl
  refine (reads_required rfl).bind fun l hl => ?_
  rw [hl.token_eq, ← hcomma]
  exact reads_advance.bind fun _ _ => .pure rfl fun _ h => h.at

section PlainName

variable {w : String} (hw : isPlainName w = true)
include hw

/-- A plain name is read as a name, unless an arrow follows it. -/
theorem reads_nameOrArrow (hts : (firstToken ts).is "=>" = false) (arrowAllowed : Bool) :
    Reads (At (.word w :: ts) comma) (nameOrArrow r arrowAllowed)
      (Covers (.identifier .written w)) (At ts false) := by
  have hcover : ∀ strict start, Covers (.identifier .written w) (.ofName strict start w) :=
    fun _ _ => ⟨rfl, nofun⟩
  refine reads_here.bind fun start _ => reads_word?.bind fun o ho => ?_
  rw [ho]
  refine .ofContext fun ctx _ => ?_
  refine .ofFalse (by rw [reserves_eq_false hw, Bool.and_false]) (.ofFalse ?_ ?_)
  · rw [beq_eq_false_of_isPlainName hw (by decide), contains_eq_false hw (by decide), Bool.or_false]
  refine reads_advance.bind fun _ _ => ReadsIn.fresh ?_
  have hbegins : (Token.word w).beginsPath = true := hw
  have hcomma : (Token.word w).is "," = false := Token.is_eq_false hbegins (by decide) rfl
  rw [hcomma]
  split
  · refine reads_atName?.bind fun b _ => .ofFalse ?_ ?_
    · rw [beq_eq_false_of_isPlainName hw (by decide), Bool.false_and]
    refine reads_afterLineBreak?.bind fun b _ => ?_
    split
    · exact .pure (hcover _ _) fun _ h => h
    · exact reads_if_accept hts (.pure (hcover _ _) fun _ h => h)
  · exact .pure (hcover _ _) fun _ h => h

theorem reads_primary_name (hts : (firstToken ts).is "=>" = false) (arrowAllowed : Bool) :
    Reads (At (.word w :: ts) comma) (primary r arrowAllowed)
      (Covers (.identifier .written w)) (At ts false) := by
  refine reads_current.bind fun l hl => ?_
  rw [hl.token_eq]
  have hne : ∀ text ∈ grammarWords, w ≠ text := fun text htext =>
    beq_eq_false_iff_ne.mp (beq_eq_false_of_isPlainName hw htext)
  -- a plain name is none of the words that begin other expressions
  split
  all_goals rename_i heq
  all_goals try exact absurd (Token.word.inj heq) (hne _ (by decide))
  all_goals cases heq
  exact reads_nameOrArrow hw hts arrowAllowed

end PlainName

/-! ## Lists -/

section Lists

variable {parts : List (Expr × List Token)}

theorem firstToken_commaed_append {close : Token} (hclose : close.closes = true)
    (parts : List (List Token)) : (firstToken (commaed parts ++ close :: us)).closes = true := by
  cases parts with
  | nil => exact hclose
  | cons part parts => rfl

theorem length_le_commas (parts : List (List Token)) :
    parts.length ≤ (commas parts).length + 1 := by
  have hcommaed : ∀ parts : List (List Token), parts.length ≤ (commaed parts).length := by
    intro parts
    induction parts with
    | nil => exact Nat.le_refl 0
    | cons part parts ih =>
      rw [commaed, List.flatMap_cons, List.length_append, List.length_cons, List.length_cons]
      rw [commaed] at ih
      omega
  cases parts with
  | nil => exact Nat.zero_le _
  | cons part parts =>
    have hle := hcommaed parts
    rw [commas, List.length_append, List.length_cons]
    omega

theorem length_le_of_mem {part : List Token} {parts : List (List Token)} (hpart : part ∈ parts) :
    part.length ≤ (commas parts).length := by
  have hsublist : part.Sublist (commas parts) := by
    cases parts with
    | nil => cases hpart
    | cons first parts =>
      obtain rfl | hpart := List.mem_cons.mp hpart
      · exact List.sublist_append_left _ _
      · refine .trans ?_ (List.sublist_append_right _ _)
        exact (List.sublist_cons_self _ part).trans
          (List.sublist_flatten_of_mem (List.mem_map_of_mem hpart))
  exact hsublist.length_le

/-- A part that is not spread. -/
theorem reads_item (he : ReadsValue r e ts) (hus : (firstToken us).closes = true) :
    Reads (At (ts ++ us) comma) (item r) (fun i => i.isSpread = false ∧ i.cover.value = e)
      (At us false) := by
  refine reads_here.bind fun start _ => ?_
  refine (reads_accept_other (Token.is_eq_false (he.beginsValue us) (by decide) rfl)).bind
    fun b hb => ?_
  exact (he.reads us comma hus).withIn.bind fun c hc => .pure ⟨hb, hc.value_eq⟩ fun _ h => h

/-- The comma before the next part, if there is one. -/
theorem reads_accept_comma {close : Token} (hclose : close.is "," = false)
    (parts : List (List Token)) :
    Reads (At (commaed parts ++ close :: us) false) (accept ",") (fun _ => True)
      (At (commas parts ++ close :: us) (!parts.isEmpty)) := by
  cases parts with
  | nil =>
    have hnext : (firstToken (close :: us)).is "," = false := hclose
    exact (reads_accept_other hnext).imp fun _ _ => trivial
  | cons part parts =>
    rw [commaed, List.flatMap_cons, List.append_assoc, List.cons_append, ← List.append_assoc]
    exact (reads_accept_self (by decide)).mono (fun _ h => h) (fun _ _ => trivial) fun _ h => h.at

/-! ### Arguments -/

/-- Arguments after the first one, each after a comma. -/
theorem reads_argumentsFrom_commaed (hparts : ∀ a ∈ parts, ReadsValue r a.1 a.2)
    (importStart : Option Position) {fuel : Nat} (hfuel : parts.length < fuel) {items : List Item}
    (hitems : items ≠ []) :
    Reads (At (commaed (parts.map (·.2)) ++ .punctuator ")" :: us) false)
      (argumentsFrom r importStart fuel items)
      (fun is => is.map (·.element) =
        items.reverse.map (·.element) ++ parts.map fun a => .plainElement a.1)
      (At (.punctuator ")" :: us) false) := by
  induction parts generalizing fuel items with
  | nil =>
    obtain ⟨fuel, rfl⟩ := Nat.exists_eq_add_of_lt hfuel
    refine reads_atEnd?.bind fun b _ => (reads_at? ")").bind fun b' hb' => ?_
    refine .ofTrue (by rw [hb', Bool.or_eq_true]; exact .inr rfl) ?_
    exact .pure (List.append_nil _).symm fun _ h => h
  | cons a parts ih =>
    obtain ⟨fuel, rfl⟩ := Nat.exists_eq_add_of_lt hfuel
    obtain ⟨ha, hparts⟩ := List.forall_mem_cons.mp hparts
    have hclose : (firstToken (commaed (parts.map (·.2)) ++ .punctuator ")" :: us)).closes = true :=
      firstToken_commaed_append rfl _
    rw [List.map_cons, commaed, List.flatMap_cons, List.append_assoc, List.cons_append]
    refine reads_atEnd?.bind fun b hb => (reads_at? ")").bind fun b' hb' => ?_
    refine .ofFalse (by rw [hb, hb']; rfl) ?_
    rw [if_neg (by simpa using hitems)]
    refine (reads_expect (by decide)).bind fun _ _ => ReadsIn.fresh ?_
    refine reads_if_at (Token.is_eq_false (ha.beginsValue _) (by decide) rfl) ?_
    refine (reads_item ha hclose).bind fun i hi => ?_
    refine (ih hparts (by rw [List.length_cons]; omega) (List.cons_ne_nil i items)).imp ?_
    intro is his
    rw [his, List.reverse_cons, List.map_append, List.append_assoc, List.map_cons, List.map_nil,
      List.map_cons, Item.element, hi.1, hi.2]
    rfl

/-- Arguments in parentheses. -/
theorem reads_arguments (hparts : ∀ a ∈ parts, ReadsValue r a.1 a.2) (isImport : Bool) :
    Reads (At (.punctuator "(" :: (commas (parts.map (·.2)) ++ .punctuator ")" :: us)) comma)
      (arguments r isImport) (· = parts.map fun a => .plainElement a.1) (Fresh us false) := by
  have hfrom : ∀ importStart, Reads
      (At (commas (parts.map (·.2)) ++ .punctuator ")" :: us) false)
      (do argumentsFrom r importStart (← tokensLeft) [])
      (fun is => is.map (·.element) = parts.map fun a => .plainElement a.1)
      (At (.punctuator ")" :: us) false) := by
    intro importStart
    refine reads_tokensLeft.bind fun fuel hfuel => ?_
    have hlength : parts.length < fuel := by
      have hle := length_le_commas (parts.map (·.2))
      rw [List.length_map] at hle
      rw [List.length_append, List.length_cons] at hfuel
      omega
    obtain ⟨fuel, rfl⟩ := Nat.exists_eq_add_of_lt hlength
    cases parts with
    | nil =>
      refine reads_atEnd?.bind fun b _ => (reads_at? ")").bind fun b' hb' => ?_
      refine .ofTrue (by rw [hb', Bool.or_eq_true]; exact .inr rfl) ?_
      exact .pure rfl fun _ h => h
    | cons a parts =>
      obtain ⟨ha, hparts⟩ := List.forall_mem_cons.mp hparts
      have hclose : (firstToken (commaed (parts.map (·.2)) ++ .punctuator ")" :: us)).closes =
          true := firstToken_commaed_append rfl _
      rw [List.map_cons, commas, List.append_assoc]
      refine reads_atEnd?.bind fun b hb => (reads_at? ")").bind fun b' hb' => ?_
      refine .ofFalse ?_ ?_
      · rw [hb, hb', Token.isEnd_of_beginsValue (ha.beginsValue _),
          Token.is_eq_false (ha.beginsValue _) (by decide) rfl]
        rfl
      refine (reads_item ha hclose).bind fun i hi => ?_
      refine (reads_argumentsFrom_commaed hparts importStart
        (by rw [List.length_cons]; omega) (List.cons_ne_nil i [])).imp ?_
      intro is his
      rw [his, List.reverse_singleton, List.map_singleton, Item.element, hi.1, hi.2]
      rfl
  refine reads_here.bind fun start _ => ?_
  refine ReadsIn.bind (Q := Fresh us false) (A := fun is : List Item =>
    is.map (·.element) = parts.map fun a => .plainElement a.1) ?_
    fun is his => .pure his fun _ h => h
  refine (reads_expect (by decide)).bind fun _ _ => ?_
  refine (hfrom _).fresh.bind fun is his => ?_
  exact (reads_expect (by decide)).bind fun _ _ => .pure his fun _ h => h

/-! ### Arrays -/

theorem reads_arrayItemsFrom (hparts : ∀ a ∈ parts, ReadsValue r a.1 a.2) {fuel : Nat}
    (hfuel : parts.length < fuel) (hcomma : parts = [] → comma = false)
    (items : List Cover.ArrayItem) :
    Reads (At (commas (parts.map (·.2)) ++ .punctuator "]" :: us) comma)
      (arrayItemsFrom r fuel items)
      (fun is => is.map (·.value) =
        items.reverse.map (·.value) ++ parts.map fun a => .present (.plainElement a.1))
      (At (.punctuator "]" :: us) false) := by
  induction parts generalizing fuel comma items with
  | nil =>
    obtain ⟨fuel, rfl⟩ := Nat.exists_eq_add_of_lt hfuel
    rw [hcomma rfl]
    refine reads_atEnd?.bind fun b _ => (reads_at? "]").bind fun b' hb' => ?_
    refine .ofTrue (by rw [hb', Bool.or_eq_true]; exact .inr rfl) ?_
    exact .pure (List.append_nil _).symm fun _ h => h
  | cons a parts ih =>
    obtain ⟨fuel, rfl⟩ := Nat.exists_eq_add_of_lt hfuel
    obtain ⟨ha, hparts⟩ := List.forall_mem_cons.mp hparts
    have hclose : (firstToken (commaed (parts.map (·.2)) ++ .punctuator "]" :: us)).closes = true :=
      firstToken_commaed_append rfl _
    rw [List.map_cons, commas, List.append_assoc]
    refine reads_atEnd?.bind fun b hb => (reads_at? "]").bind fun b' hb' => ?_
    refine .ofFalse ?_ ?_
    · rw [hb, hb', Token.isEnd_of_beginsValue (ha.beginsValue _),
        Token.is_eq_false (ha.beginsValue _) (by decide) rfl]
      rfl
    refine reads_if_accept (Token.is_eq_false (ha.beginsValue _) (by decide) rfl) ?_
    refine (reads_item ha hclose).bind fun i hi => ?_
    refine (reads_accept_comma rfl _).bind fun _ _ => ?_
    refine (ih hparts (by rw [List.length_cons]; omega) ?_ _).imp ?_
    · rintro rfl
      rfl
    · intro is his
      rw [his, hi.1, if_neg Bool.false_ne_true, List.reverse_cons, List.map_append,
        List.append_assoc, List.map_cons, List.map_nil, Cover.ArrayItem.value, hi.2]
      rfl

/-- An array of values. -/
theorem reads_array (hparts : ∀ a ∈ parts, ReadsValue r a.1 a.2) :
    Reads (At (.punctuator "[" :: (commas (parts.map (·.2)) ++ .punctuator "]" :: us)) comma)
      (array r)
      (Covers (.array (.ofList (parts.map fun a => .present (.plainElement a.1))) false))
      (At us false) := by
  refine reads_here.bind fun start _ => (reads_expect (by decide)).bind fun _ _ => ReadsIn.fresh ?_
  refine reads_tokensLeft.bind fun fuel hfuel => ?_
  have hlength : parts.length < fuel := by
    have hle := length_le_commas (parts.map (·.2))
    rw [List.length_map] at hle
    rw [List.length_append, List.length_cons] at hfuel
    omega
  refine (reads_arrayItemsFrom hparts hlength (fun _ => rfl) []).bind fun items hitems => ?_
  refine reads_afterComma?.bind fun trailing htrailing => ?_
  refine (reads_expect (by decide)).bind fun _ _ => .pure ⟨?_, nofun⟩ fun _ h => h.at
  rw [htrailing, Cover.ofArray, hitems]
  rfl

/-! ### Objects -/

theorem isKeyToken_keyToken {k : Key} (hk : IsPlainKey k) : isKeyToken k.keyToken = true := by
  cases hk with
  | name hw _ => exact hw
  | string _ => rfl

theorem reads_key {k : Key} (hk : IsPlainKey k) :
    Reads (At (k.keyToken :: ts) comma) (key r) (· = k.asWritten) (At ts false) := by
  have htoken := isKeyToken_keyToken hk
  have hcomma : k.keyToken.is "," = false := Token.is_eq_false htoken (by decide) rfl
  have hend : (firstToken (k.keyToken :: ts)).isEnd = false := by cases hk <;> rfl
  refine (reads_required hend).bind fun l hl => ?_
  rw [hl.token_eq, ← hcomma]
  cases hk with
  | name _ _ => exact reads_advance.bind fun _ _ => .pure rfl fun _ h => h.at
  | string _ => exact reads_advance.bind fun _ _ => .pure rfl fun _ h => h.at

variable {fields : List (Key × Expr × List Token)}

/-- A property: a key, a colon and a value. -/
theorem reads_objectItem {k : Key} (hk : IsPlainKey k) (he : ReadsValue r e ts)
    (hus : (firstToken us).closes = true) :
    Reads (At (k.keyToken :: .punctuator ":" :: (ts ++ us)) comma) (objectItem r)
      (fun i => i.value = .keyValue k.asWritten e) (At us false) := by
  have htoken := isKeyToken_keyToken hk
  refine reads_here.bind fun start _ => ?_
  refine reads_if_accept (Token.is_eq_false htoken (by decide) rfl) ?_
  refine reads_if_accept (Token.is_eq_false htoken (by decide) rfl) ?_
  refine (reads_key hk).bind fun key hkey => reads_accept_then (by decide) (ReadsIn.fresh ?_)
  refine (he.reads us false hus).withIn.bind fun c hc => .pure ?_ fun _ h => h
  rw [Cover.ObjectItem.value, hkey, hc.value_eq]

theorem reads_terminatedFrom (hkeys : ∀ f ∈ fields, IsPlainKey f.1)
    (hfields : ∀ f ∈ fields, ReadsValue r f.2.1 f.2.2) {fuel : Nat} (hfuel : fields.length < fuel)
    (hcomma : fields = [] → comma = false) (items : List Cover.ObjectItem) :
    Reads (At (commas (fields.map fieldTokens) ++ .punctuator "\x7d" :: us) comma)
      (terminatedFrom "\x7d" (objectItem r) fuel items)
      (fun is => is.map (·.value) =
        items.reverse.map (·.value) ++ fields.map fun f => .keyValue f.1.asWritten f.2.1)
      (At (.punctuator "\x7d" :: us) false) := by
  induction fields generalizing fuel comma items with
  | nil =>
    obtain ⟨fuel, rfl⟩ := Nat.exists_eq_add_of_lt hfuel
    rw [hcomma rfl]
    refine (reads_at? "\x7d").bind fun b hb => .ofTrue (hb.trans rfl) ?_
    exact .pure (List.append_nil _).symm fun _ h => h
  | cons f fields ih =>
    obtain ⟨fuel, rfl⟩ := Nat.exists_eq_add_of_lt hfuel
    obtain ⟨hk, hkeys⟩ := List.forall_mem_cons.mp hkeys
    obtain ⟨hf, hfields⟩ := List.forall_mem_cons.mp hfields
    have hclose :
        (firstToken (commaed (fields.map fieldTokens) ++ .punctuator "\x7d" :: us)).closes = true :=
      firstToken_commaed_append rfl _
    -- the other properties, once this one is read and its comma taken
    have hrest : ∀ i : Cover.ObjectItem, i.value = .keyValue f.1.asWritten f.2.1 →
        Reads (At (commas (fields.map fieldTokens) ++ .punctuator "\x7d" :: us) (!fields.isEmpty))
          (terminatedFrom "\x7d" (objectItem r) (fields.length + 1 + fuel) (i :: items))
          (fun is => is.map (·.value) = items.reverse.map (·.value) ++
            (f :: fields).map fun f => .keyValue f.1.asWritten f.2.1)
          (At (.punctuator "\x7d" :: us) false) := by
      intro i hi
      refine (ih hkeys hfields (by omega) (by rintro rfl; rfl) (i :: items)).imp ?_
      intro is his
      rw [his, List.reverse_cons, List.map_append, List.append_assoc, List.map_singleton, hi]
      rfl
    rw [List.map_cons, commas, List.append_assoc]
    refine reads_if_at (Token.is_eq_false (isKeyToken_keyToken hk) (by decide) rfl) ?_
    refine (reads_objectItem hk hf hclose).bind fun i hi => ?_
    cases fields with
    | nil => exact (reads_at? "\x7d").bind fun b hb => .ofTrue (hb.trans rfl) (hrest i hi)
    | cons g fields =>
      have htokens : commaed ((g :: fields).map fieldTokens) ++ .punctuator "\x7d" :: us =
          .punctuator "," ::
            (commas ((g :: fields).map fieldTokens) ++ .punctuator "\x7d" :: us) := by
        rw [List.map_cons, commaed, List.flatMap_cons, commas, List.cons_append, List.cons_append]
        rfl
      rw [htokens]
      refine reads_if_at rfl ((reads_expect (by decide)).bind fun _ _ => ?_)
      exact (hrest i hi).fresh

/-- An object of values. -/
theorem reads_object (hkeys : ∀ f ∈ fields, IsPlainKey f.1)
    (hfields : ∀ f ∈ fields, ReadsValue r f.2.1 f.2.2) :
    Reads (At (.punctuator "\x7b" ::
        (commas (fields.map fieldTokens) ++ .punctuator "\x7d" :: us)) comma) (object r)
      (Covers (.object (.ofList (fields.map fun f => .keyValue f.1.asWritten f.2.1))))
      (At us false) := by
  have hterminated : Reads
      (At (commas (fields.map fieldTokens) ++ .punctuator "\x7d" :: us) false)
      (terminated "\x7d" (objectItem r))
      (fun p => p.1.map (·.value) = fields.map fun f => .keyValue f.1.asWritten f.2.1)
      (At us false) := by
    refine reads_tokensLeft.bind fun fuel hfuel => ?_
    have hlength : fields.length < fuel := by
      have hle := length_le_commas (fields.map fieldTokens)
      rw [List.length_map] at hle
      rw [List.length_append, List.length_cons] at hfuel
      omega
    refine (reads_terminatedFrom hkeys hfields hlength (fun _ => rfl) []).bind
      fun items hitems => ?_
    refine reads_afterComma?.bind fun trailing _ => ?_
    exact (reads_expect (by decide)).bind fun _ _ => .pure hitems fun _ h => h.at
  refine reads_here.bind fun start _ => (reads_expect (by decide)).bind fun _ _ => ReadsIn.fresh ?_
  refine hterminated.bind fun p hp => .pure ⟨?_, nofun⟩ fun _ h => h
  rw [Cover.ofObject, hp]

end Lists

/-! ## Functions -/

/-- The context of the body of a function that is no generator. -/
def InPlainFunction (ctx : Context) : Prop := ctx.inGenerator = false ∧ ctx.inFunction = true

theorem InPlainFunction.outside {ctx : Context} (h : InPlainFunction ctx) :
    OutsideGenerators ctx := h.1

/-- A statement that returns a value. -/
theorem reads_returnStatement {d : Nat} (he : ReadsValue (readers d) e ts) :
    ReadsIn InPlainFunction (At (.word "return" :: (ts ++ .punctuator ";" :: us)) comma)
      (statement (readers d) true) (· = Build.returns e) (Fresh us false) := by
  have hvalue : ReadsIn InPlainFunction (At (ts ++ .punctuator ";" :: us) false)
      (withIn (expression (readers d))) (· = e) (At (.punctuator ";" :: us) false) :=
    (reads_expression (readers d) rfl (he.reads _ _ rfl)).withIn.inside fun _ h => h.outside
  refine (reads_required rfl).bind fun l hl => ?_
  simp only [hl.token_eq]
  refine reads_advance_return.bind fun _ _ => ?_
  have hends : ReadsIn InPlainFunction (OnLine (ts ++ .punctuator ";" :: us) false) endsStatement?
      (· = false) (At (ts ++ .punctuator ";" :: us) false) := by
    refine reads_endsStatement? (Token.isEnd_of_beginsValue (he.beginsValue _)) fun text htext => ?_
    exact Token.is_eq_false (he.beginsValue _) (by revert text; decide) (by revert text; decide)
  refine hends.bind fun b hb => .ofFalse hb ?_
  refine (hvalue.map (f := some) (B := (· = some e)) fun a ha => congrArg some ha).bind
    fun o ho => reads_expectEnd.bind fun _ _ => .ofContext fun ctx hctx => .ofTrue hctx.2 ?_
  exact .pure (by rw [ho]; rfl) fun _ h => h

/-- The statements of the body of a function that returns a value. -/
theorem reads_functionBody {d : Nat} (he : ReadsValue (readers d) e ts) :
    Reads (At (.punctuator "\x7b" :: .word "return" ::
        (ts ++ .punctuator ";" :: .punctuator "\x7d" :: us)) comma)
      (functionBody (readers (d + 1)) false false) (· = [Build.returns e]) (Fresh us false) := by
  have hbody : ReadsIn InPlainFunction
      (At (.punctuator "\x7b" :: .word "return" ::
        (ts ++ .punctuator ";" :: .punctuator "\x7d" :: us)) comma)
      (bracedWithDirective (readers (d + 1))) (· = [Build.returns e]) (Fresh us false) := by
    refine (reads_expect (by decide)).bind fun _ _ => ReadsIn.fresh ?_
    refine (reads_at? "\x7d").bind fun b hb => .ofFalse (hb.trans (by rfl)) ?_
    refine (reads_returnStatement he).bind fun first hfirst => ?_
    have hothers : ReadsIn InPlainFunction (Fresh (.punctuator "\x7d" :: us) false)
        (do statementsFrom (readers (d + 1)) (← tokensLeft) [first]) (· = [first])
        (At (.punctuator "\x7d" :: us) false) := by
      refine ReadsIn.fresh (reads_tokensLeft.bind fun fuel hfuel => ?_)
      obtain ⟨fuel, rfl⟩ := Nat.exists_eq_add_of_lt hfuel
      exact (reads_at? "\x7d").bind fun b hb => .ofTrue (hb.trans rfl) (.pure rfl fun _ h => h)
    have hstrict : ReadsIn InPlainFunction (Fresh (.punctuator "\x7d" :: us) false)
        (withStrict (asksStrict first) do
          statementsFrom (readers (d + 1)) (← tokensLeft) [first]) (· = [first])
        (At (.punctuator "\x7d" :: us) false) := hothers.withContext fun _ h => h
    refine hstrict.bind fun body hbody => (reads_expect (by decide)).bind fun _ _ => ?_
    exact .pure (by rw [hbody, hfirst]) fun _ h => h
  have hin : ReadsIn InPlainFunction
      (At (.punctuator "\x7b" :: .word "return" ::
        (ts ++ .punctuator ";" :: .punctuator "\x7d" :: us)) comma)
      (withIn (bracedWithDirective (readers (d + 1)))) (· = [Build.returns e]) (Fresh us false) :=
    hbody.withContext fun _ h => h
  exact hin.withContext fun _ _ => ⟨rfl, rfl⟩

/-- A function without parameters that returns a value. -/
theorem reads_functionTail {d : Nat} (he : ReadsValue (readers d) e ts) :
    Reads (At (.punctuator "(" :: .punctuator ")" :: .punctuator "\x7b" :: .word "return" ::
        (ts ++ .punctuator ";" :: .punctuator "\x7d" :: us)) comma)
      (functionTail (readers (d + 1)) false false) (· = Build.function [] [Build.returns e])
      (Fresh us false) := by
  refine reads_here.bind fun start _ => ?_
  have hparameters : ∀ us, Reads (At (.punctuator ")" :: us) false)
      (do
        let ps ← parametersFrom (readers (d + 1)) (← tokensLeft) none []
        checkAccessor .method start ps
        return ps.map (·.2)) (· = []) (At (.punctuator ")" :: us) false) := by
    intro us
    refine reads_tokensLeft.bind fun fuel hfuel => ?_
    obtain ⟨fuel, rfl⟩ := Nat.exists_eq_add_of_lt hfuel
    have hnone : Reads (At (.punctuator ")" :: us) false)
        (parametersFrom (readers (d + 1)) (us.length + 1 + fuel + 1) none []) (· = [])
        (At (.punctuator ")" :: us) false) := by
      refine reads_atEnd?.bind fun b _ => (reads_at? ")").bind fun b' hb' => ?_
      exact .ofTrue (by rw [hb', Bool.or_eq_true]; exact .inr rfl) (.pure rfl fun _ h => h)
    refine hnone.bind fun ps hps => ?_
    rw [hps]
    exact .pure rfl fun _ h => h
  have htail : Reads
      (At (.punctuator "(" :: .punctuator ")" :: .punctuator "\x7b" :: .word "return" ::
        (ts ++ .punctuator ";" :: .punctuator "\x7d" :: us)) comma)
      (methodTail (readers (d + 1)) .method false false start) (· = ([], [Build.returns e]))
      (Fresh us false) := by
    refine ReadsIn.bind (A := (· = [])) (Q := Fresh _ false) ?_ fun ps hps =>
      (reads_functionBody he).fresh.bind fun body hbody => .pure (by rw [hps, hbody]) fun _ h => h
    refine (reads_expect (by decide)).bind fun _ _ => ReadsIn.fresh ?_
    refine ((hparameters _).withContext ?_).bind fun ps hps => ?_
    · exact fun _ _ => rfl
    · exact (reads_expect (by decide)).bind fun _ _ => .pure hps fun _ h => h
  exact htail.bind fun p hp => .pure (by rw [hp]; rfl) fun _ h => h

/-- A function without a name that returns a value. -/
theorem reads_functionValue {d : Nat} (he : ReadsValue (readers d) e ts) :
    Reads (At (.word "function" :: .punctuator "(" :: .punctuator ")" :: .punctuator "\x7b" ::
        .word "return" :: (ts ++ .punctuator ";" :: .punctuator "\x7d" :: us)) comma)
      (functionValue (readers (d + 1)) false) (· = Build.lambda [] [Build.returns e])
      (Fresh us false) := by
  have hname : ∀ ts, Reads (At (.punctuator "(" :: ts) false) (optionalName false) (· = none)
      (At (.punctuator "(" :: ts) false) := by
    intro ts
    exact reads_atName?.bind fun b hb =>
      .ofFalse (by rw [hb _ rfl, Bool.or_self]) (.pure rfl fun _ h => h)
  refine (reads_expect (by decide)).bind fun _ _ => ReadsIn.fresh ?_
  refine ReadsIn.bind (A := (· = (none, Build.function [] [Build.returns e]))) (Q := Fresh us false)
    ?_ fun p hp => .pure (by rw [hp]; rfl) fun _ h => h
  refine (reads_accept_other rfl).bind fun b hb => ?_
  rw [hb]
  refine ((hname _).withContext ?_).bind fun name hname => ?_
  · exact fun _ _ => rfl
  · exact (reads_functionTail he).bind fun f hf => .pure (by rw [hname, hf]) fun _ h => h

end ModuleBundler.Script.Reader
