import ModuleBundler.Proofs.Script.Reader.Primary

/-!
Plain expressions are read back. Accesses and calls group to the left, while they are read from the
left: a path is read by reading what it begins with and then all of its accesses in turn
(`ReadsPath`), so the induction on a path says what the rest of the reading makes of it.

The reader is a tower of levels. A value uses three of them at most for each value that it is nested
in, and three tokens are the least that nest one; so the levels that a value needs are bounded by
its tokens.
-/

set_option autoImplicit false

namespace ModuleBundler.Script.Reader

variable {r : Readers} {ts us vs : List Token} {comma : Bool} {e : Expr}

/-! ## Paths -/

/-- Tokens are read as a path: the whole is read as what the accesses after the path make of it. -/
def ReadsPath (r : Readers) (e : Expr) (ts : List Token) : Prop :=
  ∀ (us : List Token) (comma arrowAllowed : Bool) (A : Cover → Prop) (Q : State → Prop),
    (firstToken us).is "=>" = false →
    (∀ fuel c, us.length < fuel → Covers e c →
      Reads (At us false) (accessesFrom r true fuel c) A Q) →
    Reads (At (ts ++ us) comma) (primary r arrowAllowed >>= accesses r true) A Q

theorem readsPath_name {w : String} (hw : isPlainName w = true) :
    ReadsPath r (.identifier .written w) [.word w] := by
  intro us comma arrowAllowed A Q hus hrest
  refine (reads_primary_name hw hus arrowAllowed).bind fun c hc => ?_
  exact reads_accesses r hc fun fuel hfuel => hrest fuel c hfuel hc

/-- A path with one more access, if the tokens of the access are read as such. -/
theorem ReadsPath.access {e' : Expr} {t : Token} (he : ReadsPath r e ts)
    (ht : t.is "=>" = false)
    (haccess : ∀ us c, Covers e c → Reads (At (t :: (vs ++ us)) false) (access? r true c)
      (fun o => ∃ c', o = some c' ∧ Covers e' c') (At us false)) :
    ReadsPath r e' (ts ++ t :: vs) := by
  intro us comma arrowAllowed A Q _ hrest
  rw [List.append_assoc, List.cons_append]
  refine he _ comma arrowAllowed A Q ht fun fuel c hfuel hc => ?_
  obtain ⟨fuel, rfl⟩ := Nat.exists_eq_add_of_lt hfuel
  refine (haccess us c hc).bind fun o ho => ?_
  obtain ⟨c', rfl, hc'⟩ := ho
  refine hrest _ c' ?_ hc'
  rw [List.length_cons, List.length_append]
  omega

theorem reads_access?_member {w : String} (hw : isWord w = true) {c : Cover} (hc : Covers e c) :
    Reads (At (.punctuator "." :: .word w :: us) false) (access? r true c)
      (fun o => ∃ c', o = some c' ∧ Covers (.member false false e w) c') (At us false) := by
  have hkey : isKeyToken (.word w) = true := hw
  refine reads_current.bind fun l hl => ?_
  have hoptional : Reads (At (.punctuator "." :: .word w :: us) false) atOptional? (· = false)
      (At (.punctuator "." :: .word w :: us) false) := reads_if_at rfl (.pure rfl fun _ h => h)
  refine hoptional.bind fun b hb => .ofFalse hb (reads_if_accept rfl (.ofFalse ?_ ?_))
  · rw [hl.token_eq]
    rfl
  refine reads_accept_then (by decide) (ReadsIn.fresh ?_)
  refine ReadsIn.bind (A := (· = .member false false c.value w)) (Q := At us false) ?_ fun m hm =>
    .pure ⟨_, rfl, ?_, nofun⟩ fun _ h => h
  · refine reads_if_at (Token.is_eq_false hkey (by decide) rfl) ?_
    exact (reads_anyName hw).bind fun n hn => .pure (by rw [hn]) fun _ h => h
  · rw [Cover.ofMember, hm, hc.value_eq]

theorem reads_access?_index {k : Expr} (hk : ReadsValue r k ts) {c : Cover} (hc : Covers e c) :
    Reads (At (.punctuator "[" :: (ts ++ .punctuator "]" :: us)) false) (access? r true c)
      (fun o => ∃ c', o = some c' ∧ Covers (.index false e k) c') (At us false) := by
  refine reads_current.bind fun l hl => ?_
  have hoptional : ∀ ts, Reads (At (.punctuator "[" :: ts) false) atOptional? (· = false)
      (At (.punctuator "[" :: ts) false) := fun ts => reads_if_at rfl (.pure rfl fun _ h => h)
  refine (hoptional _).bind fun b hb => .ofFalse hb ?_
  refine reads_accept_then (by decide) (ReadsIn.fresh ?_)
  refine ReadsIn.bind (A := (· = .index false c.value k)) (Q := At us false) ?_ fun m hm =>
    .pure ⟨_, rfl, ?_, nofun⟩ fun _ h => h
  · refine (reads_expression r rfl (hk.reads _ _ rfl)).withIn.bind fun a ha => ?_
    exact (reads_expect (by decide)).bind fun _ _ => .pure (by rw [ha]) fun _ h => h.at
  · rw [Cover.ofMember, hm, hc.value_eq]

theorem reads_access?_call {parts : List (Expr × List Token)}
    (hparts : ∀ a ∈ parts, ReadsValue r a.1 a.2) {c : Cover} (hc : Covers e c) :
    Reads (At (.punctuator "(" :: (commas (parts.map (·.2)) ++ .punctuator ")" :: us)) false)
      (access? r true c)
      (fun o => ∃ c', o = some c' ∧
        Covers (.call false e (.ofList (parts.map fun a => .plainElement a.1))) c')
      (At us false) := by
  refine reads_current.bind fun l hl => ?_
  have hoptional : ∀ ts, Reads (At (.punctuator "(" :: ts) false) atOptional? (· = false)
      (At (.punctuator "(" :: ts) false) := fun ts => reads_if_at rfl (.pure rfl fun _ h => h)
  refine (hoptional _).bind fun b hb => .ofFalse hb (reads_if_accept rfl (.ofTrue ?_ ?_))
  · rw [hl.token_eq]
    rfl
  refine (reads_arguments hparts _).bind fun elements helements => ?_
  refine .pure ⟨_, rfl, ?_, nofun⟩ fun _ h => h.at
  rw [Cover.ofValue, helements, hc.value_eq]

/-! ## Phrases -/

/-- A primary expression before what closes is a value. -/
theorem readsValue_of_primary {d : Nat} (hfirst : ∃ t us, ts = t :: us ∧ t.beginsPrimary = true)
    (hprimary : ∀ us comma arrowAllowed, (firstToken us).closes = true →
      Reads (At (ts ++ us) comma) (primary (readers d) arrowAllowed) (Covers e) (At us false)) :
    ReadsValue (readers (d + 2)) e ts where
  first := by
    obtain ⟨t, us, rfl, ht⟩ := hfirst
    exact ⟨t, us, rfl, Token.beginsValue_of_beginsPrimary ht⟩
  reads us comma hus := by
    obtain ⟨t, ts, rfl, ht⟩ := hfirst
    refine reads_assignment_of_leftHand ht hus fun arrowAllowed => ?_
    refine (hprimary us comma arrowAllowed hus).bind fun c hc => ?_
    refine reads_accesses _ hc fun fuel _ => ?_
    exact (reads_accessesFrom _ hus fuel c).imp (by rintro _ rfl; exact hc)

/-- A path before what closes is a value. -/
theorem ReadsPath.readsValue {d : Nat} (he : ReadsPath (readers d) e ts)
    (hfirst : ∃ t us, ts = t :: us ∧ t.beginsPath = true) : ReadsValue (readers (d + 2)) e ts where
  first := by
    obtain ⟨t, us, rfl, ht⟩ := hfirst
    exact ⟨t, us, rfl, Token.beginsValue_of_beginsPrimary (Token.beginsPrimary_of_beginsPath ht)⟩
  reads us comma hus := by
    obtain ⟨t, ts, rfl, ht⟩ := hfirst
    refine reads_assignment_of_leftHand (Token.beginsPrimary_of_beginsPath ht) hus
      fun arrowAllowed => ?_
    refine he us comma arrowAllowed _ _ (Token.is_eq_false hus rfl rfl) fun fuel c _ hc => ?_
    exact (reads_accessesFrom _ hus fuel c).imp (by rintro _ rfl; exact hc)

/-- A number under a minus sign is an operation. -/
theorem readsValue_negative (d : Nat) (v : Binary64) :
    ReadsValue (readers (d + 3)) (.unary .minus (.numberLiteral v))
      [.punctuator "-", .number v] where
  first := ⟨_, _, rfl, by decide⟩
  reads us comma hus := by
    have hoperand : Reads (At (.number v :: us) false) ((readers (d + 1)).operand false)
        (Covers (.numberLiteral v)) (At us false) := by
      refine reads_operandWith (readers d) rfl hus (reads_leftHand (readers d) rfl ?_)
      refine (reads_primary_literal (.number v) false).bind fun c hc => ?_
      refine reads_accesses _ hc fun fuel _ => ?_
      exact (reads_accessesFrom _ hus fuel c).imp (by rintro _ rfl; exact hc)
    -- the sign is the operator, and the operand is read one level further down
    refine reads_assignment (readers (d + 2)) rfl hus fun arrowAllowed => ?_
    change Reads _ (operandWith (readers (d + 1)) _) _ _
    refine reads_look.bind fun l hl => ?_
    have hupdate : updateOf? l.token = none := by
      rw [hl.token_eq]
      rfl
    have hunary : unaryOf? l.token = some .minus := by
      rw [hl.token_eq]
      rfl
    simp only [hupdate, hunary]
    refine reads_here.bind fun start _ => reads_advance.bind fun _ _ => ?_
    have hcatch : ∀ handle, Reads (Fresh (.number v :: us) false)
        (tryCatch ((readers (d + 1)).operand false) handle) (Covers (.numberLiteral v))
        (At us false) := fun handle => hoperand.catch.fresh
    refine (hcatch _).bind fun c hc => ?_
    exact .pure ⟨congrArg (Node.unary .minus) hc.value_eq, nofun⟩ fun _ h => h

/-- What is read of a phrase: of a path the accesses after it, of a value all of it. -/
def ReadsForm (form : Form) (e : Expr) (ts : List Token) : Prop :=
  match form with
  | .path => ∀ d, 3 * ts.length ≤ d + 2 → ReadsPath (readers d) e ts
  | .value => ∀ d, 3 * ts.length ≤ d → ReadsValue (readers d) e ts

/-- **Phrases are read** as the trees with the marks of their texts. -/
theorem readsForm_of_phrase {form : Form} (h : Phrase form e ts) :
    ReadsForm form e.asWritten ts := by
  induction h with
  | name origin hw => exact fun d _ => readsPath_name hw
  | @member e ts w he hw _ ih =>
    intro d hd
    rw [List.length_append] at hd
    exact (ih d (by omega)).access rfl fun us c hc => reads_access?_member hw hc
  | @index e k ts us he hk ih ihk =>
    intro d hd
    rw [List.length_append, List.length_cons, List.length_append, List.length_singleton] at hd
    refine (ih d (by omega)).access rfl fun vs c hc => ?_
    rw [List.append_assoc]
    exact reads_access?_index (ihk d (by omega)) hc
  | @call e ts arguments he harguments ih iharguments =>
    intro d hd
    rw [List.length_append, List.length_cons, List.length_append, List.length_singleton] at hd
    have hparts : ∀ a ∈ arguments.map fun a => (a.1.asWritten, a.2),
        ReadsValue (readers d) a.1 a.2 := by
      refine List.forall_mem_map.mpr fun a ha => iharguments a ha d ?_
      have hle := length_le_of_mem (List.mem_map_of_mem (f := (·.2)) ha)
      omega
    change ReadsPath _ (.call false e.asWritten (Node.ofList _).asWritten) _
    rw [Node.asWritten_ofList, List.map_map]
    refine (ih d (by omega)).access rfl fun vs c hc => ?_
    have hcall : Reads _ _ _ (At vs false) := reads_access?_call hparts hc
    rw [List.map_map, List.map_map] at hcall
    rw [List.append_assoc]
    exact hcall
  | path he ih =>
    intro d hd
    obtain ⟨t, us, rfl, ht⟩ := he.exists_first_path
    rw [List.length_cons] at hd
    obtain ⟨d, rfl⟩ : ∃ k, d = k + 2 := ⟨d - 2, by omega⟩
    exact (ih d (by rw [List.length_cons]; omega)).readsValue ⟨t, us, rfl, ht⟩
  | null =>
    intro d hd
    obtain ⟨d, rfl⟩ : ∃ k, d = k + 2 := ⟨d - 2, by rw [List.length_singleton] at hd; omega⟩
    exact readsValue_of_primary ⟨_, _, rfl, by decide⟩ fun us comma arrowAllowed _ =>
      reads_primary_literal .null arrowAllowed
  | bool b =>
    intro d hd
    obtain ⟨d, rfl⟩ : ∃ k, d = k + 2 := ⟨d - 2, by rw [List.length_singleton] at hd; omega⟩
    exact readsValue_of_primary ⟨_, _, rfl, by cases b <;> decide⟩ fun us comma arrowAllowed _ =>
      reads_primary_literal (.bool b) arrowAllowed
  | @string s hs =>
    intro d hd
    obtain ⟨d, rfl⟩ : ∃ k, d = k + 2 := ⟨d - 2, by rw [List.length_singleton] at hd; omega⟩
    exact readsValue_of_primary ⟨_, _, rfl, rfl⟩ fun us comma arrowAllowed _ =>
      reads_primary_literal (.string s.asWritten) arrowAllowed
  | @number v hv =>
    intro d hd
    obtain ⟨d, rfl⟩ : ∃ k, d = k + 2 := ⟨d - 2, by rw [List.length_singleton] at hd; omega⟩
    exact readsValue_of_primary ⟨_, _, rfl, rfl⟩ fun us comma arrowAllowed _ =>
      reads_primary_literal (.number v) arrowAllowed
  | @negative v hv =>
    intro d hd
    rw [List.length_cons, List.length_singleton] at hd
    obtain ⟨d, rfl⟩ : ∃ k, d = k + 3 := ⟨d - 3, by omega⟩
    exact readsValue_negative d v
  | @array elements helements ih =>
    intro d hd
    rw [List.length_cons, List.length_append, List.length_singleton] at hd
    obtain ⟨d, rfl⟩ : ∃ k, d = k + 2 := ⟨d - 2, by omega⟩
    have hparts : ∀ a ∈ elements.map fun a => (a.1.asWritten, a.2),
        ReadsValue (readers d) a.1 a.2 := by
      refine List.forall_mem_map.mpr fun a ha => ih a ha d ?_
      have hle := length_le_of_mem (List.mem_map_of_mem (f := (·.2)) ha)
      omega
    change ReadsValue _ (.array (Node.ofList _).asWritten false) _
    rw [Node.asWritten_ofList, List.map_map]
    refine readsValue_of_primary ⟨_, _, rfl, by decide⟩ fun us comma arrowAllowed _ => ?_
    refine reads_current.bind fun l hl => ?_
    have harray : Reads (At _ comma) _ _ (At us false) := reads_array hparts
    rw [List.map_map, List.map_map] at harray
    rw [hl.token_eq, List.cons_append, List.append_assoc]
    exact harray
  | @object fields hkeys hvalues ih =>
    intro d hd
    rw [List.length_cons, List.length_append, List.length_singleton] at hd
    obtain ⟨d, rfl⟩ : ∃ k, d = k + 2 := ⟨d - 2, by omega⟩
    have hfields : ∀ f ∈ fields.map fun f => (f.1, f.2.1.asWritten, f.2.2),
        ReadsValue (readers d) f.2.1 f.2.2 := by
      refine List.forall_mem_map.mpr fun f hf => ih f hf d ?_
      have hle := length_le_of_mem (List.mem_map_of_mem (f := fieldTokens) hf)
      rw [fieldTokens, List.length_cons, List.length_cons] at hle
      omega
    have hkeys : ∀ f ∈ fields.map fun f => (f.1, f.2.1.asWritten, f.2.2), IsPlainKey f.1 :=
      List.forall_mem_map.mpr hkeys
    change ReadsValue _ (.object (Node.ofList _).asWritten) _
    rw [Node.asWritten_ofList, List.map_map]
    refine readsValue_of_primary ⟨_, _, rfl, by decide⟩ fun us comma arrowAllowed _ => ?_
    refine reads_current.bind fun l hl => ?_
    have hobject : Reads (At _ comma) _ _ (At us false) := reads_object hkeys hfields
    rw [List.map_map, List.map_map] at hobject
    rw [hl.token_eq, List.cons_append, List.append_assoc]
    exact hobject
  | @getter e ts he ih =>
    intro d hd
    simp only [List.length_append, List.length_cons, List.length_nil] at hd
    obtain ⟨d, rfl⟩ : ∃ k, d = k + 3 := ⟨d - 3, by omega⟩
    have hvalue : ReadsValue (readers d) e.asWritten ts := by
      obtain ⟨d, rfl⟩ : ∃ k, d = k + 2 := ⟨d - 2, by omega⟩
      exact (ih d (by omega)).readsValue he.exists_first_path
    refine readsValue_of_primary ⟨_, _, rfl, by decide⟩ fun us comma arrowAllowed _ => ?_
    refine reads_current.bind fun l hl => ?_
    have hfunction : Reads (At _ comma) _ _ (Fresh us false) := reads_functionValue hvalue
    rw [hl.token_eq, List.append_assoc, List.append_assoc]
    exact hfunction.bind fun f hf => .pure ⟨hf, nofun⟩ fun _ h => h.at

end ModuleBundler.Script.Reader
