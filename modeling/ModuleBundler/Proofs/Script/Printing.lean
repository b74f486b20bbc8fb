import ModuleBundler.Proofs.Script.Reader.Sentence
import ModuleBundler.Script.Printer

/-!
What is printed of plain trees spells their tokens. Where blanks go and lines end is decided when
pieces are laid out, by the depth and by what stands on the line already; the tokens depend on none
of it. So pieces are said to spell tokens (`Spell`) if their layout does at every depth and at every
place of a line, before a text that ends the last of them, and this is kept by everything that
puts pieces together.

The texts between tokens are blanks and ends of lines, and a line is ended nowhere after `return`.
-/

set_option autoImplicit false

namespace ModuleBundler.Script

namespace Pieces

/-! ## Pieces that spell tokens -/

/-- Wherever they are laid out, pieces spell tokens before a text that ends the last one. -/
def Spell (ends : List Char → Prop) (ps : Pieces) (ts : List Token) : Prop :=
  ∀ (depth : Nat) (rest : Pieces) (us : List Token), ends (layoutFrom depth false rest) →
    (∀ atStart, Spells (layoutFrom depth atStart rest) us) →
    ∀ atStart, Spells (layoutFrom depth atStart (ps ++ rest)) (ts ++ us)

/-- Every text ends the last token. -/
def Anything : List Char → Prop := fun _ => True

/-- Wherever they are laid out, pieces begin with a text that ends the token before. -/
def Leads (ends : List Char → Prop) (ps : Pieces) : Prop :=
  ∀ (depth : Nat) (rest : Pieces), ends (layoutFrom depth false (ps ++ rest))

section Layout

variable {ends ends' : List Char → Prop} {ps qs : Pieces} {ts us : List Token}

theorem Spells.indented {cs : List Char} (h : Spells cs ts) (depth : Nat) :
    Spells ((List.replicate depth indentation).flatten ++ cs) ts := by
  induction depth with
  | zero => exact h
  | succ depth ih =>
    rw [List.replicate_succ, List.flatten_cons, List.append_assoc]
    exact .blank (.blank (.blank (.blank ih)))

/-- A text that is not empty. -/
theorem spell_text {s : List Char} (hs : s ≠ [])
    (h : ∀ {cs us}, ends cs → Spells cs us → Spells (s ++ cs) (ts ++ us)) :
    Spell ends [.text s] ts := by
  intro depth rest us hends hrest atStart
  have hspells := h hends (hrest false)
  have hempty : s.isEmpty = false := List.isEmpty_eq_false_iff.mpr hs
  cases atStart with
  | false =>
    rw [List.singleton_append, layoutFrom, hempty]
    exact hspells
  | true =>
    rw [List.singleton_append, layoutFrom, hempty]
    exact List.append_assoc _ _ _ ▸ Spells.indented hspells depth

/-- A text that is laid out in two pieces. -/
theorem spell_texts {s t : List Char} (hs : s ≠ []) (ht : t ≠ [])
    (h : ∀ {cs us}, ends cs → Spells cs us → Spells (s ++ (t ++ cs)) (ts ++ us)) :
    Spell ends [.text s, .text t] ts := by
  have hwhole : Spell ends [.text (s ++ t)] ts :=
    spell_text (List.append_ne_nil_of_left_ne_nil hs t) fun hends hcs =>
      (List.append_assoc s t _).symm ▸ h hends hcs
  have hlayout : ∀ depth atStart rest, layoutFrom depth atStart ([.text s, .text t] ++ rest) =
      layoutFrom depth atStart ([.text (s ++ t)] ++ rest) := by
    intro depth atStart rest
    have hsempty : s.isEmpty = false := List.isEmpty_eq_false_iff.mpr hs
    have htempty : t.isEmpty = false := List.isEmpty_eq_false_iff.mpr ht
    have hempty : (s ++ t).isEmpty = false :=
      List.isEmpty_eq_false_iff.mpr (List.append_ne_nil_of_left_ne_nil hs t)
    cases atStart <;>
      simp only [List.cons_append, List.nil_append, layoutFrom, hsempty, htempty, hempty,
        Bool.false_eq_true, ↓reduceIte, List.append_assoc]
  intro depth rest us hends hrest atStart
  rw [hlayout]
  exact hwhole depth rest us hends hrest atStart

theorem spell_nil : Spell ends [] [] := fun _ _ _ _ hrest => hrest

theorem spell_endLine : Spell Anything endLine [] := by
  intro depth rest us _ hrest atStart
  cases atStart with
  | false => exact .line (hrest true)
  | true => exact hrest true

theorem spell_blank : Spell Anything (text " ") [] :=
  spell_text (by decide) fun _ h => .blank h

/-- Pieces one after another, if the ones before are ended by those after. -/
theorem Spell.append (hps : Spell ends ps ts) (hqs : Spell ends' qs us)
    (hends : ∀ depth rest, ends' (layoutFrom depth false rest) →
      ends (layoutFrom depth false (qs ++ rest))) : Spell ends' (ps ++ qs) (ts ++ us) := by
  intro depth rest vs hend hrest atStart
  rw [List.append_assoc, List.append_assoc]
  exact hps depth (qs ++ rest) (us ++ vs) (hends depth rest hend) (hqs depth rest vs hend hrest)
    atStart

theorem Spell.indented (hps : Spell ends ps ts) : Spell ends (indented ps) ts := by
  intro depth rest us hend hrest atStart
  have hlayout : ∀ b, layoutFrom depth b (Pieces.indented ps ++ rest) =
      layoutFrom (depth + 1) b (ps ++ .outdent :: rest) := by
    intro b
    rw [Pieces.indented, List.cons_append, List.cons_append, List.append_assoc]
    rfl
  rw [hlayout]
  exact hps (depth + 1) (.outdent :: rest) us hend hrest atStart

/-- A weaker condition on what follows. -/
theorem Spell.mono (hps : Spell ends ps ts) (hends : ∀ cs, ends' cs → ends cs) :
    Spell ends' ps ts :=
  fun depth rest us hend => hps depth rest us (hends _ hend)

end Layout

/-! ## Tokens -/

theorem spell_mark {c : Char} (hc : isMark c = true) :
    Spell Anything [.text [c]] [.punctuator (.singleton c)] :=
  spell_text (List.cons_ne_nil c []) fun _ h => .mark hc h

/-- A punctuator with a blank after it. -/
theorem spell_mark_blank {c : Char} (hc : isMark c = true) :
    Spell Anything [.text [c, ' ']] [.punctuator (.singleton c)] :=
  spell_text (List.cons_ne_nil c [' ']) fun _ h => .mark hc (.blank h)

theorem toList_ne_nil_of_isWord {w : String} (hw : isWord w = true) : w.toList ≠ [] := by
  intro hnil
  rw [isWord, hnil] at hw
  exact absurd hw (by decide)

theorem spell_word {w : String} (hw : isWord w = true) (hreturn : w ≠ "return") :
    Spell EndsWord (text w) [.word w] :=
  spell_text (toList_ne_nil_of_isWord hw) fun hends h =>
    .word hw hends (fun heq => absurd heq hreturn) h

theorem spell_name {w : String} (hw : isPlainName w = true) : Spell EndsWord (text w) [.word w] :=
  spell_word (isWord_of_isPlainName hw)
    (beq_eq_false_iff_ne.mp (beq_eq_false_of_isPlainName hw (by decide)))

/-- A point with a word after it. -/
theorem spell_point {w : String} (hw : isWord w = true) (hreturn : w ≠ "return") :
    Spell EndsWord (text "." ++ text w) [.punctuator ".", .word w] := by
  obtain ⟨hstart, -⟩ := Bool.and_eq_true_iff.mp hw
  obtain ⟨d, hd, hstart⟩ := (Option.any_eq_true ..).mp hstart
  obtain ⟨ds, hcons⟩ := List.head?_eq_some_iff.mp hd
  have hdigit : Text.isAsciiDigit d = false := by
    rw [startsWord, Bool.and_eq_true, Bool.not_eq_true'] at hstart
    exact hstart.2
  have hnone : (['-', '.', '=', '>'].all fun c => !startsWord c) = true := by decide
  refine spell_texts (by decide) (toList_ne_nil_of_isWord hw) fun hends h => ?_
  have hword := Spells.word hw hends (fun heq => absurd heq hreturn) h
  rw [hcons] at hword ⊢
  refine .token (.sign (p := ".") (by decide) (fun hmem => ?_) (fun _ => hdigit) _)
    Token.noConfusion hword
  have hother := List.all_eq_true.mp hnone d hmem
  rw [hstart] at hother
  exact Bool.false_ne_true hother

/-- The sign of an assignment between blanks. -/
theorem spell_equals : Spell Anything (text " = ") [.punctuator "="] :=
  spell_text (by decide) fun _ h =>
    .blank (.token (.sign (p := "=") (d := ' ') (by decide) (by decide) nofun _) nofun (.blank h))

theorem spell_number {v : Binary64} (hv : IsWritable v) :
    Spell EndsToken [.text v.plain] [.number v] := by
  obtain ⟨n, htext, rfl⟩ := hv
  obtain ⟨d, ds, hcons, -⟩ := n.exists_text_eq_cons
  rw [htext]
  exact spell_text (by rw [hcons]; exact List.cons_ne_nil d ds) fun hends h => .numeral n hends h

/-- A number under a minus sign. -/
theorem spell_negative {v : Binary64} (hv : IsWritable v) :
    Spell EndsToken (text "-" ++ [.text v.plain]) [.punctuator "-", .number v] := by
  obtain ⟨n, htext, rfl⟩ := hv
  obtain ⟨d, ds, hcons, -⟩ := n.exists_text_eq_cons
  rw [htext]
  exact spell_texts (by decide) (by rw [hcons]; exact List.cons_ne_nil d ds)
    fun hends h => .negative n hends h

theorem spell_string {s : StringLiteral} (hs : s.IsQuoted) :
    Spell Anything [.text s.text] [.string s.asWritten] := by
  obtain ⟨write, hwrite, htext⟩ := hs
  rw [StringLiteral.asWritten, htext]
  exact spell_text (List.cons_ne_nil _ _) fun _ h => .quoted hwrite s.value h

/-! ## What ends a token -/

section Ends

variable {ends ends' : List Char → Prop} {ps qs : Pieces} {ts us : List Token}

theorem leads_text {c : Char} (h : ∀ cs, ends (c :: cs)) (s : List Char) :
    Leads ends [.text (c :: s)] :=
  fun _ _ => h _

theorem leads_endLine : Leads EndsToken endLine := fun _ _ => endsToken_cons (by decide) _

theorem Leads.append (h : Leads ends ps) (qs : Pieces) : Leads ends (ps ++ qs) := by
  intro depth rest
  rw [List.append_assoc]
  exact h depth (qs ++ rest)

theorem Leads.mono (h : Leads ends ps) (hends : ∀ cs, ends cs → ends' cs) : Leads ends' ps :=
  fun depth rest => hends _ (h depth rest)

/-- Pieces one after another, those after ending the ones before. -/
theorem Spell.before (hps : Spell ends ps ts) (hqs : Spell ends' qs us) (hleads : Leads ends qs) :
    Spell ends' (ps ++ qs) (ts ++ us) :=
  hps.append hqs fun depth rest _ => hleads depth rest

/-- Pieces after others that need not be ended. -/
theorem Spell.after (hqs : Spell ends qs us) (hps : Spell Anything ps ts) :
    Spell ends (ps ++ qs) (ts ++ us) :=
  hps.append hqs fun _ _ _ => trivial

end Ends

/-! ## Lists -/

section Lists

variable {parts : List Pieces} {tokens : List (List Token)}

theorem spell_separated {separator : Pieces}
    (hseparator : Spell Anything separator [.punctuator ","]) (hleads : Leads EndsToken separator)
    (h : List.Forall₂ (Spell EndsToken) parts tokens) :
    Spell EndsToken (separated separator parts) (commas tokens) := by
  induction h with
  | nil => exact spell_nil
  | @cons p ts parts tokens hp h ih =>
    cases h with
    | nil =>
      rw [commas, commaed, List.flatMap_nil, List.append_nil]
      exact hp
    | cons hq h =>
      have hrest := hp.before (ih.after hseparator) (hleads.append _)
      rw [← List.append_assoc] at hrest
      exact hrest

/-- Elements of an array, each on its line or on that of its neighbours. -/
theorem spell_joinElements {shares : List Bool} (hshares : shares.length = parts.length)
    (h : List.Forall₂ (Spell EndsToken) parts tokens) :
    Spell EndsToken (Printer.joinElements (shares.zip parts)) (commas tokens) := by
  induction h generalizing shares with
  | nil =>
    rw [List.zip_nil_right]
    exact spell_nil
  | @cons p ts parts tokens hp h ih =>
    obtain ⟨b, shares, rfl⟩ := List.exists_cons_of_length_eq_add_one hshares
    have hih := ih (Nat.succ.inj hshares)
    cases h with
    | nil =>
      rw [commas, commaed, List.flatMap_nil, List.append_nil, List.zip_cons_cons,
        List.zip_nil_right]
      exact hp
    | @cons q us parts tokens hq h =>
      obtain ⟨c, shares, rfl⟩ := List.exists_cons_of_length_eq_add_one (Nat.succ.inj hshares)
      have hbreak : Spell Anything (if b || c then text " " else endLine) [] := by
        cases b || c
        · exact spell_endLine
        · exact spell_blank
      have hcomma : Spell Anything (text ",") [.punctuator ","] := spell_mark (c := ',') (by decide)
      have hrest := hp.before ((hih.after hbreak).after hcomma)
        (leads_text (endsToken_cons (by decide)) _ |>.append _)
      rw [← List.append_assoc, ← List.append_assoc] at hrest
      exact hrest

/-- Something between brackets or parentheses. -/
theorem Spell.enclosed {inner : Pieces} {ts : List Token} {l r : Char} (hl : isMark l = true)
    (hr : isMark r = true) (hcloser : isCloser r = true) (h : Spell EndsToken inner ts) :
    Spell Anything ([.text [l]] ++ inner ++ [.text [r]])
      (.punctuator (.singleton l) :: (ts ++ [.punctuator (.singleton r)])) := by
  rw [List.append_assoc]
  exact (h.before (spell_mark hr) (leads_text (endsToken_cons hcloser) [])).after (spell_mark hl)

theorem Spell.inBrackets {inner : Pieces} {ts : List Token} (h : Spell EndsToken inner ts) :
    Spell Anything ([.text ['[']] ++ inner ++ [.text [']']])
      (.punctuator "[" :: (ts ++ [.punctuator "]"])) :=
  h.enclosed (l := '[') (r := ']') (by decide) (by decide) (by decide)

theorem Spell.inParentheses {inner : Pieces} {ts : List Token} (h : Spell EndsToken inner ts) :
    Spell Anything ([.text ['(']] ++ inner ++ [.text [')']])
      (.punctuator "(" :: (ts ++ [.punctuator ")"])) :=
  h.enclosed (l := '(') (r := ')') (by decide) (by decide) (by decide)

theorem Spell.inBraces {inner : Pieces} {ts : List Token} (h : Spell EndsToken inner ts) :
    Spell Anything ([.text ['\x7b']] ++ inner ++ [.text ['\x7d']])
      (.punctuator "\x7b" :: (ts ++ [.punctuator "\x7d"])) :=
  h.enclosed (l := '\x7b') (r := '\x7d') (by decide) (by decide) (by decide)

/-- What stands between marks ends a word before it. -/
theorem leads_enclosed {l r : Char} (hl : Token.continuesWord l = false ∧ l ≠ '\\')
    (inner : Pieces) : Leads EndsWord ([.text [l]] ++ inner ++ [.text [r]]) :=
  ((leads_text (endsWord_cons hl) []).append inner).append _

/-- Something on lines of its own, or on that of what stands around it. -/
theorem Spell.onLines {inner : Pieces} {ts : List Token} (h : Spell EndsToken inner ts)
    (first last : Bool) : Spell EndsToken
      ((if first then [] else endLine) ++ Pieces.indented inner ++ (if last then [] else endLine))
      ts := by
  have hline : ∀ b : Bool, Spell Anything (if b then [] else endLine) [] := by
    intro b
    cases b
    · exact spell_endLine
    · exact spell_nil
  have hends : ∀ depth rest, EndsToken (layoutFrom depth false rest) →
      EndsToken (layoutFrom depth false ((if last then [] else endLine) ++ rest)) := by
    intro depth rest hrest
    cases last
    · exact leads_endLine depth rest
    · exact hrest
  have hwhole := (h.indented.after (hline first)).append
    ((hline last).mono fun _ _ => trivial) hends
  rwa [List.append_nil] at hwhole

/-- The elements of an array in brackets. -/
theorem spell_array {shares : List Bool} (hshares : shares.length = parts.length)
    (h : List.Forall₂ (Spell EndsToken) parts tokens) :
    Spell Anything (Printer.arrayPieces shares (parts.map some) false)
      (.punctuator "[" :: (commas tokens ++ [.punctuator "]"])) := by
  have hparts : (parts.map some).map (·.getD []) = parts := by
    rw [List.map_map]
    exact List.map_id parts
  cases parts with
  | nil =>
    cases h
    exact spell_nil.inBrackets
  | cons p parts =>
    have hinner := spell_joinElements hshares h
    rw [← hparts, ← List.append_nil (Printer.joinElements _)] at hinner
    have hlines := hinner.onLines (shares.head?.getD false) (shares.getLast?.getD false)
    have hwhole := hlines.inBrackets
    rw [Printer.arrayPieces]
    simp only [List.append_assoc] at hwhole ⊢
    exact hwhole

theorem spell_arguments (h : List.Forall₂ (Spell EndsToken) parts tokens) :
    Spell Anything (Printer.parenthesized parts)
      (.punctuator "(" :: (commas tokens ++ [.punctuator ")"])) :=
  (spell_separated (spell_mark_blank (c := ',') (by decide))
    (leads_text (endsToken_cons (by decide)) [' ']) h).inParentheses

/-- Fields in braces, each on a line of its own. -/
theorem spell_fields (h : List.Forall₂ (Spell EndsToken) parts tokens) :
    Spell Anything (Printer.bracedFields parts)
      (.punctuator "\x7b" :: (commas tokens ++ [.punctuator "\x7d"])) := by
  have hseparator : Spell Anything (text "," ++ endLine) [.punctuator ","] :=
    spell_endLine.after (spell_mark (c := ',') (by decide))
  have hleads : Leads EndsToken (text ",") := leads_text (endsToken_cons (by decide)) []
  have hinner := spell_separated hseparator (hleads.append _) h
  have hwhole := (hinner.onLines false parts.isEmpty).inBraces
  rw [Printer.bracedFields]
  simp only [List.append_assoc] at hwhole ⊢
  exact hwhole

end Lists

end Pieces

open Pieces

/-- A list yields what its members yield. -/
theorem Node.print_ofList {c : Category} (style : Style) (ns : List (Node c)) :
    (Node.ofList ns).print style = ns.map (Node.print style) := by
  induction ns with
  | nil => rfl
  | cons n ns ih => exact congrArg (List.cons (n.print style)) ih

/-! ## Phrases -/

theorem forall₂_spell_map {α : Type} {f : α → Pieces} {g : α → List Token} {parts : List α}
    (h : ∀ a ∈ parts, Spell EndsToken (f a) (g a)) :
    List.Forall₂ (Spell EndsToken) (parts.map f) (parts.map g) := by
  rw [List.forall₂_map_left_iff, List.forall₂_map_right_iff, List.forall₂_same]
  exact h

/-- The pieces of an expression. -/
def Printer.expressionPieces (style : Style) (e : Expr) : Pieces := e.print style

/-- The pieces of a statement. -/
def Printer.statementPieces (style : Style) (s : Statement) : Pieces := s.print style

/-- The pieces of a key. -/
def Printer.keyPieces (style : Style) (k : Key) : Pieces := k.print style

open Printer (expressionPieces statementPieces keyPieces)

section Phrases

variable (style : Style)

/-! ### What is printed of each form -/

/-- No path is a number, so no second point stands before a name. -/
theorem Phrase.pieces_member {e : Expr} {ts : List Token} (he : Phrase .path e ts) (w : String) :
    expressionPieces style (.member false false e w) =
      expressionPieces style e ++ (text "." ++ text w) := by
  have hpoint : Printer.swallowsPoint e = false := by
    cases he <;> rfl
  change expressionPieces style e ++ (Printer.word "." (Printer.swallowsPoint e && true) ++
    (text "." ++ ([] ++ (text w ++ [])))) = _
  rw [hpoint, List.append_nil]
  rfl

theorem pieces_index (e k : Expr) : expressionPieces style (.index false e k) =
    expressionPieces style e ++
      ([.text ['[']] ++ expressionPieces style k ++ [.text [']']]) := by
  rw [List.append_assoc]
  rfl

theorem pieces_call {α : Type} (e : Expr) (f : α → Expr) (arguments : List α) :
    expressionPieces style (.call false e (.ofList (arguments.map fun a => .plainElement (f a)))) =
      expressionPieces style e ++
        Printer.parenthesized (arguments.map fun a => expressionPieces style (f a)) := by
  refine congrArg (expressionPieces style e ++ ·) ?_
  change Printer.parenthesized ((Node.ofList (c := .element) _).print style) ++ [] = _
  rw [List.append_nil, Node.print_ofList, List.map_map]
  rfl

/-- What a printed path begins with: the text of a name, without a blank before it. -/
theorem Phrase.exists_pieces_eq {e : Expr} {ts : List Token} (h : Phrase .path e ts) :
    ∃ c s ps, startsWord c = true ∧ expressionPieces style e = .text (c :: s) :: ps := by
  generalize hform : Form.path = form at h
  induction h with
  | name _ hw =>
    obtain ⟨hstart, -⟩ := Bool.and_eq_true_iff.mp (isWord_of_isPlainName hw)
    obtain ⟨c, hc, hstart⟩ := (Option.any_eq_true ..).mp hstart
    obtain ⟨s, hcons⟩ := List.head?_eq_some_iff.mp hc
    exact ⟨c, s, [], hstart, congrArg (fun s => [Piece.text s]) hcons⟩
  | @member _ _ w he _ _ ih =>
    obtain ⟨c, s, ps, hc, heq⟩ := ih hform
    exact ⟨c, s, _, hc, (he.pieces_member style w).trans (congrArg (· ++ _) heq)⟩
  | index _ _ ih =>
    obtain ⟨c, s, ps, hc, heq⟩ := ih hform
    exact ⟨c, s, _, hc, congrArg (· ++ _) heq⟩
  | call _ _ ih =>
    obtain ⟨c, s, ps, hc, heq⟩ := ih hform
    exact ⟨c, s, _, hc, congrArg (· ++ _) heq⟩
  | _ => cases hform

theorem pieces_array {α : Type} (f : α → Expr) (elements : List α) :
    expressionPieces style
        (.array (.ofList (elements.map fun a => .present (.plainElement (f a)))) false) =
      Printer.arrayPieces
        (Printer.sharing style (.ofList (elements.map fun a => .present (.plainElement (f a)))))
        ((elements.map fun a => expressionPieces style (f a)).map some) false := by
  refine congrArg (Printer.arrayPieces _ · false) ((Node.print_ofList style _).trans ?_)
  rw [List.map_map, List.map_map]
  rfl

/-- The pieces of a property. -/
def Printer.fieldPieces (style : Style) (k : Key) (e : Expr) : Pieces :=
  keyPieces style k ++ (text ": " ++ expressionPieces style e)

theorem pieces_object {α : Type} (key : α → Key) (f : α → Expr) (fields : List α) :
    expressionPieces style (.object (.ofList (fields.map fun a => .keyValue (key a) (f a)))) =
      Printer.bracedFields (fields.map fun a => Printer.fieldPieces style (key a) (f a)) := by
  refine congrArg Printer.bracedFields ((Node.print_ofList style _).trans ?_)
  rw [List.map_map]
  refine List.map_congr_left fun a _ => ?_
  change keyPieces style (key a) ++ (text ": " ++ (expressionPieces style (f a) ++ [])) = _
  rw [List.append_nil]
  rfl

theorem pieces_lambda (s : Statement) :
    expressionPieces style (Build.lambda [] [s]) =
      text "function" ++ ([.text ['(']] ++ [] ++ [.text [')']] ++ (text " " ++
        ([.text ['\x7b']] ++ (endLine ++ Pieces.indented (statementPieces style s ++ endLine)) ++
          [.text ['\x7d']]))) := by
  change text "function" ++ ([] ++ ([] ++ (([.text ['(']] ++ [] ++ [.text [')']]) ++ text " " ++
    (text "\x7b" ++ endLine ++ Pieces.indented (statementPieces style s ++ endLine ++ []) ++
      text "\x7d")))) = _
  simp only [List.append_nil, List.append_assoc]
  rfl

theorem pieces_returns (e : Expr) : statementPieces style (Build.returns e) =
    text "return" ++ (text " " ++ expressionPieces style e ++ text ";") := by
  rw [List.append_assoc]
  rfl

/-! ### What it spells -/

/-- A path after `return` stands on the same line. -/
theorem spell_returns {e : Expr} {ts : List Token} (he : Phrase .path e ts)
    (h : Spell EndsWord (expressionPieces style e) ts) :
    Spell Anything (statementPieces style (Build.returns e))
      (.word "return" :: (ts ++ [.punctuator ";"])) := by
  have hreturn : Spell (fun cs => EndsWord cs ∧ StaysOnLine cs) (text "return")
      [.word "return"] :=
    spell_text (by decide) fun hends hcs => .word (by decide) hends.1 (fun _ => hends.2) hcs
  have hvalue : Spell Anything (text " " ++ expressionPieces style e ++ text ";")
      (ts ++ [.punctuator ";"]) :=
    (h.after spell_blank).before (spell_mark (c := ';') (by decide))
      (leads_text (endsWord_cons (by decide)) [])
  rw [pieces_returns]
  refine hreturn.before hvalue ?_
  obtain ⟨c, s, ps, hc, heq⟩ := he.exists_pieces_eq style
  have hblank : (c == ' ') = false := by
    refine beq_eq_false_iff_ne.mpr ?_
    rintro rfl
    exact absurd hc (by decide)
  have hline : c ≠ '\n' := by
    rintro rfl
    exact absurd hc (by decide)
  rw [heq]
  intro depth rest
  change EndsWord (' ' :: c :: _) ∧ StaysOnLine (' ' :: c :: _)
  refine ⟨endsWord_cons (by decide) _, ?_⟩
  change (List.dropWhile (· == ' ') (c :: _)).head? ≠ some '\n'
  rw [List.dropWhile_cons_of_neg (p := (· == ' ')) (Bool.eq_false_iff.mp hblank), List.head?_cons]
  exact fun hsome => hline (Option.some.inj hsome)

/-- A key with a colon after it. -/
theorem spell_key {k : Key} (hk : IsPlainKey k) :
    Spell Anything (keyPieces style k ++ text ": ") [k.keyToken, .punctuator ":"] := by
  have hcolon : Spell Anything (text ": ") [.punctuator ":"] :=
    spell_mark_blank (c := ':') (by decide)
  cases hk with
  | name hw hreturn =>
    exact (spell_word hw hreturn).before hcolon (leads_text (endsWord_cons (by decide)) [' '])
  | string hs => exact hcolon.after (spell_string hs)

/-- What ends an expression: after a path no word goes on, and after a value something closes. -/
def Form.Ends : Form → List Char → Prop
  | .path => EndsWord
  | .value => EndsToken

theorem Form.ends_of_anything (form : Form) {ps : Pieces} {ts : List Token}
    (h : Spell Anything ps ts) : Spell form.Ends ps ts :=
  h.mono fun _ _ => trivial

/-- **What is printed of a phrase spells its tokens.** -/
theorem Phrase.spell_pieces {form : Form} {e : Expr} {ts : List Token} (h : Phrase form e ts) :
    Spell form.Ends (expressionPieces style e) ts := by
  have hword : ∀ w : String, isWord w = true → w ≠ "return" →
      Spell EndsToken (text w) [.word w] := fun w hw hreturn =>
    (spell_word hw hreturn).mono fun _ hcs => hcs.endsWord
  induction h with
  | name _ hw => exact spell_name hw
  | @member _ _ w he hw hreturn ih =>
    rw [he.pieces_member]
    exact ih.before (spell_point hw hreturn)
      (.append (leads_text (endsWord_cons (by decide)) []) (text w))
  | index _ _ ihe ihk =>
    rw [pieces_index]
    exact Form.path.ends_of_anything
      (ihe.before ihk.inBrackets (leads_enclosed (by decide) _))
  | call _ _ ihe iharguments =>
    rw [pieces_call]
    have hlist := spell_arguments (forall₂_spell_map iharguments)
    exact Form.path.ends_of_anything (ihe.before hlist (leads_enclosed (l := '(') (by decide) _))
  | path _ ih => exact ih.mono fun _ hcs => hcs.endsWord
  | null => exact hword "null" (by decide) (by decide)
  | bool b =>
    cases b
    · exact hword "false" (by decide) (by decide)
    · exact hword "true" (by decide) (by decide)
  | string hs => exact Form.value.ends_of_anything (spell_string hs)
  | number hv => exact spell_number hv
  | negative hv => exact spell_negative hv
  | array _ ih =>
    rw [pieces_array]
    refine Form.value.ends_of_anything (spell_array ?_ (forall₂_spell_map ih))
    rw [Printer.sharing, Node.toList_ofList, List.length_map, List.length_map, List.length_map]
  | object hkeys _ ih =>
    rw [pieces_object]
    refine Form.value.ends_of_anything (spell_fields (forall₂_spell_map fun f hf => ?_))
    rw [Printer.fieldPieces, ← List.append_assoc]
    exact (ih f hf).after (spell_key style (hkeys f hf))
  | getter he ih =>
    have hlines := (spell_endLine.after (spell_returns style he ih)).indented.after spell_endLine
    have hvalue : Spell EndsToken _ _ := Form.value.ends_of_anything hlines
    have hbody := hvalue.inBraces
    have hnone : Spell EndsToken [] [] := spell_nil
    have hparentheses := hnone.inParentheses
    have hword : Spell EndsWord (text "function") [.word "function"] :=
      spell_word (by decide) (by decide)
    have hwhole := hword.before ((hbody.after spell_blank).after hparentheses)
      (.append (leads_enclosed (l := '(') (by decide) _) _)
    rw [pieces_lambda]
    simp only [List.append_nil, List.nil_append, List.cons_append, List.append_assoc] at hwhole ⊢
    exact Form.value.ends_of_anything hwhole

end Phrases

/-! ## Sentences -/

section Sentences

variable (style : Style)

theorem pieces_var (w : String) (e : Expr) :
    statementPieces style (Build.var w e) = text "var" ++
      (text " " ++ (text w ++ (text " = " ++ (expressionPieces style e ++ text ";")))) := by
  change text "var" ++ (text " " ++
    ((text w ++ ((text " = " ++ expressionPieces style e) ++ [])) ++ (text ";" ++ []))) = _
  simp only [List.append_nil, List.append_assoc]

/-- What is printed of a sentence spells its tokens. -/
theorem Sentence.spell_pieces {s : Statement} {ts : List Token} (h : Sentence s ts) :
    Spell Anything (statementPieces style s) ts := by
  have hsemicolon : Spell Anything [.text [';']] [.punctuator ";"] := spell_mark (by decide)
  have hleads : Leads EndsToken [.text [';']] := leads_text (endsToken_cons (by decide)) []
  cases h with
  | path he => exact (he.spell_pieces style).before hsemicolon (hleads.mono fun _ h => h.endsWord)
  | string hs => exact hsemicolon.after (spell_string hs)
  | @var w e ts hw he =>
    have hvalue := ((he.spell_pieces style).before hsemicolon hleads).after spell_equals
    have hvar : Spell EndsWord (text "var") [.word "var"] := spell_word (by decide) (by decide)
    have hblank : ∀ s : List Char, Leads EndsWord [.text (' ' :: s)] :=
      leads_text (endsWord_cons (by decide))
    rw [pieces_var]
    exact hvar.before (((spell_name hw).before hvalue (.append (hblank _) _)).after spell_blank)
      (.append (hblank []) _)

/-- What is printed of a list of sentences spells their tokens. -/
theorem spell_programPieces {body : List Statement} {parts : List (List Token)}
    (h : List.Forall₂ Sentence body parts) :
    Spell Anything (programPieces style body) parts.flatten := by
  induction h with
  | nil => exact spell_nil
  | @cons s ts body parts hs _ ih =>
    have hbreak : Spell Anything
        (if style == .compact && Printer.isBlock s then [] else endLine) [] := by
      split
      · exact spell_nil
      · exact spell_endLine
    have hwhole := ih.after (hbreak.after (hs.spell_pieces style))
    rw [List.append_nil] at hwhole
    exact hwhole

end Sentences

/-- **A plain program is read back from what is printed of it**, up to the marks that its text
gives it. -/
theorem Program.IsPlain.ofText_print {p : Program} (hp : p.IsPlain) (style : Style) :
    Program.ofText (p.print style) = .ok p.asWritten := by
  obtain ⟨interpreter, body⟩ := p
  obtain ⟨rfl, hbody⟩ := hp
  choose! tokens htokens using hbody
  have hparts : List.Forall₂ Sentence body (body.map tokens) :=
    List.forall₂_map_right_iff.mpr (List.forall₂_same.mpr htokens)
  have hspells := spell_programPieces style hparts 0 [] [] trivial (fun _ => .nil) true
  rw [List.append_nil, List.append_nil] at hspells
  exact Program.ofText_of_spells hparts hspells

end ModuleBundler.Script
