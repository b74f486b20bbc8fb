import ModuleBundler.Proofs.Script.Reader.Function
import ModuleBundler.Script.Reader.Class

/-!
What the readers of classes yield is written. A member is read as a key first, so the readers of
members take the key that has been read.
-/

set_option autoImplicit false

namespace ModuleBundler.Script.Reader

variable {r : Readers} (hr : r.YieldWritten)

include hr

/-! ## Members -/

theorem yields_memberKey : Yields (memberKey r) :=
  .step fun _ => .ite
    (.step fun _ => .step fun _ => .sometimes fun _ => .pure (written_of_leaf rfl rfl))
    (yields_key hr)

theorem yields_fieldValue : Yields (fieldValue r) :=
  .step fun _ => .ite
    ((yields_withIn (yields_assignmentValue hr)).bind fun _ he => .pure (written_some he))
    (.pure written_none)

section Members

variable (h : MemberHead) {k : Key} (hk : Written k)

include hk

theorem yields_fieldTail (keyStart : Position) : Yields (fieldTail r h keyStart k) := by
  unfold fieldTail
  refine .sometimes fun _ => (yields_fieldValue hr).bind fun value hvalue => .step fun _ => ?_
  have hfield : Written (Node.field h.isStatic k (.ofOption value)) :=
    written_of_pair rfl rfl hk (written_ofOption hvalue)
  exact .ite (.pure hfield) (.step fun _ => .step fun _ => .pure hfield)

theorem yields_classMethod (kind : MethodKind) (start : Position) (isAsync isGenerator : Bool) :
    Yields (classMethod r h kind start k isAsync isGenerator) :=
  (yields_methodTail hr kind isAsync isGenerator start).bind fun _ hparts =>
    .pure (written_of_pair rfl rfl hk (written_function isAsync isGenerator hparts.1 hparts.2))

omit hk

theorem yields_constructorTail : Yields (constructorTail r h) := by
  unfold constructorTail
  refine .sometimes fun _ => (yields_constructorParameters hr).bind fun ps hps => ?_
  exact (yields_functionBody hr false false).bind fun body hbody =>
    .pure (written_of_pair rfl rfl (written_ofList hps) (written_ofList hbody))

theorem yields_generatorMethod : Yields (generatorMethod r h) :=
  .step fun start => (yields_memberKey hr).bind fun _ hk => .sometimes fun _ =>
    yields_classMethod hr h hk .method start false true

theorem yields_asyncMethod : Yields (asyncMethod r h) :=
  .step fun isGenerator => .step fun start => (yields_memberKey hr).bind fun _ hk =>
    .sometimes fun _ => yields_classMethod hr h hk .method start true isGenerator

theorem yields_accessor (kind : MethodKind) (start : Position) :
    Yields (accessor r h kind start) :=
  (yields_memberKey hr).bind fun _ hk => .sometimes fun _ =>
    yields_classMethod hr h hk kind start false false

theorem yields_modifiedMember (start : Position) (k : Key) :
    Yields (modifiedMember r h start k) := by
  unfold modifiedMember
  split
  · exact yields_accessor hr h .getter start
  · exact yields_accessor hr h .setter start
  · exact yields_asyncMethod hr h
  · exact yields_failUnexpected _

theorem yields_memberTail : Yields (memberTail r h) := by
  refine .step fun _ => .ite (yields_generatorMethod hr h) ?_
  refine .step fun start => (yields_memberKey hr).bind fun k hk => .step fun _ => .ite ?_ ?_
  · exact .ite (yields_constructorTail hr h) (yields_classMethod hr h hk .method start false false)
  · exact .step fun _ => .ite (yields_fieldTail hr h hk start) (yields_modifiedMember hr h start k)

end Members

theorem yields_classMember : Yields (classMember r) := by
  have hstatic : Written (Node.nameKey "static") := written_of_leaf rfl rfl
  refine .step fun _ => .ite (.pure (written_of_leaf rfl rfl)) (.step fun start => ?_)
  refine .step fun _ => .ite (.step fun _ => .ite ?_ ?_) (yields_memberTail hr _)
  · exact yields_classMethod hr _ hstatic .method start false false
  · exact .step fun _ => .ite (yields_fieldTail hr _ hstatic start) (yields_memberTail hr _)

theorem yields_membersFrom (fuel : Nat) {ms : List Member} (hms : Written ms) :
    Yields (membersFrom r fuel ms) := by
  induction fuel generalizing ms with
  | zero => exact .pure (written_reverse hms)
  | succ fuel ih =>
    exact .step fun _ => .step fun _ => .ite (.pure (written_reverse hms))
      ((yields_classMember hr).bind fun _ hm => ih (written_cons hm hms))

/-! ## Classes -/

theorem yields_heritage : Yields (heritage r) := by
  refine .step fun _ => .ite (hr.leftHand.bind fun c hc => .step fun _ => ?_) (.pure written_none)
  have he := written_some hc.value
  exact .ite (.step fun _ => .step fun _ => .step fun _ => .step fun _ => .pure he) (.pure he)

theorem yields_classAfterWord (nameRequired : Bool) : Yields (classAfterWord r nameRequired) :=
  .withReader _ (.step fun _ => (yields_heritage hr).bind fun _ hheritage =>
    .step fun _ => .step fun _ => (yields_membersFrom hr _ written_nil).bind fun _ hmembers =>
      .step fun _ => .pure ⟨fun _ _ => trivial, hheritage, hmembers⟩)

end ModuleBundler.Script.Reader
