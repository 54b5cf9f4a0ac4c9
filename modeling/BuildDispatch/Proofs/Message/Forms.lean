import BuildDispatch.Message.Request
import BuildDispatch.Message.Response
import BuildDispatch.Proofs.Data.Format

/-! The forms of messages, jobs and causes of builds keep every value. -/
namespace BuildDispatch

open Data

namespace Data

attribute [simp] Format.Carries Fields.Carry Variants.Carry Fields.names Variants.names
  Format.mayBeNull Absence.fallback

section
variable {α ρ σ : Type} (name : String) (format : Format α) (rest : Fields ρ σ)

@[simp] theorem Fields.names_required :
    (required name format rest).names = name :: rest.names := rfl

@[simp] theorem Fields.names_withDefault (value : α) :
    (withDefault name format value rest).names = name :: rest.names := rfl

@[simp] theorem Fields.names_optional :
    (optional name format rest).names = name :: rest.names := rfl

@[simp] theorem Fields.carry_required (a : α) (r : ρ) :
    (required name format rest).Carry (a, r) ↔ format.Carries a ∧ rest.Carry r := by
  simp [required]

@[simp] theorem Fields.carry_withDefault (value a : α) (r : ρ) :
    (withDefault name format value rest).Carry (a, r) ↔ format.Carries a ∧ rest.Carry r := by
  simp [withDefault]

/-- An option that is left out is none, which is what stands for it. -/
@[simp] theorem Fields.carry_optional (a : Option α) (r : ρ) :
    (optional name format rest).Carry (a, r) ↔ (Format.option format).Carries a ∧ rest.Carry r := by
  cases a with
  | none => simp [optional]
  | some a => simp [optional]

end

end Data

namespace Form

@[simp] theorem word64_carries (n : UInt64) : word64.Carries n := by
  have fits := n.toNat_lt
  rw [word64, Format.Carries, UInt64.le_iff_toNat_le]
  exact Nat.le_sub_one_of_lt fits

@[simp] theorem word64_mayBeNull : word64.mayBeNull = false := rfl

@[simp] theorem word32_carries (n : UInt32) : word32.Carries n := by
  have fits := n.toNat_lt
  rw [word32, Format.Carries, Format.Carries, UInt64.le_iff_toNat_le, UInt32.toNat_toUInt64]
  exact ⟨UInt32.toUInt32_toUInt64 n, Nat.le_sub_one_of_lt fits⟩

@[simp] theorem byte_carries (n : UInt8) : byte.Carries n := by
  have fits := n.toNat_lt
  rw [byte, Format.Carries, Format.Carries, UInt64.le_iff_toNat_le, UInt8.toNat_toUInt64]
  exact ⟨UInt8.toUInt8_toUInt64 n, Nat.le_sub_one_of_lt fits⟩

@[simp] theorem texts_carries (ss : List String) : texts.Carries ss := by simp [texts]

@[simp] theorem textMap_carries (t : Table String String) : textMap.Carries t := by simp [textMap]

end Form

@[simp] theorem JobRef.form_carries (r : JobRef) : form.Carries r := by simp [form]

@[simp] theorem JobState.form_carries (s : JobState) : form.Carries s := by cases s <;> rfl

@[simp] theorem JobResult.form_carries (r : JobResult) : form.Carries r := by cases r <;> rfl

@[simp] theorem Task.form_carries (t : Task) : form.Carries t := by simp [form]

@[simp] theorem Variable.form_carries (v : Variable) : form.Carries v := by simp [form]

@[simp] theorem Plan.form_carries (p : Plan) : form.Carries p := by simp [form]

@[simp] theorem Transition.form_carries (t : Transition) : form.Carries t := by simp [form]

@[simp] theorem Job.form_carries (j : Job) : form.Carries j := by simp [form]

@[simp] theorem Cookie.form_carries (c : Cookie) : form.Carries c := by simp [form]

@[simp] theorem AgentIdentity.form_carries (a : AgentIdentity) : form.Carries a := by simp [form]

@[simp] theorem AgentStatus.form_carries (s : AgentStatus) : form.Carries s := by cases s <;> rfl

@[simp] theorem JobRef.form_mayBeNull : form.mayBeNull = false := rfl

@[simp] theorem Cookie.form_mayBeNull : form.mayBeNull = false := rfl

@[simp] theorem Snapshot.form_carries (s : Snapshot) : form.Carries s := by simp [form]

@[simp] theorem Instruction.form_carries (i : Instruction) : form.Carries i := by simp [form]

@[simp] theorem Revision.form_carries (r : Revision) : form.Carries r := by simp [form]

@[simp] theorem TriggerOptions.form_carries (o : TriggerOptions) : form.Carries o := by simp [form]

@[simp] theorem Origin.form_carries (o : Origin) : form.Carries o := by cases o <;> simp [form]

@[simp] theorem BuildCause.form_carries (c : BuildCause) : form.Carries c := by simp [form]

@[simp] theorem RejectReason.form_carries (r : RejectReason) : form.Carries r := by cases r <;> rfl

@[simp] theorem ReportOutcome.form_carries (o : ReportOutcome) : form.Carries o := by
  cases o <;> simp [form]

@[simp] theorem ScheduleOutcome.form_carries (o : ScheduleOutcome) : form.Carries o := by
  cases o <;> simp [form]

@[simp] theorem DenyReason.form_carries (r : DenyReason) : form.Carries r := by cases r <;> rfl

@[simp] theorem Work.form_carries (w : Work) : form.Carries w := by
  cases w <;> simp [form, Assignment.fields]

@[simp] theorem ErrorKind.form_carries (k : ErrorKind) : form.Carries k := by cases k <;> rfl

@[simp] theorem Manifest.form_carries (m : Manifest) : form.Carries m := by simp [form]

@[simp] theorem AgentSummary.form_carries (a : AgentSummary) : form.Carries a := by simp [form]

@[simp] theorem JobSummary.form_carries (j : JobSummary) : form.Carries j := by simp [form]

@[simp] theorem RejectionCounts.form_carries (c : RejectionCounts) : form.Carries c := by
  simp [form]

@[simp] theorem Request.form_carries (r : Request) : form.Carries r := by cases r <;> simp [form]

@[simp] theorem Response.form_carries (r : Response) : form.Carries r := by cases r <;> simp [form]

end BuildDispatch
