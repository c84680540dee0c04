import LineFold.Command.Standard
import LineFold.Proofs.Guards

/-! What is relied on of a library for command lines holds of the standard one. Each check of the arguments
that ends the run ends it with an error and prints nothing, and so do the checks one after the other. -/
namespace LineFold.Command
open LineFold.Guards

/-- Whether a report is one of an error, without any output. -/
structure Report.Refuses (report : Report) : Prop where
  code : report.exitCode ≠ 0
  silent : report.output = ""

/-- Whether a check ends the run only by refusing it. -/
def Checks {α : Type} (stage : Except Report α) : Prop := ∀ report, stage = .error report → report.Refuses

variable {α β : Type} {stage : Except Report α} {host : Host}

lemma refuses_usage (error : UsageError) : (error.report {}).Refuses := ⟨Nat.succ_ne_zero 1, rfl⟩

lemma refuses_crash (crash : Crash) : (crash.report {}).Refuses := ⟨Nat.succ_ne_zero 0, rfl⟩

section Checks

lemma checks_ok (a : α) : Checks (.ok a) := by
  intro report h
  cases h

lemma checks_usage (error : UsageError) : Checks (α := α) (usage error) := by
  intro report h
  cases h
  exact refuses_usage error

lemma Checks.bind (first : Checks stage) {next : α → Except Report β} (rest : ∀ a, Checks (next a)) :
    Checks (stage >>= next) := by
  intro report h
  rcases bind_eq_error.mp h with h | ⟨a, -, h⟩
  · exact first report h
  · exact rest a report h

lemma checks_mapError (result : Except UsageError α) :
    Checks (result.mapError fun error => error.report {}) := by
  intro report h
  obtain ⟨error, -, rfl⟩ := mapError_eq_error.mp h
  exact refuses_usage error

/-- A check of each item of a list. -/
lemma checks_forIn {check : β → Except Report Unit} (h : ∀ item, Checks (check item)) (items : List β) :
    Checks (forIn items PUnit.unit fun item _ => do
      check item
      pure (ForInStep.yield PUnit.unit)) := by
  induction items with
  | nil => exact checks_ok _
  | cons item rest ih =>
    rw [List.forIn_cons]
    refine .bind (.bind (h item) fun _ => checks_ok _) fun step => ?_
    cases step with
    | done result => exact checks_ok _
    | yield result => exact ih

lemma checks_checkFile (host : Host) (file : String) : Checks (checkFile host file) := by
  intro report h
  unfold checkFile at h
  split at h
  · cases h
    exact refuses_usage _
  · split at h <;> cases h
    exact refuses_usage _
  · cases h
    exact refuses_crash _
  · cases h
    exact refuses_usage _

lemma checks_request (host : Host) (a : Arguments) : Checks (request host a) := by
  refine .bind (checks_forIn (fun setting => checks_mapError _) _) fun _ => ?_
  split
  · refine .bind (checks_checkFile host _) fun _ => ?_
    split
    · exact checks_ok _
    · exact .bind (checks_usage _) fun _ => checks_ok _
  · exact checks_usage _

end Checks

lemma refuses_of_dispatch {arguments : List String} {report : Report}
    (h : standardDispatch host arguments = .stop none report) : report.Refuses := by
  unfold standardDispatch at h
  split at h
  · cases h
  · cases hparse : parse arguments with
    | error error =>
      rw [hparse] at h
      cases h
      exact refuses_usage _
    | ok a =>
      rw [hparse] at h
      cases hnotices : a.notices with
      | cons notice rest => simp [hnotices] at h
      | nil =>
        cases hrequest : request host a with
        | error refusal =>
          simp only [hnotices, hrequest, Dispatch.stop.injEq, true_and] at h
          exact h ▸ checks_request host a refusal hrequest
        | ok r => simp [hnotices, hrequest] at h

theorem lawful_standard : Library.standard.Lawful where
  stop := by
    intro host arguments report h
    have refuses := refuses_of_dispatch h
    exact ⟨refuses.code, refuses.silent⟩
  success := fun _ => ⟨rfl, rfl⟩
  failure := by
    intro raised streams
    cases raised with
    | misuse cause => exact ⟨Nat.succ_ne_zero 1, rfl⟩
    | failure failure => exact ⟨Nat.succ_ne_zero 0, rfl⟩
    | crash crash => exact ⟨Nat.succ_ne_zero 0, rfl⟩

end LineFold.Command
