import LineFold.Command.Run
import Mathlib.Tactic.Common

/-! Parts of the command in sequence. A part that is quiet leaves the standard output as it is and gives
the same whatever was written before it, and a sequence of quiet parts is quiet. So what is printed at the
end of such a sequence is all there is on the standard output, and where a part raises there is nothing. -/
namespace LineFold.Command

variable {α β : Type} {action : Action α} {next : α → Action β} {streams : Streams}

/-- What a part gives or raises. -/
def result (action : Action α) : Except Raised α := (action.run.run {}).1

structure Quiet (action : Action α) : Prop where
  output_eq : ∀ streams, (action.run.run streams).2.output = streams.output
  result_eq : ∀ streams, (action.run.run streams).1 = result action

lemma run_bind_ok {value : α} {later : Streams} (h : action.run.run streams = (.ok value, later)) :
    (action >>= next).run.run streams = (next value).run.run later := by
  rw [ExceptT.run_bind, StateT.run_bind, h]
  rfl

lemma run_bind_error {raised : Raised} {later : Streams}
    (h : action.run.run streams = (.error raised, later)) :
    (action >>= next).run.run streams = (.error raised, later) := by
  rw [ExceptT.run_bind, StateT.run_bind, h]
  rfl

lemma result_bind (quiet : ∀ value, Quiet (next value)) :
    result (action >>= next) = result action >>= fun value => result (next value) := by
  unfold result
  cases hrun : action.run.run {} with
  | mk outcome later =>
    cases outcome with
    | error raised =>
      rw [run_bind_error hrun]
      rfl
    | ok value =>
      rw [run_bind_ok hrun]
      exact (quiet value).result_eq later

lemma Quiet.bind (first : Quiet action) (rest : ∀ value, Quiet (next value)) : Quiet (action >>= next) := by
  have hrun (streams : Streams) :
      ((action >>= next).run.run streams).2.output = streams.output ∧
        ((action >>= next).run.run streams).1 = result action >>= fun value => result (next value) := by
    have houtput := first.output_eq streams
    have hresult := first.result_eq streams
    cases hfirst : action.run.run streams with
    | mk outcome later =>
      rw [hfirst] at houtput hresult
      rw [← hresult]
      cases outcome with
      | error raised =>
        rw [run_bind_error hfirst]
        exact ⟨houtput, rfl⟩
      | ok value =>
        rw [run_bind_ok hfirst]
        exact ⟨((rest value).output_eq later).trans houtput, (rest value).result_eq later⟩
  refine ⟨fun streams => (hrun streams).1, fun streams => ?_⟩
  rw [(hrun streams).2, result_bind rest]

lemma quiet_pure (value : α) : Quiet (pure value : Action α) := ⟨fun _ => rfl, fun _ => rfl⟩

lemma quiet_check (checked : Except Raised α) : Quiet (check checked) := ⟨fun _ => rfl, fun _ => rfl⟩

lemma quiet_printErrors (lines : List String) : Quiet (printErrors lines) := ⟨fun _ => rfl, fun _ => rfl⟩

/-- What a quiet part gives is printed, and nothing where it raises. -/
lemma run_print {text : Action String} (quiet : Quiet text) :
    ((text >>= print).run.run {}).1 = (result text).map (fun _ => ()) ∧
      ((text >>= print).run.run {}).2.output = (result text).toOption.getD "" := by
  have houtput := quiet.output_eq {}
  unfold result
  cases hrun : text.run.run {} with
  | mk outcome later =>
    rw [hrun] at houtput
    cases outcome with
    | error raised =>
      rw [run_bind_error hrun]
      exact ⟨rfl, houtput⟩
    | ok value =>
      rw [run_bind_ok hrun]
      refine ⟨rfl, ?_⟩
      change later.output ++ value = value
      rw [houtput, String.empty_append]

end LineFold.Command
