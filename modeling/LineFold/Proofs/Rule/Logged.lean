import LineFold.Rule
import Mathlib.Tactic.Common

/-! What a compilation logs. It never reads its log: whatever was logged before, it ends in the same
way and appends the same warnings. So a compilation in steps ends as its steps do one by one. -/
namespace LineFold.Rule

/-- A compilation that only appends to what was logged before it. -/
def Appends {α : Type} (m : CompileM α) : Prop :=
  ∀ log, m.run.run log = ((logged m).1, log ++ (logged m).2)

variable {α β : Type} {m : CompileM α} {next : α → CompileM β} {log later : List Warning}

section Steps

lemma run_bind_ok {value : α} (h : m.run.run log = (.ok value, later)) :
    (m >>= next).run.run log = (next value).run.run later := by
  rw [ExceptT.run_bind, StateT.run_bind, h]
  rfl

lemma run_bind_error {abort : Pattern.Abort} (h : m.run.run log = (.error abort, later)) :
    (m >>= next).run.run log = (.error abort, later) := by
  rw [ExceptT.run_bind, StateT.run_bind, h]
  rfl

lemma appends_pure (value : α) : Appends (pure value : CompileM α) := by
  intro log
  exact Prod.ext rfl (List.append_nil log).symm

lemma appends_throw (abort : Pattern.Abort) : Appends (throw abort : CompileM α) := by
  intro log
  exact Prod.ext rfl (List.append_nil log).symm

lemma appends_warn (warning : Warning) : Appends (warn warning) := by
  intro log
  rfl

lemma Appends.bind (first : Appends m) (rest : ∀ value, Appends (next value)) :
    Appends (m >>= next) := by
  intro log
  cases hend : logged m with
  | mk outcome warnings =>
    have hlog : m.run.run log = (outcome, log ++ warnings) := by
      rw [first log, hend]
    cases outcome with
    | error abort =>
      have hlogged : logged (m >>= next) = (.error abort, warnings) := run_bind_error hend
      rw [run_bind_error hlog, hlogged]
    | ok value =>
      have hlogged : logged (m >>= next) = (next value).run.run warnings := run_bind_ok hend
      rw [run_bind_ok hlog, hlogged, rest value (log ++ warnings), rest value warnings,
        List.append_assoc]

/-- Where the first of two steps ends, the second one appends its warnings to those of the first one. -/
lemma logged_bind_ok {value : α} (rest : Appends (next value)) (h : logged m = (.ok value, log)) :
    logged (m >>= next) = ((logged (next value)).1, log ++ (logged (next value)).2) := by
  have hlogged : logged (m >>= next) = (next value).run.run log := run_bind_ok h
  rw [hlogged, rest log]

/-- A compilation in two steps ends as the second one does after the first one. -/
lemma fst_logged_bind (m : CompileM α) (rest : ∀ value, Appends (next value)) :
    (logged (m >>= next)).1 = (logged m).1 >>= fun value => (logged (next value)).1 := by
  cases hend : logged m with
  | mk outcome warnings =>
    cases outcome with
    | error abort =>
      have hlogged : logged (m >>= next) = (.error abort, warnings) := run_bind_error hend
      rw [hlogged]
      rfl
    | ok value =>
      have hlogged : logged (m >>= next) = (next value).run.run warnings := run_bind_ok hend
      rw [hlogged, rest value warnings]
      rfl

lemma fst_logged_map (f : α → β) (m : CompileM α) :
    (logged (f <$> m)).1 = f <$> (logged m).1 := by
  rw [map_eq_pure_bind, fst_logged_bind m fun value => appends_pure (f value), map_eq_pure_bind]
  rfl

lemma snd_logged_map (f : α → β) (m : CompileM α) : (logged (f <$> m)).2 = (logged m).2 := by
  rw [map_eq_pure_bind]
  cases hend : logged m with
  | mk outcome warnings =>
    cases outcome with
    | error abort =>
      have hlogged : logged (m >>= fun value => pure (f value)) = (.error abort, warnings) :=
        run_bind_error hend
      rw [hlogged]
    | ok value =>
      have hlogged : logged (m >>= fun value => pure (f value)) = (.ok (f value), warnings) :=
        run_bind_ok hend
      rw [hlogged]

end Steps

section Compiling

variable {compiler : Pattern.Compiler}

lemma appends_compileSource (source : String) : Appends (compileSource compiler source) := by
  rw [compileSource]
  split
  · exact appends_pure _
  · exact (appends_warn _).bind fun _ => appends_pure _
  · exact appends_throw _

lemma appends_compileSkip (source : Option String) : Appends (compileSkip compiler source) := by
  cases source with
  | none => exact appends_pure _
  | some source => exact (appends_compileSource source).bind fun _ => appends_pure _

lemma appends_compileSkips (entries : Entries) : Appends (compileSkips compiler entries) := by
  refine (appends_compileSkip _).bind ?_
  rintro (_ | line)
  · exact appends_pure _
  refine (appends_compileSkip _).bind ?_
  rintro (_ | opening)
  · exact appends_pure _
  refine (appends_compileSkip _).bind ?_
  rintro (_ | closing)
  · exact appends_pure _
  · exact appends_pure _

lemma appends_compileEntries (entries : Entries) (index : Int) :
    Appends (compileEntries compiler entries index) := by
  rw [compileEntries]
  split
  · split
    · refine (appends_compileSource _).bind fun opening => ?_
      refine (appends_compileSource _).bind fun closing => ?_
      split
      · refine (appends_compileSkips entries).bind ?_
        rintro (_ | ⟨line, opening, closing⟩)
        · exact appends_pure _
        · exact appends_pure _
      · exact appends_pure _
    · exact (appends_warn _).bind fun _ => appends_pure _
  · exact (appends_warn _).bind fun _ => appends_pure _

lemma appends_compile (spec : Value) (index : Int) : Appends (compile compiler spec index) := by
  unfold compile
  split
  · exact appends_compileEntries _ index
  · exact (appends_warn _).bind fun _ => appends_pure _

lemma appends_compileAll (specs : List Value) (index : Int) :
    Appends (compileAll compiler specs index) := by
  induction specs generalizing index with
  | nil => exact appends_pure []
  | cons spec rest ih =>
    refine (appends_compile spec index).bind ?_
    rintro (_ | rule)
    · exact ih index
    · exact (ih (index + 1)).bind fun _ => appends_pure _

end Compiling

end LineFold.Rule
