import LineFold.Proofs.Rule.Fields
import LineFold.Proofs.Rule.Independence

/-! What a compilation warns of. A specification that ends with a rule logs nothing, and one that is
dropped logs why, twice where both sources of its pair are refused. A list logs what its specifications
log, in their order. Only a pattern that aborts the compilation leaves no warning of its own. -/
namespace LineFold.Rule
open Scan (renumber)

section Refusals

variable (compiler : Pattern.Compiler)

/-- The warnings of a specification; they are the same with every index. -/
def warnings (spec : Value) : List Warning := (logged (compile compiler spec 0)).2

/-- A source that is refused, so that its rule is dropped. -/
def Refused (source : String) : Prop :=
  ∃ refusal, Pattern.compile compiler source = .error (.refused refusal)

/-- Whether both sources that are compiled for the pair are refused. A mapping with a malformed offset
is dropped before any source is compiled. -/
def PairRefused (spec : Value) : Prop :=
  ∃ entries sources, spec = .map entries ∧ Selects entries sources ∧
    Refused compiler sources.opening ∧ Refused compiler sources.closing

end Refusals

/-- How a step ends that may drop a rule, and what it has logged then; `twice` says when there are two
warnings. -/
inductive Reports {α : Type} (twice : Prop) : Except Pattern.Abort (Option α) × List Warning → Prop where
  | kept (value : α) : ¬twice → Reports twice (.ok (some value), [])
  | dropped (warning : Warning) : ¬twice → Reports twice (.ok none, [warning])
  | droppedTwice (first second : Warning) : twice → Reports twice (.ok none, [first, second])
  | aborted (abort : Pattern.Abort) {log : List Warning} :
      ¬twice → log.length ≤ 1 → Reports twice (.error abort, log)

variable {α β : Type} {compiler : Pattern.Compiler} {twice : Prop} {entries : Entries}
  {sources : Sources} {spec : Value} {specs : List Value} {source : String}

section Steps

lemma Reports.of_not {ending : Except Pattern.Abort (Option α) × List Warning}
    (h : Reports False ending) (once : ¬twice) : Reports twice ending := by
  cases h with
  | kept value => exact .kept value once
  | dropped warning => exact .dropped warning once
  | droppedTwice _ _ absurd => exact absurd.elim
  | aborted abort _ short => exact .aborted abort once short

/-- Steps after the first one go on only where nothing was logged, so they add no second warning. -/
lemma Reports.carryOn {first : CompileM (Option α)} {next : α → CompileM (Option β)}
    (hfirst : Reports twice (logged first)) (rest : ∀ value, Reports False (logged (next value))) :
    Reports twice (logged (carryOn first next)) := by
  generalize hend : logged first = ending at hfirst
  cases hfirst with
  | kept value once =>
    have hnext : logged (Rule.carryOn first next) = logged (next value) := run_bind_ok hend
    rw [hnext]
    exact (rest value).of_not once
  | dropped warning once =>
    have hnone : logged (Rule.carryOn first next) = (.ok none, [warning]) := run_bind_ok hend
    rw [hnone]
    exact .dropped warning once
  | droppedTwice before after both =>
    have hnone : logged (Rule.carryOn first next) = (.ok none, [before, after]) := run_bind_ok hend
    rw [hnone]
    exact .droppedTwice before after both
  | @aborted abort log once short =>
    have haborted : logged (Rule.carryOn first next) = (.error abort, log) := run_bind_error hend
    rw [haborted]
    exact .aborted abort once short

lemma reports_compileSource (source : String) : Reports False (logged (compileSource compiler source)) := by
  rw [compileSource]
  split
  · exact .kept _ not_false
  · exact .dropped _ not_false
  · exact .aborted _ not_false (Nat.zero_le 1)

lemma reports_compileSkip (skip : Option String) : Reports False (logged (compileSkip compiler skip)) := by
  cases skip with
  | none => exact .kept none not_false
  | some source =>
    rw [compileSkip_some]
    exact (reports_compileSource source).carryOn fun pattern => .kept (some pattern) not_false

lemma reports_compileSkips (sources : Sources) : Reports False (logged (sources.compileSkips compiler)) := by
  refine (reports_compileSkip _).carryOn fun line => ?_
  refine (reports_compileSkip _).carryOn fun opening => ?_
  exact (reports_compileSkip _).carryOn fun closing => .kept (line, opening, closing) not_false

lemma not_refused_of_ok {pattern : Pattern} (h : Pattern.compile compiler source = .ok pattern) :
    ¬Refused compiler source := by
  rintro ⟨refusal, hrefused⟩
  rw [h] at hrefused
  cases hrefused

lemma not_refused_of_aborted {abort : Pattern.Abort}
    (h : Pattern.compile compiler source = .error (.aborted abort)) : ¬Refused compiler source := by
  rintro ⟨refusal, hrefused⟩
  rw [h] at hrefused
  cases hrefused

/-- The pair is the one place with two warnings: the closing source is compiled in any case, unless
the opening one aborts. -/
lemma reports_compilePair (sources : Sources) :
    Reports (Refused compiler sources.opening ∧ Refused compiler sources.closing)
      (logged (sources.compilePair compiler)) := by
  rw [Sources.compilePair, compileSource]
  split
  case h_1 pattern hopening =>
    have once : ¬(Refused compiler sources.opening ∧ Refused compiler sources.closing) :=
      fun both => not_refused_of_ok hopening both.1
    rw [compileSource]
    split
    · exact .kept _ once
    · exact .dropped _ once
    · exact .aborted _ once (Nat.zero_le 1)
  case h_2 refusal hopening =>
    rw [compileSource]
    split
    case h_1 pattern hclosing => exact .dropped _ fun both => not_refused_of_ok hclosing both.2
    case h_2 other hclosing => exact .droppedTwice _ _ ⟨⟨refusal, hopening⟩, ⟨other, hclosing⟩⟩
    case h_3 abort hclosing =>
      exact .aborted _ (fun both => not_refused_of_aborted hclosing both.2) le_rfl
  case h_3 abort hopening =>
    exact .aborted _ (fun both => not_refused_of_aborted hopening both.1) (Nat.zero_le 1)

lemma reports_compile_sources (compiler : Pattern.Compiler) (sources : Sources) (index : Int) :
    Reports (Refused compiler sources.opening ∧ Refused compiler sources.closing)
      (logged (sources.compile compiler index)) := by
  refine (reports_compilePair sources).carryOn fun pair => ?_
  exact (reports_compileSkips sources).carryOn fun skips => .kept _ not_false

end Steps

section Specifications

lemma pairRefused_iff (h : Selects entries sources) :
    PairRefused compiler (.map entries) ↔
      Refused compiler sources.opening ∧ Refused compiler sources.closing := by
  constructor
  · rintro ⟨_, other, ⟨⟩, hother, hrefused⟩
    have hpair : some (sources.opening, sources.closing) = some (other.opening, other.closing) :=
      (pairSources_of_selectsPair h.pair).symm.trans (pairSources_of_selectsPair hother.pair)
    obtain ⟨hopening, hclosing⟩ := Prod.mk.inj (Option.some.inj hpair)
    rw [hopening, hclosing]
    exact hrefused
  · rintro hrefused
    exact ⟨entries, sources, rfl, h, hrefused⟩

/-- A specification that is dropped has logged why, and one that is kept has logged nothing. -/
lemma reports_compile (compiler : Pattern.Compiler) (spec : Value) (index : Int) :
    Reports (PairRefused compiler spec) (logged (compile compiler spec index)) := by
  cases spec with
  | map entries =>
    by_cases h : ∃ sources, Selects entries sources
    · obtain ⟨sources, hselects⟩ := h
      have hreports := reports_compile_sources compiler sources index
      rw [compile_of_selects hselects]
      rwa [← pairRefused_iff hselects] at hreports
    · have none : ¬PairRefused compiler (.map entries) := by
        rintro ⟨_, sources, ⟨⟩, hselects, -⟩
        exact h ⟨sources, hselects⟩
      obtain ⟨warning, hdropped⟩ := logged_compile_of_not_selects (not_exists.mp h) index
      rw [hdropped]
      exact .dropped warning none
  | _ => exact .dropped _ (by rintro ⟨_, _, ⟨⟩, _⟩)

lemma warnings_eq (spec : Value) (index : Int) :
    (logged (compile compiler spec index)).2 = warnings compiler spec := by
  rw [compile_index spec (fun _ => index) 0, snd_logged_map, warnings]

end Specifications

section Lists

lemma logged_compileAll_of_gives {outcome : Option Rule} (h : Gives compiler spec outcome) (rest : List Value)
    (index : Int) :
    ∃ next place, logged (compileAll compiler (spec :: rest) index) =
      (place <$> (logged (compileAll compiler rest next)).1,
        warnings compiler spec ++ (logged (compileAll compiler rest next)).2) := by
  have hend : logged (compile compiler spec index) =
      (.ok (outcome.map (renumber fun _ => index)), warnings compiler spec) :=
    Prod.ext (h index) (warnings_eq spec index)
  rw [compileAll]
  cases outcome with
  | none =>
    refine ⟨index, id, (logged_bind_ok ?_ hend).trans ?_⟩
    · exact appends_compileAll rest index
    · rw [id_map]
      rfl
  | some rule =>
    have hrest : (do return renumber (fun _ => index) rule :: (← compileAll compiler rest (index + 1))) =
        (renumber (fun _ => index) rule :: ·) <$> compileAll compiler rest (index + 1) :=
      (map_eq_pure_bind _ _).symm
    refine ⟨index + 1, (renumber (fun _ => index) rule :: ·), (logged_bind_ok ?_ hend).trans ?_⟩
    · exact (appends_compileAll rest (index + 1)).bind fun _ => appends_pure _
    · simp only [Option.map_some]
      rw [hrest, fst_logged_map, snd_logged_map]

lemma logged_compileAll_of_aborts {abort : Pattern.Abort}
    (h : (logged (compile compiler spec 0)).1 = .error abort) (rest : List Value) (index : Int) :
    logged (compileAll compiler (spec :: rest) index) = (.error abort, warnings compiler spec) := by
  have hindex : (logged (compile compiler spec index)).1 = .error abort := by
    rw [compile_index spec (fun _ => index) 0, fst_logged_map, h]
    rfl
  exact run_bind_error (Prod.ext hindex (warnings_eq spec index))

lemma gives_or_aborts (spec : Value) :
    (∃ outcome, Gives compiler spec outcome) ∨
      ∃ abort, (logged (compile compiler spec 0)).1 = .error abort := by
  cases h : (logged (compile compiler spec 0)).1 with
  | error abort => exact Or.inr ⟨abort, rfl⟩
  | ok outcome => exact Or.inl ⟨outcome, gives_of_compile h⟩

/-- A list logs what its specifications log, up to the first one that aborts. -/
lemma logged_compileAll (compiler : Pattern.Compiler) (specs : List Value) (index : Int) :
    ((∀ spec ∈ specs, ∃ outcome, Gives compiler spec outcome) ∧
      ∃ rules, logged (compileAll compiler specs index) = (.ok rules, specs.flatMap (warnings compiler))) ∨
    ∃ abort before spec after, specs = before ++ spec :: after ∧
      (logged (compile compiler spec 0)).1 = .error abort ∧
      logged (compileAll compiler specs index) =
        (.error abort, (before ++ [spec]).flatMap (warnings compiler)) := by
  induction specs generalizing index with
  | nil => exact Or.inl ⟨nofun, [], rfl⟩
  | cons spec rest ih =>
    rcases gives_or_aborts spec with ⟨outcome, hgives⟩ | ⟨abort, haborts⟩
    · obtain ⟨next, place, hlogged⟩ := logged_compileAll_of_gives hgives rest index
      rw [hlogged]
      rcases ih next with ⟨hrest, rules, h⟩ | ⟨abort, before, last, after, rfl, haborts, h⟩
      · refine Or.inl ⟨List.forall_mem_cons.mpr ⟨⟨outcome, hgives⟩, hrest⟩, place rules, ?_⟩
        rw [h, List.flatMap_cons]
        rfl
      · refine Or.inr ⟨abort, spec :: before, last, after, rfl, haborts, ?_⟩
        rw [h, List.cons_append, List.flatMap_cons]
        rfl
    · refine Or.inr ⟨abort, [], spec, rest, rfl, haborts, ?_⟩
      rw [logged_compileAll_of_aborts haborts, List.nil_append, List.flatMap_singleton]

end Lists

section Telling

variable {ending : Except Pattern.Abort (Option α) × List Warning}

lemma Reports.eq_none_iff (h : Reports twice ending) {outcome : Option α} (hend : ending.1 = .ok outcome) :
    outcome = none ↔ ending.2 ≠ [] := by
  cases h with
  | kept value =>
    cases hend
    simp
  | dropped warning =>
    cases hend
    simp
  | droppedTwice before after =>
    cases hend
    simp
  | aborted abort => cases hend

lemma Reports.length_le (h : Reports twice ending) : ending.2.length ≤ 2 := by
  cases h with
  | aborted abort _ short => exact Nat.le_succ_of_le short
  | _ => simp

lemma Reports.length_eq_two_iff (h : Reports twice ending) : ending.2.length = 2 ↔ twice := by
  cases h with
  | kept value once => simp [once]
  | dropped warning once => simp [once]
  | droppedTwice before after both => simp [both]
  | @aborted abort log once short =>
    have hne : log.length ≠ 2 := by omega
    exact iff_of_false hne once

end Telling

/-- A list has rules without a warning just if each of its specifications gives one. -/
lemma logged_compileAll_eq_nil_iff :
    (∃ rules, logged (compileAll compiler specs 0) = (.ok rules, [])) ↔
      ∀ spec ∈ specs, ∃ rule, Gives compiler spec (some rule) := by
  rcases logged_compileAll compiler specs 0 with
    ⟨hgives, rules, h⟩ | ⟨abort, before, spec, after, rfl, haborts, h⟩
  · rw [h]
    constructor
    · rintro ⟨_, hnil⟩ spec hspec
      have silent : warnings compiler spec = [] := List.flatMap_eq_nil_iff.mp (Prod.mk.inj hnil).2 spec hspec
      obtain ⟨outcome, houtcome⟩ := hgives spec hspec
      cases outcome with
      | none => exact absurd silent ((reports_compile compiler spec 0).eq_none_iff (houtcome 0) |>.mp rfl)
      | some rule => exact ⟨rule, houtcome⟩
    · intro hall
      refine ⟨rules, Prod.ext rfl (List.flatMap_eq_nil_iff.mpr fun spec hspec => ?_)⟩
      obtain ⟨rule, hrule⟩ := hall spec hspec
      by_contra hwarned
      cases ((reports_compile compiler spec 0).eq_none_iff (hrule 0)).mpr hwarned
  · rw [h]
    constructor
    · rintro ⟨_, hrules⟩
      cases hrules
    · intro hall
      obtain ⟨rule, hrule⟩ := hall spec (by simp)
      rw [hrule 0] at haborts
      cases haborts

/-- A pair of which neither source compiles. -/
def unclosedPairSpec : Value := .map [("beginRegex", .text "("), ("endRegex", .text "[")]

/-- A source that is refused, before one that asks for two alphabets. -/
def refusedFlagsSpec : Value := .map [("beginRegex", .text "("), ("endRegex", .text "(?a)(?u)")]

end LineFold.Rule
