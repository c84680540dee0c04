import LineFold.Proofs.Scan.Cache
import LineFold.Scan
import Mathlib.Data.List.TakeWhile

/-! The events of a document. They come in the order of their lines; each is an opening or a
closing marker of a rule that is scanned for, and carries the line of its number. -/
namespace LineFold.Scan
open Pattern (Line)

variable {rules : List Rule} {lines : List Line} {first : Nat} {event : Event}

/-- What holds of an event of lines that are numbered from `first`. -/
structure Event.Belongs (rules : List Rule) (first : Nat) (lines : List Line)
    (event : Event) : Prop where
  rule_mem : event.rule ∈ rules
  kind_eq : event.kind = .opening ∨ event.kind = .closing
  first_le : first ≤ event.index
  line_eq : lines[event.index - first]? = some event.line

lemma rule_mem_of_mem_lineMatches {line : Line} {found : Match}
    (h : found ∈ lineMatches rules line) : found.rule ∈ rules := by
  rw [lineMatches_eq_walkFrom] at h
  exact rule_mem_of_mem_walkFrom h

lemma index_of_mem_lineEvents {index : Nat} {line : Line}
    (h : event ∈ lineEvents rules index line) : event.index = index := by
  obtain ⟨found, -, rfl⟩ := List.mem_map.mp h
  rfl

lemma belongs_of_mem_lineEvents {line : Line} (h : event ∈ lineEvents rules first line)
    (rest : List Line) : event.Belongs rules first (line :: rest) := by
  obtain ⟨found, hfound, rfl⟩ := List.mem_map.mp h
  have hkind := List.mem_takeWhile_imp hfound
  have hmem := (List.takeWhile_sublist _).subset hfound
  refine ⟨rule_mem_of_mem_lineMatches hmem, ?_, Nat.le_refl _, by simp⟩
  cases hk : found.kind with
  | opening => exact Or.inl rfl
  | closing => exact Or.inr rfl
  | skipLine => simp [hk] at hkind

theorem belongs_of_mem_eventsFrom (h : event ∈ eventsFrom rules first lines) :
    event.Belongs rules first lines := by
  induction lines generalizing first with
  | nil => cases h
  | cons line rest ih =>
    rcases List.mem_append.mp h with h | h
    · exact belongs_of_mem_lineEvents h rest
    · obtain ⟨hrule, hkind, hle, hline⟩ := ih h
      refine ⟨hrule, hkind, by omega, ?_⟩
      have heq : event.index - first = (event.index - (first + 1)) + 1 := by omega
      rw [heq, List.getElem?_cons_succ]
      exact hline

/-- The line numbers of events never decrease. -/
theorem eventsFrom_pairwise_index (rules : List Rule) (first : Nat) (lines : List Line) :
    (eventsFrom rules first lines).Pairwise fun a b => a.index ≤ b.index := by
  induction lines generalizing first with
  | nil => exact .nil
  | cons line rest ih =>
    refine List.pairwise_append.mpr ⟨?_, ih (first + 1), ?_⟩
    · refine List.pairwise_iff_forall_sublist.mpr ?_
      intro a b h
      have ha := index_of_mem_lineEvents (h.subset List.mem_cons_self)
      have hb := index_of_mem_lineEvents (h.subset (List.mem_cons_of_mem _ List.mem_cons_self))
      omega
    · intro a ha b hb
      have hb' := (belongs_of_mem_eventsFrom hb).first_le
      rw [index_of_mem_lineEvents ha]
      omega

end LineFold.Scan
