import LineFold.Settings
import LineFold.Proofs.Guards
import LineFold.Proofs.Value.Entries

/-! Normalized settings. Normalizing gives a list of rules with canonical keys, each of them once, and
changes nothing more of settings that have such rules. -/
namespace LineFold
open LineFold.Guards

namespace Settings

/-- Entries with canonical keys, each of them once. -/
structure Canonical (entries : Entries) : Prop where
  isKey : ∀ key ∈ entries.keys, key ∈ ruleKeys
  nodup : entries.keys.Nodup

/-- Whether all rules are tables with canonical keys. -/
def AllCanonical (rules : List Value) : Prop :=
  ∀ rule ∈ rules, ∃ entries, rule = .map entries ∧ Canonical entries

variable {settings normalized : Settings} {position : Int} {entries done result : Entries}
  {key canonical : String} {value rule : Value} {rules tables : List Value}

section Keys

lemma mem_ruleKeys_of_canonicalKey? (h : canonicalKey? key = some canonical) : canonical ∈ ruleKeys :=
  List.mem_of_find?_eq_some h

/-- A canonical key stands for itself. -/
lemma canonicalKey?_of_mem (h : key ∈ ruleKeys) : canonicalKey? key = some key := by
  have hall : ∀ key ∈ ruleKeys, canonicalKey? key = some key := by decide +kernel
  exact hall key h

end Keys

section Rules

lemma canonical_nil : Canonical [] := ⟨fun _ h => absurd h List.not_mem_nil, List.nodup_nil⟩

lemma Canonical.insert (canonical : Canonical entries) (isKey : key ∈ ruleKeys) :
    Canonical (entries.insert key value) := by
  refine ⟨?_, Entries.nodup_keys_insert canonical.nodup⟩
  intro other hother
  rcases (Entries.mem_keys_insert entries key value other).mp hother with hmem | rfl
  · exact canonical.isKey other hmem
  · exact isKey

/-- What was canonical stays so while entries are added to it. -/
lemma canonical_of_normalizeEntries (h : normalizeEntries position entries done = .ok result)
    (before : Canonical done) : Canonical result := by
  induction entries generalizing done with
  | nil =>
    cases h
    exact before
  | cons entry rest ih =>
    rw [normalizeEntries] at h
    cases hkey : canonicalKey? entry.1 with
    | none =>
      rw [hkey] at h
      cases h
    | some canonical =>
      rw [hkey] at h
      exact ih h (before.insert (mem_ruleKeys_of_canonicalKey? hkey))

/-- Entries whose keys are canonical and new are added as they are, one after the other to those before. -/
lemma normalizeEntries_of_canonical (done : Entries) (h : Canonical (done ++ entries)) (position : Int) :
    normalizeEntries position entries done = .ok (done ++ entries) := by
  induction entries generalizing done with
  | nil => rw [normalizeEntries, List.append_nil]
  | cons entry rest ih =>
    have hkeys : Entries.keys (done ++ entry :: rest) =
        Entries.keys done ++ entry.1 :: Entries.keys rest := List.map_append
    have isKey : entry.1 ∈ ruleKeys := h.isKey _ (by simp [hkeys])
    have absent : entry.1 ∉ Entries.keys done := by
      intro hmem
      have hnodup := h.nodup
      rw [hkeys, List.nodup_append] at hnodup
      exact hnodup.2.2 _ hmem _ List.mem_cons_self rfl
    rw [List.append_cons] at h ⊢
    rw [normalizeEntries, canonicalKey?_of_mem isKey]
    change normalizeEntries position rest (Entries.insert done entry.1 entry.2) = _
    rw [Entries.insert_of_absent absent, ih _ h]

lemma canonical_of_normalizeRule (h : normalizeRule rule position = .ok result) : Canonical result := by
  cases rule with
  | map entries => exact canonical_of_normalizeEntries h canonical_nil
  | _ => cases h

lemma normalizeRule_of_canonical (h : Canonical entries) (position : Int) :
    normalizeRule (.map entries) position = .ok entries := 
  normalizeEntries_of_canonical [] h position

end Rules

section Lists

lemma allCanonical_of_normalizeRules (h : normalizeRules rules position = .ok tables) :
    AllCanonical tables := by
  induction rules generalizing position tables with
  | nil =>
    cases h
    exact fun _ h => absurd h List.not_mem_nil
  | cons rule rest ih =>
    rw [normalizeRules] at h
    simp only [bind_eq_ok] at h
    obtain ⟨entries, hentries, others, hothers, h⟩ := h
    cases h
    refine List.forall_mem_cons.mpr ⟨⟨entries, rfl, canonical_of_normalizeRule hentries⟩, ih hothers⟩

lemma normalizeRules_of_allCanonical (h : AllCanonical rules) (position : Int) :
    normalizeRules rules position = .ok rules := by
  induction rules generalizing position with
  | nil => rfl
  | cons rule rest ih =>
    obtain ⟨⟨entries, rfl, hentries⟩, hrest⟩ := List.forall_mem_cons.mp h
    rw [normalizeRules, normalizeRule_of_canonical hentries, ih hrest]
    rfl

end Lists

section Whole

/-- The rules that settings hold: one table stands for a list of it. -/
def ruleList (settings : Settings) : Except SettingsError (List Value) :=
  match settings.rules with
  | .map entries => .ok [.map entries]
  | .list rules => .ok rules
  | _ => .error .rulesNotList

lemma normalize_eq (settings : Settings) :
    settings.normalize = do
      let tables ← normalizeRules (← settings.ruleList) 0
      return { settings with rules := .list tables } := by
  unfold normalize ruleList
  cases settings.rules <;> rfl

/-- Normalizing changes nothing but the rules, and these become canonical. -/
lemma canonical_of_normalize (h : settings.normalize = .ok normalized) :
    ∃ rules, AllCanonical rules ∧ normalized = { settings with rules := .list rules } := by
  simp only [normalize_eq, bind_eq_ok] at h
  obtain ⟨rules, -, tables, htables, h⟩ := h
  cases h
  exact ⟨tables, allCanonical_of_normalizeRules htables, rfl⟩

lemma normalize_of_canonical (h : settings.rules = .list rules) (canonical : AllCanonical rules) :
    settings.normalize = .ok settings := by
  have hlist : settings.ruleList = .ok rules := by rw [ruleList, h]
  rw [normalize_eq, bind_eq_ok]
  refine ⟨rules, hlist, bind_eq_ok.mpr ⟨rules, normalizeRules_of_allCanonical canonical 0, ?_⟩⟩
  rw [← h]
  rfl

/-- Normalizing again changes nothing. -/
theorem normalize_idem (h : settings.normalize = .ok normalized) :
    normalized.normalize = .ok normalized := by
  obtain ⟨rules, canonical, rfl⟩ := canonical_of_normalize h
  exact normalize_of_canonical rfl canonical

end Whole

end Settings

end LineFold
