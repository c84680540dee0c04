import LineFold.Value
import Mathlib.Data.List.Nodup

/-! Mappings by their keys. Setting a key changes what is found under that key alone. Where each key
stands once, what is found under the keys does not depend on their order. -/
namespace LineFold.Entries

/-- The keys of a mapping, in their order. -/
def keys (entries : Entries) : List String := entries.map Prod.fst

variable {entries other : Entries} {key : String} {value : Value}

lemma insert_of_absent (absent : key ∉ entries.keys) :
    entries.insert key value = entries ++ [(key, value)] := by
  induction entries with
  | nil => rfl
  | cons entry rest ih =>
    obtain ⟨hne, hrest⟩ := List.ne_and_not_mem_of_not_mem_cons absent
    rw [insert, if_neg (Ne.symm hne), ih hrest]
    rfl

lemma keys_insert_of_mem (present : key ∈ entries.keys) :
    (entries.insert key value).keys = entries.keys := by
  induction entries with
  | nil => cases present
  | cons entry rest ih =>
    rw [insert]
    by_cases heq : entry.1 = key
    · rw [if_pos heq]
      rfl
    · have hrest : key ∈ keys rest := (List.mem_cons.mp present).resolve_left (Ne.symm heq)
      rw [if_neg heq, keys, List.map_cons, ← keys, ih hrest]
      rfl

/-- A known key keeps its place, and a new one comes last. -/
lemma keys_insert (entries : Entries) (key : String) (value : Value) :
    key ∈ entries.keys ∧ (entries.insert key value).keys = entries.keys ∨
      key ∉ entries.keys ∧ (entries.insert key value).keys = entries.keys ++ [key] := by
  by_cases present : key ∈ entries.keys
  · exact Or.inl ⟨present, keys_insert_of_mem present⟩
  · refine Or.inr ⟨present, ?_⟩
    rw [insert_of_absent present, keys, List.map_append]
    rfl

lemma mem_keys_insert (entries : Entries) (key : String) (value : Value) (other : String) :
    other ∈ (entries.insert key value).keys ↔ other ∈ entries.keys ∨ other = key := by
  rcases keys_insert entries key value with ⟨present, hkeys⟩ | ⟨-, hkeys⟩
  · rw [hkeys]
    constructor
    · exact Or.inl
    · rintro (hmem | rfl)
      · exact hmem
      · exact present
  · rw [hkeys, List.mem_append, List.mem_singleton]

lemma nodup_keys_insert (nodup : entries.keys.Nodup) : (entries.insert key value).keys.Nodup := by
  rcases keys_insert entries key value with ⟨-, hkeys⟩ | ⟨absent, hkeys⟩
  · rw [hkeys]
    exact nodup
  · rw [hkeys, ← List.concat_eq_append]
    exact List.Nodup.concat absent nodup

lemma get?_cons (entry : String × Value) (rest : Entries) (key : String) :
    get? (entry :: rest) key = if key = entry.1 then some entry.2 else rest.get? key := by
  rw [get?, get?, List.lookup_cons]
  by_cases heq : key = entry.1
  · rw [if_pos heq, beq_iff_eq.mpr heq]
  · rw [if_neg heq, beq_eq_false_iff_ne.mpr heq]

/-- A key that is set holds its new value, and all others hold what they held. -/
lemma get?_insert (entries : Entries) (key : String) (value : Value) (other : String) :
    (entries.insert key value).get? other =
      if other = key then some value else entries.get? other := by
  induction entries with
  | nil => exact get?_cons (key, value) [] other
  | cons entry rest ih =>
    rw [insert]
    by_cases heq : entry.1 = key
    · rw [if_pos heq, get?_cons, get?_cons, heq]
      by_cases hother : other = key
      · rw [if_pos hother, if_pos hother]
      · rw [if_neg hother, if_neg hother, if_neg hother]
    · rw [if_neg heq, get?_cons, get?_cons, ih]
      by_cases hother : other = entry.1
      · have hkey : other ≠ key := fun h => heq (hother.symm.trans h)
        rw [if_pos hother, if_pos hother, if_neg hkey]
      · rw [if_neg hother, if_neg hother]

/-- Where each key stands once, a key holds the value it stands with. -/
lemma get?_eq_some_iff (nodup : entries.keys.Nodup) :
    entries.get? key = some value ↔ (key, value) ∈ entries := by
  induction entries with
  | nil => simp [get?]
  | cons entry rest ih =>
    obtain ⟨absent, hrest⟩ := List.nodup_cons.mp nodup
    rw [get?_cons, List.mem_cons]
    by_cases heq : key = entry.1
    · have hne : (key, value) ∉ rest := by
        intro hmem
        apply absent
        rw [← heq]
        exact List.mem_map_of_mem hmem
      rw [if_pos heq, Option.some_inj, or_iff_left hne, Prod.ext_iff]
      exact ⟨fun h => ⟨heq, h.symm⟩, fun h => h.2.symm⟩
    · rw [if_neg heq, ih hrest]
      constructor
      · exact Or.inr
      · rintro (rfl | hmem)
        · exact absurd rfl heq
        · exact hmem

/-- Mappings with the same entries in any order have the same value under each key. -/
lemma find_eq_of_perm (perm : entries.Perm other) (nodup : entries.keys.Nodup) (key : String) :
    entries.find key = other.find key := by
  have hother : other.keys.Nodup := (perm.map Prod.fst).nodup_iff.mp nodup
  have hget : entries.get? key = other.get? key := by
    ext value
    rw [get?_eq_some_iff nodup, get?_eq_some_iff hother]
    exact perm.mem_iff
  rw [find, find, hget]

end LineFold.Entries
