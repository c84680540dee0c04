import LineFold.Limits
import Mathlib.Order.Bounds.Basic
import Mathlib.Tactic.Common

/-! Limits on documents. The check of the lines finds the first line that is too long, and a limit in
force is the value of its variable or, where this is not set, the one that is configured. -/
namespace LineFold

section Lines

/-- Whether the line of a number, counted from one, is longer than a limit. -/
def OverlongAt (limit : Int) (lines : List String) (number : Nat) : Prop :=
  ∃ index line, number = index + 1 ∧ lines[index]? = some line ∧ limit < line.length

variable {limit : Int} {number : Nat} {lines : List String} {found : LongLine}

lemma longLineFrom?_eq_none_iff :
    longLineFrom? limit number lines = none ↔ ∀ line ∈ lines, (line.length : Int) ≤ limit := by
  induction lines generalizing number with
  | nil => simp [longLineFrom?]
  | cons line rest ih =>
    rw [longLineFrom?, List.forall_mem_cons]
    by_cases hline : limit < line.length
    · simp [hline, Int.not_le.mpr hline]
    · rw [if_neg hline, ih, and_iff_right (Int.not_lt.mp hline)]

/-- The line that is found and the lines before it. -/
lemma exists_line_of_longLineFrom? (h : longLineFrom? limit number lines = some found) :
    found.limit = limit ∧ ∃ index line, found.number = number + index ∧ lines[index]? = some line ∧
      limit < line.length ∧
        ∀ earlier < index, ∀ line, lines[earlier]? = some line → (line.length : Int) ≤ limit := by
  induction lines generalizing number with
  | nil => cases h
  | cons line rest ih =>
    rw [longLineFrom?] at h
    by_cases hline : limit < line.length
    · rw [if_pos hline] at h
      cases h
      exact ⟨rfl, 0, line, rfl, rfl, hline, by simp⟩
    · rw [if_neg hline] at h
      obtain ⟨hlimit, index, long, hnumber, hget, hlong, hfirst⟩ := ih h
      refine ⟨hlimit, index + 1, long, by omega, hget, hlong, ?_⟩
      intro earlier hearlier other hother
      cases earlier with
      | zero =>
        cases hother
        exact Int.not_lt.mp hline
      | succ earlier => exact hfirst earlier (by omega) other hother

lemma longLine?_eq_none_iff :
    longLine? limit lines = none ↔ ∀ line ∈ lines, (line.length : Int) ≤ limit :=
  longLineFrom?_eq_none_iff

/-- The line that is told is the first one that is too long. -/
lemma isLeast_of_longLine? (h : longLine? limit lines = some found) :
    found.limit = limit ∧ IsLeast {number | OverlongAt limit lines number} found.number := by
  obtain ⟨hlimit, index, line, hnumber, hget, hlong, hfirst⟩ := exists_line_of_longLineFrom? h
  refine ⟨hlimit, ⟨index, line, by omega, hget, hlong⟩, ?_⟩
  rintro number ⟨other, longer, rfl, hother, hlonger⟩
  by_contra hless
  have hshort := hfirst other (by omega) longer hother
  omega

/-- Where a line is too long one of them is told. -/
lemma exists_longLine? (h : ∃ line ∈ lines, limit < line.length) :
    ∃ found, longLine? limit lines = some found := by
  obtain ⟨line, hmem, hlong⟩ := h
  cases hfound : longLine? limit lines with
  | some found => exact ⟨found, rfl⟩
  | none => exact absurd (longLine?_eq_none_iff.mp hfound line hmem) (Int.not_le.mpr hlong)

end Lines

section Configured

/-- Whether a limit is in force: it is positive, and it is the value of its variable or, where this is
not set, the configured value. -/
structure InForce (environment : Environment) (name : String) (configured limit : Int) : Prop where
  positive : 0 < limit
  origin : (∃ text, environment.lookup name = some text ∧ Text.readInteger? text.toList = some limit) ∨
    environment.lookup name = none ∧ limit = configured

variable {environment : Environment} {name : String} {configured limit : Int}

lemma readLimit_eq_ok_iff (positive : 0 < configured) :
    readLimit environment name configured = .ok limit ↔ InForce environment name configured limit := by
  unfold readLimit
  cases hlookup : environment.lookup name with
  | none =>
    constructor
    · intro h
      cases h
      exact ⟨positive, Or.inr ⟨hlookup, rfl⟩⟩
    · rintro ⟨-, ⟨text, htext, -⟩ | ⟨-, rfl⟩⟩
      · rw [hlookup] at htext
        cases htext
      · rfl
  | some text =>
    constructor
    · intro h
      cases hread : Text.readInteger? text.toList with
      | none => simp [hread] at h
      | some value =>
        by_cases hnonpos : value ≤ 0
        · simp [hread, hnonpos] at h
        · obtain rfl : value = limit := by simpa [hread, hnonpos] using h
          exact ⟨Int.not_le.mp hnonpos, Or.inl ⟨text, hlookup, hread⟩⟩
    · rintro ⟨hlimit, ⟨other, hother, hread⟩ | ⟨hnone, -⟩⟩
      · rw [hlookup] at hother
        cases hother
        simp [hread, Int.not_le.mpr hlimit]
      · rw [hlookup] at hnone
        cases hnone

end Configured

end LineFold
