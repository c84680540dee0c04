import LineFold.Files.Given
import Mathlib.Data.List.Basic

/-! Paths that are given and paths as texts. A path without lone surrogates is the one that its text is
read from; else the fault is the first surrogate of it. -/
namespace LineFold

variable {signs : List Sign} {position : Nat} {given : GivenPath} {fault : Unencodable}

lemma unencodableFrom?_eq_none_iff :
    unencodableFrom? position signs = none ↔ ∀ surrogate, Sign.lone surrogate ∉ signs := by
  induction signs generalizing position with
  | nil => simp [unencodableFrom?]
  | cons sign rest ih =>
    cases sign with
    | char c => simp [unencodableFrom?, ih]
    | lone first =>
      refine iff_of_false (by simp [unencodableFrom?]) fun h => ?_
      exact h first List.mem_cons_self

/-- Only characters stand before the first surrogate. -/
lemma unencodableFrom?_eq_some (h : unencodableFrom? position signs = some fault) :
    ∃ (before : List Char) (rest : List Sign), signs = before.map .char ++ .lone fault.first :: rest ∧
      fault.position = position + before.length := by
  induction signs generalizing position with
  | nil => cases h
  | cons sign rest ih =>
    cases sign with
    | char c =>
      obtain ⟨before, later, rfl, hposition⟩ := ih h
      exact ⟨c :: before, later, rfl, by rw [hposition, List.length_cons]; omega⟩
    | lone first =>
      cases h
      exact ⟨[], rest, rfl, rfl⟩

lemma map_intercalate {α β : Type} (f : α → β) (separator : List α) (pieces : List (List α)) :
    (separator.intercalate pieces).map f = (separator.map f).intercalate (pieces.map (List.map f)) := by
  induction pieces with
  | nil => rfl
  | cons piece pieces ih =>
    cases pieces with
    | nil => simp
    | cons next pieces =>
      rw [List.intercalate_cons_cons, List.map_append, List.map_append, ih]
      simp only [List.map_cons, List.intercalate_cons_cons]

namespace Path

/-- A path as it is given has the text of the path. -/
lemma signs_given (path : Path) : path.given.signs = path.toText.toList.map .char := by
  have htext : path.root.toList.map Sign.char ++ [Sign.char '/'].intercalate path.given.parts =
      (path.root ++ joinParts path.parts).toList.map Sign.char := by
    have hslash : ("/" : String).toList = ['/'] := rfl
    rw [String.toList_append, joinParts, String.toList_intercalate, List.map_append, map_intercalate,
      hslash, given, List.map_map]
    rfl
  rw [GivenPath.signs, toText]
  change (let signs := path.root.toList.map Sign.char ++ [Sign.char '/'].intercalate path.given.parts
    if signs.isEmpty then [.char '.'] else signs) = _
  rw [htext]
  by_cases hempty : path.root ++ joinParts path.parts = ""
  · simp [hempty]
  · simp only [List.isEmpty_iff, List.map_eq_nil_iff, String.toList_eq_nil_iff, if_neg hempty]

lemma path_given (path : Path) : path.given.path = path := by
  have hpart (part : String) : String.ofList ((part.toList.map Sign.char).filterMap Sign.char?) = part := by
    rw [List.filterMap_map]
    exact (congrArg String.ofList List.filterMap_some).trans String.ofList_toList
  obtain ⟨root, parts⟩ := path
  simp only [given, GivenPath.path, List.map_map, mk.injEq, true_and]
  exact (List.map_congr_left fun part _ => hpart part).trans (List.map_id' parts)

lemma unencodable?_given (path : Path) : path.given.unencodable? = none := by
  rw [GivenPath.unencodable?, unencodableFrom?_eq_none_iff, signs_given]
  simp

end Path

namespace GivenPath

lemma mem_signs {sign : Sign} {part : List Sign} (hpart : part ∈ given.parts) (hsign : sign ∈ part) :
    sign ∈ given.signs := by
  obtain ⟨root, parts⟩ := given
  have hmem : sign ∈ [Sign.char '/'].intercalate parts := by
    induction parts with
    | nil => cases hpart
    | cons first rest ih =>
      cases rest with
      | nil =>
        rw [← List.mem_singleton.mp hpart]
        simpa using hsign
      | cons next rest =>
        rw [List.intercalate_cons_cons]
        rcases List.mem_cons.mp hpart with rfl | hrest
        · exact List.mem_append_left _ (List.mem_append_left _ hsign)
        · exact List.mem_append_right _ (ih hrest)
  have hall := List.mem_append_right (root.toList.map Sign.char) hmem
  have hne := List.isEmpty_eq_false_iff.mpr (List.ne_nil_of_mem hall)
  simpa only [signs, hne, Bool.false_eq_true, if_false] using hall

/-- A path without lone surrogates is given as a path. -/
lemma given_path (h : given.unencodable? = none) : given.path.given = given := by
  have hsigns := unencodableFrom?_eq_none_iff.mp h
  have hparts : ∀ part ∈ given.parts,
      (String.ofList (part.filterMap Sign.char?)).toList.map Sign.char = part := by
    intro part hpart
    rw [String.toList_ofList, List.map_filterMap]
    refine (List.filterMap_congr fun sign hsign => ?_).trans List.filterMap_some
    cases sign with
    | char c => rfl
    | lone surrogate => exact absurd (mem_signs hpart hsign) (hsigns surrogate)
  obtain ⟨root, parts⟩ := given
  simp only [path, Path.given, List.map_map, mk.injEq, true_and]
  exact (List.map_congr_left hparts).trans (List.map_id' parts)

/-- So its text has the same characters. -/
lemma noNul_path (h : given.unencodable? = none) (noNul : Sign.char '\x00' ∉ given.signs) :
    '\x00' ∉ given.path.toText.toList := by
  rw [← given_path h, Path.signs_given] at noNul
  exact fun hnul => noNul (List.mem_map_of_mem hnul)

end GivenPath

end LineFold
