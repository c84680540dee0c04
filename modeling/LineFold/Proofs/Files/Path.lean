import LineFold.Files.Path
import Mathlib.Data.List.Basic

/-! Texts of paths and their parts. A text is split at its slashes, so parts without a slash come
back from the text they are joined to. Besides the parts that count a split may give empty ones and
single dots, and following those leads nowhere else. -/
namespace LineFold.Path

/-- What may stand between two slashes of a path and counts. -/
structure IsPart (part : String) : Prop where
  ne_empty : part ≠ ""
  ne_dot : part ≠ "."
  noSlash : '/' ∉ part.toList

/-- What an entry of a directory may be called. -/
structure IsName (part : String) : Prop extends IsPart part where
  ne_dots : part ≠ ".."

/-- A part that leads to what is there under it, as it is neither empty nor made of dots. -/
structure Moves (part : String) : Prop where
  not_stay : ¬(part = "" ∨ part = ".")
  ne_dots : part ≠ ".."

variable {part : String} {parts here : List String}

lemma Moves.ne_empty (h : Moves part) : part ≠ "" := (not_or.mp h.not_stay).1

lemma Moves.ne_dot (h : Moves part) : part ≠ "." := (not_or.mp h.not_stay).2

lemma IsName.moves (h : IsName part) : Moves part := ⟨not_or.mpr ⟨h.ne_empty, h.ne_dot⟩, h.ne_dots⟩

lemma Moves.isName (h : Moves part) (noSlash : '/' ∉ part.toList) : IsName part :=
  ⟨⟨h.ne_empty, h.ne_dot, noSlash⟩, h.ne_dots⟩

lemma IsPart.isName_or_eq_dots (h : IsPart part) : IsName part ∨ part = ".." := by
  by_cases hdots : part = ".."
  · exact Or.inr hdots
  · exact Or.inl ⟨h, hdots⟩

section Split

lemma splitSlashesFrom_append (piece name rest : List Char) (noSlash : '/' ∉ name) :
    splitSlashesFrom piece (name ++ rest) = splitSlashesFrom (name.reverse ++ piece) rest := by
  induction name generalizing piece with
  | nil => rfl
  | cons c name ih =>
    obtain ⟨hc, hname⟩ : ¬ '/' = c ∧ '/' ∉ name := by simpa using noSlash
    rw [List.cons_append, splitSlashesFrom, if_neg (Ne.symm hc), ih _ hname]
    simp

lemma splitSlashes_of_noSlash (noSlash : '/' ∉ part.toList) : splitSlashes part = [part] := by
  have hsplit := splitSlashesFrom_append [] part.toList [] noSlash
  rw [List.append_nil, List.append_nil] at hsplit
  rw [splitSlashes, hsplit, splitSlashesFrom, List.reverse_reverse, String.ofList_toList]

lemma splitSlashes_append (noSlash : '/' ∉ part.toList) (rest : String) :
    splitSlashes (part ++ "/" ++ rest) = part :: splitSlashes rest := by
  have htext : (part ++ "/" ++ rest).toList = part.toList ++ '/' :: rest.toList := by simp
  rw [splitSlashes, htext, splitSlashesFrom_append _ _ _ noSlash, splitSlashesFrom, if_pos rfl,
    List.append_nil, List.reverse_reverse, String.ofList_toList, splitSlashes]

lemma splitSlashes_joinParts (ne : parts ≠ []) (noSlash : ∀ part ∈ parts, '/' ∉ part.toList) :
    splitSlashes (joinParts parts) = parts := by
  induction parts with
  | nil => exact absurd rfl ne
  | cons part rest ih =>
    obtain ⟨hpart, hrest⟩ := List.forall_mem_cons.mp noSlash
    cases rest with
    | nil =>
      rw [joinParts, String.intercalate_singleton]
      exact splitSlashes_of_noSlash hpart
    | cons next rest =>
      rw [joinParts, String.intercalate_cons_cons, splitSlashes_append hpart]
      exact congrArg (part :: ·) (ih (List.cons_ne_nil _ _) hrest)

lemma noSlash_of_mem_splitSlashesFrom {text piece : List Char} (noSlash : '/' ∉ piece)
    (h : part ∈ splitSlashesFrom piece text) : '/' ∉ part.toList := by
  induction text generalizing piece with
  | nil =>
    rw [splitSlashesFrom, List.mem_singleton] at h
    subst h
    simpa using noSlash
  | cons c rest ih =>
    rw [splitSlashesFrom] at h
    by_cases hc : c = '/'
    · rw [if_pos hc] at h
      rcases List.mem_cons.mp h with hfirst | hrest
      · subst hfirst
        simpa using noSlash
      · exact ih (by simp) hrest
    · rw [if_neg hc] at h
      exact ih (by simpa using ⟨Ne.symm hc, noSlash⟩) h

lemma noSlash_of_mem_splitSlashes {text : String} (h : part ∈ splitSlashes text) :
    '/' ∉ part.toList :=
  noSlash_of_mem_splitSlashesFrom (by simp) h

lemma isPart_of_mem_ofText {text : String} (h : part ∈ (ofText text).parts) : IsPart part := by
  obtain ⟨hmem, hcounts⟩ := List.mem_filter.mp h
  obtain ⟨hempty, hdot⟩ : part ≠ "" ∧ part ≠ "." := by simpa using hcounts
  exact ⟨hempty, hdot, noSlash_of_mem_splitSlashes hmem⟩

end Split

section Texts

/-- The root and the parts that a path may have been read as. -/
structure Proper (path : Path) : Prop where
  root : path.root = "" ∨ path.root = "/" ∨ path.root = "//"
  isPart : ∀ part ∈ path.parts, IsPart part

lemma proper_ofParts (isPart : ∀ part ∈ parts, IsPart part) : (ofParts parts).Proper :=
  ⟨Or.inr (Or.inl rfl), isPart⟩

lemma proper_ofText (text : String) : (ofText text).Proper := by
  refine ⟨?_, fun _ => isPart_of_mem_ofText⟩
  rw [ofText, rootOf]
  split <;> simp

lemma Proper.join {base path : Path} (hbase : base.Proper) (hpath : path.Proper) :
    (base.join path).Proper := by
  rw [Path.join]
  by_cases habsolute : path.isAbsolute = true
  · rw [if_pos habsolute]
    exact hpath
  · rw [if_neg habsolute]
    refine ⟨hbase.root, fun part h => ?_⟩
    rcases List.mem_append.mp h with hfirst | hsecond
    · exact hbase.isPart part hfirst
    · exact hpath.isPart part hsecond

lemma isRooted_joinParts (isPart : ∀ part ∈ parts, IsPart part) :
    isRooted (joinParts parts) = false := by
  cases parts with
  | nil => decide
  | cons part rest =>
    have hpart := isPart part List.mem_cons_self
    have hchars : part.toList ≠ [] := fun h => hpart.ne_empty (String.toList_eq_nil_iff.mp h)
    have hhead : (joinParts (part :: rest)).toList.head? = part.toList.head? := by
      cases rest with
      | nil => rw [joinParts, String.intercalate_singleton]
      | cons next rest =>
        rw [joinParts, String.intercalate_cons_cons, String.toList_append, String.toList_append,
          List.append_assoc, List.head?_append_of_ne_nil _ hchars]
    rw [isRooted, hhead]
    exact decide_eq_false fun h => hpart.noSlash (List.mem_of_head? h)

lemma joinParts_ne_empty (ne : parts ≠ []) (isPart : ∀ part ∈ parts, IsPart part) :
    joinParts parts ≠ "" := by
  intro hempty
  have hsplit := splitSlashes_joinParts ne fun part h => (isPart part h).noSlash
  rw [hempty] at hsplit
  have hpart := isPart "" (by rw [← hsplit]; decide)
  exact hpart.ne_empty rfl

lemma toText_ne_empty (path : Path) : path.toText ≠ "" := by
  by_cases hempty : path.root ++ joinParts path.parts = ""
  · simp only [toText, if_pos hempty]
    decide
  · simp only [toText, if_neg hempty]
    exact hempty

/-- The text of a path is split to its parts behind some that lead nowhere: empty ones from the slashes
of a root, or a single dot where there are no parts. -/
lemma splitSlashes_toText {path : Path} (proper : path.Proper) :
    isRooted path.toText = path.isAbsolute ∧
      ∃ lead, splitSlashes path.toText = lead ++ path.parts ∧
        (∀ part ∈ lead, part = "" ∨ part = ".") ∧
          (path.parts ≠ [] → lead = [] ∨ path.isAbsolute = true ∧ ∀ part ∈ lead, part = "") := by
  obtain ⟨root, parts⟩ := path
  have hjoin (ne : parts ≠ []) : splitSlashes (joinParts parts) = parts :=
    splitSlashes_joinParts ne fun part h => (proper.isPart part h).noSlash
  rcases proper.root with rfl | rfl | rfl
  · by_cases hparts : parts = []
    · subst hparts
      exact ⟨by decide, ["."], by decide, by simp, by simp⟩
    · have hne := joinParts_ne_empty hparts proper.isPart
      have htext : toText ⟨"", parts⟩ = joinParts parts := by simp [toText, hne]
      rw [htext]
      exact ⟨isRooted_joinParts proper.isPart, [], hjoin hparts, by simp, by simp⟩
  · have htext : toText ⟨"/", parts⟩ = "" ++ "/" ++ joinParts parts := by simp [toText]
    rw [htext]
    refine ⟨by simp [isRooted, isAbsolute], ?_⟩
    rw [splitSlashes_append (by simp)]
    by_cases hparts : parts = []
    · subst hparts
      exact ⟨["", ""], by decide, by simp, by simp⟩
    · rw [hjoin hparts]
      exact ⟨[""], rfl, by simp, by simp [isAbsolute]⟩
  · have htext : toText ⟨"//", parts⟩ = "" ++ "/" ++ ("" ++ "/" ++ joinParts parts) := by
      have hroot : ("//" : String) = "" ++ "/" ++ ("" ++ "/") := by decide
      have hplain : toText ⟨"//", parts⟩ = "//" ++ joinParts parts := by simp [toText]
      rw [hplain, hroot]
      simp only [String.append_assoc]
    rw [htext]
    refine ⟨by simp [isRooted, isAbsolute], ?_⟩
    rw [splitSlashes_append (by simp), splitSlashes_append (by simp)]
    by_cases hparts : parts = []
    · subst hparts
      exact ⟨["", "", ""], by decide, by simp, by simp⟩
    · rw [hjoin hparts]
      exact ⟨["", ""], rfl, by simp, by simp [isAbsolute]⟩

lemma toText_of_ne_nil {root : String} (ne : parts ≠ []) (isPart : ∀ part ∈ parts, IsPart part) :
    toText ⟨root, parts⟩ = root ++ joinParts parts := by
  simp [toText, joinParts_ne_empty ne isPart]

lemma mem_joinParts {c : Char} (h : c ∈ (joinParts parts).toList) :
    c = '/' ∨ ∃ part ∈ parts, c ∈ part.toList := by
  induction parts with
  | nil => simp [joinParts] at h
  | cons part rest ih =>
    cases rest with
    | nil =>
      rw [joinParts, String.intercalate_singleton] at h
      exact Or.inr ⟨part, List.mem_singleton_self part, h⟩
    | cons next rest =>
      rw [joinParts, String.intercalate_cons_cons, String.toList_append, List.mem_append,
        String.toList_append, List.mem_append] at h
      rcases h with (hpart | hslash) | hrest
      · exact Or.inr ⟨part, List.mem_cons_self, hpart⟩
      · exact Or.inl (List.mem_singleton.mp hslash)
      · rcases ih hrest with hslash | ⟨other, hmem, hother⟩
        · exact Or.inl hslash
        · exact Or.inr ⟨other, List.mem_cons_of_mem part hmem, hother⟩

lemma mem_joinParts_append {c : Char} {name : String} (h : c ∈ name.toList) :
    c ∈ (joinParts (parts ++ [name])).toList := by
  induction parts with
  | nil => simpa [joinParts] using h
  | cons part rest ih =>
    cases hrest : rest ++ [name] with
    | nil => simp at hrest
    | cons next more =>
      rw [hrest] at ih
      rw [List.cons_append, hrest, joinParts, String.intercalate_cons_cons, String.toList_append]
      exact List.mem_append_right _ ih

lemma noNul_toText {path : Path} (proper : path.Proper) (ne : path.parts ≠ [])
    (noNul : ∀ part ∈ path.parts, '\x00' ∉ part.toList) : '\x00' ∉ path.toText.toList := by
  have htext : path.toText = path.root ++ joinParts path.parts :=
    toText_of_ne_nil ne proper.isPart
  rw [htext, String.toList_append]
  intro h
  rcases List.mem_append.mp h with hroot | hparts
  · rcases proper.root with heq | heq | heq <;> rw [heq] at hroot <;> revert hroot <;> decide
  · rcases mem_joinParts hparts with hslash | ⟨part, hmem, hpart⟩
    · cases hslash
    · exact noNul part hmem hpart

lemma utf8ByteSize_joinParts_le (above rest : List String) :
    (joinParts above).utf8ByteSize ≤ (joinParts (above ++ rest)).utf8ByteSize := by
  induction above with
  | nil => simp [joinParts]
  | cons part above ih =>
    cases above with
    | nil =>
      cases rest with
      | nil => simp
      | cons next rest =>
        simp only [joinParts, List.cons_append, List.nil_append, String.intercalate_singleton,
          String.intercalate_cons_cons, String.utf8ByteSize_append]
        omega
    | cons next above =>
      simp only [joinParts, List.cons_append, String.intercalate_cons_cons,
        String.utf8ByteSize_append] at ih ⊢
      omega

lemma parts_ofText_toText {path : Path} (proper : path.Proper) :
    (ofText path.toText).parts = path.parts := by
  obtain ⟨-, lead, hsplit, hlead, -⟩ := splitSlashes_toText proper
  unfold ofText
  rw [hsplit, List.filter_append, List.filter_eq_nil_iff.mpr, List.nil_append,
    List.filter_eq_self.mpr]
  · intro part h
    have isPart := proper.isPart part h
    simp [isPart.ne_empty, isPart.ne_dot]
  · intro part h
    rcases hlead part h with rfl | rfl <;> simp

end Texts

section Enter

lemma enter_name (h : IsName part) : enter here part = here ++ [part] := by
  simp [enter, h.ne_empty, h.ne_dot, h.ne_dots]

lemma enter_dots : enter here ".." = here.dropLast := by
  simp [enter]

lemma isName_of_mem_foldl_enter (names : ∀ name ∈ here, IsName name)
    (isPart : ∀ part ∈ parts, IsPart part) : ∀ name ∈ parts.foldl enter here, IsName name := by
  induction parts generalizing here with
  | nil => exact names
  | cons part parts ih =>
    obtain ⟨hpart, hparts⟩ := List.forall_mem_cons.mp isPart
    refine ih ?_ hparts
    rcases hpart.isName_or_eq_dots with hname | hdots
    · rw [enter_name hname]
      exact List.forall_mem_append.mpr ⟨names, List.forall_mem_singleton.mpr hname⟩
    · rw [hdots, enter_dots]
      exact fun name hmem => names name (List.dropLast_subset here hmem)

end Enter

end LineFold.Path
