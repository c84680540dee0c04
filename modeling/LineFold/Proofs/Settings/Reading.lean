import LineFold.Settings.Load
import LineFold.Proofs.Files.Changes

/-! What a configuration file contributes. A document is read from a regular file that may be read and
holds UTF-8 and TOML; any other file counts as absent, but for some kinds that stop the search with an
error: one that is not UTF-8, one that nests too deep, one with an integer of too many digits, and one that
cannot be looked at, as its path is too long or a directory on the way may not be searched. -/
namespace LineFold.Settings

variable {host other : Host} {file : Path} {error : LoadError} {changed : List String → Prop}
  {content : List UInt8}

/-- The document in a file; none where the file is absent or may not be read, or is no TOML. -/
def documentAt? (host : Host) (file : Path) : Option Entries :=
  match host.read file.toText with
  | .error _ => none
  | .ok content =>
    match Text.Utf8.decode content with
    | .error _ => none
    | .ok text => if (host.tooDeep? text).isSome then none else (Toml.readText text).toOption

/-- A file that stops the search, and the error that it stops with. -/
inductive Unreadable (host : Host) (file : Path) : LoadError → Prop where
  | notUtf8 {content : List UInt8} {fault : Text.Utf8.Fault}
      (found : host.read file.toText = .ok content)
      (invalid : Text.Utf8.decode content = .error fault) : Unreadable host file (.notUtf8 fault)
  | tooDeep {content : List UInt8} {text : List Char} {told : String}
      (found : host.read file.toText = .ok content) (valid : Text.Utf8.decode content = .ok text)
      (deep : host.tooDeep? text = some told) : Unreadable host file (.tooDeep told)
  | longInteger {content : List UInt8} {text : List Char} {digits : Nat}
      (found : host.read file.toText = .ok content) (valid : Text.Utf8.decode content = .ok text)
      (flat : host.tooDeep? text = none) (long : Toml.readText text = .error (.longInteger digits)) :
      Unreadable host file (.longInteger digits)
  | blocked {obstacle : Obstacle} (kind : obstacle = .nameTooLong ∨ obstacle = .permissionDenied)
      (blocked : host.entry file.toText = .error (.obstacle obstacle file.toText)) :
      Unreadable host file (.unreadable obstacle file.toText)

section Contents

/-- What is read is there. -/
lemma entry_of_read {text : String} (h : host.read text = .ok content) :
    host.entry text = .ok (.file content) := by
  obtain ⟨place, hfind, -⟩ := Host.read_eq_ok_iff.mp h
  exact Host.entry_eq_ok_iff.mpr ⟨place, hfind⟩

lemma readDocument_of_read (found : host.read file.toText = .ok content) :
    readDocument host file = parseDocument host content := by
  rw [readDocument, entry_of_read found]
  simp only [found]

lemma readDocument_of_absent {obstacle : Obstacle} {path : String}
    (blocked : host.entry file.toText = .error (.obstacle obstacle path)) :
    readDocument host file =
      if obstacle.meansAbsent then .ok none else .error (.unreadable obstacle path) := by
  rw [readDocument, blocked]

/-- What may come of a file that is not read: it counts as absent, or it cannot be looked at. -/
lemma readDocument_of_not_read (h : ∀ content, host.read file.toText ≠ .ok content) :
    readDocument host file = .ok none ∨
      ∃ obstacle, (obstacle = .nameTooLong ∨ obstacle = .permissionDenied) ∧
        host.entry file.toText = .error (.obstacle obstacle file.toText) ∧
        readDocument host file = .error (.unreadable obstacle file.toText) := by
  cases hentry : host.entry file.toText with
  | ok entry =>
    left
    rw [readDocument, hentry]
    cases hread : host.read file.toText with
    | ok content => exact absurd hread (h content)
    | error error => rfl
  | error access =>
    cases access with
    | nulByte =>
      left
      rw [readDocument, hentry]
    | obstacle obstacle path =>
      obtain ⟨rfl, hpresent⟩ := Host.obstacle_of_entry hentry
      rw [readDocument_of_absent hentry]
      cases obstacle with
      | isDirectory => exact absurd rfl hpresent
      | nameTooLong => exact Or.inr ⟨_, Or.inl rfl, rfl, rfl⟩
      | permissionDenied => exact Or.inr ⟨_, Or.inr rfl, rfl, rfl⟩
      | missing => exact Or.inl rfl
      | notDirectory => exact Or.inl rfl
      | tooManyLinks => exact Or.inl rfl

/-- What is read is a document, or no TOML, or stops the search. -/
lemma parseDocument_cases (found : host.read file.toText = .ok content) :
    (∃ document, parseDocument host content = .ok document ∧ documentAt? host file = document) ∨
      ∃ error, parseDocument host content = .error error ∧ Unreadable host file error := by
  unfold parseDocument documentAt?
  simp only [found]
  cases hdecode : Text.Utf8.decode content with
  | error fault => exact Or.inr ⟨_, rfl, .notUtf8 found hdecode⟩
  | ok text =>
    cases hdeep : host.tooDeep? text with
    | some told =>
      right
      simp only [hdeep]
      exact ⟨_, rfl, .tooDeep found hdecode hdeep⟩
    | none =>
      simp only [hdeep]
      cases hdocument : Toml.readText text with
      | ok document => exact Or.inl ⟨_, rfl, rfl⟩
      | error failure =>
        cases failure with
        | malformed => exact Or.inl ⟨_, rfl, rfl⟩
        | longInteger digits => exact Or.inr ⟨_, rfl, .longInteger found hdecode hdeep hdocument⟩

end Contents

lemma readDocument_of_unreadable (unreadable : Unreadable host file error) :
    readDocument host file = .error error := by
  cases unreadable with
  | notUtf8 found invalid =>
    rw [readDocument_of_read found, parseDocument]
    simp only [invalid]
  | tooDeep found valid deep =>
    rw [readDocument_of_read found, parseDocument]
    simp only [valid, deep]
  | longInteger found valid flat long =>
    rw [readDocument_of_read found, parseDocument]
    simp only [valid, flat, long]
  | blocked kind blocked =>
    rw [readDocument_of_absent blocked]
    rcases kind with rfl | rfl <;> rfl

lemma readDocument_eq_error_iff :
    readDocument host file = .error error ↔ Unreadable host file error := by
  refine ⟨fun h => ?_, readDocument_of_unreadable⟩
  by_cases hread : ∃ content, host.read file.toText = .ok content
  · obtain ⟨content, found⟩ := hread
    rw [readDocument_of_read found] at h
    rcases parseDocument_cases found with ⟨document, hparse, -⟩ | ⟨cause, hparse, unreadable⟩
    · cases hparse.symm.trans h
    · cases hparse.symm.trans h
      exact unreadable
  · rcases readDocument_of_not_read (not_exists.mp hread) with habsent | ⟨obstacle, kind, hentry, hblocked⟩
    · cases habsent.symm.trans h
    · cases hblocked.symm.trans h
      exact .blocked kind hentry

/-- Whether the search goes on behind a file or ends with what it holds. -/
def Readable (host : Host) (file : Path) : Prop := ∀ error, ¬Unreadable host file error

lemma readable_of_isOk (h : (readDocument host file).isOk = true) : Readable host file := by
  intro error unreadable
  rw [readDocument_eq_error_iff.mpr unreadable] at h
  cases h

lemma readDocument_of_readable (readable : Readable host file) :
    readDocument host file = .ok (documentAt? host file) := by
  by_cases hread : ∃ content, host.read file.toText = .ok content
  · obtain ⟨content, found⟩ := hread
    rw [readDocument_of_read found]
    rcases parseDocument_cases found with ⟨document, hparse, rfl⟩ | ⟨cause, -, unreadable⟩
    · exact hparse
    · exact absurd unreadable (readable cause)
  · have hnone : documentAt? host file = none := by
      unfold documentAt?
      cases h : host.read file.toText with
      | ok content => exact absurd ⟨content, h⟩ hread
      | error error => rfl
    rw [hnone]
    rcases readDocument_of_not_read (not_exists.mp hread) with habsent | ⟨obstacle, kind, hentry, -⟩
    · exact habsent
    · exact absurd (.blocked kind hentry) (readable _)

/-- Whether bytes are UTF-8, but no TOML. -/
def Malformed (host : Host) (content : List UInt8) : Prop :=
  ∃ text, Text.Utf8.decode content = .ok text ∧ host.tooDeep? text = none ∧
    Toml.readText text = .error .malformed

lemma parseDocument_of_malformed (malformed : Malformed host content) :
    parseDocument host content = .ok none := by
  obtain ⟨text, hdecode, flat, hread⟩ := malformed
  simp [parseDocument, hdecode, flat, hread]

/-- Whether a path leads to no changed place, or to a file there that may not be read or is no TOML. -/
def Quiet (host : Host) (changed : List String → Prop) (file : Path) : Prop :=
  ∀ place content, host.find true file.toText = .ok (place, .file content) → changed place →
    host.disk.isLocked place = true ∨ Malformed host content

lemma readDocument_of_ends (quiet : Quiet host changed file)
    (ends : host.Ends changed file.toText (host.find true file.toText)) :
    readDocument host file = .ok none := by
  generalize hfind : host.find true file.toText = result at ends
  have hentry : host.entry file.toText = result.map (·.2) := by rw [Host.entry, hfind]
  cases ends with
  | missing => exact readDocument_of_absent hentry
  | notDirectory => exact readDocument_of_absent hentry
  | @file place content hchanged present =>
    cases hread : host.read file.toText with
    | error error =>
      rw [readDocument, hentry]
      simp only [Except.map, hread]
    | ok found =>
      obtain ⟨same, hsame, notLocked⟩ := Host.read_eq_ok_iff.mp hread
      cases hfind.symm.trans hsame
      rw [readDocument_of_read hread]
      rcases quiet place content hfind hchanged with locked | malformed
      · cases locked.symm.trans notLocked
      · exact parseDocument_of_malformed malformed

/-- A file contributes the same on both hosts if it is none of the changed ones that hold TOML. -/
lemma readDocument_agree (same : host.SameBut changed other) (quiet : Quiet host changed file)
    (otherQuiet : Quiet other changed file) : readDocument host file = readDocument other file := by
  rcases Host.read_agree same file.toText with ⟨hfind, hread⟩ | ⟨hends, hother⟩
  · have hparse : parseDocument host = parseDocument other := by
      funext content
      rw [parseDocument, parseDocument, same.tooDeep]
    rw [readDocument, readDocument, Host.entry, Host.entry, hfind, hread, hparse]
  · rw [readDocument_of_ends quiet hends, readDocument_of_ends otherQuiet hother]

end LineFold.Settings
