import LineFold.Files.Document
import LineFold.Proofs.Files.Given
import LineFold.Proofs.Files.Lookup
import LineFold.Proofs.Guards
import LineFold.Proofs.Limits
import LineFold.Proofs.Text.Lines
import LineFold.Proofs.Text.Utf8

/-! Loading a document. It succeeds exactly where a path leads to a file that holds UTF-8, no line of
which is too long, and the lines are those of the text as if line ends had not been unified before. A path
with a lone surrogate leads nowhere, and the failure is none of those of documents. -/
namespace LineFold.Host
open LineFold.Guards

variable {host : Host} {given : GivenPath} {path : Path} {limit : Int} {limit? : Option Int}
  {text : String} {content : List UInt8} {lines : List String}

/-- Whether a path leads to a file that may be read and holds a text in UTF-8. -/
def HoldsText (host : Host) (given : GivenPath) (text : String) : Prop :=
  (∀ surrogate, Sign.lone surrogate ∉ given.signs) ∧
    host.read given.path.toText = .ok (Text.Utf8.encode text.toList)

section Reading

lemma read_ne_nulByte (noNul : '\x00' ∉ text.toList) : host.read text ≠ .error .nulByte := by
  intro h
  rw [read, bind_eq_error] at h
  rcases h with h | ⟨⟨place, entry⟩, -, h⟩
  · unfold find at h
    simp only [List.contains_eq_mem, noNul, decide_false, Bool.false_eq_true, if_false] at h
    split at h <;> cases h
  · rw [refuse_eq_error] at h
    rcases h with ⟨-, h⟩ | ⟨-, h⟩
    · cases h
    · cases entry <;> cases h

lemma readContent_eq_ok_iff :
    host.readContent path = .ok content ↔ host.read path.toText = .ok content := by
  rw [readContent]
  cases host.read path.toText with
  | ok found => simp
  | error error =>
    cases error with
    | nulByte => simp
    | obstacle obstacle blocked => cases obstacle <;> simp

lemma readContent_isExpected {error : DocumentError} (noNul : '\x00' ∉ path.toText.toList)
    (h : host.readContent path = .error error) : error.isExpected = true := by
  rw [readContent] at h
  cases hread : host.read path.toText with
  | ok content =>
    rw [hread] at h
    cases h
  | error cause =>
    rw [hread] at h
    cases cause with
    | nulByte => exact absurd hread (read_ne_nulByte noNul)
    | obstacle obstacle blocked => cases obstacle <;> cases h <;> rfl

end Reading

section Size

variable {size : Nat}

lemma fileSize_eq_ok_iff :
    host.fileSize path = .ok size ↔
      ∃ content, host.linkEntry path.toText = .ok (.file content) ∧ size = content.length := by
  rw [fileSize]
  cases host.linkEntry path.toText with
  | error error => cases error <;> simp
  | ok entry => cases entry <;> simp [eq_comm]

/-- A size passes where the path is the one of a file itself that is not too large. -/
lemma checkedFileSize_eq_ok_iff :
    host.checkedFileSize path limit = .ok size ↔
      (∃ content, host.linkEntry path.toText = .ok (.file content) ∧ size = content.length) ∧
        (size : Int) ≤ limit := by
  simp only [checkedFileSize, bind_eq_ok, refuse_eq_ok, fileSize_eq_ok_iff, Int.not_lt]
  constructor
  · rintro ⟨found, hfound, hle, h⟩
    cases h
    exact ⟨hfound, hle⟩
  · rintro ⟨hfound, hle⟩
    exact ⟨size, hfound, hle, rfl⟩

end Size

section Loading

/-- Behind the checks of the limit and of the path a document is what the file holds. -/
lemma document_of_encodable (positive : 0 < limit?.getD defaultMaxLineLength)
    (encodable : given.unencodable? = none) :
    host.document given limit? = host.readLines given.path (limit?.getD defaultMaxLineLength) := by
  rw [document]
  simp only [if_neg (Int.not_le.mpr positive), encodable]

lemma document_of_unencodable {fault : Unencodable} (positive : 0 < limit?.getD defaultMaxLineLength)
    (unencodable : given.unencodable? = some fault) :
    host.document given limit? = .error (.notEncodable fault) := by
  rw [document]
  simp only [if_neg (Int.not_le.mpr positive), unencodable]
  rfl

/-- The text of a file is refused only where one of its lines is too long. -/
lemma document_of_holdsText (positive : 0 < limit?.getD defaultMaxLineLength)
    (holds : host.HoldsText given text) :
    host.document given limit? =
      match longLine? (limit?.getD defaultMaxLineLength) (Text.splitLines text) with
      | some line => .error (.longLine given.path line)
      | none => .ok (Text.splitLines text) := by
  obtain ⟨encodable, hread⟩ := holds
  have hdecode : Text.Utf8.decode (Text.Utf8.encode text.toList) = .ok text.toList :=
    Text.Utf8.decode_eq_ok_iff.mpr rfl
  rw [document_of_encodable positive (unencodableFrom?_eq_none_iff.mpr encodable), readLines,
    readContent_eq_ok_iff.mpr hread]
  change ((Text.Utf8.decode _).mapError _ >>= _) = _
  rw [hdecode, Text.splitLines, ← Text.splitLinesFrom_unifyLineEnds]
  rfl

lemma positive_of_document (h : host.document given limit? = .ok lines) :
    0 < limit?.getD defaultMaxLineLength := by
  by_contra hlimit
  rw [document] at h
  simp only [if_pos (Int.not_lt.mp hlimit)] at h
  cases h

lemma holdsText_of_document (h : host.document given limit? = .ok lines) :
    ∃ text, host.HoldsText given text := by
  have positive := positive_of_document h
  cases hencodable : given.unencodable? with
  | some fault =>
    rw [document_of_unencodable positive hencodable] at h
    cases h
  | none =>
    simp only [document_of_encodable positive hencodable, readLines, bind_eq_ok, mapError_eq_ok,
      readContent_eq_ok_iff, Text.Utf8.decode_eq_ok_iff] at h
    obtain ⟨content, hread, chars, rfl, -⟩ := h
    refine ⟨String.ofList chars, unencodableFrom?_eq_none_iff.mp hencodable, ?_⟩
    rw [String.toList_ofList]
    exact hread

theorem document_eq_ok_iff :
    host.document given limit? = .ok lines ↔
      0 < limit?.getD defaultMaxLineLength ∧
        (∃ text, host.HoldsText given text ∧ lines = Text.splitLines text) ∧
        ∀ line ∈ lines, (line.length : Int) ≤ limit?.getD defaultMaxLineLength := by
  constructor
  · intro h
    have positive := positive_of_document h
    obtain ⟨text, holds⟩ := holdsText_of_document h
    rw [document_of_holdsText positive holds] at h
    cases hlong : longLine? (limit?.getD defaultMaxLineLength) (Text.splitLines text) with
    | some line => simp [hlong] at h
    | none =>
      obtain rfl : Text.splitLines text = lines := by simpa [hlong] using h
      exact ⟨positive, ⟨text, holds, rfl⟩, longLine?_eq_none_iff.mp hlong⟩
  · rintro ⟨positive, ⟨text, holds, rfl⟩, hle⟩
    rw [document_of_holdsText positive holds, longLine?_eq_none_iff.mpr hle]

lemma document_of_longLine (positive : 0 < limit?.getD defaultMaxLineLength)
    (holds : host.HoldsText given text)
    (long : ∃ line ∈ Text.splitLines text, limit?.getD defaultMaxLineLength < line.length) :
    ∃ number, IsLeast {number | OverlongAt (limit?.getD defaultMaxLineLength)
        (Text.splitLines text) number} number ∧
      host.document given limit? =
        .error (.longLine given.path ⟨number, limit?.getD defaultMaxLineLength⟩) := by
  obtain ⟨⟨number, bound⟩, hfound⟩ := exists_longLine? long
  obtain ⟨rfl, hleast⟩ := isLeast_of_longLine? hfound
  exact ⟨number, hleast, by rw [document_of_holdsText positive holds, hfound]⟩

lemma document_isExpected {error : DocumentError} (encodable : given.unencodable? = none)
    (noNul : Sign.char '\x00' ∉ given.signs) (h : host.document given limit? = .error error) :
    error.isExpected = true := by
  by_cases positive : 0 < limit?.getD defaultMaxLineLength
  · simp only [document_of_encodable positive encodable, readLines, bind_eq_error, mapError_eq_error] at h
    rcases h with h | ⟨content, -, ⟨fault, -, rfl⟩ | ⟨chars, -, h⟩⟩
    · exact readContent_isExpected (GivenPath.noNul_path encodable noNul) h
    · rfl
    · split at h <;> cases h
      rfl
  · rw [document] at h
    simp only [if_pos (Int.not_lt.mp positive)] at h
    cases h
    rfl

/-- What is no failure of documents is a surrogate in the path. -/
lemma unexpected_iff (noNul : Sign.char '\x00' ∉ given.signs) :
    (∃ error, host.document given limit? = .error error ∧ error.isExpected = false) ↔
      0 < limit?.getD defaultMaxLineLength ∧ ∃ surrogate, Sign.lone surrogate ∈ given.signs := by
  constructor
  · rintro ⟨error, h, unexpected⟩
    cases hencodable : given.unencodable? with
    | none =>
      rw [document_isExpected hencodable noNul h] at unexpected
      cases unexpected
    | some fault =>
      obtain ⟨before, rest, hsigns, -⟩ := unencodableFrom?_eq_some hencodable
      refine ⟨?_, fault.first, by simp [hsigns]⟩
      by_contra hlimit
      rw [document] at h
      simp only [if_pos (Int.not_lt.mp hlimit)] at h
      cases h
      cases unexpected
  · rintro ⟨positive, surrogate, hsurrogate⟩
    cases hencodable : given.unencodable? with
    | none => exact absurd hsurrogate (unencodableFrom?_eq_none_iff.mp hencodable surrogate)
    | some fault => exact ⟨_, document_of_unencodable positive hencodable, rfl⟩

end Loading

/-- A document is loaded exactly where the limit is positive and the path leads to a file of UTF-8 with
no line above the limit, and its lines are those of the text. Whatever else comes of it is a failure of
documents, unless the path holds a lone surrogate; and where only a line is too long the message has the
number of the first such line. -/
theorem document_loads (host : Host) (given : GivenPath) (noNul : Sign.char '\x00' ∉ given.signs)
    (limit? : Option Int) :
    let bound := limit?.getD defaultMaxLineLength
    (∀ lines, host.document given limit? = .ok lines ↔
      0 < bound ∧ (∃ text, host.HoldsText given text ∧ lines = Text.splitLines text) ∧
        ∀ line ∈ lines, (line.length : Int) ≤ bound) ∧
    ((∃ error, host.document given limit? = .error error ∧ error.isExpected = false) ↔
      0 < bound ∧ ∃ surrogate, Sign.lone surrogate ∈ given.signs) ∧
    ∀ text, 0 < bound → host.HoldsText given text →
      (∃ line ∈ Text.splitLines text, bound < line.length) →
      ∃ error number, host.document given limit? = .error error ∧
        IsLeast {number | OverlongAt bound (Text.splitLines text) number} number ∧
        error.message = given.path.toText ++ " contains a line at line " ++ toString number ++
          " exceeding the maximum allowed length of " ++ toString bound ++ " characters." := by
  intro bound
  refine ⟨fun lines => document_eq_ok_iff, unexpected_iff noNul, ?_⟩
  intro text positive holds long
  obtain ⟨number, hleast, h⟩ := document_of_longLine positive holds long
  exact ⟨_, number, h, hleast, rfl⟩

/-- A host with one text file at the root. -/
def textHost (text : String) : Host where
  disk := { entries := [(["notes.txt"], .file (Text.Utf8.encode text.toList))] }
  current := []
  environment := []
  homes := []

def notes : GivenPath := (Path.ofParts ["notes.txt"]).given

lemma holdsText_textHost (text : String) : (textHost text).HoldsText notes text :=
  ⟨unencodableFrom?_eq_none_iff.mp (Path.unencodable?_given _), rfl⟩

lemma splitLines_mixed : Text.splitLines "a\r\r\nbé\n\rc" = ["a", "", "bé", "", "c"] := by
  decide +kernel

theorem document_loads_mixed :
    let host := textHost "a\r\r\nbé\n\rc"
    Sign.char '\x00' ∉ notes.signs ∧
      host.document notes none = .ok ["a", "", "bé", "", "c"] ∧
      ∃ error, host.document notes (some 1) = .error error ∧ error.isExpected = true ∧
        error.message = "/notes.txt contains a line at line 3 exceeding the maximum allowed length " ++
          "of 1 characters." := by
  intro host
  have noNul : Sign.char '\x00' ∉ notes.signs := by decide
  have holds : host.HoldsText notes "a\r\r\nbé\n\rc" := holdsText_textHost _
  obtain ⟨loads, -, -⟩ := document_loads host notes noNul none
  obtain ⟨-, unexpected, long⟩ := document_loads host notes noNul (some 1)
  refine ⟨noNul, (loads _).mpr ⟨by decide, ⟨_, holds, splitLines_mixed.symm⟩, by decide⟩, ?_⟩
  have third : IsLeast {number | OverlongAt 1 ["a", "", "bé", "", "c"] number} 3 := by
    refine ⟨⟨2, "bé", rfl, rfl, by decide⟩, ?_⟩
    rintro number ⟨index, line, rfl, hget, hlong⟩
    match index with
    | 0 | 1 =>
      cases hget
      exact absurd hlong (by decide)
    | index + 2 => omega
  have hlong : ∃ line ∈ Text.splitLines "a\r\r\nbé\n\rc", (1 : Int) < line.length := by
    rw [splitLines_mixed]
    decide
  obtain ⟨error, number, h, hleast, hmessage⟩ := long _ (by decide) holds hlong
  rw [splitLines_mixed] at hleast
  obtain rfl := hleast.unique third
  refine ⟨error, h, ?_, hmessage⟩
  by_contra hexpected
  obtain ⟨-, surrogate, hsurrogate⟩ := unexpected.mp ⟨error, h, Bool.eq_false_iff.mpr hexpected⟩
  exact holds.1 surrogate hsurrogate

/-- The first of the surrogates. -/
def firstSurrogate : LoneSurrogate := ⟨0xD800, by decide, by decide⟩

def surrogatePath : GivenPath := ⟨"/", [Sign.lone firstSurrogate :: ".txt".toList.map .char]⟩

example : (DocumentError.notEncodable ⟨1, firstSurrogate, 0⟩).message =
    "'utf-8' codec can't encode character '\\ud800' in position 1: surrogates not allowed" := by
  decide +kernel

/-- A path with a lone surrogate fails in a way that no document does. -/
theorem surrogate_not_expected :
    ¬ ∀ (host : Host) (given : GivenPath), Sign.char '\x00' ∉ given.signs →
      ∀ limit? error, host.document given limit? = .error error → error.isExpected = true := by
  intro h
  have hload : (textHost "").document surrogatePath none = .error (.notEncodable ⟨1, firstSurrogate, 0⟩) := by
    decide +kernel
  cases h (textHost "") surrogatePath (by decide) none _ hload

end LineFold.Host
