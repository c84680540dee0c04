import LineFold.Proofs.Files.Walk
import LineFold.Proofs.Guards

/-! Looking up the text of a path. A text without NUL that is not empty and not too long is walked
from the root or from the present directory, and what its slashes leave besides the parts of the
path leads nowhere else. -/
namespace LineFold
open LineFold.Path (IsPart IsName enter)

/-- The directory that the parts of a path are followed from. -/
def Path.origin (path : Path) (current : List String) : List String :=
  if path.isAbsolute then [] else current

namespace Host

variable {host : Host} {follow : Bool} {text : String} {found : List String × Entry} {entry : Entry}

lemma find_eq_ok_iff :
    host.find follow text = .ok found ↔
      '\x00' ∉ text.toList ∧ text ≠ "" ∧ text.utf8ByteSize < Disk.pathLimit ∧
        host.disk.walk follow Disk.linkLimit (if Path.isRooted text then [] else host.current)
          (Path.splitSlashes text) = .ok found := by
  unfold find
  by_cases hnul : '\x00' ∈ text.toList
  · simp [hnul]
  by_cases hempty : text = ""
  · simp [hempty]
  by_cases hlong : text.utf8ByteSize ≥ Disk.pathLimit
  · simp [hnul, hempty, hlong, Nat.not_lt.mpr hlong]
  · have hshort : text.utf8ByteSize < Disk.pathLimit := Nat.not_le.mp hlong
    simp only [List.contains_eq_mem, hnul, decide_false, Bool.false_eq_true, if_false, hempty, hlong,
      not_false_eq_true, ne_eq, hshort, true_and]
    generalize host.disk.walk follow Disk.linkLimit (if Path.isRooted text then [] else host.current)
      (Path.splitSlashes text) = result
    cases result <;> simp

lemma walk_of_find_tooManyLinks {file : String}
    (h : host.find follow text = .error (.obstacle .tooManyLinks file)) :
    host.disk.walk follow Disk.linkLimit (if Path.isRooted text then [] else host.current)
      (Path.splitSlashes text) = .error .tooManyLinks := by
  unfold find at h
  by_cases hnul : text.toList.contains '\x00' = true
  · rw [if_pos hnul] at h
    cases h
  by_cases hempty : text = ""
  · simp only [if_neg hnul, if_pos hempty] at h
    cases h
  by_cases hlong : text.utf8ByteSize ≥ Disk.pathLimit
  · simp only [if_neg hnul, if_neg hempty, if_pos hlong] at h
    cases h
  simp only [if_neg hnul, if_neg hempty, if_neg hlong] at h
  generalize host.disk.walk follow Disk.linkLimit (if Path.isRooted text then [] else host.current)
    (Path.splitSlashes text) = result at h ⊢
  cases result with
  | error obstacle =>
    cases h
    rfl
  | ok found => cases h

lemma linkEntry_eq_ok_iff :
    host.linkEntry text = .ok entry ↔ ∃ place, host.find false text = .ok (place, entry) := by
  rw [linkEntry]
  cases host.find false text with
  | error error => simp [Except.map]
  | ok found => simp [Except.map, Prod.ext_iff]

lemma linkEntry_eq_error_iff {error : AccessError} :
    host.linkEntry text = .error error ↔ host.find false text = .error error := by
  rw [linkEntry]
  cases host.find false text <;> simp [Except.map]

lemma entry_eq_ok_iff :
    host.entry text = .ok entry ↔ ∃ place, host.find true text = .ok (place, entry) := by
  rw [Host.entry]
  cases host.find true text with
  | error error => simp [Except.map]
  | ok found => simp [Except.map, Prod.ext_iff]

/-- What a path itself is the entry of is what it leads to, unless it is a link. -/
lemma entry_of_linkEntry (h : host.linkEntry text = .ok entry) (notLink : ∀ target, entry ≠ .link target) :
    host.entry text = .ok entry := by
  obtain ⟨place, hfind⟩ := linkEntry_eq_ok_iff.mp h
  obtain ⟨noNul, nonempty, short, hwalk⟩ := find_eq_ok_iff.mp hfind
  have hfollow := Disk.walk_follow notLink hwalk
  exact entry_eq_ok_iff.mpr ⟨place, find_eq_ok_iff.mpr ⟨noNul, nonempty, short, hfollow⟩⟩

/-- What may come of looking up a path. -/
inductive Outcome (host : Host) (text : String) : Except AccessError (List String × Entry) → Prop where
  | nulByte : host.Outcome text (.error .nulByte)
  | missing : host.Outcome text (.error (.obstacle .missing text))
  | permissionDenied : host.Outcome text (.error (.obstacle .permissionDenied text))
  | notDirectory : host.Outcome text (.error (.obstacle .notDirectory text))
  | nameTooLong : host.Outcome text (.error (.obstacle .nameTooLong text))
  | tooManyLinks : host.Outcome text (.error (.obstacle .tooManyLinks text))
  | found {place : List String} {entry : Entry} (present : host.disk.entry? place = some entry) :
      host.Outcome text (.ok (place, entry))

lemma find_outcome (host : Host) (follow : Bool) (text : String) :
    host.Outcome text (host.find follow text) := by
  unfold find
  by_cases hnul : text.toList.contains '\x00' = true
  · rw [if_pos hnul]
    exact .nulByte
  rw [if_neg hnul]
  by_cases hempty : text = ""
  · simp only [if_pos hempty]
    exact .missing
  by_cases hlong : text.utf8ByteSize ≥ Disk.pathLimit
  · simp only [if_neg hempty, if_pos hlong]
    exact .nameTooLong
  simp only [if_neg hempty, if_neg hlong]
  have houtcome : host.disk.Outcome (host.disk.walk follow Disk.linkLimit
      (if Path.isRooted text then [] else host.current) (Path.splitSlashes text)) :=
    Disk.walk_outcome
  generalize host.disk.walk follow Disk.linkLimit
    (if Path.isRooted text then [] else host.current) (Path.splitSlashes text) = result at houtcome
  cases houtcome with
  | missing => exact .missing
  | permissionDenied => exact .permissionDenied
  | notDirectory => exact .notDirectory
  | nameTooLong => exact .nameTooLong
  | tooManyLinks => exact .tooManyLinks
  | found present => exact .found present

/-- What a lookup finds is there. -/
lemma present_of_find {place : List String} (h : host.find follow text = .ok (place, entry)) :
    host.disk.entry? place = some entry := by
  have houtcome := host.find_outcome follow text
  rw [h] at houtcome
  cases houtcome with
  | found present => exact present

lemma obstacle_of_entry {obstacle : Obstacle} {path : String}
    (h : host.entry text = .error (.obstacle obstacle path)) : path = text ∧ obstacle ≠ .isDirectory := by
  have houtcome := host.find_outcome true text
  unfold Host.entry at h
  generalize host.find true text = result at houtcome h
  cases houtcome <;> cases h <;> exact ⟨rfl, by decide⟩

lemma read_eq_ok_iff {content : List UInt8} :
    host.read text = .ok content ↔
      ∃ place, host.find true text = .ok (place, .file content) ∧ host.disk.isLocked place = false := by
  rw [read, Guards.bind_eq_ok]
  constructor
  · rintro ⟨⟨place, entry⟩, hfind, h⟩
    obtain ⟨hlocked, h⟩ := Guards.refuse_eq_ok.mp h
    cases entry with
    | file found =>
      cases h
      exact ⟨place, hfind, Bool.eq_false_iff.mpr hlocked⟩
    | directory => cases h
    | link target => cases h
  · rintro ⟨place, hfind, hlocked⟩
    exact ⟨_, hfind, Guards.refuse_eq_ok.mpr ⟨Bool.eq_false_iff.mp hlocked, rfl⟩⟩

variable {path : Path} {parts : List String}

/-- What the text of a path leads to is what its parts lead to. -/
lemma walk_of_find (proper : path.Proper) (h : host.find follow path.toText = .ok found) :
    host.disk.walk follow Disk.linkLimit (path.origin host.current) path.parts = .ok found := by
  obtain ⟨hrooted, lead, hsplit, hlead, -⟩ := Path.splitSlashes_toText proper
  obtain ⟨-, -, -, hwalk⟩ := find_eq_ok_iff.mp h
  rw [hrooted, hsplit] at hwalk
  exact Disk.walk_of_lead hlead hwalk

lemma find_of_walk (proper : path.Proper) (ne : path.parts ≠ [])
    (noNul : '\x00' ∉ path.toText.toList) (short : path.toText.utf8ByteSize < Disk.pathLimit)
    (h : host.disk.walk follow Disk.linkLimit (path.origin host.current) path.parts = .ok found) :
    host.find follow path.toText = .ok found := by
  obtain ⟨hrooted, lead, hsplit, -, hfront⟩ := Path.splitSlashes_toText proper
  refine find_eq_ok_iff.mpr ⟨noNul, path.toText_ne_empty, short, ?_⟩
  rw [hrooted, hsplit]
  rcases hfront ne with hnone | ⟨habsolute, hempty⟩
  · rw [hnone]
    exact h
  · rw [Path.origin, if_pos habsolute] at h
    rw [if_pos habsolute, Disk.walk_lead rfl hempty]
    exact h

/-- What an absolute path without links leads to is what the disk has at its parts. -/
lemma find_ofParts (names : ∀ name ∈ parts, IsName name) (free : host.disk.LinkFree parts)
    (h : host.find follow (Path.ofParts parts).toText = .ok found) :
    found = (parts, found.2) ∧ host.disk.entry? parts = some found.2 := by
  have proper := Path.proper_ofParts fun name hname => (names name hname).toIsPart
  have hwalk := walk_of_find proper h
  have hplain : host.disk.Plain [] parts := Disk.LinkFree.plain free names
  have noSlash : ∀ part ∈ parts, '/' ∉ part.toList := fun part hpart => (names part hpart).noSlash
  change host.disk.walk follow Disk.linkLimit [] parts = .ok found at hwalk
  rw [← List.append_nil parts] at hwalk
  have hlast := Disk.walk_of_plain noSlash hplain hwalk
  rw [Disk.foldl_enter_names names, List.nil_append] at hlast
  exact Disk.walk_nil_of_ok hlast

end Host

end LineFold
