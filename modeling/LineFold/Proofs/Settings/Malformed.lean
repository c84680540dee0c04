import LineFold.Proofs.Settings.Nearest

/-! Files that are no TOML. A file that is UTF-8 but no TOML has the same effect as none, wherever it is,
and so has one that may not be read. A file that is not UTF-8 ends the search instead, and so do one that
nests too deep, a number of too many digits and a file that cannot be looked at: these are the only ways in
which the search fails without a table that says something wrong. -/
namespace LineFold.Settings

variable {host other : Host} {file : Path} {tables : List (List String)} {error : LoadError}

/-- Whether a search meets a file that ends it, with no table before. -/
inductive Stopped (host : Host) (error : LoadError) : List (Path × List (List String)) → Prop where
  | here {file tables rest} (unreadable : Unreadable host file error) :
      Stopped host error ((file, tables) :: rest)
  | later {file tables rest} (readable : Readable host file)
      (silent : tablesIn host file tables = []) (stopped : Stopped host error rest) :
      Stopped host error ((file, tables) :: rest)

/-- Apart from errors in a table, a search fails where it is stopped. -/
lemma firstOf_eq_error_iff {files : List (Path × List (List String))}
    (notSettings : ∀ fault, error ≠ .settings fault) :
    firstOf host files = .error error ↔ Stopped host error files := by
  induction files with
  | nil => exact ⟨fun h => (by cases h), fun h => (by cases h)⟩
  | cons candidate rest ih =>
    obtain ⟨file, tables⟩ := candidate
    constructor
    · intro h
      by_cases readable : Readable host file
      · cases htables : tablesIn host file tables with
        | nil =>
          rw [firstOf_of_silent readable htables] at h
          exact .later readable htables (ih.mp h)
        | cons found more =>
          rw [firstOf_of_found readable htables] at h
          cases hsettings : found.settings with
          | error fault =>
            rw [hsettings] at h
            cases h
            exact absurd rfl (notSettings fault)
          | ok settings =>
            rw [hsettings] at h
            cases h
      · obtain ⟨first, hfirst⟩ := not_forall.mp readable
        have unreadable := not_not.mp hfirst
        rw [firstOf_of_unreadable unreadable] at h
        cases h
        exact .here unreadable
    · intro h
      cases h with
      | here unreadable => exact firstOf_of_unreadable unreadable
      | later readable silent stopped =>
        rw [firstOf_of_silent readable silent]
        exact ih.mpr stopped

/-- Whether the files at some places may not be read or are no TOML. -/
def SilentAt (host : Host) (changed : List String → Prop) : Prop :=
  ∀ place content, changed place → host.disk.entry? place = some (.file content) →
    host.disk.isLocked place = true ∨ Malformed host content

lemma SilentAt.quiet {changed : List String → Prop} (silent : SilentAt host changed) (file : Path) :
    Quiet host changed file :=
  fun place content hfind hchanged => silent place content hchanged (Host.present_of_find hfind)

/-- Hosts that differ in such files only load the same settings. -/
lemma load_eq_of_silent {changed : List String → Prop} (same : host.SameBut changed other)
    (silent : SilentAt host changed) (otherSilent : SilentAt other changed) (start : Path) :
    load host start = load other start := by
  have hread : ∀ file, readDocument host file = readDocument other file :=
    fun file => readDocument_agree same (silent.quiet file) (otherSilent.quiet file)
  have hfirst : ∀ files, firstOf host files = firstOf other files := by
    intro files
    induction files with
    | nil => rfl
    | cons candidate rest ih => rw [firstOf, firstOf, ofFile, ofFile, hread, ih]
  rw [load, load, Host.resolveLoosely_eq same]
  simp only [hfirst]

/-- For a directory that a path leads to, loading fails only for a wrong table or where a file ends the search
before there is any table; a file that is UTF-8 but no TOML may as well be removed, and so may one that may
not be read. -/
theorem malformed_counts_as_absent (host : Host) (start : Path) (place : List String)
    (nulFree : host.disk.NulFree) (grounded : host.Grounded)
    (reached : host.Reaches start place .directory) :
    (∀ error, (∀ fault, error ≠ .settings fault) →
      (load host start = .error error ↔ Stopped host error (candidates (Path.ofParts place)))) ∧
    ∀ changed content, host.disk.entry? changed = some (.file content) →
      host.disk.isLocked changed = true ∨ Malformed host content →
      load { host with disk := host.disk.without changed } start = load host start := by
  constructor
  · intro error notSettings
    rw [load_of_resolved (reached.resolveLoosely nulFree grounded), ← firstOf_eq_error_iff notSettings]
    cases firstOf host (candidates (Path.ofParts place)) <;> simp [Except.map]
  · intro changed content present silent
    have same : host.SameBut (· = changed) { host with disk := host.disk.without changed } :=
      ⟨Disk.sameBut_without present, rfl, rfl⟩
    have only : SilentAt host (· = changed) := by
      rintro place other rfl hother
      rw [present] at hother
      cases hother
      exact silent
    have removed : SilentAt { host with disk := host.disk.without changed } (· = changed) := by
      rintro place other rfl hother
      rw [Disk.without_entry (Disk.ne_nil_of_file present), if_pos rfl] at hother
      cases hother
    exact (load_eq_of_silent same only removed start).symm

/-- A bracket that is left open counts for no file at all. -/
theorem malformed_counts_as_absent_bracket :
    (rootHost [0x5b]).disk.NulFree ∧ (rootHost [0x5b]).Grounded ∧
      (rootHost [0x5b]).Reaches ⟨"/", []⟩ [] .directory ∧
      (rootHost [0x5b]).disk.entry? ["pyproject.toml"] = some (.file [0x5b]) ∧
      Malformed (rootHost [0x5b]) [0x5b] ∧
      load { rootHost [0x5b] with disk := (rootHost [0x5b]).disk.without ["pyproject.toml"] } ⟨"/", []⟩ =
        load (rootHost [0x5b]) ⟨"/", []⟩ := by
  have nulFree := nulFree_rootHost [0x5b]
  have grounded := grounded_rootHost [0x5b]
  have reached := reaches_rootHost [0x5b]
  have present : (rootHost [0x5b]).disk.entry? ["pyproject.toml"] = some (.file [0x5b]) := rfl
  have malformed : Malformed (rootHost [0x5b]) [0x5b] := ⟨['['], by decide +kernel, rfl, by rfl⟩
  exact ⟨nulFree, grounded, reached, present, malformed,
    (malformed_counts_as_absent _ _ _ nulFree grounded reached).2 _ _ present (Or.inr malformed)⟩

/-- A byte that is no UTF-8 does not count for an absent file: loading fails, and not for a table. -/
theorem invalid_byte_stops_search :
    ¬ ∀ (host : Host) (start : Path) (place : List String), host.disk.NulFree → host.Grounded →
      host.Reaches start place .directory →
      ∀ error, load host start = .error error → ∃ fault, error = .settings fault := by
  intro h
  have hload : load (rootHost [0xff]) ⟨"/", []⟩ = .error (.notUtf8 ⟨.start, 0xff, 0, 1⟩) := by
    rfl
  obtain ⟨fault, hfault⟩ := h _ _ _ (nulFree_rootHost [0xff]) (grounded_rootHost [0xff])
    (reaches_rootHost [0xff]) _ hload
  cases hfault

end LineFold.Settings
