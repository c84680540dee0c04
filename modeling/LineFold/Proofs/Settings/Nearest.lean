import LineFold.Proofs.Files.Existing
import LineFold.Proofs.Settings.Reading
import LineFold.Proofs.Text.Utf8

/-! The nearest table decides. All tables of settings on the way from a directory to the root are put
in one list, in the order in which they are looked for: what is loaded comes from the first of them
alone. So nothing that is changed in files behind the one with this table has an effect. -/
namespace LineFold.Settings

variable {host other : Host} {file : Path} {tables : List (List String)}

/-- A table that is found in a file. -/
structure Found where
  file : Path
  table : List String
  value : Value

/-- Whether a table has no entries. -/
def Found.isEmpty (found : Found) : Bool :=
  match found.value with
  | .map entries => entries.isEmpty
  | _ => false

/-- The normalized settings of a table. -/
def Found.settings (found : Found) : Except SettingsError Settings :=
  (ofTable found.table found.file found.value).bind normalize

/-- The tables of a file that are there, in the order in which they are looked for. -/
def tablesIn (host : Host) (file : Path) (tables : List (List String)) : List Found :=
  match documentAt? host file with
  | none => []
  | some document =>
    tables.filterMap fun table => (document.valueAt? table).map fun value => ⟨file, table, value⟩

/-- The tables of all files for a directory. -/
def tablesFor (host : Host) (directory : Path) : List Found :=
  (candidates directory).flatMap fun candidate => tablesIn host candidate.1 candidate.2

/-- What is loaded if a table is the first one, if there is any. -/
def decidedBy : Option Found → Except SettingsError Settings
  | none => .ok {}
  | some found => found.settings

lemma ofDocument?_eq (file : Path) (document : Entries) (tables : List (List String)) :
    ofDocument? file document tables =
      (tables.filterMap fun table => (document.valueAt? table).map fun value =>
        Found.mk file table value).head?.map fun found => ofTable found.table found.file found.value := by
  induction tables with
  | nil => rfl
  | cons table rest ih =>
    rw [ofDocument?, List.filterMap_cons]
    cases document.valueAt? table with
    | none => exact ih
    | some value => rfl

/-- What a table says of the settings to load: nothing if there is none. -/
def saidBy : Option Found → Except LoadError (Option Settings)
  | none => .ok none
  | some found => (found.settings.mapError LoadError.settings).map some

lemma ofFile_of_readable (readable : Readable host file) (tables : List (List String)) :
    ofFile host file tables = saidBy (tablesIn host file tables).head? := by
  unfold ofFile tablesIn
  rw [readDocument_of_readable readable]
  cases documentAt? host file with
  | none => rfl
  | some document =>
    have hfirst := ofDocument?_eq file document tables
    simp only [bind, Except.bind]
    cases hfound : ofDocument? file document tables with
    | none =>
      rw [hfound] at hfirst
      rw [Option.map_eq_none_iff.mp hfirst.symm]
      rfl
    | some result =>
      rw [hfound] at hfirst
      obtain ⟨found, hhead, rfl⟩ := Option.map_eq_some_iff.mp hfirst.symm
      rw [hhead, saidBy, Found.settings]
      cases ofTable found.table found.file found.value with
      | error fault => rfl
      | ok settings => cases hnormal : settings.normalize <;> simp only [Except.bind, hnormal] <;> rfl

lemma firstOf_of_unreadable {rest : List (Path × List (List String))} {error : LoadError}
    (unreadable : Unreadable host file error) :
    firstOf host ((file, tables) :: rest) = .error error := by
  rw [firstOf, ofFile, readDocument_eq_error_iff.mpr unreadable]
  rfl

lemma firstOf_of_silent {rest : List (Path × List (List String))} (readable : Readable host file)
    (silent : tablesIn host file tables = []) :
    firstOf host ((file, tables) :: rest) = firstOf host rest := by
  rw [firstOf, ofFile_of_readable readable, silent]
  rfl

lemma firstOf_of_found {rest : List (Path × List (List String))} {found : Found} {more : List Found}
    (readable : Readable host file) (htables : tablesIn host file tables = found :: more) :
    firstOf host ((file, tables) :: rest) =
      (found.settings.mapError LoadError.settings).map some := by
  rw [firstOf, ofFile_of_readable readable, htables]
  simp only [List.head?_cons, saidBy]
  cases found.settings <;> rfl

/-- Among files that can be read the first table decides. -/
lemma firstOf_of_readable {files : List (Path × List (List String))}
    (readable : ∀ candidate ∈ files, Readable host candidate.1) :
    firstOf host files =
      saidBy (files.flatMap fun candidate => tablesIn host candidate.1 candidate.2).head? := by
  induction files with
  | nil => rfl
  | cons candidate rest ih =>
    obtain ⟨file, tables⟩ := candidate
    obtain ⟨hfile, hrest⟩ := List.forall_mem_cons.mp readable
    rw [List.flatMap_cons]
    cases htables : tablesIn host file tables with
    | nil =>
      rw [firstOf_of_silent hfile htables]
      exact ih hrest
    | cons found more => exact firstOf_of_found hfile htables

/-- What decides does not depend on what comes after it. -/
lemma firstOf_append_cons_eq {near far : List (Path × List (List String))}
    (same : ∀ candidate ∈ near, ofFile host candidate.1 candidate.2 = ofFile other candidate.1 candidate.2)
    (sameFile : ofFile host file tables = ofFile other file tables)
    (decides : ofFile host file tables ≠ .ok none) :
    firstOf host (near ++ (file, tables) :: far) = firstOf other (near ++ (file, tables) :: far) := by
  induction near with
  | nil =>
    rw [List.nil_append, firstOf, firstOf, ← sameFile]
    cases hfile : ofFile host file tables with
    | error error => rfl
    | ok settings =>
      cases settings with
      | none => exact absurd hfile decides
      | some settings => rfl
  | cons candidate near ih =>
    obtain ⟨nearer, wanted⟩ := candidate
    obtain ⟨hnearer, hnear⟩ := List.forall_mem_cons.mp same
    rw [List.cons_append, firstOf, firstOf, ← hnearer, ih hnear]

lemma readable_of_document {document : Entries} (h : documentAt? host file = some document) :
    Readable host file := by
  intro error unreadable
  unfold documentAt? at h
  cases unreadable with
  | notUtf8 found invalid => simp [found, invalid] at h
  | tooDeep found valid deep => simp [found, valid, deep] at h
  | longInteger found valid flat long => simp [found, valid, flat, long, Except.toOption] at h
  | blocked kind blocked =>
    cases hread : host.read file.toText with
    | ok content => cases blocked.symm.trans (entry_of_read hread)
    | error error =>
      rw [hread] at h
      cases h

lemma ofFile_ne_none (found : tablesIn host file tables ≠ []) : ofFile host file tables ≠ .ok none := by
  have readable : Readable host file := by
    cases hdocument : documentAt? host file with
    | none => exact absurd (by rw [tablesIn, hdocument]) found
    | some document => exact readable_of_document hdocument
  rw [ofFile_of_readable readable]
  cases htables : tablesIn host file tables with
  | nil => exact absurd htables found
  | cons table more =>
    rw [List.head?_cons, saidBy]
    cases table.settings <;> exact nofun

lemma settings_of_isEmpty {found : Found} (empty : found.isEmpty = true) :
    found.settings = .ok {} := by
  obtain ⟨file, table, value⟩ := found
  cases value with
  | map entries =>
    rw [List.isEmpty_iff.mp empty]
    rfl
  | _ => cases empty

lemma load_of_resolved {start directory : Path} (resolved : host.resolveLoosely start = .ok directory) :
    load host start = (firstOf host (candidates directory)).map (·.getD {}) := by
  unfold load
  rw [resolved]
  change (firstOf host (candidates directory) >>= fun found => pure (found.getD {})) = _
  cases firstOf host (candidates directory) <;> rfl

/-- Whether a path leads to no changed place. -/
def Avoids (host : Host) (changed : List String → Prop) (file : Path) : Prop :=
  ∀ place entry, host.find true file.toText = .ok (place, entry) → ¬changed place

lemma Avoids.quiet {changed : List String → Prop} (avoids : Avoids host changed file) :
    Quiet host changed file :=
  fun place content hfind hchanged => absurd hchanged (avoids place (.file content) hfind)

/-- A file that is not reached through links is the only one that its path leads to. -/
lemma avoids_of_linkFree {changed : List String → Prop} {parts : List String}
    (names : ∀ name ∈ parts, Path.IsName name) (free : host.disk.LinkFree parts)
    (unchanged : ¬changed parts) : Avoids host changed (Path.ofParts parts) := by
  intro place entry hfind
  obtain ⟨hfound, -⟩ := Host.find_ofParts names free hfind
  cases hfound
  exact unchanged

lemma ofFile_agree {changed : List String → Prop} (same : host.SameBut changed other)
    (avoids : Avoids host changed file) (otherAvoids : Avoids other changed file)
    (tables : List (List String)) : ofFile host file tables = ofFile other file tables := by
  rw [ofFile, ofFile, readDocument_agree same avoids.quiet otherAvoids.quiet]

/-- For a directory that a path leads to, what is loaded comes from the first table on the way from its place
to the root, and an empty one gives the default settings, like none. Files that no path up to the one with
this table leads to may be changed, made or removed. -/
theorem nearest_table_decides (host : Host) (start : Path) (place : List String)
    (nulFree : host.disk.NulFree) (grounded : host.Grounded)
    (reached : host.Reaches start place .directory) :
    ((∀ candidate ∈ candidates (Path.ofParts place), Readable host candidate.1) →
      load host start =
        (decidedBy (tablesFor host (Path.ofParts place)).head?).mapError LoadError.settings) ∧
    (∀ found : Found, found.isEmpty → decidedBy (some found) = .ok {}) ∧
    ∀ near file tables far, candidates (Path.ofParts place) = near ++ (file, tables) :: far →
      tablesIn host file tables ≠ [] → ∀ changed other, host.SameBut changed other →
      (∀ candidate ∈ near ++ [(file, tables)],
        Avoids host changed candidate.1 ∧ Avoids other changed candidate.1) →
      load other start = load host start := by
  have resolved := reached.resolveLoosely nulFree grounded
  refine ⟨fun readable => ?_, fun found empty => settings_of_isEmpty empty, ?_⟩
  · rw [load_of_resolved resolved, firstOf_of_readable readable, tablesFor]
    generalize ((candidates (Path.ofParts place)).flatMap fun candidate =>
      tablesIn host candidate.1 candidate.2).head? = first
    cases first with
    | none => rfl
    | some found =>
      simp only [saidBy, decidedBy]
      cases found.settings <;> rfl
  · intro near file tables far split found changed other same avoids
    have otherResolved : other.resolveLoosely start = .ok (Path.ofParts place) := by
      rw [← Host.resolveLoosely_eq same, resolved]
    obtain ⟨hnear, hfile⟩ := List.forall_mem_append.mp avoids
    obtain ⟨⟨avoided, otherAvoided⟩, -⟩ := List.forall_mem_cons.mp hfile
    have hsame : ∀ candidate ∈ near,
        ofFile host candidate.1 candidate.2 = ofFile other candidate.1 candidate.2 :=
      fun candidate h => ofFile_agree same (hnear candidate h).1 (hnear candidate h).2 candidate.2
    have hfirst : firstOf host (near ++ (file, tables) :: far) =
        firstOf other (near ++ (file, tables) :: far) :=
      firstOf_append_cons_eq hsame (ofFile_agree same avoided otherAvoided tables)
        (ofFile_ne_none found)
    rw [load_of_resolved resolved, load_of_resolved otherResolved, split, hfirst]

/-- A working directory whose project file has an empty table, below a project file with a wrong one. -/
def nestedHost : Host where
  disk := { entries := [(["pyproject.toml"], .file (bytes "[tool]\nexplicit-folding = 1\n")),
    (["work"], .directory), (["work", "pyproject.toml"], .file (bytes "[tool.explicit-folding]\n"))] }
  current := ["work"]
  environment := []
  homes := []
where
  bytes (text : String) : List UInt8 := text.toList.map fun c => c.toNat.toUInt8

lemma linkFree_nestedHost : nestedHost.disk.LinkFree ["work", "pyproject.toml"] := by
  have directory : nestedHost.disk.entry? ["work"] = some .directory := rfl
  have file : ∃ content, nestedHost.disk.entry? ["work", "pyproject.toml"] = some (.file content) :=
    ⟨_, rfl⟩
  obtain ⟨content, hfile⟩ := file
  have above := Disk.linkFree_nil.concat (Disk.notLink_of_entry directory (by simp))
  exact above.concat (Disk.notLink_of_entry hfile (by simp))

lemma nulFree_nestedHost : nestedHost.disk.NulFree := Disk.nulFree_of_entries (by decide)

lemma isName_nestedHost : ∀ name ∈ ["work", "pyproject.toml"], Path.IsName name := by
  intro name h
  simp only [List.mem_cons, List.not_mem_nil, or_false] at h
  rcases h with rfl | rfl <;> exact ⟨⟨by decide, by decide, by decide⟩, by decide⟩

lemma grounded_nestedHost : nestedHost.Grounded where
  names := fun name h => isName_nestedHost name (List.mem_cons.mpr (Or.inl (List.mem_singleton.mp h)))
  free := linkFree_nestedHost.of_above (List.prefix_append ["work"] ["pyproject.toml"])

lemma reaches_nestedHost : nestedHost.Reaches ⟨"", []⟩ ["work"] .directory :=
  Host.reaches_current ⟨rfl, rfl⟩

/-- The empty table is found first, and the wrong one may as well be gone. -/
theorem nearest_table_decides_empty :
    nestedHost.disk.NulFree ∧ nestedHost.Grounded ∧ nestedHost.Reaches ⟨"", []⟩ ["work"] .directory ∧
      (∀ candidate ∈ candidates (Path.ofParts ["work"]), Readable nestedHost candidate.1) ∧
      load nestedHost ⟨"", []⟩ = .ok {} ∧
      load { nestedHost with disk := nestedHost.disk.without ["pyproject.toml"] } ⟨"", []⟩ =
        load nestedHost ⟨"", []⟩ := by
  have hread : ∀ candidate ∈ candidates (Path.ofParts ["work"]),
      (readDocument nestedHost candidate.1).isOk = true := by
    decide +kernel
  have readable : ∀ candidate ∈ candidates (Path.ofParts ["work"]), Readable nestedHost candidate.1 :=
    fun candidate h => readable_of_isOk (hread candidate h)
  have hempty : (tablesFor nestedHost (Path.ofParts ["work"])).head?.map Found.isEmpty = some true := by
    decide +kernel
  obtain ⟨found, hfound, empty⟩ := Option.map_eq_some_iff.mp hempty
  have same : nestedHost.SameBut (· = ["pyproject.toml"])
      { nestedHost with disk := nestedHost.disk.without ["pyproject.toml"] } :=
    ⟨Disk.sameBut_without rfl, rfl, rfl⟩
  obtain ⟨hload, hdefault, hindependent⟩ :=
    nearest_table_decides nestedHost ⟨"", []⟩ ["work"] nulFree_nestedHost grounded_nestedHost
      reaches_nestedHost
  have hloaded : load nestedHost ⟨"", []⟩ = .ok {} := by
    rw [hload readable, hfound, hdefault found empty]
    rfl
  have hsplit : candidates (Path.ofParts ["work"]) =
      [] ++ (Path.ofParts ["work", "pyproject.toml"], [projectTable]) ::
        (candidates (Path.ofParts ["work"])).tail := by
    decide +kernel
  have hhere : (tablesIn nestedHost (Path.ofParts ["work", "pyproject.toml"])
      [projectTable]).isEmpty = false := by
    decide +kernel
  refine ⟨nulFree_nestedHost, grounded_nestedHost, reaches_nestedHost, readable, hloaded,
    hindependent _ _ _ _ hsplit ?_ _ _ same ?_⟩
  · intro h
    rw [h] at hhere
    cases hhere
  · intro candidate h
    rw [List.nil_append, List.mem_singleton] at h
    rw [h]
    exact ⟨avoids_of_linkFree isName_nestedHost linkFree_nestedHost (by decide),
      avoids_of_linkFree isName_nestedHost (same.disk.linkFree linkFree_nestedHost) (by decide)⟩

/-- A host with a project file at the root. -/
def rootHost (content : List UInt8) : Host where
  disk := { entries := [(["pyproject.toml"], .file content)] }
  current := []
  environment := []
  homes := []

lemma nulFree_rootHost (content : List UInt8) : (rootHost content).disk.NulFree :=
  Disk.nulFree_of_entries (by simp [rootHost])

lemma grounded_rootHost (content : List UInt8) : (rootHost content).Grounded :=
  ⟨by simp [rootHost], Disk.linkFree_nil⟩

lemma reaches_rootHost (content : List UInt8) : (rootHost content).Reaches ⟨"/", []⟩ [] .directory :=
  Host.reaches_root _

/-- A key that is no setting, with a number of ones as its value. -/
def onesText (digits : Nat) : List Char := ['x', '='] ++ List.replicate digits '1'

set_option maxRecDepth 20000 in
lemma exists_longInteger : ∃ content text, Text.Utf8.decode content = .ok text ∧
    Toml.readText text = .error (.longInteger 4301) := by
  have hread : (Toml.readText (onesText 4301)).map (fun _ => ()) = .error (.longInteger 4301) := by
    decide +kernel
  refine ⟨Text.Utf8.encode (onesText 4301), _, Text.Utf8.decode_eq_ok_iff.mpr rfl, ?_⟩
  generalize Toml.readText (onesText 4301) = result at hread
  cases result with
  | ok document => simp [Except.map] at hread
  | error failure => simpa [Except.map] using hread

lemma candidates_root : candidates (Path.ofParts []) =
    [(⟨"/", ["pyproject.toml"]⟩, [projectTable]),
      (⟨"/", [".explicit-folding.toml"]⟩, [ownTable, projectTable])] := by
  decide +kernel

lemma read_rootHost (content : List UInt8) :
    (rootHost content).read (Path.mk "/" ["pyproject.toml"]).toText = .ok content ∧
      (rootHost content).read (Path.mk "/" [".explicit-folding.toml"]).toText =
        .error (.obstacle .missing "/.explicit-folding.toml") := ⟨rfl, rfl⟩

/-- A number of too many digits ends the search, though there is no table and all is UTF-8. -/
theorem long_integer_stops_search :
    ¬ ∀ (host : Host) (start : Path) (place : List String), host.disk.NulFree → host.Grounded →
      host.Reaches start place .directory →
      (∀ candidate ∈ candidates (Path.ofParts place), ∀ content,
        host.read candidate.1.toText = .ok content → ∃ text, Text.Utf8.decode content = .ok text) →
      load host start =
        (decidedBy (tablesFor host (Path.ofParts place)).head?).mapError LoadError.settings := by
  intro h
  obtain ⟨content, text, hdecode, hread⟩ := exists_longInteger
  obtain ⟨hfound, habsent⟩ := read_rootHost content
  have nulFree := nulFree_rootHost content
  have grounded := grounded_rootHost content
  have reached := reaches_rootHost content
  have valid : ∀ candidate ∈ candidates (Path.ofParts []), ∀ found,
      (rootHost content).read candidate.1.toText = .ok found →
      ∃ text, Text.Utf8.decode found = .ok text := by
    intro candidate hcandidate found hcontent
    rw [candidates_root] at hcandidate
    rcases List.mem_cons.mp hcandidate with rfl | hmem
    · cases hfound.symm.trans hcontent
      exact ⟨text, hdecode⟩
    · rw [List.mem_singleton.mp hmem, habsent] at hcontent
      cases hcontent
  have unreadable : Unreadable (rootHost content) ⟨"/", ["pyproject.toml"]⟩ (.longInteger 4301) :=
    .longInteger hfound hdecode rfl hread
  have hload := h _ _ _ nulFree grounded reached valid
  rw [load_of_resolved (reached.resolveLoosely nulFree grounded), candidates_root,
    firstOf_of_unreadable unreadable] at hload
  generalize decidedBy (tablesFor (rootHost content) (Path.ofParts [])).head? = decided at hload
  cases decided <;> cases hload

end LineFold.Settings
