import LineFold.Files.Resolve
import LineFold.Proofs.Files.Lookup

/-! Hosts that differ in some files. A lookup that comes upon none of these files goes the same way on
both hosts. One that comes upon such a file goes no further on either of them: it has found the file,
or there is none, or the path goes on behind it. So the hosts have the same links, and a path that need
not exist resolves to the same place. -/
namespace LineFold

namespace Disk

variable {changed : List String → Prop} {disk other : Disk} {follow : Bool} {links : Nat}
  {here todo : List String}

/-- Whether there is a regular file or nothing at some places. -/
def FilesAt (disk : Disk) (changed : List String → Prop) : Prop :=
  ∀ place, changed place →
    disk.entry? place = none ∨ ∃ content, disk.entry? place = some (.file content)

/-- Whether two disks have and allow the same but for regular files at some places. -/
structure SameBut (changed : List String → Prop) (disk other : Disk) : Prop where
  entry_eq : ∀ place, ¬changed place → disk.entry? place = other.entry? place
  closed_eq : ∀ place, ¬changed place → disk.isClosed place = other.isClosed place
  locked_eq : ∀ place, ¬changed place → disk.isLocked place = other.isLocked place
  files : disk.FilesAt changed
  otherFiles : other.FilesAt changed

/-- The disk after removal of what is at a place. -/
def without (disk : Disk) (place : List String) : Disk :=
  { disk with entries := disk.entries.filter fun entry => entry.1 ≠ place }

lemma without_entry {place : List String} (ne : place ≠ []) (other : List String) :
    Disk.entry? (disk.without place) other = if other = place then none else disk.entry? other := by
  unfold entry? without
  by_cases hroot : other = []
  · rw [hroot, if_neg (Ne.symm ne)]
    rfl
  have hempty : ¬other.isEmpty = true := by simpa using hroot
  rw [if_neg hempty, if_neg hempty]
  induction disk.entries with
  | nil => simp
  | cons entry entries ih =>
    obtain ⟨key, found⟩ := entry
    by_cases hremoved : key = place
    · subst hremoved
      rw [List.filter_cons_of_neg (by simp), ih, List.lookup_cons]
      by_cases hother : other = key
      · simp [hother]
      · simp [hother, beq_eq_false_iff_ne.mpr hother]
    · rw [List.filter_cons_of_pos (by simpa using hremoved), List.lookup_cons, List.lookup_cons, ih]
      by_cases hother : other = key
      · subst hother
        simp [hremoved]
      · simp [beq_eq_false_iff_ne.mpr hother]

lemma ne_nil_of_file {place : List String} {content : List UInt8}
    (present : disk.entry? place = some (.file content)) : place ≠ [] := by
  rintro rfl
  cases present

lemma sameBut_without {place : List String} {content : List UInt8}
    (present : disk.entry? place = some (.file content)) :
    SameBut (· = place) disk (disk.without place) := by
  have ne := ne_nil_of_file present
  refine ⟨fun other h => ?_, fun _ _ => rfl, fun _ _ => rfl, fun other h => Or.inr ⟨content, ?_⟩,
    fun other h => Or.inl ?_⟩
  · rw [without_entry ne, if_neg h]
  · rw [h, present]
  · rw [without_entry ne, if_pos h]

/-- A change of files makes no links. -/
lemma SameBut.linkFree {place : List String} (same : SameBut changed disk other)
    (free : disk.LinkFree place) : other.LinkFree place := by
  intro above habove target hlink
  by_cases hchanged : changed above
  · rcases same.otherFiles above hchanged with hnone | ⟨content, hfile⟩
    · rw [hnone] at hlink
      cases hlink
    · rw [hfile] at hlink
      cases hlink
  · rw [← same.entry_eq above hchanged] at hlink
    exact free above habove target hlink

/-- What may come of following parts through one of some places. -/
inductive Ends (disk : Disk) (changed : List String → Prop) :
    Except Obstacle (List String × Entry) → Prop where
  | missing : disk.Ends changed (.error .missing)
  | notDirectory : disk.Ends changed (.error .notDirectory)
  | file {place : List String} {content : List UInt8} (hchanged : changed place)
      (present : disk.entry? place = some (.file content)) :
      disk.Ends changed (.ok (place, .file content))

/-- Whether two results are the same or both come from one of some places. -/
def Agree (changed : List String → Prop) (disk other : Disk)
    (result otherResult : Except Obstacle (List String × Entry)) : Prop :=
  result = otherResult ∨ disk.Ends changed result ∧ other.Ends changed otherResult

lemma walk_ends (files : disk.FilesAt changed) (hchanged : changed here) :
    disk.Ends changed (disk.walk follow links here todo) := by
  rcases files here hchanged with hnone | ⟨content, hfile⟩
  · cases todo with
    | nil =>
      rw [walk_nil, hnone]
      exact .missing
    | cons part rest =>
      rw [walk_cons, hnone]
      exact .missing
  · cases todo with
    | nil =>
      rw [walk_nil, hfile]
      exact .file hchanged hfile
    | cons part rest =>
      rw [walk_cons, hfile]
      exact .notDirectory

lemma walk_name_ends {name : String} (files : disk.FilesAt changed)
    (searchable : disk.Searchable here) (moves : Path.Moves name)
    (short : name.utf8ByteSize ≤ nameLimit) (hchanged : changed (here ++ [name])) :
    disk.Ends changed (disk.walk follow links here (name :: todo)) := by
  rcases files _ hchanged with hnone | ⟨content, hfile⟩
  · rw [walk_absent searchable moves short hnone]
    exact .missing
  · have notLink := notLink_of_entry hfile fun _ h => by cases h
    rw [walk_name searchable moves short hfile notLink]
    exact walk_ends files hchanged

/-- A part that names a changed place ends the walk there on both disks; all else that a step reads is the
same on them. -/
lemma walk_agree_of_jump (same : SameBut changed disk other)
    (hjump : ∀ here target rest, Agree changed disk other (disk.jump follow links here target rest)
      (other.jump follow links here target rest)) :
    Agree changed disk other (disk.walk follow links here todo)
      (other.walk follow links here todo) := by
  induction todo generalizing here with
  | nil =>
    by_cases hchanged : changed here
    · exact Or.inr ⟨walk_ends same.files hchanged, walk_ends same.otherFiles hchanged⟩
    · left
      rw [walk_nil, walk_nil, same.entry_eq here hchanged]
  | cons part rest ih =>
    by_cases hchanged : changed here
    · exact Or.inr ⟨walk_ends same.files hchanged, walk_ends same.otherFiles hchanged⟩
    have hhere := same.entry_eq here hchanged
    have hclosed := same.closed_eq here hchanged
    have otherSearchable (searchable : disk.Searchable here) : other.Searchable here :=
      ⟨hhere ▸ searchable.directory, hclosed ▸ searchable.notClosed⟩
    by_cases hnext : changed (here ++ [part]) ∧ disk.Searchable here ∧ Path.Moves part ∧
        part.utf8ByteSize ≤ nameLimit
    · obtain ⟨hnext, searchable, moves, short⟩ := hnext
      exact Or.inr ⟨walk_name_ends same.files searchable moves short hnext,
        walk_name_ends same.otherFiles (otherSearchable searchable) moves short hnext⟩
    have hsame (searchable : disk.Searchable here) (moves : Path.Moves part)
        (short : part.utf8ByteSize ≤ nameLimit) :
        disk.entry? (here ++ [part]) = other.entry? (here ++ [part]) :=
      same.entry_eq _ fun h => hnext ⟨h, searchable, moves, short⟩
    cases disk.step here part with
    | missing absent =>
      left
      rw [walk_missing absent, walk_missing (hhere ▸ absent)]
    | notDirectory present ne =>
      left
      rw [walk_notDirectory present ne, walk_notDirectory (hhere ▸ present) ne]
    | stay directory stays =>
      rw [walk_stay directory stays, walk_stay (hhere ▸ directory) (hclosed ▸ stays)]
      exact ih
    | closed directory nonempty closed =>
      left
      rw [walk_closed directory nonempty closed,
        walk_closed (hhere ▸ directory) nonempty (hclosed ▸ closed)]
    | dots searchable eq =>
      rw [eq, walk_dots searchable, walk_dots (otherSearchable searchable)]
      exact ih
    | tooLong searchable moves long =>
      left
      rw [walk_tooLong searchable moves long, walk_tooLong (otherSearchable searchable) moves long]
    | absent searchable moves short absent =>
      have hother := hsame searchable moves short ▸ absent
      left
      rw [walk_absent searchable moves short absent,
        walk_absent (otherSearchable searchable) moves short hother]
    | link searchable moves short present =>
      have hother := hsame searchable moves short ▸ present
      rw [walk_link searchable moves short present,
        walk_link (otherSearchable searchable) moves short hother]
      split
      · exact Or.inl rfl
      · exact hjump here _ rest
    | name searchable moves short present notLink =>
      have hother := hsame searchable moves short ▸ present
      have otherNotLink : other.NotLink (here ++ [part]) := fun target h =>
        notLink target ((hsame searchable moves short).trans h)
      rw [walk_name searchable moves short present notLink,
        walk_name (otherSearchable searchable) moves short hother otherNotLink]
      exact ih

/-- Parts lead to the same, unless they lead through a changed place on both disks. -/
lemma walk_agree (same : SameBut changed disk other) :
    Agree changed disk other (disk.walk follow links here todo)
      (other.walk follow links here todo) := by
  induction links generalizing here todo with
  | zero => exact walk_agree_of_jump same fun _ _ _ => Or.inl rfl
  | succ links ih =>
    refine walk_agree_of_jump same fun here target rest => ?_
    by_cases hempty : target = ""
    · left
      simp only [jump, if_pos hempty]
    · simpa only [jump, if_neg hempty] using ih

end Disk

namespace Host

variable {changed : List String → Prop} {host other : Host} {follow : Bool} {text : String}

/-- Whether two hosts are the same but for regular files at some places, and for variables and homes. -/
structure SameBut (changed : List String → Prop) (host other : Host) : Prop where
  disk : host.disk.SameBut changed other.disk
  current : host.current = other.current
  tooDeep : host.tooDeep? = other.tooDeep?

/-- What may come of looking up a path that leads through one of some places. -/
inductive Ends (host : Host) (changed : List String → Prop) (text : String) :
    Except AccessError (List String × Entry) → Prop where
  | missing : host.Ends changed text (.error (.obstacle .missing text))
  | notDirectory : host.Ends changed text (.error (.obstacle .notDirectory text))
  | file {place : List String} {content : List UInt8} (hchanged : changed place)
      (present : host.disk.entry? place = some (.file content)) :
      host.Ends changed text (.ok (place, .file content))

lemma ends_of_walk {result : Except Obstacle (List String × Entry)} :
    host.disk.Ends changed result →
      host.Ends changed text (match result with
        | .ok found => .ok found
        | .error obstacle => .error (.obstacle obstacle text)) := by
  intro ends
  cases ends with
  | missing => exact .missing
  | notDirectory => exact .notDirectory
  | file hchanged present => exact .file hchanged present

/-- A path leads to the same on both hosts, unless it leads through a changed place. -/
lemma find_agree (same : host.SameBut changed other) (follow : Bool) (text : String) :
    host.find follow text = other.find follow text ∨
      host.Ends changed text (host.find follow text) ∧
        other.Ends changed text (other.find follow text) := by
  unfold find
  rw [same.current]
  by_cases hnul : text.toList.contains '\x00' = true
  · simp only [if_pos hnul, true_or]
  by_cases hempty : text = ""
  · simp only [if_neg hnul, if_pos hempty, true_or]
  by_cases hlong : text.utf8ByteSize ≥ Disk.pathLimit
  · simp only [if_neg hnul, if_neg hempty, if_pos hlong, true_or]
  simp only [if_neg hnul, if_neg hempty, if_neg hlong]
  rcases Disk.walk_agree same.disk with heq | ⟨hends, hother⟩
  · left
    rw [heq]
  · exact Or.inr ⟨ends_of_walk hends, ends_of_walk hother⟩

/-- A path leads to the same file on both hosts, and may be read on both or on none, unless it leads through
a changed place. -/
lemma read_agree (same : host.SameBut changed other) (text : String) :
    host.find true text = other.find true text ∧ host.read text = other.read text ∨
      host.Ends changed text (host.find true text) ∧ other.Ends changed text (other.find true text) := by
  rcases find_agree same true text with heq | hends
  · cases hfind : host.find true text with
    | error error =>
      left
      rw [read, read, ← heq, hfind]
      exact ⟨rfl, rfl⟩
    | ok found =>
      obtain ⟨place, entry⟩ := found
      have hother : other.find true text = .ok (place, entry) := heq ▸ hfind
      by_cases hchanged : changed place
      · right
        have present := present_of_find hfind
        rw [hother]
        rcases same.disk.files place hchanged with hnone | ⟨content, hfile⟩
        · rw [hnone] at present
          cases present
        · rw [hfile] at present
          cases present
          exact ⟨.file hchanged hfile, .file hchanged (present_of_find hother)⟩
      · left
        have hlocked := same.disk.locked_eq place hchanged
        rw [read, read, hother, hfind]
        simp only [bind, Except.bind, hlocked, and_self]
  · exact Or.inr hends

section Loose

/-- A resolution that need not be strict goes on as if there were no link behind a changed place. -/
lemma resolveWith_of_ends {inner : Option
      (Resolved → List String → MetLinks → Except ResolveError (Resolved × Bool × MetLinks))}
    {done : Resolved} {name : String} {rest : List String} {met : MetLinks}
    (isName : ¬(name = "" ∨ name = ".") ∧ name ≠ "..")
    (ends : host.Ends changed (done.child name).toText
      (host.find false (done.child name).toText)) :
    host.resolveWith false inner done (name :: rest) met =
      host.resolveWith false inner (done.child name) rest met := by
  rw [resolveWith, if_neg isName.1, if_neg isName.2]
  simp only [linkEntry]
  generalize host.find false (done.child name).toText = result at ends
  cases ends with
  | missing => rfl
  | notDirectory => rfl
  | file hchanged present => rfl

lemma resolveWith_eq (same : host.SameBut changed other) (inner : Option
      (Resolved → List String → MetLinks → Except ResolveError (Resolved × Bool × MetLinks))) :
    host.resolveWith false inner = other.resolveWith false inner := by
  funext done todo met
  induction todo generalizing done met with
  | nil => rfl
  | cons name rest ih =>
    by_cases hstay : name = "" ∨ name = "."
    · rw [resolveWith, resolveWith, if_pos hstay, if_pos hstay, ih]
    by_cases hdots : name = ".."
    · rw [resolveWith, resolveWith, if_neg hstay, if_neg hstay, if_pos hdots, if_pos hdots, ih]
    rcases find_agree same false (done.child name).toText with heq | ⟨hends, hother⟩
    · have hlink : host.linkEntry (done.child name).toText =
          other.linkEntry (done.child name).toText := by
        rw [linkEntry, linkEntry, heq]
      rw [resolveWith, resolveWith, if_neg hstay, if_neg hstay, if_neg hdots, if_neg hdots]
      simp only [hlink, ih, endedByLoop, Bool.false_eq_true, if_false]
    · rw [resolveWith_of_ends ⟨hstay, hdots⟩ hends, resolveWith_of_ends ⟨hstay, hdots⟩ hother, ih]

lemma resolveParts_loosely_eq (same : host.SameBut changed other) (depth : Nat) :
    host.resolveParts false depth = other.resolveParts false depth := by
  induction depth with
  | zero => exact resolveWith_eq same none
  | succ depth ih => rw [resolveParts, resolveParts, ih, resolveWith_eq same]

/-- Changes of files do not change where a path resolves to. -/
theorem resolveLoosely_eq (same : host.SameBut changed other) (path : Path) :
    host.resolveLoosely path = other.resolveLoosely path := by
  have hresolve : host.resolve false path = other.resolve false path := by
    rw [resolve, resolve, resolveParts_loosely_eq same, same.current]
  rw [resolveLoosely, resolveLoosely, hresolve]
  cases other.resolve false path with
  | error error => rfl
  | ok resolved =>
    simp only [bind, Except.bind, Host.entry]
    rcases find_agree same true resolved.toText with heq | ⟨hends, hother⟩
    · rw [heq]
    · generalize host.find true resolved.toText = result at hends
      generalize other.find true resolved.toText = otherResult at hother
      cases hends <;> cases hother <;> rfl

end Loose

end Host

end LineFold
