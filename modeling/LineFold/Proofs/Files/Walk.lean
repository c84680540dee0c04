import LineFold.Files.Disk
import LineFold.Proofs.Files.Path
import Mathlib.Data.List.Infix

/-! Following paths on a disk where no link is in the way. Each part then leads one directory further
down or up, so the place a path leads to can be told from its parts alone, and the walk uses up no
links. A place is free of links if there is none on it and none above it. -/
namespace LineFold.Disk
open LineFold.Path (IsPart IsName Moves enter)

/-- Whether there is no link at a place itself. -/
def NotLink (disk : Disk) (place : List String) : Prop :=
  ∀ target, disk.entry? place ≠ some (.link target)

/-- Whether there is no link at a place or at one above it. -/
def LinkFree (disk : Disk) (place : List String) : Prop :=
  ∀ above, above <+: place → disk.NotLink above

/-- Whether no name among parts that are followed from a directory is one of a link. -/
def Plain (disk : Disk) : List String → List String → Prop
  | _, [] => True
  | here, part :: rest =>
    (IsName part → disk.NotLink (here ++ [part])) ∧ disk.Plain (enter here part) rest

variable {disk : Disk} {follow : Bool} {links : Nat} {here place parts rest : List String}
  {part name : String} {found : List String × Entry} {entry : Entry}

section Places

lemma notLink_of_entry (present : disk.entry? place = some entry)
    (notLink : ∀ target, entry ≠ .link target) : disk.NotLink place := by
  intro target hlink
  rw [present] at hlink
  exact notLink target (Option.some.inj hlink)

/-- The root is a directory. -/
lemma linkFree_nil : disk.LinkFree [] := by
  intro above habove target hlink
  rw [List.prefix_nil.mp habove] at hlink
  cases hlink

lemma LinkFree.of_above {above : List String} (free : disk.LinkFree place)
    (h : above <+: place) : disk.LinkFree above :=
  fun _ higher => free _ (higher.trans h)

lemma LinkFree.concat (free : disk.LinkFree place) (h : disk.NotLink (place ++ [name])) :
    disk.LinkFree (place ++ [name]) := by
  intro above habove
  rcases List.prefix_concat_iff.mp habove with hwhole | hpart
  · rw [hwhole]
    exact h
  · exact free above hpart

lemma plain_append {more : List String} :
    disk.Plain here (parts ++ more) ↔
      disk.Plain here parts ∧ disk.Plain (parts.foldl enter here) more := by
  induction parts generalizing here with
  | nil => simp [Plain]
  | cons part parts ih => simp only [List.cons_append, Plain, ih, List.foldl_cons, and_assoc]

/-- Parts that do not count meet no link. -/
lemma plain_lead {lead : List String} (stay : ∀ part ∈ lead, part = "" ∨ part = ".")
    (plain : disk.Plain here parts) : disk.Plain here (lead ++ parts) := by
  induction lead with
  | nil => exact plain
  | cons part lead ih =>
    obtain ⟨hpart, hlead⟩ := List.forall_mem_cons.mp stay
    refine ⟨fun isName => absurd hpart isName.moves.not_stay, ?_⟩
    rw [enter, if_pos hpart]
    exact ih hlead

/-- Parts that meet no link lead from a place free of links to another one. -/
lemma LinkFree.foldl_enter (free : disk.LinkFree here) (isPart : ∀ part ∈ parts, IsPart part)
    (plain : disk.Plain here parts) : disk.LinkFree (parts.foldl enter here) := by
  induction parts generalizing here with
  | nil => exact free
  | cons part parts ih =>
    obtain ⟨hpart, hparts⟩ := List.forall_mem_cons.mp isPart
    obtain ⟨hlink, hplain⟩ := plain
    refine ih ?_ hparts hplain
    rcases hpart.isName_or_eq_dots with hname | hdots
    · rw [Path.enter_name hname]
      exact free.concat (hlink hname)
    · rw [hdots, Path.enter_dots]
      exact free.of_above (List.dropLast_prefix here)

lemma foldl_enter_names (names : ∀ name ∈ parts, IsName name) :
    parts.foldl enter here = here ++ parts := by
  induction parts generalizing here with
  | nil => simp
  | cons name parts ih =>
    obtain ⟨hname, hparts⟩ := List.forall_mem_cons.mp names
    rw [List.foldl_cons, Path.enter_name hname, ih hparts, List.append_assoc]
    rfl

lemma LinkFree.plain (free : disk.LinkFree (here ++ parts)) (names : ∀ name ∈ parts, IsName name) :
    disk.Plain here parts := by
  induction parts generalizing here with
  | nil => trivial
  | cons name parts ih =>
    obtain ⟨hname, hparts⟩ := List.forall_mem_cons.mp names
    have hsplit : here ++ name :: parts = here ++ [name] ++ parts := by simp
    rw [hsplit] at free
    refine ⟨fun _ => free _ (List.prefix_append _ _), ?_⟩
    rw [Path.enter_name hname]
    exact ih free hparts

end Places

section Steps

/-- Goes on at a link. -/
def jump (disk : Disk) (follow : Bool) :
    Nat → List String → String → List String → Except Obstacle (List String × Entry)
  | 0, _, _, _ => .error .tooManyLinks
  | links + 1, here, target, rest =>
    if target = "" then .error .missing
    else
      disk.walk follow links (if Path.isRooted target then [] else here)
        (Path.splitSlashes target ++ rest)

/-- Whether names can be looked up in a directory. -/
structure Searchable (disk : Disk) (here : List String) : Prop where
  directory : disk.entry? here = some .directory
  notClosed : disk.isClosed here = false

lemma walk_nil :
    disk.walk follow links here [] = match disk.entry? here with
      | none => .error .missing
      | some entry => .ok (here, entry) := by
  cases links <;> rfl

lemma walk_cons :
    disk.walk follow links here (part :: rest) = match disk.entry? here with
      | none => .error .missing
      | some .directory =>
        if part = "" then disk.walk follow links here rest
        else if disk.isClosed here then .error .permissionDenied
        else if part = "." then disk.walk follow links here rest
        else if part = ".." then disk.walk follow links here.dropLast rest
        else if part.utf8ByteSize > nameLimit then .error .nameTooLong
        else match disk.entry? (here ++ [part]) with
          | none => .error .missing
          | some (.link target) =>
            if rest.isEmpty && !follow then .ok (here ++ [part], .link target)
            else disk.jump follow links here target rest
          | some _ => disk.walk follow links (here ++ [part]) rest
      | some _ => .error .notDirectory := by
  cases links <;> rfl

/-- What there may be for one part that is followed. -/
inductive Step (disk : Disk) (here : List String) (part : String) : Prop where
  | missing (absent : disk.entry? here = none)
  | notDirectory {entry : Entry} (present : disk.entry? here = some entry) (ne : entry ≠ .directory)
  | stay (directory : disk.entry? here = some .directory)
      (stays : part = "" ∨ part = "." ∧ disk.isClosed here = false)
  | closed (directory : disk.entry? here = some .directory) (nonempty : part ≠ "")
      (closed : disk.isClosed here = true)
  | dots (searchable : disk.Searchable here) (eq : part = "..")
  | tooLong (searchable : disk.Searchable here) (moves : Moves part)
      (long : part.utf8ByteSize > nameLimit)
  | absent (searchable : disk.Searchable here) (moves : Moves part)
      (short : part.utf8ByteSize ≤ nameLimit) (absent : disk.entry? (here ++ [part]) = none)
  | link {target : String} (searchable : disk.Searchable here) (moves : Moves part)
      (short : part.utf8ByteSize ≤ nameLimit)
      (present : disk.entry? (here ++ [part]) = some (.link target))
  | name {entry : Entry} (searchable : disk.Searchable here) (moves : Moves part)
      (short : part.utf8ByteSize ≤ nameLimit) (present : disk.entry? (here ++ [part]) = some entry)
      (notLink : disk.NotLink (here ++ [part]))

lemma step_of_moves (searchable : disk.Searchable here) (moves : Moves part) :
    disk.Step here part := by
  by_cases hlong : part.utf8ByteSize > nameLimit
  · exact .tooLong searchable moves hlong
  have short := Nat.not_lt.mp hlong
  cases hnext : disk.entry? (here ++ [part]) with
  | none => exact .absent searchable moves short hnext
  | some next =>
    by_cases hlink : ∃ target, next = .link target
    · obtain ⟨target, rfl⟩ := hlink
      exact .link searchable moves short hnext
    · exact .name searchable moves short hnext (notLink_of_entry hnext (not_exists.mp hlink))

lemma step (disk : Disk) (here : List String) (part : String) : disk.Step here part := by
  cases hhere : disk.entry? here with
  | none => exact .missing hhere
  | some entry =>
    by_cases hdirectory : entry = .directory
    · subst hdirectory
      by_cases hempty : part = ""
      · exact .stay hhere (Or.inl hempty)
      cases hclosed : disk.isClosed here with
      | true => exact .closed hhere hempty hclosed
      | false =>
        by_cases hdot : part = "."
        · exact .stay hhere (Or.inr ⟨hdot, hclosed⟩)
        by_cases hdots : part = ".."
        · exact .dots ⟨hhere, hclosed⟩ hdots
        · exact step_of_moves ⟨hhere, hclosed⟩ ⟨not_or.mpr ⟨hempty, hdot⟩, hdots⟩
    · exact .notDirectory hhere hdirectory

lemma walk_missing (absent : disk.entry? here = none) :
    disk.walk follow links here (part :: rest) = .error .missing := by
  rw [walk_cons, absent]

lemma walk_notDirectory (present : disk.entry? here = some entry) (ne : entry ≠ .directory) :
    disk.walk follow links here (part :: rest) = .error .notDirectory := by
  rw [walk_cons, present]
  cases entry with
  | directory => exact absurd rfl ne
  | file content => rfl
  | link target => rfl

lemma walk_stay (directory : disk.entry? here = some .directory)
    (stays : part = "" ∨ part = "." ∧ disk.isClosed here = false) :
    disk.walk follow links here (part :: rest) = disk.walk follow links here rest := by
  rw [walk_cons, directory]
  rcases stays with rfl | ⟨rfl, notClosed⟩
  · simp
  · simp [notClosed]

lemma walk_closed (directory : disk.entry? here = some .directory) (nonempty : part ≠ "")
    (closed : disk.isClosed here = true) :
    disk.walk follow links here (part :: rest) = .error .permissionDenied := by
  rw [walk_cons, directory]
  simp only [if_neg nonempty, if_pos closed]

lemma walk_dots (searchable : disk.Searchable here) :
    disk.walk follow links here (".." :: rest) = disk.walk follow links here.dropLast rest := by
  rw [walk_cons, searchable.directory]
  simp [searchable.notClosed]

/-- A part that leads on is looked up in the directory. -/
lemma walk_moves (searchable : disk.Searchable here) (moves : Moves part) :
    disk.walk follow links here (part :: rest) =
      if part.utf8ByteSize > nameLimit then .error .nameTooLong
      else match disk.entry? (here ++ [part]) with
        | none => .error .missing
        | some (.link target) =>
          if rest.isEmpty && !follow then .ok (here ++ [part], .link target)
          else disk.jump follow links here target rest
        | some _ => disk.walk follow links (here ++ [part]) rest := by
  rw [walk_cons, searchable.directory]
  simp only [if_neg moves.ne_empty, searchable.notClosed, Bool.false_eq_true, if_false,
    if_neg moves.ne_dot, if_neg moves.ne_dots]

lemma walk_tooLong (searchable : disk.Searchable here) (moves : Moves part)
    (long : part.utf8ByteSize > nameLimit) :
    disk.walk follow links here (part :: rest) = .error .nameTooLong := by
  rw [walk_moves searchable moves, if_pos long]

lemma walk_absent (searchable : disk.Searchable here) (moves : Moves part)
    (short : part.utf8ByteSize ≤ nameLimit) (absent : disk.entry? (here ++ [part]) = none) :
    disk.walk follow links here (part :: rest) = .error .missing := by
  rw [walk_moves searchable moves, if_neg (Nat.not_lt.mpr short), absent]

lemma walk_link {target : String} (searchable : disk.Searchable here) (moves : Moves part)
    (short : part.utf8ByteSize ≤ nameLimit)
    (present : disk.entry? (here ++ [part]) = some (.link target)) :
    disk.walk follow links here (part :: rest) =
      if rest.isEmpty && !follow then .ok (here ++ [part], .link target)
      else disk.jump follow links here target rest := by
  rw [walk_moves searchable moves, if_neg (Nat.not_lt.mpr short), present]

lemma walk_name (searchable : disk.Searchable here) (moves : Moves part)
    (short : part.utf8ByteSize ≤ nameLimit) (present : disk.entry? (here ++ [part]) = some entry)
    (notLink : disk.NotLink (here ++ [part])) :
    disk.walk follow links here (part :: rest) =
      disk.walk follow links (here ++ [part]) rest := by
  rw [walk_moves searchable moves, if_neg (Nat.not_lt.mpr short), present]
  cases entry with
  | link target => exact absurd present (notLink target)
  | file content => rfl
  | directory => rfl

lemma walk_nil_of_ok (h : disk.walk follow links here [] = .ok found) :
    found = (here, found.2) ∧ disk.entry? here = some found.2 := by
  rw [walk_nil] at h
  cases hentry : disk.entry? here with
  | none => simp [hentry] at h
  | some entry =>
    rw [hentry] at h
    cases h
    exact ⟨rfl, rfl⟩

lemma directory_of_walk_ok (h : disk.walk follow links here (part :: rest) = .ok found) :
    disk.entry? here = some .directory := by
  cases disk.step here part with
  | missing absent =>
    rw [walk_missing absent] at h
    cases h
  | notDirectory present ne =>
    rw [walk_notDirectory present ne] at h
    cases h
  | stay directory => exact directory
  | closed directory => exact directory
  | dots searchable => exact searchable.directory
  | tooLong searchable => exact searchable.directory
  | absent searchable => exact searchable.directory
  | link searchable => exact searchable.directory
  | name searchable => exact searchable.directory

/-- A walk that succeeds behind a part has searched the directory for it. -/
lemma searchable_of_walk_ok (nonempty : part ≠ "")
    (h : disk.walk follow links here (part :: rest) = .ok found) : disk.Searchable here := by
  have directory := directory_of_walk_ok h
  cases hclosed : disk.isClosed here with
  | true =>
    rw [walk_closed directory nonempty hclosed] at h
    cases h
  | false => exact ⟨directory, hclosed⟩

lemma present_of_walk_ok (moves : Moves part)
    (h : disk.walk follow links here (part :: rest) = .ok found) :
    part.utf8ByteSize ≤ nameLimit ∧ ∃ entry, disk.entry? (here ++ [part]) = some entry := by
  have searchable := searchable_of_walk_ok moves.ne_empty h
  by_cases hlong : part.utf8ByteSize > nameLimit
  · rw [walk_tooLong searchable moves hlong] at h
    cases h
  have short := Nat.not_lt.mp hlong
  cases hnext : disk.entry? (here ++ [part]) with
  | none =>
    rw [walk_absent searchable moves short hnext] at h
    cases h
  | some entry => exact ⟨short, entry, rfl⟩

/-- Behind a part that is no link a walk goes on, unless it ends there and has not met too many
links. -/
lemma walk_cons_of_plain (noSlash : '/' ∉ part.toList)
    (plain : IsName part → disk.NotLink (here ++ [part])) :
    disk.walk follow links here (part :: rest) = disk.walk follow links (enter here part) rest ∨
      ∃ obstacle, obstacle ≠ .tooManyLinks ∧
        disk.walk follow links here (part :: rest) = .error obstacle := by
  cases disk.step here part with
  | missing absent => exact Or.inr ⟨_, by decide, walk_missing absent⟩
  | notDirectory present ne => exact Or.inr ⟨_, by decide, walk_notDirectory present ne⟩
  | stay directory stays =>
    rw [enter, if_pos (stays.imp_right And.left)]
    exact Or.inl (walk_stay directory stays)
  | closed directory nonempty closed =>
    exact Or.inr ⟨_, by decide, walk_closed directory nonempty closed⟩
  | dots searchable eq =>
    rw [eq, Path.enter_dots]
    exact Or.inl (walk_dots searchable)
  | tooLong searchable moves long => exact Or.inr ⟨_, by decide, walk_tooLong searchable moves long⟩
  | absent searchable moves short absent =>
    exact Or.inr ⟨_, by decide, walk_absent searchable moves short absent⟩
  | link searchable moves short present => exact absurd present (plain (moves.isName noSlash) _)
  | name searchable moves short present notLink =>
    rw [Path.enter_name (moves.isName noSlash)]
    exact Or.inl (walk_name searchable moves short present notLink)

/-- A walk that succeeds goes on behind a part that is no link. -/
lemma walk_cons_of_ok (noSlash : '/' ∉ part.toList)
    (plain : IsName part → disk.NotLink (here ++ [part]))
    (h : disk.walk follow links here (part :: rest) = .ok found) :
    disk.walk follow links (enter here part) rest = .ok found := by
  rcases walk_cons_of_plain noSlash plain with hon | ⟨obstacle, -, hend⟩
  · exact hon.symm.trans h
  · rw [hend] at h
    cases h

/-- A walk that succeeds goes through the place that plain parts lead to. -/
lemma walk_of_plain (noSlash : ∀ part ∈ parts, '/' ∉ part.toList) (plain : disk.Plain here parts)
    (h : disk.walk follow links here (parts ++ rest) = .ok found) :
    disk.walk follow links (parts.foldl enter here) rest = .ok found := by
  induction parts generalizing here with
  | nil => exact h
  | cons part parts ih =>
    obtain ⟨hpart, hparts⟩ := List.forall_mem_cons.mp noSlash
    obtain ⟨hlink, hplain⟩ := plain
    exact ih hparts hplain (walk_cons_of_ok hpart hlink h)

lemma walk_last_ne_tooManyLinks : disk.walk false links here [part] ≠ .error .tooManyLinks := by
  have harrive (place : List String) : disk.walk false links place [] ≠ .error .tooManyLinks := by
    rw [walk_nil]
    cases disk.entry? place <;> simp
  cases disk.step here part with
  | missing absent => simp [walk_missing absent]
  | notDirectory present ne => simp [walk_notDirectory present ne]
  | stay directory stays =>
    rw [walk_stay directory stays]
    exact harrive here
  | closed directory nonempty closed => simp [walk_closed directory nonempty closed]
  | dots searchable eq =>
    rw [eq, walk_dots searchable]
    exact harrive here.dropLast
  | tooLong searchable moves long => simp [walk_tooLong searchable moves long]
  | absent searchable moves short absent => simp [walk_absent searchable moves short absent]
  | link searchable moves short present => simp [walk_link searchable moves short present]
  | name searchable moves short present notLink =>
    rw [walk_name searchable moves short present notLink]
    exact harrive (here ++ [part])

/-- Neither plain parts use up links nor a last one that is not followed. -/
lemma walk_concat_ne_tooManyLinks (noSlash : ∀ part ∈ parts, '/' ∉ part.toList)
    (plain : disk.Plain here parts) :
    disk.walk false links here (parts ++ [part]) ≠ .error .tooManyLinks := by
  induction parts generalizing here with
  | nil => exact walk_last_ne_tooManyLinks
  | cons first parts ih =>
    obtain ⟨hfirst, hparts⟩ := List.forall_mem_cons.mp noSlash
    obtain ⟨hlink, hplain⟩ := plain
    intro h
    rw [List.cons_append] at h
    rcases walk_cons_of_plain hfirst hlink with hon | ⟨obstacle, ne, hend⟩
    · exact ih hparts hplain (hon.symm.trans h)
    · exact ne (Except.error.inj (hend.symm.trans h))

lemma walk_plain_ne_tooManyLinks (noSlash : ∀ part ∈ parts, '/' ∉ part.toList)
    (plain : disk.Plain here parts) : disk.walk follow links here parts ≠ .error .tooManyLinks := by
  induction parts generalizing here with
  | nil =>
    rw [walk_nil]
    cases disk.entry? here <;> simp
  | cons part parts ih =>
    obtain ⟨hpart, hparts⟩ := List.forall_mem_cons.mp noSlash
    obtain ⟨hlink, hplain⟩ := plain
    intro h
    rcases walk_cons_of_plain hpart hlink with hon | ⟨obstacle, ne, hend⟩
    · exact ih hparts hplain (hon.symm.trans h)
    · exact ne (Except.error.inj (hend.symm.trans h))

/-- Parts that do not count lead nowhere else. -/
lemma walk_of_lead {lead : List String} (stay : ∀ part ∈ lead, part = "" ∨ part = ".")
    (h : disk.walk follow links here (lead ++ rest) = .ok found) :
    disk.walk follow links here rest = .ok found := by
  induction lead with
  | nil => exact h
  | cons part lead ih =>
    obtain ⟨hpart, hlead⟩ := List.forall_mem_cons.mp stay
    have directory := directory_of_walk_ok h
    have stays : part = "" ∨ part = "." ∧ disk.isClosed here = false := by
      refine hpart.imp_right fun hdot => ⟨hdot, ?_⟩
      exact (searchable_of_walk_ok (by simp [hdot]) h).notClosed
    rw [List.cons_append, walk_stay directory stays] at h
    exact ih hlead h

/-- Empty parts are passed over, also where the directory may not be searched. -/
lemma walk_lead {lead : List String} (directory : disk.entry? here = some .directory)
    (stay : ∀ part ∈ lead, part = "") :
    disk.walk follow links here (lead ++ rest) = disk.walk follow links here rest := by
  induction lead with
  | nil => rfl
  | cons part lead ih =>
    obtain ⟨hpart, hlead⟩ := List.forall_mem_cons.mp stay
    rw [List.cons_append, walk_stay directory (Or.inl hpart), ih hlead]

/-- What is found under a name in a directory if links are not followed. -/
lemma walk_name_of_ok (isName : IsName name) (h : disk.walk false links here [name] = .ok found) :
    found = (here ++ [name], found.2) ∧ disk.entry? (here ++ [name]) = some found.2 := by
  have searchable := searchable_of_walk_ok isName.ne_empty h
  obtain ⟨short, entry, present⟩ := present_of_walk_ok isName.moves h
  by_cases hlink : ∃ target, entry = .link target
  · obtain ⟨target, rfl⟩ := hlink
    rw [walk_link searchable isName.moves short present] at h
    cases h
    exact ⟨rfl, present⟩
  · have notLink := notLink_of_entry present (not_exists.mp hlink)
    rw [walk_name searchable isName.moves short present notLink] at h
    exact walk_nil_of_ok h

end Steps

section Outcomes

variable {todo : List String}

/-- What may come of following parts. -/
inductive Outcome (disk : Disk) : Except Obstacle (List String × Entry) → Prop where
  | missing : disk.Outcome (.error .missing)
  | permissionDenied : disk.Outcome (.error .permissionDenied)
  | notDirectory : disk.Outcome (.error .notDirectory)
  | nameTooLong : disk.Outcome (.error .nameTooLong)
  | tooManyLinks : disk.Outcome (.error .tooManyLinks)
  | found {place : List String} {entry : Entry} (present : disk.entry? place = some entry) :
      disk.Outcome (.ok (place, entry))

lemma walk_outcome_of_jump
    (hjump : ∀ here target rest, disk.Outcome (disk.jump follow links here target rest)) :
    disk.Outcome (disk.walk follow links here todo) := by
  induction todo generalizing here with
  | nil =>
    rw [walk_nil]
    cases hhere : disk.entry? here with
    | none => exact .missing
    | some entry => exact .found hhere
  | cons part rest ih =>
    cases disk.step here part with
    | missing absent =>
      rw [walk_missing absent]
      exact .missing
    | notDirectory present ne =>
      rw [walk_notDirectory present ne]
      exact .notDirectory
    | stay directory stays =>
      rw [walk_stay directory stays]
      exact ih
    | closed directory nonempty closed =>
      rw [walk_closed directory nonempty closed]
      exact .permissionDenied
    | dots searchable eq =>
      rw [eq, walk_dots searchable]
      exact ih
    | tooLong searchable moves long =>
      rw [walk_tooLong searchable moves long]
      exact .nameTooLong
    | absent searchable moves short absent =>
      rw [walk_absent searchable moves short absent]
      exact .missing
    | link searchable moves short present =>
      rw [walk_link searchable moves short present]
      split
      · exact .found present
      · exact hjump _ _ _
    | name searchable moves short present notLink =>
      rw [walk_name searchable moves short present notLink]
      exact ih

lemma walk_outcome : disk.Outcome (disk.walk follow links here todo) := by
  induction links generalizing here todo with
  | zero => exact walk_outcome_of_jump fun _ _ _ => .tooManyLinks
  | succ links ih =>
    refine walk_outcome_of_jump fun here target rest => ?_
    by_cases hempty : target = ""
    · simpa only [jump, if_pos hempty] using Outcome.missing
    · simpa only [jump, if_neg hempty] using ih

end Outcomes

section Following

variable {todo : List String}

lemma walk_follow_of_jump (notLink : ∀ target, found.2 ≠ .link target)
    (hjump : ∀ here target rest, disk.jump false links here target rest = .ok found →
      disk.jump true links here target rest = .ok found)
    (h : disk.walk false links here todo = .ok found) : disk.walk true links here todo = .ok found := by
  induction todo generalizing here with
  | nil => rwa [walk_nil] at h ⊢
  | cons part rest ih =>
    cases disk.step here part with
    | missing absent => rwa [walk_missing absent] at h ⊢
    | notDirectory present ne => rwa [walk_notDirectory present ne] at h ⊢
    | stay directory stays =>
      rw [walk_stay directory stays] at h ⊢
      exact ih h
    | closed directory nonempty closed => rwa [walk_closed directory nonempty closed] at h ⊢
    | dots searchable eq =>
      rw [eq, walk_dots searchable] at h ⊢
      exact ih h
    | tooLong searchable moves long => rwa [walk_tooLong searchable moves long] at h ⊢
    | absent searchable moves short absent => rwa [walk_absent searchable moves short absent] at h ⊢
    | link searchable moves short present =>
      rw [walk_link searchable moves short present] at h ⊢
      rw [Bool.not_true, Bool.and_false, if_neg Bool.false_ne_true]
      split at h
      · cases h
        exact absurd rfl (notLink _)
      · exact hjump _ _ _ h
    | name searchable moves short present free =>
      rw [walk_name searchable moves short present free] at h ⊢
      exact ih h

/-- A walk that ends at no link ends there as well where a last link is followed. -/
lemma walk_follow (notLink : ∀ target, found.2 ≠ .link target)
    (h : disk.walk false links here todo = .ok found) : disk.walk true links here todo = .ok found := by
  induction links generalizing here todo with
  | zero => exact walk_follow_of_jump notLink (fun _ _ _ hjump => hjump) h
  | succ links ih =>
    refine walk_follow_of_jump notLink (fun here target rest hjump => ?_) h
    by_cases hempty : target = ""
    · simp [jump, hempty] at hjump
    · simp only [jump, if_neg hempty] at hjump ⊢
      exact ih hjump

end Following

end LineFold.Disk
