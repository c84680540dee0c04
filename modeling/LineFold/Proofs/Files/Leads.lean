import LineFold.Proofs.Files.Walk
import Mathlib.Data.Nat.Find

/-! Following paths through links. `Leads` is a walk that gets somewhere, with a bound on the links that
it goes through: a larger bound changes nothing, and the links of a path are those of its first parts and
those of the others. So a part that is a link leads on as its target does, and of all the bounds that allow
a walk there is a least one. -/
namespace LineFold.Disk
open LineFold.Path (Moves)

/-- Where the target of a link is followed from: the root, or the directory that holds the link. -/
def linkStart (here : List String) (target : String) : List String :=
  if Path.isRooted target then [] else here

/-- Whether parts lead from a directory to what is found, through no more than `links` links. -/
inductive Leads (disk : Disk) : Nat → List String → List String → List String × Entry → Prop where
  | arrived {links here entry} (present : disk.entry? here = some entry) :
      Leads disk links here [] (here, entry)
  | stay {links here part rest found} (directory : disk.entry? here = some .directory)
      (stays : part = "" ∨ part = "." ∧ disk.isClosed here = false)
      (next : Leads disk links here rest found) : Leads disk links here (part :: rest) found
  | dots {links here rest found} (searchable : disk.Searchable here)
      (next : Leads disk links here.dropLast rest found) : Leads disk links here (".." :: rest) found
  | name {links here part rest found entry} (searchable : disk.Searchable here)
      (moves : Moves part) (short : part.utf8ByteSize ≤ nameLimit)
      (present : disk.entry? (here ++ [part]) = some entry) (notLink : disk.NotLink (here ++ [part]))
      (next : Leads disk links (here ++ [part]) rest found) :
      Leads disk links here (part :: rest) found
  | link {links here part rest found target} (searchable : disk.Searchable here)
      (moves : Moves part) (short : part.utf8ByteSize ≤ nameLimit)
      (present : disk.entry? (here ++ [part]) = some (.link target)) (nonempty : target ≠ "")
      (next : Leads disk links (linkStart here target) (Path.splitSlashes target ++ rest) found) :
      Leads disk (links + 1) here (part :: rest) found

variable {disk : Disk} {links more : Nat} {here todo first second : List String}
  {found other : List String × Entry} {name target : String}

lemma leads_of_jump
    (hjump : ∀ here target rest found, disk.jump true links here target rest = .ok found →
      target ≠ "" ∧ ∃ fewer, links = fewer + 1 ∧
        disk.Leads fewer (linkStart here target) (Path.splitSlashes target ++ rest) found)
    (h : disk.walk true links here todo = .ok found) : disk.Leads links here todo found := by
  induction todo generalizing here with
  | nil =>
    obtain ⟨hfound, present⟩ := walk_nil_of_ok h
    rw [hfound]
    exact .arrived present
  | cons part rest ih =>
    cases disk.step here part with
    | missing absent =>
      rw [walk_missing absent] at h
      cases h
    | notDirectory present ne =>
      rw [walk_notDirectory present ne] at h
      cases h
    | stay directory stays =>
      rw [walk_stay directory stays] at h
      exact .stay directory stays (ih h)
    | closed directory nonempty closed =>
      rw [walk_closed directory nonempty closed] at h
      cases h
    | dots searchable eq =>
      subst eq
      rw [walk_dots searchable] at h
      exact .dots searchable (ih h)
    | tooLong searchable moves long =>
      rw [walk_tooLong searchable moves long] at h
      cases h
    | absent searchable moves short absent =>
      rw [walk_absent searchable moves short absent] at h
      cases h
    | link searchable moves short present =>
      rw [walk_link searchable moves short present, Bool.not_true, Bool.and_false, if_neg (by simp)] at h
      obtain ⟨nonempty, fewer, rfl, hleads⟩ := hjump _ _ _ _ h
      exact .link searchable moves short present nonempty hleads
    | name searchable moves short present notLink =>
      rw [walk_name searchable moves short present notLink] at h
      exact .name searchable moves short present notLink (ih h)

lemma leads_of_walk (h : disk.walk true links here todo = .ok found) :
    disk.Leads links here todo found := by
  induction links generalizing here todo found with
  | zero => exact leads_of_jump (fun _ _ _ _ hjump => by cases hjump) h
  | succ links ih =>
    refine leads_of_jump (fun here target rest found hjump => ?_) h
    by_cases hempty : target = ""
    · simp [jump, hempty] at hjump
    · simp only [jump, if_neg hempty] at hjump
      exact ⟨hempty, links, rfl, ih hjump⟩

/-- More links may be allowed than are met. -/
lemma Leads.mono (leads : disk.Leads links here todo found) (le : links ≤ more) :
    disk.Leads more here todo found := by
  induction leads generalizing more with
  | arrived present => exact .arrived present
  | stay directory stays next ih => exact .stay directory stays (ih le)
  | dots searchable next ih => exact .dots searchable (ih le)
  | name searchable moves short present notLink next ih =>
    exact .name searchable moves short present notLink (ih le)
  | link searchable moves short present nonempty next ih =>
    obtain ⟨fewer, rfl⟩ := Nat.exists_eq_add_of_le' (Nat.lt_of_lt_of_le (Nat.succ_pos _) le)
    exact .link searchable moves short present nonempty (ih (Nat.le_of_succ_le_succ le))

/-- What parts lead to does not depend on how many links are allowed. -/
lemma Leads.unique (leads : disk.Leads links here todo found)
    (again : disk.Leads more here todo other) : other = found := by
  induction leads generalizing more other with
  | arrived present =>
    cases again with
    | arrived present' =>
      rw [present] at present'
      cases present'
      rfl
  | stay directory stays next ih =>
    cases again with
    | stay _ _ next' => exact ih next'
    | dots => simp at stays
    | name _ moves => exact absurd (stays.imp_right And.left) moves.not_stay
    | link _ moves => exact absurd (stays.imp_right And.left) moves.not_stay
  | dots searchable next ih =>
    cases again with
    | stay _ stays => simp at stays
    | dots _ next' => exact ih next'
    | name _ moves => exact absurd rfl moves.ne_dots
    | link _ moves => exact absurd rfl moves.ne_dots
  | name searchable moves short present notLink next ih =>
    cases again with
    | stay _ stays => exact absurd (stays.imp_right And.left) moves.not_stay
    | dots => exact absurd rfl moves.ne_dots
    | name _ _ _ _ _ next' => exact ih next'
    | link _ _ _ present' => exact absurd present' (notLink _)
  | link searchable moves short present nonempty next ih =>
    cases again with
    | stay _ stays => exact absurd (stays.imp_right And.left) moves.not_stay
    | dots => exact absurd rfl moves.ne_dots
    | name _ _ _ _ notLink => exact absurd present (notLink _)
    | link _ _ _ present' _ next' =>
      rw [present] at present'
      cases present'
      exact ih next'

/-- The links that are met are those of the first parts and those of the others. -/
lemma Leads.split (leads : disk.Leads links here (first ++ second) found) :
    ∃ before after middle, before + after = links ∧ disk.Leads before here first middle ∧
      disk.Leads after middle.1 second found := by
  generalize htodo : first ++ second = todo at leads
  induction leads generalizing first with
  | arrived present =>
    obtain ⟨rfl, rfl⟩ := List.append_eq_nil_iff.mp htodo
    exact ⟨0, _, _, Nat.zero_add _, .arrived present, .arrived present⟩
  | stay directory stays next ih =>
    rcases List.append_eq_cons_iff.mp htodo with ⟨rfl, rfl⟩ | ⟨first, rfl, rfl⟩
    · exact ⟨0, _, _, Nat.zero_add _, .arrived directory, .stay directory stays next⟩
    · obtain ⟨before, after, middle, hsum, hfirst, hsecond⟩ := ih rfl
      exact ⟨before, after, middle, hsum, .stay directory stays hfirst, hsecond⟩
  | dots searchable next ih =>
    rcases List.append_eq_cons_iff.mp htodo with ⟨rfl, rfl⟩ | ⟨first, rfl, rfl⟩
    · exact ⟨0, _, _, Nat.zero_add _, .arrived searchable.directory, .dots searchable next⟩
    · obtain ⟨before, after, middle, hsum, hfirst, hsecond⟩ := ih rfl
      exact ⟨before, after, middle, hsum, .dots searchable hfirst, hsecond⟩
  | name searchable moves short present notLink next ih =>
    rcases List.append_eq_cons_iff.mp htodo with ⟨rfl, rfl⟩ | ⟨first, rfl, rfl⟩
    · exact ⟨0, _, _, Nat.zero_add _, .arrived searchable.directory,
        .name searchable moves short present notLink next⟩
    · obtain ⟨before, after, middle, hsum, hfirst, hsecond⟩ := ih rfl
      exact ⟨before, after, middle, hsum, .name searchable moves short present notLink hfirst, hsecond⟩
  | link searchable moves short present nonempty next ih =>
    rcases List.append_eq_cons_iff.mp htodo with ⟨rfl, rfl⟩ | ⟨first, rfl, rfl⟩
    · exact ⟨0, _, _, Nat.zero_add _, .arrived searchable.directory,
        .link searchable moves short present nonempty next⟩
    · obtain ⟨before, after, middle, hsum, hfirst, hsecond⟩ := ih (List.append_assoc ..)
      refine ⟨before + 1, after, middle, by omega, ?_, hsecond⟩
      exact .link searchable moves short present nonempty hfirst

/-- What leads on from a link leads through its target. -/
lemma Leads.of_link {rest : List String} (moves : Moves name)
    (present : disk.entry? (here ++ [name]) = some (.link target))
    (leads : disk.Leads links here (name :: rest) found) :
    ∃ fewer, links = fewer + 1 ∧
      disk.Leads fewer (linkStart here target) (Path.splitSlashes target ++ rest) found := by
  cases leads with
  | stay _ stays => exact absurd (stays.imp_right And.left) moves.not_stay
  | dots => exact absurd rfl moves.ne_dots
  | name _ _ _ _ notLink => exact absurd present (notLink target)
  | link _ _ _ other _ next =>
    rw [present] at other
    cases other
    exact ⟨_, rfl, next⟩

lemma Leads.exists_fewest (leads : disk.Leads links here todo found) :
    ∃ least ≤ links, disk.Leads least here todo found ∧
      ∀ fewer other, fewer < least → ¬disk.Leads fewer here todo other := by
  classical
  have hexists : ∃ least, disk.Leads least here todo found := ⟨links, leads⟩
  refine ⟨Nat.find hexists, Nat.find_min' hexists leads, Nat.find_spec hexists, ?_⟩
  intro fewer other lt hfewer
  have heq := leads.unique hfewer
  rw [heq] at hfewer
  exact Nat.find_min hexists lt hfewer

end LineFold.Disk
