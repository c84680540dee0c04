import LineFold.Proofs.Files.Confinement
import LineFold.Proofs.Files.Leads

/-! Resolving a path that leads somewhere. The resolution looks up each part by the text of what it has
resolved so far and remembers where links lead; the system walks the same parts from directory to
directory. As long as no such text is too long the two agree: a path that leads somewhere is resolved to
the place that it leads to. A link that is being resolved is never met again on the way, since its target
would lead through fewer links than the fewest it needs. -/
namespace LineFold
open LineFold.Path (IsPart IsName Moves enter)

/-- Whether there is no NUL in the names of a disk. -/
def Disk.NulFree (disk : Disk) : Prop :=
  ∀ place entry, disk.entry? place = some entry → ∀ name ∈ place, '\x00' ∉ name.toList

lemma Disk.nulFree_of_entries {disk : Disk}
    (h : ∀ entry ∈ disk.entries, ∀ name ∈ entry.1, '\x00' ∉ name.toList) : disk.NulFree := by
  intro place entry present name hname
  have hplace : ¬place.isEmpty = true := by
    intro hempty
    rw [List.isEmpty_iff.mp hempty] at hname
    cases hname
  rw [Disk.entry?, if_neg hplace] at present
  obtain ⟨before, after, hentries, -⟩ := List.lookup_eq_some_iff.mp present
  exact h (place, entry) (hentries ▸ List.mem_append_right _ List.mem_cons_self) name hname

lemma Resolved.toText_inj {path other : Resolved} (ne : path.parts ≠ []) (otherNe : other.parts ≠ [])
    (isPart : ∀ part ∈ path.parts, IsPart part) (otherPart : ∀ part ∈ other.parts, IsPart part)
    (h : path.toText = other.toText) : path = other := by
  rw [toText_eq ne isPart, toText_eq otherNe otherPart] at h
  have hparts := Path.parts_ofText_toText (proper_toPath isPart)
  have hrooted := (Path.splitSlashes_toText (proper_toPath isPart)).1
  rw [h, Path.parts_ofText_toText (proper_toPath otherPart)] at hparts
  rw [h, (Path.splitSlashes_toText (proper_toPath otherPart)).1] at hrooted
  obtain ⟨isAbsolute, parts⟩ := path
  obtain ⟨otherAbsolute, otherParts⟩ := other
  cases hparts
  cases isAbsolute <;> cases otherAbsolute <;> first | rfl | cases hrooted

namespace Host

/-- Where the target of a link is resolved from: the root, or the path of the directory that holds the
link. -/
def linkStart (done : Resolved) (target : String) : Resolved :=
  if Path.isRooted target then ⟨true, []⟩ else done

/-- The texts that are looked up as parts are resolved behind a path. -/
inductive LooksUp (host : Host) : Resolved → List String → String → Prop where
  | here {done name rest} (moves : Moves name) : LooksUp host done (name :: rest) (done.child name).toText
  | stay {done name rest text} (stays : name = "" ∨ name = ".") (next : LooksUp host done rest text) :
      LooksUp host done (name :: rest) text
  | dots {done rest text} (next : LooksUp host done.up rest text) : LooksUp host done (".." :: rest) text
  | name {done name rest text entry} (moves : Moves name)
      (found : host.linkEntry (done.child name).toText = .ok entry)
      (notLink : ∀ target, entry ≠ .link target) (next : LooksUp host (done.child name) rest text) :
      LooksUp host done (name :: rest) text
  | link {done name rest text target} (moves : Moves name)
      (found : host.linkEntry (done.child name).toText = .ok (.link target))
      (next : LooksUp host (linkStart done target) (Path.splitSlashes target ++ rest) text) :
      LooksUp host done (name :: rest) text

variable {host : Host} {done mid last : Resolved} {rest : List String} {name part target : String}
  {entry : Entry} {links : Nat} {met later : MetLinks}

lemma LooksUp.append {todo : List String} {text : String} (looks : host.LooksUp done todo text)
    (rest : List String) : host.LooksUp done (todo ++ rest) text := by
  induction looks with
  | here moves => exact .here moves
  | stay stays next ih => exact .stay stays ih
  | dots next ih => exact .dots ih
  | name moves found notLink next ih => exact .name moves found notLink ih
  | link moves found next ih =>
    rw [List.append_assoc] at ih
    exact .link moves found ih

/-- Parts that do not count are not looked up. -/
lemma not_looksUp_of_stay {todo : List String} {text : String}
    (stay : ∀ part ∈ todo, part = "" ∨ part = ".") : ¬host.LooksUp done todo text := by
  intro looks
  induction looks with
  | here moves => exact moves.not_stay (List.forall_mem_cons.mp stay).1
  | stay _ _ ih => exact ih (List.forall_mem_cons.mp stay).2
  | dots _ ih => simp at stay
  | name moves => exact moves.not_stay (List.forall_mem_cons.mp stay).1
  | link moves => exact moves.not_stay (List.forall_mem_cons.mp stay).1

/-- Whether a path meets no link and each part of it leads where it says. -/
structure Stands (host : Host) (done : Resolved) : Prop extends host.Unlinked done where
  noNul : ∀ part ∈ done.parts, '\x00' ∉ part.toList
  walk_eq : ∀ above, above <+: done.parts → ∀ rest,
    host.disk.walk false Disk.linkLimit (done.origin host.current) (above ++ rest) =
      host.disk.walk false Disk.linkLimit (above.foldl enter (done.origin host.current)) rest

section Standing

lemma stands_start (isAbsolute : Bool) : host.Stands ⟨isAbsolute, []⟩ where
  isPart := by simp
  plain := trivial
  noNul := by simp
  walk_eq := by
    intro above habove rest
    rw [List.prefix_nil.mp habove]
    rfl

lemma stands_linkStart (stands : host.Stands done) (target : String) :
    host.Stands (linkStart done target) := by
  unfold linkStart
  by_cases hrooted : Path.isRooted target = true
  · rw [if_pos hrooted]
    exact stands_start true
  · rw [if_neg hrooted]
    exact stands

lemma place_linkStart :
    (linkStart done target).place host.current = Disk.linkStart (done.place host.current) target := by
  unfold linkStart Disk.linkStart
  by_cases hrooted : Path.isRooted target = true
  · rw [if_pos hrooted, if_pos hrooted]
    rfl
  · rw [if_neg hrooted, if_neg hrooted]

lemma Stands.concat (stands : host.Stands done) (unlinked : host.Unlinked (done.child part))
    (noNul : '\x00' ∉ part.toList)
    (step : ∀ rest, host.disk.walk false Disk.linkLimit (done.place host.current) (part :: rest) =
      host.disk.walk false Disk.linkLimit (enter (done.place host.current) part) rest) :
    host.Stands (done.child part) where
  toUnlinked := unlinked
  noNul := List.forall_mem_append.mpr ⟨stands.noNul, List.forall_mem_singleton.mpr noNul⟩
  walk_eq := by
    intro above habove rest
    change host.disk.walk false Disk.linkLimit (done.origin host.current) (above ++ rest) =
      host.disk.walk false Disk.linkLimit (above.foldl enter (done.origin host.current)) rest
    rcases List.prefix_concat_iff.mp habove with rfl | hshorter
    · rw [List.append_assoc, stands.walk_eq _ List.prefix_rfl, List.foldl_append]
      exact step rest
    · exact stands.walk_eq above hshorter rest

lemma Stands.child (stands : host.Stands done)
    (searchable : host.disk.Searchable (done.place host.current)) (isName : IsName name)
    (noNul : '\x00' ∉ name.toList) (short : name.utf8ByteSize ≤ Disk.nameLimit)
    (present : host.disk.entry? (done.place host.current ++ [name]) = some entry)
    (notLink : host.disk.NotLink (done.place host.current ++ [name])) :
    host.Stands (done.child name) := by
  refine stands.concat (stands.toUnlinked.child isName notLink) noNul fun rest => ?_
  rw [Path.enter_name isName]
  exact Disk.walk_name searchable isName.moves short present notLink

lemma Stands.up (stands : host.Stands done)
    (searchable : host.disk.Searchable (done.place host.current)) : host.Stands done.up := by
  have unlinked := stands.toUnlinked.up
  rcases done.up_cases with hup | ⟨-, hup⟩ | ⟨parts, name, -, hparts, hup⟩
  · rw [hup] at unlinked ⊢
    refine stands.concat unlinked (by decide) fun rest => ?_
    rw [Path.enter_dots]
    exact Disk.walk_dots searchable
  · rw [hup]
    exact stands
  · rw [hup] at unlinked ⊢
    have hfront : parts <+: done.parts := hparts ▸ List.prefix_append parts [name]
    exact ⟨unlinked, fun part h => stands.noNul part (hfront.subset h),
      fun above habove => stands.walk_eq above (habove.trans hfront)⟩

/-- A text that is not too long leads where the path stands and from there to what has the name. -/
lemma Stands.linkEntry_child (stands : host.Stands done)
    (searchable : host.disk.Searchable (done.place host.current)) (isName : IsName name)
    (noNul : '\x00' ∉ name.toList) (short : name.utf8ByteSize ≤ Disk.nameLimit)
    (present : host.disk.entry? (done.place host.current ++ [name]) = some entry)
    (fits : (done.child name).toText.utf8ByteSize < Disk.pathLimit) :
    host.linkEntry (done.child name).toText = .ok entry := by
  have isPart : ∀ part ∈ (done.child name).parts, IsPart part :=
    List.forall_mem_append.mpr ⟨stands.isPart, List.forall_mem_singleton.mpr isName.toIsPart⟩
  have ne : (done.child name).parts ≠ [] := by simp [Resolved.child]
  have proper := Resolved.proper_toPath isPart
  have hnul : '\x00' ∉ (done.child name).toPath.toText.toList :=
    Path.noNul_toText proper ne
      (List.forall_mem_append.mpr ⟨stands.noNul, List.forall_mem_singleton.mpr noNul⟩)
  rw [Resolved.toText_eq ne isPart] at fits ⊢
  refine linkEntry_eq_ok_iff.mpr
    ⟨done.place host.current ++ [name], find_of_walk proper ne hnul fits ?_⟩
  rw [Resolved.origin_toPath]
  change host.disk.walk false Disk.linkLimit (done.origin host.current) (done.parts ++ [name]) = _
  rw [stands.walk_eq done.parts List.prefix_rfl]
  change host.disk.walk false Disk.linkLimit (done.place host.current) [name] =
    .ok (done.place host.current ++ [name], entry)
  by_cases hlink : ∃ target, entry = .link target
  · obtain ⟨target, rfl⟩ := hlink
    exact Disk.walk_link searchable isName.moves short present
  · have notLink := Disk.notLink_of_entry present (not_exists.mp hlink)
    rw [Disk.walk_name searchable isName.moves short present notLink, Disk.walk_nil, present]

end Standing

/-- Whether a path stands for where parts lead behind another one. -/
structure Continues (host : Host) (done : Resolved) (parts : List String) (last : Resolved) : Prop where
  stands : host.Stands last
  leads : ∀ links rest found, host.disk.Leads links (done.place host.current) (parts ++ rest) found →
    host.disk.Leads links (last.place host.current) rest found
  looksUp : ∀ rest text, host.LooksUp last rest text → host.LooksUp done (parts ++ rest) text

section Continuing

lemma continues_nil (stands : host.Stands done) : host.Continues done [] done :=
  ⟨stands, fun _ _ _ h => h, fun _ _ h => h⟩

lemma Continues.trans {first second : List String} (before : host.Continues done first mid)
    (after : host.Continues mid second last) : host.Continues done (first ++ second) last where
  stands := after.stands
  leads := by
    intro links rest found h
    rw [List.append_assoc] at h
    exact after.leads links rest found (before.leads links (second ++ rest) found h)
  looksUp := by
    intro rest text h
    rw [List.append_assoc]
    exact before.looksUp (second ++ rest) text (after.looksUp rest text h)

lemma continues_stay (stands : host.Stands done) (stays : part = "" ∨ part = ".") :
    host.Continues done [part] done where
  stands := stands
  leads := by
    intro links rest found h
    cases h with
    | stay _ _ next => exact next
    | dots => simp at stays
    | name _ moves => exact absurd stays moves.not_stay
    | link _ moves => exact absurd stays moves.not_stay
  looksUp := fun _ _ h => .stay stays h

lemma continues_up (stands : host.Stands done)
    (searchable : host.disk.Searchable (done.place host.current)) :
    host.Continues done [".."] done.up where
  stands := stands.up searchable
  leads := by
    intro links rest found h
    rw [Resolved.place_up stands.isPart]
    cases h with
    | stay _ stays => simp at stays
    | dots _ next => exact next
    | name _ moves => exact absurd rfl moves.ne_dots
    | link _ moves => exact absurd rfl moves.ne_dots
  looksUp := fun _ _ h => .dots h

lemma continues_child (stands : host.Stands (done.child name)) (isName : IsName name)
    (found : host.linkEntry (done.child name).toText = .ok entry)
    (notLink : ∀ target, entry ≠ .link target)
    (free : host.disk.NotLink (done.place host.current ++ [name])) :
    host.Continues done [name] (done.child name) where
  stands := stands
  leads := by
    intro links rest found h
    rw [Resolved.place_child isName]
    cases h with
    | stay _ stays => exact absurd (stays.imp_right And.left) isName.moves.not_stay
    | dots => exact absurd rfl isName.ne_dots
    | name _ _ _ _ _ next => exact next
    | link _ _ _ present => exact absurd present (free _)
  looksUp := fun _ _ h => .name isName.moves found notLink h

/-- A path that stands for where the target of a link leads stands for where the link leads. -/
lemma Continues.of_link (inside : host.Continues (linkStart done target) (Path.splitSlashes target) last)
    (moves : Moves name)
    (present : host.disk.entry? (done.place host.current ++ [name]) = some (.link target))
    (found : host.linkEntry (done.child name).toText = .ok (.link target)) :
    host.Continues done [name] last where
  stands := inside.stands
  leads := by
    intro links rest found h
    obtain ⟨fewer, rfl, hleads⟩ := h.of_link moves present
    rw [← place_linkStart] at hleads
    exact (inside.leads fewer rest found hleads).mono (Nat.le_succ fewer)
  looksUp := fun rest text h => .link moves found (inside.looksUp rest text h)

end Continuing

/-- Whether each result that is remembered for a link is where the link leads. -/
def Recalls (host : Host) (met : MetLinks) : Prop :=
  ∀ done name target resolved, host.Stands done → IsName name →
    host.disk.entry? (done.place host.current ++ [name]) = some (.link target) →
    met.lookup (done.child name).toText = some (some resolved) → host.Continues done [name] resolved

/-- Whether the links being resolved all lead through more than `links` links. -/
def Pending (host : Host) (links : Nat) (met : MetLinks) : Prop :=
  ∀ done name target, host.Stands done → IsName name →
    host.disk.entry? (done.place host.current ++ [name]) = some (.link target) →
    met.lookup (done.child name).toText = some none →
    ∀ rest found, ¬host.disk.Leads links (done.place host.current) (name :: rest) found

/-- Whether no further links are being resolved. -/
def NonePending (met later : MetLinks) : Prop :=
  ∀ text, later.lookup text = some none → met.lookup text = some none

section Remembering

lemma lookup_cons_child {other : Resolved} {otherName : String} {known : Option Resolved}
    {result : Option (Option Resolved)} (stands : host.Stands done) (isName : IsName name)
    (otherStands : host.Stands other) (otherIsName : IsName otherName)
    (h : List.lookup (other.child otherName).toText (((done.child name).toText, known) :: met) = result) :
    (other = done ∧ otherName = name ∧ result = some known) ∨
      met.lookup (other.child otherName).toText = result := by
  by_cases htext : (other.child otherName).toText = (done.child name).toText
  · left
    have isPart : ∀ part ∈ (done.child name).parts, IsPart part :=
      List.forall_mem_append.mpr ⟨stands.isPart, List.forall_mem_singleton.mpr isName.toIsPart⟩
    have otherPart : ∀ part ∈ (other.child otherName).parts, IsPart part :=
      List.forall_mem_append.mpr ⟨otherStands.isPart, List.forall_mem_singleton.mpr otherIsName.toIsPart⟩
    have hsame : other.child otherName = done.child name :=
      Resolved.toText_inj (by simp [Resolved.child]) (by simp [Resolved.child]) otherPart isPart htext
    rw [htext, List.lookup_cons_self] at h
    obtain ⟨habsolute, hparts⟩ := Resolved.mk.inj hsame
    obtain ⟨hparts, hname⟩ := List.append_inj' hparts rfl
    refine ⟨?_, by simpa using hname, h.symm⟩
    obtain ⟨isAbsolute, parts⟩ := done
    obtain ⟨otherAbsolute, otherParts⟩ := other
    cases habsolute
    cases hparts
    rfl
  · right
    rwa [List.lookup_cons, beq_eq_false_iff_ne.mpr htext] at h

lemma Recalls.begin (recalls : host.Recalls met) (stands : host.Stands done) (isName : IsName name) :
    host.Recalls (((done.child name).toText, none) :: met) := by
  intro other otherName target resolved otherStands otherIsName present hlookup
  rcases lookup_cons_child stands isName otherStands otherIsName hlookup with ⟨-, -, hnone⟩ | hold
  · cases hnone
  · exact recalls other otherName target resolved otherStands otherIsName present hold

lemma Recalls.finish {resolved : Resolved} (recalls : host.Recalls met) (stands : host.Stands done)
    (isName : IsName name) (continues : host.Continues done [name] resolved) :
    host.Recalls (((done.child name).toText, some resolved) :: met) := by
  intro other otherName target result otherStands otherIsName present hlookup
  rcases lookup_cons_child stands isName otherStands otherIsName hlookup with ⟨rfl, rfl, hnew⟩ | hold
  · cases hnew
    exact continues
  · exact recalls other otherName target result otherStands otherIsName present hold

/-- A link that is resolved within the fewest links possible is not met again on its way. -/
lemma Pending.begin (pending : host.Pending links met) (stands : host.Stands done) (isName : IsName name)
    {least : Nat} (le : least ≤ links)
    (present : host.disk.entry? (done.place host.current ++ [name]) = some (.link target))
    (fewest : ∀ fewer middle, fewer < least → ¬host.disk.Leads fewer
      (Disk.linkStart (done.place host.current) target) (Path.splitSlashes target) middle) :
    host.Pending least (((done.child name).toText, none) :: met) := by
  intro other otherName otherTarget otherStands otherIsName otherPresent hlookup rest found leads
  rcases lookup_cons_child stands isName otherStands otherIsName hlookup with ⟨rfl, rfl, -⟩ | hold
  · obtain ⟨fewer, rfl, hleads⟩ := leads.of_link isName.moves present
    obtain ⟨before, after, middle, hsum, hbefore, -⟩ := hleads.split
    exact fewest before middle (by omega) hbefore
  · exact pending other otherName otherTarget otherStands otherIsName otherPresent hold rest found
      (leads.mono le)

lemma Pending.of_nonePending (pending : host.Pending links met) (none : NonePending met later)
    {fewer : Nat} (le : fewer ≤ links) : host.Pending fewer later :=
  fun done name target stands isName present hlookup rest found leads =>
    pending done name target stands isName present (none _ hlookup) rest found (leads.mono le)

/-- A link that is resolved no longer counts as one being resolved. -/
lemma nonePending_finish {text : String} {resolved : Resolved}
    (h : NonePending ((text, none) :: met) later) : NonePending met ((text, some resolved) :: later) := by
  intro other hlookup
  by_cases htext : other = text
  · rw [htext, List.lookup_cons_self] at hlookup
    cases hlookup
  · have hne := beq_eq_false_iff_ne.mpr htext
    rw [List.lookup_cons, hne] at hlookup
    have hold := h other hlookup
    rwa [List.lookup_cons, hne] at hold

end Remembering

/-- Whether a way to resolve parts finds what they lead to, through no more than `links` links. -/
def Finds (host : Host) (links : Nat)
    (resolve : Resolved → List String → MetLinks → Except ResolveError (Resolved × Bool × MetLinks)) :
    Prop :=
  ∀ done todo met found, host.Stands done →
    host.disk.Leads links (done.place host.current) todo found → (∀ part ∈ todo, '/' ∉ part.toList) →
    (∀ text, host.LooksUp done todo text → text.utf8ByteSize < Disk.pathLimit) →
    host.Recalls met → host.Pending links met →
    ∃ resolved later, resolve done todo met = .ok (resolved, true, later) ∧
      host.Continues done todo resolved ∧ host.Recalls later ∧ NonePending met later

section Finding

variable {path : Path} {place : List String}

/-- A name that is no link is looked up by its text, and leads to what has the name. -/
lemma Stands.continues_name (stands : host.Stands done) (nulFree : host.disk.NulFree)
    (searchable : host.disk.Searchable (done.place host.current)) (isName : IsName name)
    (short : name.utf8ByteSize ≤ Disk.nameLimit)
    (present : host.disk.entry? (done.place host.current ++ [name]) = some entry)
    (notLink : ∀ target, entry ≠ .link target)
    (fits : (done.child name).toText.utf8ByteSize < Disk.pathLimit) :
    host.linkEntry (done.child name).toText = .ok entry ∧ host.Continues done [name] (done.child name) := by
  have noNul := nulFree _ _ present name (by simp)
  have found := stands.linkEntry_child searchable isName noNul short present fits
  have free := Disk.notLink_of_entry present notLink
  have child := stands.child searchable isName noNul short present free
  exact ⟨found, continues_child child isName found notLink free⟩

variable {inner : Option
  (Resolved → List String → MetLinks → Except ResolveError (Resolved × Bool × MetLinks))}

/-- The target of a link that is not remembered is resolved on its own, through the fewest links there
can be. -/
lemma exists_inside {found : List String × Entry}
    (hinner : ∀ fewer < links + 1, ∃ inside, inner = some inside ∧ host.Finds fewer inside)
    (stands : host.Stands done) (isName : IsName name)
    (present : host.disk.entry? (done.place host.current ++ [name]) = some (.link target))
    (hlink : host.linkEntry (done.child name).toText = .ok (.link target))
    (next : host.disk.Leads links (Disk.linkStart (done.place host.current) target)
      (Path.splitSlashes target ++ rest) found)
    (fits : ∀ text, host.LooksUp done (name :: rest) text → text.utf8ByteSize < Disk.pathLimit)
    (recalls : host.Recalls met) (pending : host.Pending (links + 1) met) :
    ∃ inside resolved known, inner = some inside ∧
      inside (linkStart done target) (Path.splitSlashes target) (((done.child name).toText, none) :: met) =
        .ok (resolved, true, known) ∧
      host.Continues done [name] resolved ∧
      host.Recalls (((done.child name).toText, some resolved) :: known) ∧
      NonePending met (((done.child name).toText, some resolved) :: known) := by
  obtain ⟨before, after, middle, hsum, hbefore, -⟩ := next.split
  obtain ⟨least, hle, hleast, fewest⟩ := hbefore.exists_fewest
  obtain ⟨inside, hinside, finds⟩ := hinner least (by omega)
  have hfits : ∀ text, host.LooksUp (linkStart done target) (Path.splitSlashes target) text →
      text.utf8ByteSize < Disk.pathLimit :=
    fun text h => fits text (.link isName.moves hlink (h.append rest))
  rw [← place_linkStart] at hleast
  obtain ⟨resolved, known, hresolved, hcontinues, hknown, hnone⟩ :=
    finds _ _ _ _ (stands_linkStart stands target) hleast
      (fun _ => Path.noSlash_of_mem_splitSlashes) hfits (recalls.begin stands isName)
      (pending.begin stands isName (by omega) present fewest)
  have continues := hcontinues.of_link isName.moves present hlink
  exact ⟨inside, resolved, known, hinside, hresolved, continues, hknown.finish stands isName continues,
    nonePending_finish hnone⟩

/-- Parts that lead somewhere are resolved to where they lead. -/
lemma finds_resolveWith (nulFree : host.disk.NulFree) (strict : Bool)
    (hinner : ∀ fewer < links, ∃ inside, inner = some inside ∧ host.Finds fewer inside) :
    host.Finds links (host.resolveWith strict inner) := by
  intro done todo met found stands leads noSlash fits recalls pending
  induction todo generalizing done links met with
  | nil => exact ⟨done, met, rfl, continues_nil stands, recalls, fun _ h => h⟩
  | cons part rest ih =>
    obtain ⟨hpart, hrest⟩ := List.forall_mem_cons.mp noSlash
    have onwards {resolved : Resolved} {known : MetLinks}
        (continues : host.Continues done [part] resolved) (hknown : host.Recalls known)
        (none : NonePending met known) :
        ∃ last later, host.resolveWith strict inner resolved rest known = .ok (last, true, later) ∧
          host.Continues done (part :: rest) last ∧ host.Recalls later ∧ NonePending met later := by
      obtain ⟨last, later, hlast, hcontinues, hlater, hnone⟩ :=
        ih hinner resolved known continues.stands (continues.leads _ _ _ leads) hrest
          (fun text h => fits text (continues.looksUp rest text h)) hknown
          (pending.of_nonePending none le_rfl)
      exact ⟨last, later, hlast, continues.trans hcontinues, hlater,
        fun text h => none text (hnone text h)⟩
    have hleads := leads
    cases leads with
    | stay directory stays next =>
      have hstay := stays.imp_right And.left
      rw [resolveWith, if_pos hstay]
      exact onwards (continues_stay stands hstay) recalls fun _ h => h
    | dots searchable next =>
      rw [resolveWith, if_neg (by decide), if_pos rfl]
      exact onwards (continues_up stands searchable) recalls fun _ h => h
    | name searchable moves short present notLink next =>
      rename_i entry
      have hlink : ∀ target, entry ≠ .link target := by
        rintro target rfl
        exact notLink target present
      obtain ⟨hentry, continues⟩ :=
        stands.continues_name nulFree searchable (moves.isName hpart) short present hlink
          (fits _ (.here moves))
      have hlast := onwards continues recalls fun _ h => h
      rw [resolveWith, if_neg moves.not_stay, if_neg moves.ne_dots]
      simp only [hentry]
      cases entry with
      | link target => exact absurd rfl (hlink target)
      | file content => exact hlast
      | directory => exact hlast
    | link searchable moves short present nonempty next =>
      rename_i links target
      have isName := moves.isName hpart
      have noNul := nulFree _ _ present part (by simp)
      have hlink := stands.linkEntry_child searchable isName noNul short present (fits _ (.here moves))
      rw [resolveWith, if_neg moves.not_stay, if_neg moves.ne_dots]
      simp only [hlink]
      cases hmet : met.lookup (done.child part).toText with
      | some result =>
        cases result with
        | none => exact absurd hleads (pending done part target stands isName present hmet rest found)
        | some result =>
          have continues := recalls done part target result stands isName present hmet
          exact onwards continues recalls fun _ h => h
      | none =>
        obtain ⟨inside, resolved, known, rfl, hinside, continues, hknown, hnone⟩ :=
          exists_inside hinner stands isName present hlink next fits recalls pending
        unfold linkStart at hinside
        simp only [hinside]
        exact onwards continues hknown hnone

lemma finds_resolveParts (nulFree : host.disk.NulFree) (strict : Bool) {depth : Nat}
    (le : links ≤ depth) : host.Finds links (host.resolveParts strict depth) := by
  induction depth generalizing links with
  | zero => exact finds_resolveWith nulFree strict fun fewer lt => absurd lt (by omega)
  | succ depth ih => exact finds_resolveWith nulFree strict fun fewer lt => ⟨_, rfl, ih (by omega)⟩

/-- Whether a path leads somewhere, by texts that are not too long for the system. -/
structure Reaches (host : Host) (path : Path) (place : List String) (entry : Entry) : Prop where
  proper : path.Proper
  found : host.find true path.toText = .ok (place, entry)
  fits : ∀ text, host.LooksUp ⟨path.isAbsolute, []⟩ (Path.splitSlashes path.toText) text →
    text.utf8ByteSize < Disk.pathLimit

lemma reaches_root (host : Host) : host.Reaches ⟨"/", []⟩ [] .directory := by
  have htext : (Path.mk "/" []).toText = "/" := by decide
  have hsplit : Path.splitSlashes "/" = ["", ""] := by decide
  refine ⟨Path.proper_ofParts (by simp), find_eq_ok_iff.mpr ?_, ?_⟩
  · rw [htext, hsplit]
    refine ⟨by decide, by decide, by decide, ?_⟩
    rw [if_pos (by decide), Disk.walk_stay rfl (Or.inl rfl), Disk.walk_stay rfl (Or.inl rfl), Disk.walk_nil]
    rfl
  · rw [htext, hsplit]
    exact fun text looks => absurd looks (not_looksUp_of_stay (by simp))

lemma reaches_current (searchable : host.disk.Searchable host.current) :
    host.Reaches ⟨"", []⟩ host.current .directory := by
  have htext : (Path.mk "" []).toText = "." := by decide
  have hsplit : Path.splitSlashes "." = ["."] := by decide
  refine ⟨⟨Or.inl rfl, by simp⟩, find_eq_ok_iff.mpr ?_, ?_⟩
  · rw [htext, hsplit]
    refine ⟨by decide, by decide, by decide, ?_⟩
    rw [if_neg (by decide), Disk.walk_stay searchable.directory (Or.inr ⟨rfl, searchable.notClosed⟩),
      Disk.walk_nil, searchable.directory]
  · rw [htext, hsplit]
    exact fun text looks => absurd looks (not_looksUp_of_stay (by simp))

lemma Reaches.leads (reaches : host.Reaches path place entry) :
    host.disk.Leads Disk.linkLimit ((⟨path.isAbsolute, []⟩ : Resolved).place host.current)
      (Path.splitSlashes path.toText) (place, entry) := by
  obtain ⟨-, -, -, hwalk⟩ := find_eq_ok_iff.mp reaches.found
  rw [(Path.splitSlashes_toText reaches.proper).1] at hwalk
  exact Disk.leads_of_walk hwalk

lemma Reaches.exists_resolved (reaches : host.Reaches path place entry) (nulFree : host.disk.NulFree)
    (strict : Bool) :
    ∃ resolved later, host.resolveParts strict linkDepth ⟨path.isAbsolute, []⟩
        (Path.splitSlashes path.toText) [] = .ok (resolved, true, later) ∧
      host.Stands resolved ∧ resolved.place host.current = place := by
  have le : Disk.linkLimit ≤ linkDepth := by decide
  obtain ⟨resolved, later, hresolved, continues, -, -⟩ := finds_resolveParts nulFree strict le _ _ [] _
    (stands_start path.isAbsolute) reaches.leads (fun _ => Path.noSlash_of_mem_splitSlashes) reaches.fits
    (fun _ _ _ _ _ _ _ h => by cases h) (fun _ _ _ _ _ _ h => by cases h)
  have hleads := reaches.leads
  rw [← List.append_nil (Path.splitSlashes path.toText)] at hleads
  refine ⟨resolved, later, hresolved, continues.stands, ?_⟩
  cases continues.leads _ _ _ hleads with
  | arrived present => rfl

/-- A path that leads somewhere is resolved to the place it leads to. -/
theorem Reaches.resolve (reaches : host.Reaches path place entry) (nulFree : host.disk.NulFree)
    (grounded : host.Grounded) (strict : Bool) :
    host.resolve strict path = .ok (Path.ofParts place) := by
  obtain ⟨resolved, later, hresolved, -, rfl⟩ := reaches.exists_resolved nulFree strict
  exact resolve_eq_ok_iff.mpr ⟨resolved, true, later, hresolved, (absolute_eq grounded.names resolved).symm⟩

/-- The path of a place without links meets no loop of links. -/
lemma entry_ofParts_ne_tooManyLinks (names : ∀ name ∈ place, IsName name)
    (free : host.disk.LinkFree place) (file : String) :
    host.entry (Path.ofParts place).toText ≠ .error (.obstacle .tooManyLinks file) := by
  have proper : (Path.ofParts place).Proper :=
    Path.proper_ofParts fun name h => (names name h).toIsPart
  obtain ⟨hrooted, lead, hsplit, hlead, -⟩ := Path.splitSlashes_toText proper
  intro h
  have hfind : host.find true (Path.ofParts place).toText = .error (.obstacle .tooManyLinks file) := by
    rw [Host.entry] at h
    cases hfound : host.find true (Path.ofParts place).toText with
    | error error =>
      rw [hfound] at h
      cases h
      rfl
    | ok found =>
      rw [hfound] at h
      cases h
  have hwalk := walk_of_find_tooManyLinks hfind
  rw [hrooted, hsplit] at hwalk
  have plain : host.disk.Plain [] (lead ++ place) := Disk.plain_lead hlead (Disk.LinkFree.plain free names)
  have noSlash : ∀ part ∈ lead ++ place, '/' ∉ part.toList := fun part hpart =>
    Path.noSlash_of_mem_splitSlashes (hsplit ▸ hpart)
  exact Disk.walk_plain_ne_tooManyLinks noSlash plain hwalk

/-- So it can be resolved also where it need not exist, since there is no loop of links. -/
theorem Reaches.resolveLoosely (reaches : host.Reaches path place entry) (nulFree : host.disk.NulFree)
    (grounded : host.Grounded) : host.resolveLoosely path = .ok (Path.ofParts place) := by
  obtain ⟨resolved, later, -, stands, rfl⟩ := reaches.exists_resolved nulFree false
  have names := stands.toUnlinked.place_names grounded
  have free := stands.toUnlinked.place_free grounded
  have hentry := entry_ofParts_ne_tooManyLinks names free
  rw [Host.resolveLoosely, reaches.resolve nulFree grounded]
  simp only [bind, Except.bind]
  generalize host.entry (Path.ofParts (resolved.place host.current)).toText = found at hentry ⊢
  rcases found with (_ | ⟨obstacle, file⟩) | entry
  · rfl
  · cases obstacle with
    | tooManyLinks => exact absurd rfl (hentry file)
    | _ => rfl
  · rfl

end Finding

end Host

end LineFold
