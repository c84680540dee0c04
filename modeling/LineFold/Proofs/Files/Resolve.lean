import LineFold.Files.Resolve
import LineFold.Proofs.Files.Lookup

/-! Where the resolution of a path stands. Its parts lead from the root or the present directory to a
place, and a strict resolution only takes a part after it has looked it up and found no link under
it; what a link leads to is resolved in the same way. So the place it ends at has no link on it or
above it, if there is none above the present directory. -/
namespace LineFold
open LineFold.Path (IsPart IsName enter)

namespace Resolved

variable {path : Resolved} {current : List String} {name : String}

/-- The directory that the parts are followed from. -/
def origin (path : Resolved) (current : List String) : List String :=
  if path.isAbsolute then [] else current

/-- The place that a path leads to if no link is in the way. -/
def place (path : Resolved) (current : List String) : List String :=
  path.parts.foldl enter (path.origin current)

lemma place_child (isName : IsName name) :
    (path.child name).place current = path.place current ++ [name] := by
  unfold place child
  rw [List.foldl_append, List.foldl_cons, List.foldl_nil, Path.enter_name isName]
  rfl

/-- Two dots are added, or change nothing at the root, or take a name away. -/
lemma up_cases (path : Resolved) :
    path.up = path.child ".." ∨ (path = ⟨true, []⟩ ∧ path.up = path) ∨
      ∃ parts name, name ≠ ".." ∧ path.parts = parts ++ [name] ∧
        path.up = { path with parts := parts } := by
  obtain ⟨isAbsolute, parts⟩ := path
  rcases List.eq_nil_or_concat parts with rfl | ⟨parts, name, rfl⟩
  · cases isAbsolute with
    | true => exact Or.inr (Or.inl ⟨rfl, rfl⟩)
    | false => exact Or.inl rfl
  · by_cases hdots : name = ".."
    · left
      subst hdots
      cases isAbsolute <;> simp [up, child]
    · right
      right
      refine ⟨parts, name, hdots, by simp, ?_⟩
      cases isAbsolute <;> simp [up, hdots]

lemma place_up (isPart : ∀ part ∈ path.parts, IsPart part) :
    path.up.place current = (path.place current).dropLast := by
  rcases up_cases path with hup | ⟨hroot, hup⟩ | ⟨parts, name, hname, hparts, hup⟩
  · rw [hup]
    unfold place child
    rw [List.foldl_append, List.foldl_cons, List.foldl_nil, Path.enter_dots]
    rfl
  · rw [hup, hroot]
    rfl
  · have isName : IsName name := ⟨isPart name (by simp [hparts]), hname⟩
    have hchild : path = ({ path with parts := parts } : Resolved).child name := by
      simp [child, ← hparts]
    rw [hup, hchild, place_child isName, List.dropLast_concat]
    rfl

/-- The path that has the same text, unless it is empty. -/
def toPath (path : Resolved) : Path := ⟨if path.isAbsolute then "/" else "", path.parts⟩

lemma toText_eq (ne : path.parts ≠ []) (isPart : ∀ part ∈ path.parts, IsPart part) :
    path.toText = path.toPath.toText := by
  have hjoin := Path.joinParts_ne_empty ne isPart
  cases habsolute : path.isAbsolute <;> simp [toText, toPath, Path.toText, habsolute, hjoin]

lemma proper_toPath (isPart : ∀ part ∈ path.parts, IsPart part) : path.toPath.Proper := by
  refine ⟨?_, isPart⟩
  cases habsolute : path.isAbsolute <;> simp [toPath, habsolute]

lemma origin_toPath : path.toPath.origin current = path.origin current := by
  cases habsolute : path.isAbsolute <;>
    simp [toPath, Path.origin, Path.isAbsolute, origin, habsolute]

end Resolved

namespace Host

variable {host : Host} {path : Resolved} {name : String} {entry : Entry}

/-- Whether the parts of a path meet no link on their way. -/
structure Unlinked (host : Host) (path : Resolved) : Prop where
  isPart : ∀ part ∈ path.parts, IsPart part
  plain : host.disk.Plain (path.origin host.current) path.parts

lemma unlinked_root : host.Unlinked ⟨true, []⟩ := ⟨by simp, trivial⟩

lemma Unlinked.child (unlinked : host.Unlinked path) (isName : IsName name)
    (notLink : host.disk.NotLink (path.place host.current ++ [name])) :
    host.Unlinked (path.child name) where
  isPart := List.forall_mem_append.mpr
    ⟨unlinked.isPart, List.forall_mem_singleton.mpr isName.toIsPart⟩
  plain := Disk.plain_append.mpr ⟨unlinked.plain, fun _ => notLink, trivial⟩

lemma Unlinked.up (unlinked : host.Unlinked path) : host.Unlinked path.up := by
  rcases path.up_cases with hup | ⟨-, hup⟩ | ⟨parts, name, -, hparts, hup⟩
  · have dots : IsPart ".." := ⟨by decide, by decide, by decide⟩
    rw [hup]
    refine ⟨List.forall_mem_append.mpr ⟨unlinked.isPart, List.forall_mem_singleton.mpr dots⟩, ?_⟩
    exact Disk.plain_append.mpr ⟨unlinked.plain, fun h => absurd rfl h.ne_dots, trivial⟩
  · rw [hup]
    exact unlinked
  · have hplain := unlinked.plain
    rw [hparts] at hplain
    rw [hup]
    refine ⟨fun part h => unlinked.isPart part ?_, (Disk.plain_append.mp hplain).1⟩
    rw [hparts]
    exact List.mem_append_left _ h

/-- What is found under a name behind a path without links is what the disk has there. -/
lemma Unlinked.entry_child (unlinked : host.Unlinked path) (isName : IsName name)
    (h : host.linkEntry (path.child name).toText = .ok entry) :
    host.disk.walk false Disk.linkLimit (path.place host.current) [name] =
      .ok (path.place host.current ++ [name], entry) := by
  have isPart : ∀ part ∈ (path.child name).parts, IsPart part :=
    List.forall_mem_append.mpr ⟨unlinked.isPart, List.forall_mem_singleton.mpr isName.toIsPart⟩
  obtain ⟨place, hfind⟩ := linkEntry_eq_ok_iff.mp h
  rw [Resolved.toText_eq (by simp [Resolved.child]) isPart] at hfind
  have hwalk := walk_of_find (Resolved.proper_toPath isPart) hfind
  rw [Resolved.origin_toPath] at hwalk
  have noSlash : ∀ part ∈ path.parts, '/' ∉ part.toList :=
    fun part hpart => (unlinked.isPart part hpart).noSlash
  have hlast := Disk.walk_of_plain noSlash unlinked.plain hwalk
  have hfound := (Disk.walk_name_of_ok isName hlast).1
  exact hlast.trans (congrArg Except.ok hfound)

/-- No links are used up on the way to a name behind a path without links. -/
lemma Unlinked.child_ne_tooManyLinks (unlinked : host.Unlinked path) (isName : IsName name)
    (file : String) :
    host.linkEntry (path.child name).toText ≠ .error (.obstacle .tooManyLinks file) := by
  intro h
  have isPart : ∀ part ∈ (path.child name).parts, IsPart part :=
    List.forall_mem_append.mpr ⟨unlinked.isPart, List.forall_mem_singleton.mpr isName.toIsPart⟩
  have htext := Resolved.toText_eq (by simp [Resolved.child]) isPart
  obtain ⟨hrooted, lead, hsplit, hlead, -⟩ := Path.splitSlashes_toText (Resolved.proper_toPath isPart)
  have hsplit : Path.splitSlashes (path.child name).toPath.toText = lead ++ path.parts ++ [name] :=
    hsplit.trans (List.append_assoc ..).symm
  have noSlash : ∀ part ∈ lead ++ path.parts, '/' ∉ part.toList := fun part hpart =>
    Path.noSlash_of_mem_splitSlashes (hsplit ▸ List.mem_append_left [name] hpart)
  have hwalk := walk_of_find_tooManyLinks (linkEntry_eq_error_iff.mp h)
  rw [htext, hrooted, hsplit] at hwalk
  have horigin : (path.child name).toPath.origin host.current = path.origin host.current :=
    Resolved.origin_toPath
  have hplain : host.disk.Plain ((path.child name).toPath.origin host.current) (lead ++ path.parts) :=
    Disk.plain_lead hlead (horigin ▸ unlinked.plain)
  exact Disk.walk_concat_ne_tooManyLinks noSlash hplain hwalk

section Strict

variable {done resolved : Resolved} {todo rest : List String} {met later : MetLinks} {whole : Bool}
  {depth : Nat}
  {inner : Option
    (Resolved → List String → MetLinks → Except ResolveError (Resolved × Bool × MetLinks))}

lemma endedByLoop_ne_ok (result : Resolved × Bool × MetLinks) :
    host.endedByLoop true path rest met ≠ .ok result := by
  rw [endedByLoop, if_pos rfl]
  cases host.entry path.toText <;> simp

lemma unlinked_start (unlinked : host.Unlinked done) (target : String) :
    host.Unlinked (if Path.isRooted target then ⟨true, []⟩ else done) := by
  by_cases hrooted : Path.isRooted target
  · rw [if_pos hrooted]
    exact unlinked_root
  · rw [if_neg hrooted]
    exact unlinked

lemma remembered_cons_none {text : String}
    (remembered : ∀ text result, (text, some result) ∈ met → host.Unlinked result) :
    ∀ other result, (other, some result) ∈ (text, none) :: met → host.Unlinked result := by
  intro other result hmem
  rcases List.mem_cons.mp hmem with hnew | hold
  · cases hnew
  · exact remembered other result hold

/-- Whether a way to resolve parts leads from paths without links, with none but such among the
results it remembers, to such paths, and is never cut short. -/
def KeepsUnlinked (host : Host)
    (resolve : Resolved → List String → MetLinks → Except ResolveError (Resolved × Bool × MetLinks)) :
    Prop :=
  ∀ done todo met resolved whole later,
    host.Unlinked done → (∀ text result, (text, some result) ∈ met → host.Unlinked result) →
    (∀ part ∈ todo, '/' ∉ part.toList) → resolve done todo met = .ok (resolved, whole, later) →
    host.Unlinked resolved ∧ whole = true ∧
      ∀ text result, (text, some result) ∈ later → host.Unlinked result

lemma keepsUnlinked_resolveWith (hinner : ∀ inside ∈ inner, host.KeepsUnlinked inside) :
    host.KeepsUnlinked (host.resolveWith true inner) := by
  intro done todo met resolved whole later unlinked remembered noSlash h
  fun_induction host.resolveWith true inner done todo met with
  | case1 done met =>
    cases h
    exact ⟨unlinked, rfl, remembered⟩
  | case2 done name rest met hstay ih =>
    exact ih unlinked remembered (List.forall_mem_cons.mp noSlash).2 h
  | case3 done rest met hstay ih =>
    exact ih unlinked.up remembered (List.forall_mem_cons.mp noSlash).2 h
  | case4 => cases h
  | case5 => cases h
  | case6 done name rest met hstay hdots next obstacle path hfound hstrict =>
    exact absurd rfl hstrict
  | case7 done name rest met hstay hdots next target hfound result hmet =>
    rename_i ih
    obtain ⟨before, after, rfl, -⟩ := List.lookup_eq_some_iff.mp hmet
    have hresult : host.Unlinked result :=
      remembered _ result (List.mem_append_right _ List.mem_cons_self)
    exact ih hresult remembered (List.forall_mem_cons.mp noSlash).2 h
  | case8 => exact absurd h (endedByLoop_ne_ok _)
  | case9 => exact absurd h (endedByLoop_ne_ok _)
  | case10 => cases h
  | case11 done name rest met hstay hdots next target hfound hmet inside hsome start result known =>
    rename_i hstart
    obtain ⟨-, hwhole, -⟩ := hinner inside hsome _ _ _ _ _ _ (unlinked_start unlinked target)
      (remembered_cons_none remembered) (fun _ => Path.noSlash_of_mem_splitSlashes) hstart
    cases hwhole
  | case12 done name rest met hstay hdots next target hfound hmet inside hsome start result known =>
    rename_i hstart ih
    obtain ⟨hresult, -, hknown⟩ := hinner inside hsome _ _ _ _ _ _ (unlinked_start unlinked target)
      (remembered_cons_none remembered) (fun _ => Path.noSlash_of_mem_splitSlashes) hstart
    refine ih hresult ?_ (List.forall_mem_cons.mp noSlash).2 (hsome ▸ h)
    intro text other hmem
    rcases List.mem_cons.mp hmem with hnew | hold
    · cases hnew
      exact hresult
    · exact hknown text other hold
  | case13 done name rest met hstay hdots next entry notLink hfound =>
    rename_i ih
    obtain ⟨hname, hrest⟩ := List.forall_mem_cons.mp noSlash
    have isName := (Path.Moves.mk hstay hdots).isName hname
    have hentry := (Disk.walk_name_of_ok isName (unlinked.entry_child isName hfound)).2
    exact ih (unlinked.child isName (Disk.notLink_of_entry hentry notLink)) remembered hrest h

lemma keepsUnlinked_resolveParts : host.KeepsUnlinked (host.resolveParts true depth) := by
  induction depth with
  | zero => exact keepsUnlinked_resolveWith (by simp)
  | succ depth ih =>
    refine keepsUnlinked_resolveWith fun inside h => ?_
    cases h
    exact ih

end Strict

section Absolute

variable {given located : Path} {strict : Bool}

lemma absolute_eq (names : ∀ name ∈ host.current, IsName name) (path : Resolved) :
    path.absolute host.current = Path.ofParts (path.place host.current) := by
  unfold Resolved.absolute Resolved.normalParts Resolved.place Resolved.origin
  cases path.isAbsolute with
  | true => rfl
  | false =>
    simp only [Bool.false_eq_true, if_false, List.foldl_append]
    rw [Disk.foldl_enter_names names, List.nil_append]

lemma resolve_eq_ok_iff :
    host.resolve strict given = .ok located ↔
      ∃ resolved whole met,
        host.resolveParts strict linkDepth ⟨given.isAbsolute, []⟩ (Path.splitSlashes given.toText) [] =
          .ok (resolved, whole, met) ∧ located = resolved.absolute host.current := by
  rw [resolve]
  cases host.resolveParts strict linkDepth ⟨given.isAbsolute, []⟩ (Path.splitSlashes given.toText) [] with
  | error error => simp [bind, Except.bind]
  | ok result =>
    obtain ⟨resolved, whole, met⟩ := result
    simp [bind, Except.bind, pure, Except.pure, eq_comm]

end Absolute

end Host

end LineFold
