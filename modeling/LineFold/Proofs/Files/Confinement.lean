import LineFold.Proofs.Files.Resolve
import LineFold.Proofs.Guards

/-! A located file lies below its base. The location is the place where a strict resolution ends, so
it is absolute, has no dots left and no link on its way; then the parts of the base are compared
with its own, which is safe whatever the base is: two dots or a link in the base would have to be
in the location too. -/
namespace LineFold.Host
open LineFold.Path (IsPart IsName enter)

variable {host : Host} {given : String} {base located : Path}

lemma isFile_eq_true {path : String} (h : host.isFile path = .ok true) :
    ∃ content, host.entry path = .ok (.file content) := by
  rw [isFile] at h
  cases hentry : host.entry path with
  | error error =>
    rw [hentry] at h
    cases error with
    | nulByte => cases h
    | obstacle obstacle file => cases habsent : obstacle.meansAbsent <;> simp [habsent] at h
  | ok entry =>
    rw [hentry] at h
    cases entry with
    | file content => exact ⟨content, rfl⟩
    | directory => cases h
    | link target => cases h

lemma locate_eq_ok (h : host.locate given base = .ok located) :
    ∃ path, host.expandHome (Path.ofText given) = some path ∧ host.leadsThroughLink path = false ∧
      host.resolve true path = .ok located ∧ host.isFile located.toText = .ok true ∧
        located.isBelow base = true := by
  rw [locate] at h
  cases hexpand : host.expandHome (Path.ofText given) with
  | none => simp [hexpand, throw, throwThe, MonadExceptOf.throw] at h
  | some path =>
    simp only [hexpand, Guards.refuse_eq_ok, Guards.require_eq_ok, Guards.bind_eq_ok,
      Guards.mapError_eq_ok] at h
    obtain ⟨hlink, resolved, hresolve, isFile, hfile, hregular, hbelow, hsame⟩ := h
    cases hsame
    rw [hregular] at hfile
    exact ⟨path, rfl, Bool.eq_false_iff.mpr hlink, hresolve, hfile, hbelow⟩

/-- Whether the present directory is given by names and no link leads to it. -/
structure Grounded (host : Host) : Prop where
  names : ∀ name ∈ host.current, IsName name
  free : host.disk.LinkFree host.current

variable {resolved : Resolved} {path : Path}

lemma Unlinked.place_free (unlinked : host.Unlinked resolved) (grounded : host.Grounded) :
    host.disk.LinkFree (resolved.place host.current) := by
  refine Disk.LinkFree.foldl_enter ?_ unlinked.isPart unlinked.plain
  rw [Resolved.origin]
  cases resolved.isAbsolute with
  | true => exact Disk.linkFree_nil
  | false => exact grounded.free

lemma Unlinked.place_names (unlinked : host.Unlinked resolved) (grounded : host.Grounded) :
    ∀ name ∈ resolved.place host.current, IsName name := by
  refine Path.isName_of_mem_foldl_enter ?_ unlinked.isPart
  rw [Resolved.origin]
  cases resolved.isAbsolute with
  | true => simp
  | false => exact grounded.names

/-- A strict resolution gives a location without dots and links. -/
lemma resolve_plain (grounded : host.Grounded) (h : host.resolve true path = .ok located) :
    ∃ parts, located = Path.ofParts parts ∧ (∀ name ∈ parts, IsName name) ∧
      host.disk.LinkFree parts := by
  obtain ⟨resolved, whole, met, hparts, rfl⟩ := resolve_eq_ok_iff.mp h
  have unlinked : host.Unlinked ⟨path.isAbsolute, []⟩ := ⟨by simp, trivial⟩
  obtain ⟨hresolved, -, -⟩ := keepsUnlinked_resolveParts _ _ _ _ _ _ unlinked (by simp)
    (fun _ => Path.noSlash_of_mem_splitSlashes) hparts
  exact ⟨resolved.place host.current, absolute_eq grounded.names resolved,
    hresolved.place_names grounded, hresolved.place_free grounded⟩

lemma isBelow_of_isAbsolute (absolute : base.isAbsolute) (h : located.isBelow base = true) :
    located.root = base.root ∧ base.parts <+: located.parts := by
  rw [Path.isBelow, if_pos absolute] at h
  simpa using h

/-- A located file is a regular one below the base, named by an absolute path that has no dots and no
link on its way. -/
theorem locate_confined (host : Host) (given : String) (base located : Path)
    (grounded : host.Grounded) (absolute : base.isAbsolute)
    (accepted : host.locate given base = .ok located) :
    located.isAbsolute ∧ (∀ part ∈ located.parts, IsName part) ∧
      host.disk.LinkFree located.parts ∧
      (∃ content, host.disk.entry? located.parts = some (.file content)) ∧
      located.root = base.root ∧ base.parts <+: located.parts := by
  obtain ⟨path, -, -, hresolve, hfile, hbelow⟩ := locate_eq_ok accepted
  obtain ⟨parts, rfl, names, free⟩ := resolve_plain grounded hresolve
  obtain ⟨content, hentry⟩ := isFile_eq_true hfile
  obtain ⟨place, hfind⟩ := entry_eq_ok_iff.mp hentry
  obtain ⟨-, hplace⟩ := find_ofParts names free hfind
  obtain ⟨hroot, hparts⟩ := isBelow_of_isAbsolute absolute hbelow
  exact ⟨rfl, names, free, ⟨content, hplace⟩, hroot, hparts⟩

/-- A working directory with a link to a file further down. -/
def linkedHost : Host where
  disk := { entries := [(["work"], .directory), (["work", "a.txt"], .file [0x61]),
    (["work", "link.txt"], .link "src/../src/b.txt"), (["work", "src"], .directory),
    (["work", "src", "b.txt"], .file [0x62])] }
  current := ["work"]
  environment := [("HOME", "/work/")]
  homes := []

lemma grounded_linkedHost : linkedHost.Grounded where
  names := by
    intro name h
    rw [List.mem_singleton.mp h]
    exact ⟨⟨by decide, by decide, by decide⟩, by decide⟩
  free := by
    have directory : linkedHost.disk.entry? ["work"] = some .directory := rfl
    exact Disk.linkFree_nil.concat (Disk.notLink_of_entry directory (by simp))

/-- Two dots behind a file, and a link behind these: the location is the file that the link leads to,
and no link leads to it. -/
theorem locate_confined_linked :
    linkedHost.Grounded ∧ (Path.mk "/" ["work"]).isAbsolute ∧
      linkedHost.locate "~/a.txt/../link.txt" ⟨"/", ["work"]⟩ =
        .ok ⟨"/", ["work", "src", "b.txt"]⟩ ∧
      (Path.mk "/" ["work", "src", "b.txt"]).isAbsolute ∧
      (∀ part ∈ ["work", "src", "b.txt"], IsName part) ∧
      linkedHost.disk.LinkFree ["work", "src", "b.txt"] ∧
      (∃ content, linkedHost.disk.entry? ["work", "src", "b.txt"] = some (.file content)) ∧
      ["work"] <+: ["work", "src", "b.txt"] := by
  have accepted : linkedHost.locate "~/a.txt/../link.txt" ⟨"/", ["work"]⟩ =
      .ok ⟨"/", ["work", "src", "b.txt"]⟩ := by
    decide +kernel
  obtain ⟨absolute, names, free, file, -, hprefixed⟩ :=
    locate_confined linkedHost _ _ _ grounded_linkedHost (by decide) accepted
  exact ⟨grounded_linkedHost, by decide, accepted, absolute, names, free, file, hprefixed⟩

end LineFold.Host
