import LineFold.Proofs.Files.Confinement

/-! Links on the way to a located file. The test for links looks at each path above the given one as
it is written, and takes one it cannot look up for no link; the resolution that follows goes by where it
stands. The two see the same entries as long as two dots only ever follow a directory: then the
parts as written and the resolved ones lead to one place. Behind a file two dots take the resolution
back, while the paths as written lead nowhere, so a link behind them is not seen. -/
namespace LineFold.Host
open LineFold.Path (IsPart IsName enter)

variable {host : Host} {given : String} {base located path : Path} {entry : Entry}

lemma proper_expandHome (proper : path.Proper) {expanded : Path}
    (h : host.expandHome path = some expanded) : expanded.Proper := by
  unfold expandHome at h
  split at h
  · rename_i part rest habsolute hparts
    by_cases htilde : Path.hasTilde part = true
    · rw [if_pos htilde] at h
      obtain ⟨home, -, rfl⟩ := Option.map_eq_some_iff.mp h
      refine (Path.proper_ofText home).join ⟨Or.inl rfl, fun other hother => ?_⟩
      exact proper.isPart other (hparts ▸ List.mem_cons_of_mem part hother)
    · rw [if_neg htilde] at h
      cases h
      exact proper
  · cases h
    exact proper

/-- Whether a strict resolution that has met no link so far stands where the parts that it has taken
lead as they are written. -/
structure Followed (host : Host) (start before : List String) (done : Resolved) : Prop where
  unlinked : host.Unlinked done
  walk_eq : ∀ rest, host.disk.walk false Disk.linkLimit start (before ++ rest) =
    host.disk.walk false Disk.linkLimit (done.place host.current) rest
  noNul : ∀ part ∈ before, '\x00' ∉ part.toList

variable {start before todo : List String} {done resolved : Resolved} {name : String}

lemma followed_nil (isAbsolute : Bool) :
    host.Followed ((⟨isAbsolute, []⟩ : Resolved).origin host.current) [] ⟨isAbsolute, []⟩ where
  unlinked := ⟨by simp, trivial⟩
  walk_eq := fun _ => rfl
  noNul := by simp

lemma Followed.up (followed : host.Followed start before done)
    (searchable : host.disk.Searchable (done.place host.current)) :
    host.Followed start (before ++ [".."]) done.up where
  unlinked := followed.unlinked.up
  walk_eq := by
    intro rest
    rw [List.append_assoc, List.singleton_append, followed.walk_eq, Disk.walk_dots searchable,
      Resolved.place_up followed.unlinked.isPart]
  noNul := List.forall_mem_append.mpr
    ⟨followed.noNul, List.forall_mem_singleton.mpr (by decide)⟩

lemma noNul_of_linkEntry_child (found : host.linkEntry (done.child name).toText = .ok entry) :
    '\x00' ∉ name.toList := by
  obtain ⟨place, hfind⟩ := linkEntry_eq_ok_iff.mp found
  intro h
  refine (find_eq_ok_iff.mp hfind).1 ?_
  rw [Resolved.toText, String.toList_append]
  exact List.mem_append_right _ (Path.mem_joinParts_append h)

lemma Followed.noNul_child (followed : host.Followed start before done)
    (found : host.linkEntry (done.child name).toText = .ok entry) :
    ∀ part ∈ before ++ [name], '\x00' ∉ part.toList :=
  List.forall_mem_append.mpr
    ⟨followed.noNul, List.forall_mem_singleton.mpr (noNul_of_linkEntry_child found)⟩

lemma Followed.child (followed : host.Followed start before done) (isName : IsName name)
    (found : host.linkEntry (done.child name).toText = .ok entry)
    (notLink : ∀ target, entry ≠ .link target) :
    host.Followed start (before ++ [name]) (done.child name) := by
  have hwalk := followed.unlinked.entry_child isName found
  obtain ⟨short, -⟩ := Disk.present_of_walk_ok isName.moves hwalk
  have present := (Disk.walk_name_of_ok isName hwalk).2
  have hlink := Disk.notLink_of_entry present notLink
  refine ⟨followed.unlinked.child isName hlink, fun rest => ?_, followed.noNul_child found⟩
  rw [List.append_assoc, List.singleton_append, followed.walk_eq,
    Disk.walk_name (Disk.searchable_of_walk_ok isName.ne_empty hwalk) isName.moves short present hlink,
    Resolved.place_child isName]

/-- The path as written up to a link is one that the test for links looks at. -/
lemma Followed.linkEntry_written (followed : host.Followed (path.origin host.current) before done)
    (proper : path.Proper) (short : path.toText.utf8ByteSize < Disk.pathLimit)
    (written : path.parts = before ++ name :: todo) (isName : IsName name) {target : String}
    (found : host.linkEntry (done.child name).toText = .ok (.link target)) :
    host.linkEntry (Path.mk path.root (before ++ [name])).toText = .ok (.link target) := by
  have hwalk := (followed.walk_eq [name]).trans (followed.unlinked.entry_child isName found)
  have hsplit : path.parts = before ++ [name] ++ todo := written.trans (List.append_cons ..)
  have above : (Path.mk path.root (before ++ [name])).Proper := by
    refine ⟨proper.root, fun part h => proper.isPart part ?_⟩
    rw [hsplit]
    exact List.mem_append_left todo h
  have hshort : (Path.mk path.root (before ++ [name])).toText.utf8ByteSize < Disk.pathLimit := by
    have hpath : path.toText = path.root ++ Path.joinParts path.parts :=
      Path.toText_of_ne_nil (by simp [hsplit]) proper.isPart
    have habove : (Path.mk path.root (before ++ [name])).toText =
        path.root ++ Path.joinParts (before ++ [name]) :=
      Path.toText_of_ne_nil (by simp) above.isPart
    have hle := Path.utf8ByteSize_joinParts_le (before ++ [name]) todo
    rw [hpath, hsplit, String.utf8ByteSize_append] at short
    rw [habove, String.utf8ByteSize_append]
    omega
  have ne : (Path.mk path.root (before ++ [name])).parts ≠ [] := by simp
  refine linkEntry_eq_ok_iff.mpr ⟨_, find_of_walk above ne ?_ hshort hwalk⟩
  exact Path.noNul_toText above ne (followed.noNul_child found)

lemma linkEntry_of_leadsThroughLink (h : host.leadsThroughLink path = false) {above : List String}
    (habove : above <+: path.parts) (target : String) :
    host.linkEntry (Path.mk path.root above).toText ≠ .ok (.link target) := by
  intro hlink
  have hmem : Path.mk path.root above ∈ path.withParents := by
    obtain ⟨below, hsplit⟩ := habove
    refine List.mem_map.mpr ⟨above, ?_, rfl⟩
    refine List.mem_map.mpr ⟨above.length, ?_, ?_⟩
    · rw [List.mem_reverse, List.mem_range, ← hsplit, List.length_append]
      omega
    · rw [← hsplit, List.take_left]
  have hany := List.any_eq_false.mp h _ hmem
  rw [hlink] at hany
  exact hany rfl

/-- Whether two dots only follow directories that may be searched, so that they can be looked up. -/
def DotsFollowDirectories (host : Host) (path : Path) : Prop :=
  ∀ above below, path.parts = above ++ ".." :: below →
    ∃ entry, host.linkEntry (Path.mk path.root (above ++ [".."])).toText = .ok entry

lemma Followed.searchable (followed : host.Followed (path.origin host.current) before done)
    (proper : path.Proper) (dots : host.DotsFollowDirectories path)
    (written : path.parts = before ++ ".." :: todo) :
    host.disk.Searchable (done.place host.current) := by
  obtain ⟨entry, hentry⟩ := dots before todo written
  obtain ⟨place, hfind⟩ := linkEntry_eq_ok_iff.mp hentry
  have above : (Path.mk path.root (before ++ [".."])).Proper := by
    refine ⟨proper.root, fun part h => proper.isPart part ?_⟩
    rw [written, List.append_cons]
    exact List.mem_append_left todo h
  have hwalk := (followed.walk_eq [".."]).symm.trans (walk_of_find above hfind)
  exact Disk.searchable_of_walk_ok (by decide) hwalk

section Run

lemma ofAccess_of_ne {obstacle : Obstacle} {file : String} (ne : obstacle ≠ .tooManyLinks) :
    ResolveError.ofAccess (.obstacle obstacle file) = .access (.obstacle obstacle file) := by
  cases obstacle with
  | tooManyLinks => exact absurd rfl ne
  | _ => rfl

variable {inner : Option
    (Resolved → List String → MetLinks → Except ResolveError (Resolved × Bool × MetLinks))}
  {whole : Bool} {met : MetLinks}

/-- A strict resolution meets no link if the test for links finds none: it gets to the end of the path,
or ends at a part that it cannot look up. -/
lemma resolveWith_of_unseen (proper : path.Proper) (unseen : host.leadsThroughLink path = false)
    (short : path.toText.utf8ByteSize < Disk.pathLimit) (dots : host.DotsFollowDirectories path)
    (written : path.parts = before ++ todo)
    (followed : host.Followed (path.origin host.current) before done) :
    (∃ resolved, host.resolveWith true inner done todo [] = .ok (resolved, true, [])) ∨
      ∃ error, host.resolveWith true inner done todo [] = .error (.access error) := by
  induction todo generalizing before done with
  | nil => exact Or.inl ⟨done, rfl⟩
  | cons part todo ih =>
    have hwritten : path.parts = before ++ [part] ++ todo := written.trans (List.append_cons ..)
    have hpart : IsPart part := by
      refine proper.isPart part ?_
      rw [written]
      exact List.mem_append_right _ List.mem_cons_self
    have hstay : ¬(part = "" ∨ part = ".") := not_or.mpr ⟨hpart.ne_empty, hpart.ne_dot⟩
    rw [resolveWith, if_neg hstay]
    rcases hpart.isName_or_eq_dots with isName | rfl
    · rw [if_neg isName.ne_dots]
      cases hfound : host.linkEntry (done.child part).toText with
      | error error =>
        cases error with
        | nulByte => exact Or.inr ⟨.nulByte, by simp [hfound]⟩
        | obstacle obstacle file =>
          have hfew : obstacle ≠ .tooManyLinks := by
            rintro rfl
            exact followed.unlinked.child_ne_tooManyLinks isName file hfound
          exact Or.inr ⟨.obstacle obstacle file, by simp [hfound, ofAccess_of_ne hfew]⟩
      | ok entry =>
        by_cases hlink : ∃ target, entry = .link target
        · obtain ⟨target, rfl⟩ := hlink
          have hseen := followed.linkEntry_written proper short written isName hfound
          have habove : before ++ [part] <+: path.parts := ⟨todo, hwritten.symm⟩
          exact absurd hseen (linkEntry_of_leadsThroughLink unseen habove target)
        · have notLink := not_exists.mp hlink
          have hrest := ih hwritten (followed.child isName hfound notLink)
          cases entry with
          | link target => exact absurd rfl (notLink target)
          | file content => simpa [hfound] using hrest
          | directory => simpa [hfound] using hrest
    · rw [if_pos rfl]
      exact ih hwritten (followed.up (followed.searchable proper dots written))

lemma resolveWith_meets_no_link (proper : path.Proper) (unseen : host.leadsThroughLink path = false)
    (short : path.toText.utf8ByteSize < Disk.pathLimit) (dots : host.DotsFollowDirectories path)
    (written : path.parts = before ++ todo)
    (followed : host.Followed (path.origin host.current) before done)
    (h : host.resolveWith true inner done todo [] = .ok (resolved, whole, met)) :
    whole = true ∧ met = [] := by
  rcases resolveWith_of_unseen proper unseen short dots written followed with
    ⟨same, hsame⟩ | ⟨error, herror⟩
  · cases hsame.symm.trans h
    exact ⟨rfl, rfl⟩
  · cases herror.symm.trans h

lemma resolveWith_lead {strict : Bool} {lead : List String}
    (stay : ∀ part ∈ lead, part = "" ∨ part = ".") :
    host.resolveWith strict inner done (lead ++ todo) met =
      host.resolveWith strict inner done todo met := by
  induction lead with
  | nil => rfl
  | cons part lead ih =>
    obtain ⟨hpart, hlead⟩ := List.forall_mem_cons.mp stay
    rw [List.cons_append, resolveWith, if_pos hpart, ih hlead]

end Run

lemma resolveParts_eq (host : Host) (strict : Bool) (depth : Nat) :
    ∃ inner, host.resolveParts strict depth = host.resolveWith strict inner := by
  cases depth with
  | zero => exact ⟨none, rfl⟩
  | succ depth => exact ⟨some (host.resolveParts strict depth), rfl⟩

/-- The resolution of a path that is accepted has met no link, if the path is not too long for the
system and has two dots only behind directories that may be searched. -/
theorem locate_meets_no_link (host : Host) (given : String) (base located path : Path)
    (accepted : host.locate given base = .ok located)
    (expanded : host.expandHome (Path.ofText given) = some path)
    (short : path.toText.utf8ByteSize < Disk.pathLimit)
    (dots : host.DotsFollowDirectories path) :
    ∃ resolved, host.resolveParts true linkDepth ⟨path.isAbsolute, []⟩
        (Path.splitSlashes path.toText) [] = .ok (resolved, true, []) ∧
      located = resolved.absolute host.current := by
  obtain ⟨same, hsame, unseen, hresolve, -, -⟩ := locate_eq_ok accepted
  cases expanded.symm.trans hsame
  have proper := proper_expandHome (Path.proper_ofText given) expanded
  obtain ⟨resolved, whole, met, hparts, hlocated⟩ := resolve_eq_ok_iff.mp hresolve
  obtain ⟨-, lead, hsplit, hlead, -⟩ := Path.splitSlashes_toText proper
  obtain ⟨inner, hinner⟩ := host.resolveParts_eq true linkDepth
  have hrun := hparts
  rw [hinner, hsplit, resolveWith_lead hlead] at hrun
  have written : path.parts = [] ++ path.parts := rfl
  have followed : host.Followed (path.origin host.current) [] ⟨path.isAbsolute, []⟩ :=
    followed_nil path.isAbsolute
  obtain ⟨rfl, rfl⟩ := resolveWith_meets_no_link proper unseen short dots written followed hrun
  exact ⟨resolved, hparts, hlocated⟩

/-- Two dots behind a directory, from a home directory that has to be put in. -/
theorem locate_meets_no_link_home :
    linkedHost.locate "~/src/../src/b.txt" ⟨"/", ["work"]⟩ = .ok ⟨"/", ["work", "src", "b.txt"]⟩ ∧
      linkedHost.expandHome (Path.ofText "~/src/../src/b.txt") =
        some ⟨"/", ["work", "src", "..", "src", "b.txt"]⟩ ∧
      (Path.mk "/" ["work", "src", "..", "src", "b.txt"]).toText.utf8ByteSize < Disk.pathLimit ∧
      linkedHost.DotsFollowDirectories ⟨"/", ["work", "src", "..", "src", "b.txt"]⟩ ∧
      ∃ resolved, linkedHost.resolveParts true linkDepth ⟨true, []⟩
          (Path.splitSlashes "/work/src/../src/b.txt") [] = .ok (resolved, true, []) ∧
        ⟨"/", ["work", "src", "b.txt"]⟩ = resolved.absolute linkedHost.current := by
  have accepted : linkedHost.locate "~/src/../src/b.txt" ⟨"/", ["work"]⟩ =
      .ok ⟨"/", ["work", "src", "b.txt"]⟩ := by
    decide +kernel
  have expanded : linkedHost.expandHome (Path.ofText "~/src/../src/b.txt") =
      some ⟨"/", ["work", "src", "..", "src", "b.txt"]⟩ := by
    decide +kernel
  have source : linkedHost.linkEntry "/work/src/.." = .ok .directory := by decide +kernel
  have dots : linkedHost.DotsFollowDirectories ⟨"/", ["work", "src", "..", "src", "b.txt"]⟩ := by
    intro above below h
    have habove : above = ["work", "src"] := by
      rcases above with _ | ⟨a, _ | ⟨b, _ | ⟨c, _ | ⟨d, _ | ⟨e, above⟩⟩⟩⟩⟩ <;> simp_all
    rw [habove]
    exact ⟨_, source⟩
  have short : (Path.mk "/" ["work", "src", "..", "src", "b.txt"]).toText.utf8ByteSize <
      Disk.pathLimit := by
    decide +kernel
  exact ⟨accepted, expanded, short, dots,
    locate_meets_no_link linkedHost _ _ _ _ accepted expanded short dots⟩

/-- Behind a file two dots hide a link: the path is accepted, and its resolution meets the link. -/
theorem locate_may_meet_link :
    ¬ ∀ (host : Host) (given : String) (base located path : Path),
      host.locate given base = .ok located →
      host.expandHome (Path.ofText given) = some path →
      ∃ resolved, host.resolveParts true linkDepth ⟨path.isAbsolute, []⟩
        (Path.splitSlashes path.toText) [] = .ok (resolved, true, []) := by
  intro h
  obtain ⟨resolved, hresolved⟩ := h linkedHost "a.txt/../link.txt" ⟨"/", ["work"]⟩
    ⟨"/", ["work", "src", "b.txt"]⟩ ⟨"", ["a.txt", "..", "link.txt"]⟩ (by decide +kernel)
    (by decide +kernel)
  have hmet : (linkedHost.resolveParts true linkDepth ⟨false, []⟩
      (Path.splitSlashes "a.txt/../link.txt") []).map (fun result => result.2.2.isEmpty) =
        .ok false := by
    decide +kernel
  have htext : (Path.mk "" ["a.txt", "..", "link.txt"]).toText = "a.txt/../link.txt" := by
    decide +kernel
  have habsolute : (Path.mk "" ["a.txt", "..", "link.txt"]).isAbsolute = false := by decide
  rw [htext, habsolute] at hresolved
  rw [hresolved] at hmet
  cases hmet

end LineFold.Host
