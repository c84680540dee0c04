import LineFold.Proofs.Files.Links

/-! How locating a file fails. A path is refused where it leads through a link or to no file below the
base. Three kinds of failures are no refusals: a home directory that nobody has, a loop of links, and a
location that cannot be looked at, as its text is too long for the system or a directory above it may not
be searched. The test for links comes first, so a loop can only be met where that test overlooks it: behind
two dots that do not follow a directory that may be searched, or on a path that is too long itself. -/
namespace LineFold.Host

/-- The ways in which a given path makes locating it fail without a refusal. -/
inductive Escape (host : Host) (given : String) : LocateError → Prop where
  | unknownHome {part : String} {rest : List String}
      (written : Path.ofText given = ⟨"", part :: rest⟩) (tilde : Path.hasTilde part = true)
      (unknown : host.home? part = none) (noNul : '\x00' ∉ part.toList) :
      Escape host given .unknownHome
  | hiddenLoop {path : Path} {file : String}
      (expanded : host.expandHome (Path.ofText given) = some path)
      (unseen : host.leadsThroughLink path = false)
      (overlooked : Disk.pathLimit ≤ path.toText.utf8ByteSize ∨ ¬ host.DotsFollowDirectories path)
      (loop : host.resolve true path = .error (.linkLoop file)) :
      Escape host given (.linkLoop file)
  | hiddenLocation {path resolved : Path} {obstacle : Obstacle}
      (expanded : host.expandHome (Path.ofText given) = some path)
      (unseen : host.leadsThroughLink path = false)
      (resolves : host.resolve true path = .ok resolved)
      (kind : obstacle = .nameTooLong ∨ obstacle = .permissionDenied)
      (blocked : host.entry resolved.toText = .error (.obstacle obstacle resolved.toText)) :
      Escape host given (.unreadable obstacle resolved.toText)

variable {host : Host} {given : String} {base path resolved : Path} {error : LocateError}

section Stages

lemma expandHome_eq_none_iff :
    host.expandHome path = none ↔
      ∃ part rest, path = ⟨"", part :: rest⟩ ∧ Path.hasTilde part = true ∧ host.home? part = none := by
  obtain ⟨root, parts⟩ := path
  constructor
  · intro h
    unfold expandHome at h
    split at h
    · rename_i part rest habsolute hparts
      by_cases htilde : Path.hasTilde part = true
      · rw [if_pos htilde, Option.map_eq_none_iff] at h
        have hroot : root = "" := by simpa [Path.isAbsolute] using habsolute
        cases hparts
        cases hroot
        exact ⟨part, rest, rfl, htilde, h⟩
      · rw [if_neg htilde] at h
        cases h
    · cases h
  · rintro ⟨part, rest, hpath, htilde, hhome⟩
    cases hpath
    simp [expandHome, Path.isAbsolute, htilde, hhome]

/-- What a failed resolution is reported as, unless it is a loop of links, is a refusal. -/
lemma isRefusal_ofResolve {cause : ResolveError} :
    (LocateError.ofResolve path cause).isRefusal = false ↔
      ∃ file, cause = .linkLoop file := by
  cases cause with
  | linkLoop file => exact ⟨fun _ => ⟨file, rfl⟩, fun _ => rfl⟩
  | access cause =>
    refine ⟨fun h => ?_, fun ⟨_, h⟩ => nomatch h⟩
    cases cause with
    | nulByte => cases h
    | obstacle obstacle file => cases obstacle <;> cases h

lemma isFile_eq_error_iff {text : String} :
    host.isFile text = .error error ↔
      ∃ obstacle, (obstacle = .nameTooLong ∨ obstacle = .permissionDenied) ∧
        host.entry text = .error (.obstacle obstacle text) ∧ error = .unreadable obstacle text := by
  rw [isFile]
  cases hentry : host.entry text with
  | ok entry => cases entry <;> simp
  | error cause =>
    cases cause with
    | nulByte => simp
    | obstacle obstacle file =>
      obtain ⟨rfl, hpresent⟩ := obstacle_of_entry hentry
      cases obstacle with
      | isDirectory => exact absurd rfl hpresent
      | nameTooLong => simp [Obstacle.meansAbsent, eq_comm]
      | permissionDenied => simp [Obstacle.meansAbsent, eq_comm]
      | _ => simp [Obstacle.meansAbsent]

/-- A loop of links is only met where the test for links overlooks it. -/
lemma overlooked_of_linkLoop (proper : path.Proper) (unseen : host.leadsThroughLink path = false)
    {file : String} (loop : host.resolve true path = .error (.linkLoop file)) :
    Disk.pathLimit ≤ path.toText.utf8ByteSize ∨ ¬ host.DotsFollowDirectories path := by
  by_contra hseen
  obtain ⟨hshort, hdots⟩ := not_or.mp hseen
  obtain ⟨-, lead, hsplit, hlead, -⟩ := Path.splitSlashes_toText proper
  obtain ⟨inner, hinner⟩ := host.resolveParts_eq true linkDepth
  have written : path.parts = [] ++ path.parts := rfl
  have followed : host.Followed (path.origin host.current) [] ⟨path.isAbsolute, []⟩ :=
    followed_nil path.isAbsolute
  rw [resolve, hinner, hsplit, resolveWith_lead hlead] at loop
  rcases resolveWith_of_unseen proper unseen (Nat.not_le.mp hshort) (not_not.mp hdots) written followed
    with ⟨resolved, hok⟩ | ⟨error, herror⟩
  · rw [hok] at loop
    cases loop
  · rw [herror] at loop
    cases loop

end Stages

section Locate

lemma locate_of_unexpanded (unexpanded : host.expandHome (Path.ofText given) = none) :
    host.locate given base = .error
      (if ((Path.ofText given).parts.headD "").toList.contains '\x00' then .nulByte else .unknownHome) := by
  rw [locate]
  simp only [unexpanded]
  rfl

lemma locate_of_link (expanded : host.expandHome (Path.ofText given) = some path)
    (seen : host.leadsThroughLink path = true) : host.locate given base = .error (.throughLink path) := by
  rw [locate]
  simp only [expanded, if_pos seen]
  rfl

/-- Behind the test for links a failure is one of the resolution, of the look at the location, or of the
checks of what is there. -/
lemma locate_eq_error_iff (expanded : host.expandHome (Path.ofText given) = some path)
    (unseen : host.leadsThroughLink path = false) :
    host.locate given base = .error error ↔
      (∃ cause, host.resolve true path = .error cause ∧ LocateError.ofResolve path cause = error) ∨
      ∃ resolved, host.resolve true path = .ok resolved ∧
        (host.isFile resolved.toText = .error error ∨
          host.isFile resolved.toText = .ok false ∧ .notRegular resolved = error ∨
          host.isFile resolved.toText = .ok true ∧ resolved.isBelow base = false ∧
            .outside resolved base = error) := by
  rw [locate]
  simp only [expanded, Guards.refuse_eq_error, unseen, Bool.false_eq_true, false_and, not_false_eq_true,
    true_and, false_or, Guards.bind_eq_error, Guards.mapError_eq_error, Guards.mapError_eq_ok,
    Guards.require_eq_error, Bool.exists_bool]
  simp [pure, Except.pure]

/-- The failures of locating a file that are no refusals are those of the escapes. -/
lemma escape_iff :
    host.Escape given error ↔ host.locate given base = .error error ∧ error.isRefusal = false := by
  constructor
  · intro escape
    cases escape with
    | @unknownHome part rest written tilde unknown noNul =>
      have unexpanded := expandHome_eq_none_iff.mpr ⟨part, rest, written, tilde, unknown⟩
      rw [locate_of_unexpanded unexpanded, written]
      simp [noNul, LocateError.isRefusal]
    | hiddenLoop expanded unseen overlooked loop =>
      exact ⟨(locate_eq_error_iff expanded unseen).mpr (Or.inl ⟨_, loop, rfl⟩), rfl⟩
    | hiddenLocation expanded unseen resolves kind blocked =>
      have hfile := isFile_eq_error_iff.mpr ⟨_, kind, blocked, rfl⟩
      exact ⟨(locate_eq_error_iff expanded unseen).mpr (Or.inr ⟨_, resolves, Or.inl hfile⟩), rfl⟩
  · rintro ⟨h, unexpected⟩
    cases expanded : host.expandHome (Path.ofText given) with
    | none =>
      obtain ⟨part, rest, written, tilde, unknown⟩ := expandHome_eq_none_iff.mp expanded
      rw [locate_of_unexpanded expanded, written] at h
      by_cases hnul : '\x00' ∈ part.toList
      · have hsame : LocateError.nulByte = error := by simpa [hnul] using h
        cases hsame
        cases unexpected
      · have hsame : LocateError.unknownHome = error := by simpa [hnul] using h
        cases hsame
        exact .unknownHome written tilde unknown hnul
    | some path =>
      cases unseen : host.leadsThroughLink path with
      | true =>
        cases (locate_of_link expanded unseen).symm.trans h
        cases unexpected
      | false =>
        rcases (locate_eq_error_iff expanded unseen).mp h with
          ⟨cause, hcause, rfl⟩ | ⟨resolved, resolves, hfile | ⟨-, rfl⟩ | ⟨-, -, rfl⟩⟩
        · obtain ⟨file, rfl⟩ := isRefusal_ofResolve.mp unexpected
          have proper := proper_expandHome (Path.proper_ofText given) expanded
          exact .hiddenLoop expanded unseen (overlooked_of_linkLoop proper unseen hcause) hcause
        · obtain ⟨obstacle, kind, blocked, rfl⟩ := isFile_eq_error_iff.mp hfile
          exact .hiddenLocation expanded unseen resolves kind blocked
        · cases unexpected
        · cases unexpected

end Locate

/-- Two dots behind a file hide a loop, which is refused as a link where it is seen. -/
def loopedHost : Host where
  disk := { entries := (["work", "loop"], .link "loop") :: linkedHost.disk.entries }
  current := ["work"]
  environment := []
  homes := []

example : loopedHost.locate "a.txt/../loop" ⟨"/", ["work"]⟩ = .error (.linkLoop "loop") := by
  decide +kernel

example : loopedHost.locate "loop" ⟨"/", ["work"]⟩ = .error (.throughLink ⟨"", ["loop"]⟩) := by
  decide +kernel

/-- A present directory that cannot be reached any more from the root. -/
def closedHost : Host where
  disk := { entries := linkedHost.disk.entries, closed := [[]] }
  current := ["work"]
  environment := []
  homes := []

example : closedHost.locate "a.txt" ⟨"/", ["work"]⟩ =
    .error (.unreadable .permissionDenied "/work/a.txt") := by
  decide +kernel

end LineFold.Host
