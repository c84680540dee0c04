import LineFold.Proofs.Scan.Pairing

/-! Scanning with changed rules. A change that keeps what each rule is searched for, and which rules
have the same index, changes neither the markers of a document nor the pairs that they make: it only
shows in the rules of those pairs. Offsets and vetoes may change at will, and so may the numbers that
serve as indexes. -/
namespace LineFold.Scan
open Pattern (Line)

/-- A change of rules that keeps what they are searched for. -/
structure KeepsMarkers (change : Rule → Rule) : Prop where
  opening : ∀ rule, (change rule).opening = rule.opening
  closing : ∀ rule, (change rule).closing = rule.closing
  skipLine : ∀ rule, (change rule).skipLine = rule.skipLine

/-- A change of rules that tells those of a list apart by their indexes as before. -/
def KeepsIdentity (change : Rule → Rule) (rules : List Rule) : Prop :=
  ∀ a ∈ rules, ∀ b ∈ rules, (change a).index = (change b).index ↔ a.index = b.index

def Alternative.mapRule (change : Rule → Rule) (alternative : Alternative) : Alternative :=
  { alternative with rule := change alternative.rule }

def Match.mapRule (change : Rule → Rule) (found : Match) : Match :=
  { found with rule := change found.rule }

def Event.mapRule (change : Rule → Rule) (event : Event) : Event :=
  { event with rule := change event.rule }

def Placed.mapRule (change : Rule → Rule) (placed : Placed) : Placed :=
  { placed with event := placed.event.mapRule change }

def Closing.mapRule (change : Rule → Rule) (closing : Closing) : Closing :=
  ⟨closing.opener.mapRule change, closing.closer.mapRule change⟩

variable {change : Rule → Rule} {rules : List Rule} {line : Line}

section Markers

lemma alternatives_map (keeps : KeepsMarkers change) (rules : List Rule) :
    alternatives (rules.map change) = (alternatives rules).map (Alternative.mapRule change) := by
  rw [alternatives, alternatives, List.flatMap_map, List.map_flatMap]
  refine List.flatMap_congr fun rule _ => ?_
  rw [keeps.opening, keeps.closing, keeps.skipLine]
  cases rule.skipLine <;> rfl

lemma improves_map (best : Option Match) (span : Pattern.Span) :
    improves (best.map (Match.mapRule change)) span = improves best span := by
  cases best <;> rfl

lemma searchFrom_map (position : Int) (alternatives : List Alternative) (best : Option Match) :
    searchFrom line position (alternatives.map (Alternative.mapRule change))
        (best.map (Match.mapRule change)) =
      (searchFrom line position alternatives best).map (Match.mapRule change) := by
  induction alternatives generalizing best with
  | nil => rfl
  | cons alternative rest ih =>
    have hpattern : (alternative.mapRule change).pattern = alternative.pattern := rfl
    rw [List.map_cons, searchFrom, searchFrom, hpattern]
    cases alternative.pattern.search? line position with
    | none => exact ih best
    | some span =>
      simp only [improves_map]
      split
      · split
        · rfl
        · exact ih (some ⟨alternative.kind, alternative.rule, span⟩)
      · exact ih best

lemma search_map (keeps : KeepsMarkers change) (position : Int) :
    search (rules.map change) line position =
      (search rules line position).map (Match.mapRule change) := by
  rw [search, alternatives_map keeps]
  exact searchFrom_map position (alternatives rules) none

lemma walkFrom_map (keeps : KeepsMarkers change) (column : Nat) :
    walkFrom (rules.map change) line column =
      (walkFrom rules line column).map (Match.mapRule change) := by
  fun_induction walkFrom rules line column with
  | case1 column inside hnone =>
    exact walkFrom_none (by rw [search_map keeps, hnone]; rfl)
  | case2 column inside found hfound _ ih =>
    have hchanged : search (rules.map change) line column = some (found.mapRule change) := by
      rw [search_map keeps, hfound]
      rfl
    rw [walkFrom_some inside hchanged, List.map_cons, ← ih]
    rfl
  | case3 column outside => exact walkFrom_outside (by omega)

lemma lineEvents_map (keeps : KeepsMarkers change) (index : Nat) :
    lineEvents (rules.map change) index line =
      (lineEvents rules index line).map (Event.mapRule change) := by
  rw [lineEvents, lineMatches_eq_walkFrom, walkFrom_map keeps, ← lineMatches_eq_walkFrom,
    List.takeWhile_map, List.map_map, lineEvents, List.map_map]
  rfl

theorem eventsFrom_map (keeps : KeepsMarkers change) (index : Nat) (lines : List Line) :
    eventsFrom (rules.map change) index lines =
      (eventsFrom rules index lines).map (Event.mapRule change) := by
  induction lines generalizing index with
  | nil => rfl
  | cons line rest ih =>
    rw [eventsFrom, eventsFrom, lineEvents_map keeps, ih, List.map_append]

end Markers

/-- Rules that are told apart as before keep the pairs of their events. -/
lemma KeepsIdentity.keepsPairing (identity : KeepsIdentity change rules) :
    KeepsPairing (fun event => event.rule ∈ rules) (Event.mapRule change) where
  kind := fun _ => rfl
  line := fun _ _ _ _ => Iff.rfl
  rule := fun a b ha hb => identity a.rule ha b.rule hb

/-- The pairs of changed rules are the pairs of the rules, changed. -/
theorem closings_map (keeps : KeepsMarkers change) (identity : KeepsIdentity change rules)
    (lines : List Line) :
    closings (rules.map change) lines = (closings rules lines).map (Closing.mapRule change) := by
  rw [closings, eventsFrom_map keeps]
  exact identity.keepsPairing.closingsFrom_place_map fun _ h =>
    (belongs_of_mem_eventsFrom h).rule_mem

/-- The ranges of changed rules, told from the pairs of the rules before the change. -/
theorem scan_map (keeps : KeepsMarkers change) (identity : KeepsIdentity change rules)
    (lines : List Line) :
    scan (rules.map change) lines =
      ((closings rules lines).filter fun closing => (closing.mapRule change).folds).map
        fun closing => (closing.mapRule change).range := by
  rw [scan_eq_map_range, closings_map keeps identity, List.filter_map, List.map_map]
  rfl

section Renumbering

/-- A rule under the number that stands for its index. -/
def renumber (number : Int → Int) (rule : Rule) : Rule := { rule with index := number rule.index }

/-- Rules under the numbers of their places. -/
def renumberAll (rules : List Rule) : List Rule :=
  rules.mapIdx fun position rule => { rule with index := position }

lemma keepsMarkers_renumber (number : Int → Int) : KeepsMarkers (renumber number) :=
  ⟨fun _ => rfl, fun _ => rfl, fun _ => rfl⟩

/-- The numbers that serve as indexes do not matter as long as they tell the same rules apart. -/
theorem scan_map_renumber {number : Int → Int} (identity : KeepsIdentity (renumber number) rules)
    (lines : List Line) : scan (rules.map (renumber number)) lines = scan rules lines := by
  rw [scan_map (keepsMarkers_renumber number) identity, scan_eq_map_range]
  rfl

lemma renumberAll_eq_map (distinct : (rules.map (·.index)).Nodup) :
    renumberAll rules =
      rules.map (renumber fun index => ((rules.map (·.index)).idxOf index : Nat)) := by
  refine List.ext_getElem (by simp [renumberAll]) fun position h _ => ?_
  have hposition : position < (rules.map (·.index)).length := by simpa [renumberAll] using h
  have hidx := distinct.idxOf_getElem position hposition
  simp only [renumberAll, List.getElem_mapIdx, List.getElem_map, renumber] at hidx ⊢
  rw [hidx]

/-- Distinct rules may be numbered by their places. -/
theorem scan_renumberAll (distinct : (rules.map (·.index)).Nodup) (lines : List Line) :
    scan (renumberAll rules) lines = scan rules lines := by
  rw [renumberAll_eq_map distinct]
  refine scan_map_renumber ?_ lines
  intro a ha b hb
  change (((rules.map (·.index)).idxOf a.index : Nat) : Int) =
    ((rules.map (·.index)).idxOf b.index : Nat) ↔ _
  rw [Int.natCast_inj]
  exact List.idxOf_inj (List.mem_map_of_mem ha)

end Renumbering

end LineFold.Scan
