import LineFold.Proofs.Scan.Relabel

/-! Offsets and vetoes come after pairing. Which markers are paired depends on what the rules are
searched for and on their indexes alone. Skip markers then drop some of the pairs, and offsets move
the ranges of the others; a vetoed closing marker has used up its opening one all the same.
Rules may be alike, so a pair tells its rules by their places in the list. -/
namespace LineFold.Scan
open Pattern (Line)

/-- What a rule says about its pairs once they are made: which are vetoed, and by how much the
ranges of the others are moved. -/
structure Adjustment where
  skipOpening : Option Pattern
  skipClosing : Option Pattern
  topOffset : Int
  bottomOffset : Int

def Adjustment.withoutVetoes (adjustment : Adjustment) : Adjustment :=
  { adjustment with skipOpening := none, skipClosing := none }

def adjust (adjustment : Adjustment) (rule : Rule) : Rule where
  index := rule.index
  opening := rule.opening
  closing := rule.closing
  skipLine := rule.skipLine
  skipOpening := adjustment.skipOpening
  skipClosing := adjustment.skipClosing
  topOffset := adjustment.topOffset
  bottomOffset := adjustment.bottomOffset

/-- Rules with an adjustment chosen for each place in their list. -/
def adjustAll (choice : Nat → Adjustment) (rules : List Rule) : List Rule :=
  rules.mapIdx fun position rule => adjust (choice position) rule

/-- A pair of markers on different lines, with the places of its two rules in their list. -/
structure Region where
  opener : Nat
  closer : Nat
  openLine : Nat
  closeLine : Nat

namespace Region

/-- Whether a region lies in a document and both its rules have one index. -/
structure Fits (rules : List Rule) (lines : List Line) (region : Region) : Prop where
  same_index : ∃ opener ∈ rules[region.opener]?, ∃ closer ∈ rules[region.closer]?,
    opener.index = closer.index
  line_lt : region.openLine < region.closeLine
  closeLine_lt : region.closeLine < lines.length

/-- Whether a skip marker chosen for the closing rule is on one of the two lines. -/
def isVetoed (choice : Nat → Adjustment) (lines : List Line) (region : Region) : Bool :=
  lines[region.openLine]?.any (matchesAnywhere (choice region.closer).skipOpening) ||
    lines[region.closeLine]?.any (matchesAnywhere (choice region.closer).skipClosing)

/-- The range of a region, moved by the offsets chosen for the opening rule. -/
def range (choice : Nat → Adjustment) (region : Region) : Range :=
  ⟨region.openLine + (choice region.opener).topOffset,
    region.closeLine - 1 + (choice region.opener).bottomOffset⟩

end Region

/-- The index of the rule of an open marker, and its line. -/
def Marker.site (marker : Marker) : Int × Nat := (marker.rule.index, marker.index)

variable {rules : List Rule} {lines : List Line} {closing : Closing}

section Tags

/-- Rules that keep their places in the list. Pairing does not read offsets, so the top offset
carries the place to the events of a rule. -/
def tagAll (rules : List Rule) : List Rule :=
  rules.mapIdx fun position rule => { rule with topOffset := position }

def tag (rule : Rule) : Nat := rule.topOffset.toNat

def adjustTagged (choice : Nat → Adjustment) (rule : Rule) : Rule := adjust (choice (tag rule)) rule

lemma adjustAll_eq_map (choice : Nat → Adjustment) (rules : List Rule) :
    adjustAll choice rules = (tagAll rules).map (adjustTagged choice) := by
  refine List.ext_getElem (by simp [adjustAll, tagAll]) fun position _ _ => ?_
  simp only [adjustAll, tagAll, List.getElem_mapIdx, List.getElem_map]
  rfl

lemma getElem?_tag {rule : Rule} (h : rule ∈ tagAll rules) :
    ∃ original ∈ rules[tag rule]?, original.index = rule.index := by
  obtain ⟨position, hposition, rfl⟩ := List.mem_mapIdx.mp h
  exact ⟨rules[position], List.getElem?_eq_getElem hposition, rfl⟩

lemma keepsMarkers_adjustTagged (choice : Nat → Adjustment) :
    KeepsMarkers (adjustTagged choice) :=
  ⟨fun _ => rfl, fun _ => rfl, fun _ => rfl⟩

lemma keepsIdentity_adjustTagged (choice : Nat → Adjustment) (rules : List Rule) :
    KeepsIdentity (adjustTagged choice) rules :=
  fun _ _ _ _ => Iff.rfl

end Tags

section Regions

def Closing.apart (closing : Closing) : Bool :=
  closing.opener.event.index ≠ closing.closer.event.index

def Closing.region (closing : Closing) : Region where
  opener := tag closing.opener.event.rule
  closer := tag closing.closer.event.rule
  openLine := closing.opener.event.index
  closeLine := closing.closer.event.index

/-- The regions of a document before any is vetoed, in the order in which they are closed. -/
def regions (rules : List Rule) (lines : List Line) : List Region :=
  ((closings (tagAll rules) lines).filter Closing.apart).map Closing.region

lemma fits_of_mem_closings (h : closing ∈ closings (tagAll rules) lines) (apart : closing.apart) :
    closing.region.Fits rules lines := by
  have happart : closing.opener.event.index ≠ closing.closer.event.index := by
    simpa [Closing.apart] using apart
  obtain ⟨hopener, -, hcloser, -, same⟩ := mem_closings h
  have hopener := belongs_of_mem_place hopener
  have hcloser := belongs_of_mem_place hcloser
  obtain ⟨opener, hopenerTag, hopenerIndex⟩ := getElem?_tag hopener.rule_mem
  obtain ⟨closer, hcloserTag, hcloserIndex⟩ := getElem?_tag hcloser.rule_mem
  exact {
    same_index := ⟨opener, hopenerTag, closer, hcloserTag,
      hopenerIndex.trans ((same.resolve_left happart).trans hcloserIndex.symm)⟩
    line_lt := Nat.lt_of_le_of_ne (opener_index_le h) happart
    closeLine_lt := closer_index_lt_length h }

/-- A pair of adjusted rules folds if it makes a region that is not vetoed. -/
lemma folds_adjustTagged (choice : Nat → Adjustment)
    (h : closing ∈ closings (tagAll rules) lines) :
    (closing.mapRule (adjustTagged choice)).folds =
      (closing.apart && !closing.region.isVetoed choice lines) := by
  obtain ⟨hopener, -, hcloser, -, -⟩ := mem_closings h
  have hopenLine : lines[closing.opener.event.index]? = some closing.opener.event.line :=
    (belongs_of_mem_place hopener).line_eq
  have hcloseLine : lines[closing.closer.event.index]? = some closing.closer.event.line :=
    (belongs_of_mem_place hcloser).line_eq
  have hveto : closing.region.isVetoed choice lines =
      (matchesAnywhere (choice (tag closing.closer.event.rule)).skipOpening
          closing.opener.event.line ||
        matchesAnywhere (choice (tag closing.closer.event.rule)).skipClosing
          closing.closer.event.line) := by
    simp only [Region.isVetoed, Closing.region, hopenLine, hcloseLine, Option.any_some]
  rw [hveto]
  rfl

lemma scan_adjustAll_eq (choice : Nat → Adjustment) (rules : List Rule) (lines : List Line) :
    scan (adjustAll choice rules) lines =
      ((regions rules lines).filter fun region => !region.isVetoed choice lines).map
        (Region.range choice) := by
  have hfolds : ∀ closing ∈ closings (tagAll rules) lines,
      (closing.mapRule (adjustTagged choice)).folds =
        ((!closing.region.isVetoed choice lines) && closing.apart) := by
    intro closing h
    rw [folds_adjustTagged choice h, Bool.and_comm]
  rw [adjustAll_eq_map, scan_map (keepsMarkers_adjustTagged choice)
    (keepsIdentity_adjustTagged choice _), List.filter_congr hfolds, regions, List.filter_map,
    List.filter_filter, List.map_map]
  rfl

/-- Vetoes only take ranges away. -/
lemma scan_adjustAll_sublist (choice : Nat → Adjustment) (rules : List Rule) (lines : List Line) :
    (scan (adjustAll choice rules) lines).Sublist
      (scan (adjustAll (fun position => (choice position).withoutVetoes) rules) lines) := by
  have hfree (region : Region) :
      region.isVetoed (fun position => (choice position).withoutVetoes) lines = false := by
    have hnone : matchesAnywhere none = fun _ => false := rfl
    simp [Region.isVetoed, Adjustment.withoutVetoes, hnone]
  rw [scan_adjustAll_eq, scan_adjustAll_eq]
  simp only [hfree, Bool.not_false, List.filter_true]
  exact List.filter_sublist.map _

end Regions

section Stack

/-- The open markers of adjusted rules are those of the rules before. -/
lemma sites_adjustAll (choice : Nat → Adjustment) (rules : List Rule) (lines : List Line)
    (count : Nat) :
    (stackAfter [] ((eventsFrom (adjustAll choice rules) 0 lines).take count)).map Marker.site =
      (stackAfter [] ((eventsFrom (tagAll rules) 0 lines).take count)).map Marker.site := by
  let events := (eventsFrom (tagAll rules) 0 lines).take count
  have keeps : KeepsPairing (fun _ => True) (Event.mapRule (adjustTagged choice)) :=
    ⟨fun _ => rfl, fun _ _ _ _ => Iff.rfl, fun _ _ _ _ => Iff.rfl⟩
  have hevents : (eventsFrom (adjustAll choice rules) 0 lines).take count =
      events.map (Event.mapRule (adjustTagged choice)) := by
    rw [adjustAll_eq_map, eventsFrom_map (keepsMarkers_adjustTagged choice), ← List.map_take]
  have hadjusted : stackAfter [] (events.map (Event.mapRule (adjustTagged choice))) = _ :=
    keeps.stackAfter_map fun _ _ => trivial
  have hplain : stackAfter [] events = (heldAfter [] (place events)).map Placed.marker :=
    stackAfter_eq_map_marker events
  rw [hevents, hadjusted, hplain, List.map_map, List.map_map]
  rfl

end Stack

/-- There are regions, the same for all choices of skip markers and offsets, of which each choice
keeps those that it does not veto and moves their ranges. Vetoes give a part of the ranges without
vetoes, and after any number of events the same markers are open whatever was chosen. -/
theorem scan_adjustAll (rules : List Rule) (lines : List Line) :
    ∃ regions : List Region,
      (∀ region ∈ regions, region.Fits rules lines) ∧
      ∀ choice : Nat → Adjustment,
        scan (adjustAll choice rules) lines =
            (regions.filter fun region => !region.isVetoed choice lines).map
              (Region.range choice) ∧
          (scan (adjustAll choice rules) lines).Sublist
            (scan (adjustAll (fun position => (choice position).withoutVetoes) rules) lines) ∧
          ∀ (other : Nat → Adjustment) (count : Nat),
            (stackAfter [] ((eventsFrom (adjustAll choice rules) 0 lines).take count)).map
                Marker.site =
              (stackAfter [] ((eventsFrom (adjustAll other rules) 0 lines).take count)).map
                Marker.site := by
  refine ⟨regions rules lines, ?_, ?_⟩
  · intro region h
    obtain ⟨closing, hclosing, rfl⟩ := List.mem_map.mp h
    obtain ⟨hmem, apart⟩ := List.mem_filter.mp hclosing
    exact fits_of_mem_closings hmem apart
  · intro choice
    refine ⟨scan_adjustAll_eq choice rules lines, scan_adjustAll_sublist choice rules lines, ?_⟩
    intro other count
    rw [sites_adjustAll choice, sites_adjustAll other]

/-- The vetoed marker has closed the inner region, so the last one closes the outer region. -/
example : scan
    (adjustAll (fun _ => ⟨none, some (bracketRule 0 'x' 'x').opening, 0, 0⟩)
      [bracketRule 0 '(' ')'])
    (["(", "(", ")x", ")"].map Line.ofText) = [⟨0, 2⟩] := by
  decide

end LineFold.Scan
