import LineFold.Proofs.Scan.Closing
import Mathlib.Data.List.Nodup

/-! Every range has an opening and a closing event of its own. They belong to one rule, stand on
different lines, and no event serves two ranges. An event whose marker was resolved leaves the stack
for good, and one that a foreign closing event resolves stands on the line of that event, so it
gives no range. -/
namespace LineFold.Scan
open Pattern (Line)

/-- What makes a pair of events one that gives a range by its rule. -/
structure Closing.Owned (rules : List Rule) (lines : List Line) (closing : Closing) : Prop where
  opener_placed :
    (eventsFrom rules 0 lines)[closing.opener.position]? = some closing.opener.event
  closer_placed :
    (eventsFrom rules 0 lines)[closing.closer.position]? = some closing.closer.event
  opens : closing.opener.event.kind = .opening
  closes : closing.closer.event.kind = .closing
  before : closing.opener.position < closing.closer.position
  rule_mem : closing.closer.event.rule ∈ rules
  rule_eq : closing.opener.event.rule = closing.closer.event.rule
  line_lt : closing.opener.event.index < closing.closer.event.index
  opening_unmarked :
    Unmarked lines closing.closer.event.rule.skipOpening closing.opener.event.index
  closing_unmarked :
    Unmarked lines closing.closer.event.rule.skipClosing closing.closer.event.index

variable {rules : List Rule} {lines : List Line} {closing : Closing}

/-- With distinct indexes a pair on different lines is one of a single rule. -/
lemma rule_eq_of_mem_closings (distinct : (rules.map (·.index)).Nodup)
    (h : closing ∈ closings rules lines)
    (apart : closing.opener.event.index ≠ closing.closer.event.index) :
    closing.opener.event.rule = closing.closer.event.rule := by
  obtain ⟨hopener, -, hcloser, -, same⟩ := mem_closings h
  have hindex := same.resolve_left apart
  exact List.inj_on_of_nodup_map distinct (belongs_of_mem_place hopener).rule_mem
    (belongs_of_mem_place hcloser).rule_mem hindex

lemma owned_of_folds (distinct : (rules.map (·.index)).Nodup)
    (h : closing ∈ closings rules lines) (folds : closing.folds) :
    closing.Owned rules lines := by
  obtain ⟨hopener, opens, hcloser, closes, -⟩ := mem_closings h
  obtain ⟨apart, openingUnmarked, closingUnmarked⟩ := (folds_iff h).mp folds
  exact {
    opener_placed := mem_place.mp hopener
    closer_placed := mem_place.mp hcloser
    opens := opens
    closes := closes
    before := opener_position_lt h
    rule_mem := (belongs_of_mem_place hcloser).rule_mem
    rule_eq := rule_eq_of_mem_closings distinct h apart
    line_lt := opener_index_lt h folds
    opening_unmarked := openingUnmarked
    closing_unmarked := closingUnmarked }

/-- No event opens or closes two pairs. -/
lemma closings_pairwise_ne (rules : List Rule) (lines : List Line) :
    (closings rules lines).Pairwise fun a b =>
      a.closer.position < b.closer.position ∧ a.opener.position ≠ b.opener.position := by
  refine List.Pairwise.imp_of_mem ?_ (closings_pairwise (place_pairwise_position _))
  intro a b ha hb horder
  obtain ⟨hcloser, hopener⟩ := horder
  have hlt := opener_position_lt ha
  exact ⟨hcloser, by omega⟩

/-- The ranges of a document are those of pairs of events that share no event, each of one rule,
and come in the order of their closing events. -/
theorem scan_ranges_owned (rules : List Rule) (lines : List Line)
    (distinct : (rules.map (·.index)).Nodup) :
    ∃ pairs : List Closing,
      scan rules lines = pairs.map Closing.range ∧
      (∀ closing ∈ pairs, closing.Owned rules lines) ∧
      pairs.Pairwise fun a b =>
        a.closer.position < b.closer.position ∧ a.opener.position ≠ b.opener.position := by
  refine ⟨(closings rules lines).filter Closing.folds, scan_eq_map_range rules lines, ?_,
    (closings_pairwise_ne rules lines).filter _⟩
  intro closing h
  obtain ⟨hmem, folds⟩ := List.mem_filter.mp h
  exact owned_of_folds distinct hmem folds

/-- The first `>` closes a region of its rule below one that is given up; the second one finds no
region of its rule. -/
theorem scan_ranges_owned_abandoned :
    ([bracketRule 0 '(' ')', bracketRule 1 '<' '>'].map (·.index)).Nodup ∧
    ∃ pairs : List Closing,
      scan [bracketRule 0 '(' ')', bracketRule 1 '<' '>']
          (["<", "(", ">", ">"].map Line.ofText) = pairs.map Closing.range ∧
      (∀ closing ∈ pairs, closing.Owned [bracketRule 0 '(' ')', bracketRule 1 '<' '>']
        (["<", "(", ">", ">"].map Line.ofText)) ∧
      pairs.Pairwise fun a b =>
        a.closer.position < b.closer.position ∧ a.opener.position ≠ b.opener.position :=
  ⟨by decide, scan_ranges_owned _ _ (by decide)⟩

end LineFold.Scan
