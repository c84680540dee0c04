import LineFold.Proofs.Scan.Nesting
import LineFold.Proofs.Scan.Pairing

/-! What edits of a document do to its ranges. A scan never looks ahead, so text that is appended
leaves the ranges before it as they are. The numbers of lines only tell lines apart, so events that
are moved to other lines make the same pairs as before, as long as no two lines are put together.
Hence where no marker is left open, the ranges of appended text are its own, moved down; and a line
without events that is inserted moves down what comes behind it and nothing else. -/
namespace LineFold.Scan
open Pattern (Line)

variable {rules : List Rule} {lines : List Line} {line : Line} {first : Nat}

section Append

lemma eventsFrom_append (rules : List Rule) (first : Nat) (before after : List Line) :
    eventsFrom rules first (before ++ after) =
      eventsFrom rules first before ++ eventsFrom rules (first + before.length) after := by
  induction before generalizing first with
  | nil => rfl
  | cons line before ih =>
    have hlength : first + (line :: before).length = first + 1 + before.length := by
      rw [List.length_cons]
      omega
    rw [List.cons_append, eventsFrom, eventsFrom, ih, hlength, List.append_assoc]

lemma rangesFrom_append (stack : Stack) (before after : List Event) :
    rangesFrom stack (before ++ after) =
      rangesFrom stack before ++ rangesFrom (stackAfter stack before) after := by
  induction before generalizing stack with
  | nil => rfl
  | cons event before ih =>
    rw [List.cons_append, rangesFrom, rangesFrom, ih, List.append_assoc]
    rfl

/-- The scan of two texts is that of the first, and then goes on in the second with the markers that
the first has left open. -/
lemma scan_append_eq (rules : List Rule) (before after : List Line) :
    scan rules (before ++ after) =
      scan rules before ++
        rangesFrom (stackAfter [] (eventsFrom rules 0 before))
          (eventsFrom rules before.length after) := by
  rw [scan, eventsFrom_append, rangesFrom_append, Nat.zero_add]
  rfl

end Append

section Moving

def Event.moveLine (move : Nat → Nat) (event : Event) : Event :=
  { event with index := move event.index }

variable {move : Nat → Nat}

lemma lineEvents_moveLine (move : Nat → Nat) (rules : List Rule) (index : Nat) (line : Line) :
    (lineEvents rules index line).map (Event.moveLine move) =
      lineEvents rules (move index) line := by
  rw [lineEvents, List.map_map, lineEvents]
  rfl

/-- Events of lines whose numbers go on without gaps after the move are those of lines numbered so
from the start. -/
lemma eventsFrom_moveLine {other : Nat}
    (consecutive : ∀ offset < lines.length, move (first + offset) = other + offset) :
    (eventsFrom rules first lines).map (Event.moveLine move) = eventsFrom rules other lines := by
  induction lines generalizing first other with
  | nil => rfl
  | cons line rest ih =>
    have hfirst : move first = other := consecutive 0 (by simp)
    have hrest : ∀ offset < rest.length, move (first + 1 + offset) = other + 1 + offset := by
      intro offset hoffset
      have hmoved := consecutive (offset + 1) (by simpa using hoffset)
      have hcount (start : Nat) : start + 1 + offset = start + (offset + 1) := by omega
      rw [hcount, hcount, hmoved]
    rw [eventsFrom, eventsFrom, List.map_append, lineEvents_moveLine, hfirst, ih hrest]

/-- Events that are moved keep their pairs if no two lines are put together. -/
lemma keepsPairing_moveLine (injective : Function.Injective move) :
    KeepsPairing (fun _ => True) (Event.moveLine move) where
  kind := fun _ => rfl
  line := fun _ _ _ _ => injective.eq_iff
  rule := fun _ _ _ _ => Iff.rfl

lemma folds_moveLine (injective : Function.Injective move) (closing : Closing) :
    (closing.mapEvent (Event.moveLine move)).folds = closing.folds := by
  have hline : decide ((closing.mapEvent (Event.moveLine move)).opener.event.index ≠
      (closing.mapEvent (Event.moveLine move)).closer.event.index) =
        decide (closing.opener.event.index ≠ closing.closer.event.index) :=
    decide_eq_decide.mpr injective.ne_iff
  rw [Closing.folds, hline]
  rfl

/-- Events that are moved give the ranges of the pairs that fold, moved. -/
theorem rangesFrom_moveLine (injective : Function.Injective move) (events : List Event) :
    rangesFrom [] (events.map (Event.moveLine move)) =
      ((closingsFrom [] (place events)).filter Closing.folds).map fun closing =>
        (closing.mapEvent (Event.moveLine move)).range := by
  have hfolds : Closing.folds ∘ Closing.mapEvent (Event.moveLine move) = Closing.folds :=
    funext (folds_moveLine injective)
  rw [rangesFrom_eq_map_range,
    (keepsPairing_moveLine injective).closingsFrom_place_map fun _ _ => trivial,
    List.filter_map, hfolds, List.map_map]
  rfl

end Moving

section Compose

lemma range_moveLine_add (count : Nat) (closing : Closing) :
    (closing.mapEvent (Event.moveLine (count + ·))).range =
      ⟨closing.range.startLine + count, closing.range.endLine + count⟩ := by
  simp only [Closing.range, Closing.mapEvent, Placed.mapEvent, Event.moveLine, Range.mk.injEq]
  omega

lemma rangesFrom_eventsFrom (rules : List Rule) (count : Nat) (lines : List Line) :
    rangesFrom [] (eventsFrom rules count lines) =
      (scan rules lines).map fun range => ⟨range.startLine + count, range.endLine + count⟩ := by
  have hmoved : eventsFrom rules count lines =
      (eventsFrom rules 0 lines).map (Event.moveLine (count + ·)) := by
    refine (eventsFrom_moveLine fun offset _ => ?_).symm
    rw [Nat.zero_add]
  rw [hmoved, rangesFrom_moveLine fun a b h => Nat.add_left_cancel h, scan_eq_map_range,
    List.map_map]
  exact List.map_congr_left fun closing _ => range_moveLine_add count closing

/-- Appended text takes no range away and changes none; and where no marker is left open, it has the
ranges that it has by itself, moved down. -/
theorem scan_append (rules : List Rule) (before after : List Line) :
    scan rules before <+: scan rules (before ++ after) ∧
      (stackAfter [] (eventsFrom rules 0 before) = [] →
        scan rules (before ++ after) = scan rules before ++ (scan rules after).map fun range =>
          ⟨range.startLine + before.length, range.endLine + before.length⟩) := by
  constructor
  · rw [scan_append_eq]
    exact List.prefix_append _ _
  · intro closed
    rw [scan_append_eq, closed, rangesFrom_eventsFrom]

/-- Regions of two rules that interleave on either side of the joint. -/
theorem scan_append_interleaved :
    stackAfter [] (eventsFrom [bracketRule 0 '(' ')', bracketRule 1 '<' '>'] 0
      (["(", "<", ")"].map Line.ofText)) = [] ∧
    scan [bracketRule 0 '(' ')', bracketRule 1 '<' '>'] (["(", "<", ")"].map Line.ofText) <+:
      scan [bracketRule 0 '(' ')', bracketRule 1 '<' '>']
        (["(", "<", ")"].map Line.ofText ++ ["<", "x", ">"].map Line.ofText) ∧
    scan [bracketRule 0 '(' ')', bracketRule 1 '<' '>']
        (["(", "<", ")"].map Line.ofText ++ ["<", "x", ">"].map Line.ofText) =
      scan [bracketRule 0 '(' ')', bracketRule 1 '<' '>'] (["(", "<", ")"].map Line.ofText) ++
        (scan [bracketRule 0 '(' ')', bracketRule 1 '<' '>']
          (["<", "x", ">"].map Line.ofText)).map fun range =>
            ⟨range.startLine + (3 : Nat), range.endLine + (3 : Nat)⟩ := by
  have closed : stackAfter [] (eventsFrom [bracketRule 0 '(' ')', bracketRule 1 '<' '>'] 0
      (["(", "<", ")"].map Line.ofText)) = [] := by rfl
  obtain ⟨hstart, hcompose⟩ := scan_append [bracketRule 0 '(' ')', bracketRule 1 '<' '>']
    (["(", "<", ")"].map Line.ofText) (["<", "x", ">"].map Line.ofText)
  exact ⟨closed, hstart, hcompose closed⟩

/-- A marker that is left open reaches into the appended text. -/
example : scan [bracketRule 0 '(' ')'] (["("].map Line.ofText ++ ["x", ")"].map Line.ofText) =
    [⟨0, 1⟩] := by
  decide

end Compose

section Insert

/-- Whether a line has no markers, or a skip marker before all others. -/
def Silent (rules : List Rule) (line : Line) : Prop :=
  ∀ found ∈ (lineMatches rules line).head?, found.kind = .skipLine

instance (rules : List Rule) (line : Line) : Decidable (Silent rules line) :=
  inferInstanceAs (Decidable (∀ found ∈ (lineMatches rules line).head?, found.kind = .skipLine))

/-- Where a line goes once another one is inserted before the line of a number. -/
def makeRoom (number index : Nat) : Nat := if index < number then index else index + 1

lemma makeRoom_of_lt {number index : Nat} (h : index < number) : makeRoom number index = index :=
  if_pos h

lemma makeRoom_of_le {number index : Nat} (h : number ≤ index) :
    makeRoom number index = index + 1 :=
  if_neg (Nat.not_lt.mpr h)

lemma makeRoom_injective (number : Nat) : Function.Injective (makeRoom number) := by
  intro a b h
  rw [makeRoom, makeRoom] at h
  split at h <;> split at h <;> omega

lemma lineEvents_of_silent (silent : Silent rules line) (index : Nat) :
    lineEvents rules index line = [] := by
  rw [lineEvents, List.map_eq_nil_iff]
  cases hm : lineMatches rules line with
  | nil => rfl
  | cons found rest =>
    have hskip : found.kind = .skipLine := silent found (by rw [hm]; rfl)
    rw [List.takeWhile_cons, if_neg (by simp [hskip])]

/-- A silent line that is inserted moves the events behind it. -/
theorem eventsFrom_insertIdx (silent : Silent rules line) {number : Nat}
    (inside : number ≤ lines.length) :
    eventsFrom rules first (lines.insertIdx number line) =
      (eventsFrom rules first lines).map (Event.moveLine (makeRoom (first + number))) := by
  induction number generalizing lines first with
  | zero =>
    rw [List.insertIdx_zero, eventsFrom, lineEvents_of_silent silent, List.nil_append]
    refine (eventsFrom_moveLine fun offset _ => ?_).symm
    rw [makeRoom_of_le (by omega)]
    omega
  | succ number ih =>
    cases lines with
    | nil => simp at inside
    | cons other rest =>
      have hkept : makeRoom (first + (number + 1)) first = first := makeRoom_of_lt (by omega)
      have hnumber : first + 1 + number = first + (number + 1) := by omega
      rw [List.insertIdx_succ_cons, eventsFrom, ih (by simpa using inside), eventsFrom,
        List.map_append, lineEvents_moveLine, hkept, hnumber]

lemma range_makeRoom (zero : ∀ rule ∈ rules, rule.topOffset = 0 ∧ rule.bottomOffset = 0)
    {closing : Closing} (h : closing ∈ closings rules lines) (folds : closing.folds)
    (number : Nat) :
    (closing.mapEvent (Event.moveLine (makeRoom number))).range =
      ⟨if closing.range.startLine < number then closing.range.startLine
          else closing.range.startLine + 1,
        if closing.range.endLine + 1 < number then closing.range.endLine
          else closing.range.endLine + 1⟩ := by
  obtain ⟨htop, hbottom⟩ := zero _ (opener_rule_mem h)
  have hlt := opener_index_lt h folds
  have hmoved : (closing.mapEvent (Event.moveLine (makeRoom number))).range =
      ⟨makeRoom number closing.opener.event.index + closing.opener.event.rule.topOffset,
        makeRoom number closing.closer.event.index - 1 +
          closing.opener.event.rule.bottomOffset⟩ := rfl
  rw [hmoved, range_eq_of_zero zero h, htop, hbottom, makeRoom, makeRoom, Range.mk.injEq]
  constructor
  · by_cases hopener : closing.opener.event.index < number
    · simp [hopener]
    · simp [hopener]
  · by_cases hcloser : closing.closer.event.index < number
    · simp [hcloser]
    · simp [hcloser]

/-- A silent line that is inserted moves down the bounds of ranges that come behind it. The last line
of a range is the one before its closing marker, so it moves with the line behind it. -/
theorem scan_insertIdx (rules : List Rule) (lines : List Line) (line : Line) (number : Nat)
    (zero : ∀ rule ∈ rules, rule.topOffset = 0 ∧ rule.bottomOffset = 0)
    (inside : number ≤ lines.length) (silent : Silent rules line) :
    scan rules (lines.insertIdx number line) = (scan rules lines).map fun range =>
      ⟨if range.startLine < number then range.startLine else range.startLine + 1,
        if range.endLine + 1 < number then range.endLine else range.endLine + 1⟩ := by
  have hevents : eventsFrom rules 0 (lines.insertIdx number line) =
      (eventsFrom rules 0 lines).map (Event.moveLine (makeRoom number)) := by
    rw [eventsFrom_insertIdx silent inside, Nat.zero_add]
  rw [scan, hevents, rangesFrom_moveLine (makeRoom_injective number), scan_eq_map_range,
    List.map_map]
  refine List.map_congr_left fun closing h => ?_
  obtain ⟨hmem, folds⟩ := List.mem_filter.mp h
  exact range_makeRoom zero hmem folds number

/-- A rule that does not see what comes behind a number sign. -/
def commentedRule : Rule :=
  { bracketRule 0 '(' ')' with skipLine := some (bracketRule 0 '#' '#').opening }

/-- A comment that is full of markers is inserted before the last line of the inner region. -/
theorem scan_insertIdx_comment :
    (∀ rule ∈ [commentedRule], rule.topOffset = 0 ∧ rule.bottomOffset = 0) ∧
    2 ≤ (["(", "(", ")", ")"].map Line.ofText).length ∧
    Silent [commentedRule] (Line.ofText "# )((") ∧
    scan [commentedRule] ((["(", "(", ")", ")"].map Line.ofText).insertIdx 2
        (Line.ofText "# )((")) =
      (scan [commentedRule] (["(", "(", ")", ")"].map Line.ofText)).map fun range =>
        ⟨if range.startLine < (2 : Nat) then range.startLine else range.startLine + 1,
          if range.endLine + 1 < (2 : Nat) then range.endLine else range.endLine + 1⟩ := by
  have silent : Silent [commentedRule] (Line.ofText "# )((") := by decide
  exact ⟨by decide, by decide, silent, scan_insertIdx _ _ _ 2 (by decide) (by decide) silent⟩

end Insert

end LineFold.Scan
