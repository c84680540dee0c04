import LineFold.Range.Text
import LineFold.Proofs.Text.Json
import LineFold.Proofs.Text.Lines

/-! Ranges that are read back from their text. In a line of the text format the dash between the two
numbers is told from a minus sign by where it stands: the first number ends before it, as its digits
do. Each format is read back as the ranges that it was made of, so that it differs for any two lists
of ranges, and both formats tell the same. -/
namespace LineFold

section Reader

/-- The two numbers of a line, with a dash between them. -/
def readPair? (line : List Char) : Option (Int × Int) :=
  match Text.readNumber? line with
  | some (first, '-' :: behind) =>
    match Text.readNumber? behind with
    | some (second, []) => some (first, second)
    | _ => none
  | _ => none

def startEnd? (members : List (String × Int)) : Option (Int × Int) := do
  return (← Json.value? "start" members, ← Json.value? "end" members)

/-- The pairs that a text tells in a format. -/
def readPairs? : Format → String → Option (List (Int × Int))
  | .text, text => (Text.splitLines text).mapM fun line => readPair? line.toList
  | .json, text => (Json.readObjects? text.toList).bind (·.mapM startEnd?)

/-- The range that is shown as a pair. -/
def Range.ofShown (oneBased : Bool) (pair : Int × Int) : Range :=
  if oneBased then ⟨pair.1 - 1, pair.2 - 1⟩ else ⟨pair.1, pair.2⟩

def Range.read? (format : Format) (oneBased : Bool) (text : String) : Option (List Range) :=
  (readPairs? format text).map (·.map (Range.ofShown oneBased))

end Reader

section Line

open Text (IsNumeral)

variable {line : List Char} {a b : Int}

lemma beginsNoDigit_dash (text : List Char) : Text.BeginsNoDigit ('-' :: text) := by
  rintro c ⟨rfl⟩
  decide

/-- A line is read as two numbers just where it is made of a numeral of each with a dash between them,
so that no line is made of two numbers in two ways. -/
theorem readPair?_eq_some_iff :
    readPair? line = some (a, b) ↔
      ∃ first second, IsNumeral first a ∧ IsNumeral second b ∧ line = first ++ '-' :: second := by
  constructor
  · intro h
    rw [readPair?] at h
    split at h
    · rename_i first behind hread
      split at h
      · rename_i second hrest
        obtain ⟨rfl, rfl⟩ := Prod.mk.inj (Option.some.inj h)
        obtain ⟨firstText, hfirst, hline, _⟩ := Text.readNumber?_eq_some_iff.mp hread
        obtain ⟨secondText, hsecond, hbehind, _⟩ := Text.readNumber?_eq_some_iff.mp hrest
        rw [List.append_nil] at hbehind
        exact ⟨firstText, secondText, hfirst, hsecond, by rw [hline, hbehind]⟩
      · cases h
    · cases h
  · rintro ⟨first, second, hfirst, hsecond, rfl⟩
    have hread : Text.readNumber? (first ++ '-' :: second) = some (a, '-' :: second) :=
      Text.readNumber?_eq_some_iff.mpr ⟨first, hfirst, rfl, beginsNoDigit_dash second⟩
    have hrest : Text.readNumber? second = some (b, []) :=
      Text.readNumber?_eq_some_iff.mpr ⟨second, hsecond, (List.append_nil second).symm, nofun⟩
    simp only [readPair?, hread, hrest]

end Line

section Printed

variable {pair : Int × Int} {pairs : List (Int × Int)}

/-- A pair of which both numbers can be written. -/
def IsWritablePair (pair : Int × Int) : Prop := Text.isWritable pair.1 ∧ Text.isWritable pair.2

instance (pair : Int × Int) : Decidable (IsWritablePair pair) :=
  inferInstanceAs (Decidable (_ ∧ _))

def pairLine (pair : Int × Int) : String := toString pair.1 ++ "-" ++ toString pair.2

lemma readPair?_pairLine (h : IsWritablePair pair) :
    readPair? (pairLine pair).toList = some pair := by
  apply readPair?_eq_some_iff.mpr
  refine ⟨_, _, Text.isNumeral_toString h.1, Text.isNumeral_toString h.2, ?_⟩
  simp [pairLine]

lemma isLineEnd_of_isDigit {c : Char} (h : c.isDigit) : Text.isLineEnd c = false := by
  obtain ⟨hlow, hhigh⟩ := Char.isDigit_iff_toNat.mp h
  have hlow : 48 ≤ c.toNat := hlow
  have hhigh : c.toNat ≤ 57 := hhigh
  simp only [Text.isLineEnd, Bool.or_eq_false_iff, Bool.and_eq_false_iff, decide_eq_false_iff_not,
    beq_eq_false_iff_ne]
  omega

lemma isLineEnd_pairLine (h : IsWritablePair pair) :
    ∀ c ∈ (pairLine pair).toList, Text.isLineEnd c = false := by
  have hnumeral {n : Int} (hn : Text.isWritable n) :
      ∀ c ∈ (toString n).toList, Text.isLineEnd c = false := by
    intro c hc
    rcases (Text.isNumeral_toString hn).eq_minus_or_isDigit c hc with rfl | hdigit
    · decide
    · exact isLineEnd_of_isDigit hdigit
  intro c hc
  simp only [pairLine, String.toList_append, List.mem_append] at hc
  rcases hc with (hc | hc) | hc
  · exact hnumeral h.1 c hc
  · obtain rfl : c = '-' := by simpa using hc
    decide
  · exact hnumeral h.2 c hc

/-- What is read back of each part is read back of the whole. -/
lemma mapM_map_of_inverse {α β : Type} {write : α → β} {read? : β → Option α} {items : List α}
    (h : ∀ item ∈ items, read? (write item) = some item) :
    (items.map write).mapM read? = some items := by
  induction items with
  | nil => rfl
  | cons item items ih =>
    rw [List.map_cons, List.mapM_cons, h item List.mem_cons_self,
      ih fun other hother => h other (List.mem_cons_of_mem item hother)]
    rfl

lemma readPairs?_text (h : ∀ pair ∈ pairs, IsWritablePair pair) :
    readPairs? .text (pairsText .text pairs) = some pairs := by
  have hlines : Text.splitLines (pairsText .text pairs) = pairs.map pairLine := by
    have hjoin : pairsText .text pairs = String.join ((pairs.map pairLine).map (· ++ "\n")) := by
      rw [List.map_map]
      rfl
    rw [hjoin]
    apply Text.splitLines_join
    intro line hline
    obtain ⟨pair, hpair, rfl⟩ := List.mem_map.mp hline
    exact isLineEnd_pairLine (h pair hpair)
  rw [readPairs?, hlines]
  exact mapM_map_of_inverse fun pair hpair => readPair?_pairLine (h pair hpair)

/-- The members of the object of a pair. -/
def pairMembers (pair : Int × Int) : List (String × Int) := [("start", pair.1), ("end", pair.2)]

lemma pairJson_eq (pair : Int × Int) : (pairJson pair).toList = Json.objectText (pairMembers pair) := by
  simp [pairJson, pairMembers, Json.objectText, Json.enclosed, Json.listed_cons, Json.memberText,
    Json.Brackets.opening, Json.Brackets.closing]

lemma pairsText_json (pairs : List (Int × Int)) :
    (pairsText .json pairs).toList =
      Json.enclosed .array ((pairs.map pairMembers).map Json.objectText) ++ ['\n'] := by
  have hobjects : (pairs.map pairJson).map String.toList =
      (pairs.map pairMembers).map Json.objectText := by
    simp [pairJson_eq]
  rw [← hobjects]
  simp [pairsText, Json.enclosed, Json.listed, Json.Brackets.opening, Json.Brackets.closing,
    String.toList_intercalate]

lemma isReadable_pairMembers (h : IsWritablePair pair) :
    ∀ member ∈ pairMembers pair, Json.IsReadable member := by
  intro member hmember
  simp only [pairMembers, List.mem_cons, List.not_mem_nil, or_false] at hmember
  have hstart : "start".toList.all Json.isPlain := by decide
  have hend : "end".toList.all Json.isPlain := by decide
  rcases hmember with rfl | rfl
  · exact ⟨hstart, h.1⟩
  · exact ⟨hend, h.2⟩

lemma readPairs?_json (h : ∀ pair ∈ pairs, IsWritablePair pair) :
    readPairs? .json (pairsText .json pairs) = some pairs := by
  have hobjects : Json.readObjects? (pairsText .json pairs).toList = some (pairs.map pairMembers) := by
    rw [pairsText_json]
    apply Json.readObjects?_enclosed
    · intro object hobject
      obtain ⟨pair, hpair, rfl⟩ := List.mem_map.mp hobject
      exact isReadable_pairMembers (h pair hpair)
    · decide
  rw [readPairs?, hobjects]
  exact mapM_map_of_inverse fun pair _ => rfl

end Printed

namespace Range

variable {format : Format} {oneBased : Bool} {ranges : List Range} {text : String}

lemma ofShown_shown (oneBased : Bool) (range : Range) :
    ofShown oneBased (range.shown oneBased) = range := by
  cases oneBased with
  | false => rfl
  | true => simp [ofShown, shown]

lemma render?_eq_some_iff :
    render? format oneBased ranges = some text ↔
      (∀ range ∈ ranges, IsWritablePair (range.shown oneBased)) ∧
        pairsText format (ranges.map (shown oneBased)) = text := by
  simp [render?, IsWritablePair]

lemma readPairs?_pairsText {pairs : List (Int × Int)} (format : Format)
    (h : ∀ pair ∈ pairs, IsWritablePair pair) :
    readPairs? format (pairsText format pairs) = some pairs := by
  cases format with
  | text => exact readPairs?_text h
  | json => exact readPairs?_json h

/-- The text of ranges is read back as these. -/
lemma read?_of_render? (h : render? format oneBased ranges = some text) :
    read? format oneBased text = some ranges := by
  obtain ⟨hwritable, rfl⟩ := render?_eq_some_iff.mp h
  have hpairs : readPairs? format (pairsText format (ranges.map (shown oneBased))) =
      some (ranges.map (shown oneBased)) := by
    apply readPairs?_pairsText
    intro pair hpair
    obtain ⟨range, hrange, rfl⟩ := List.mem_map.mp hpair
    exact hwritable range hrange
  have hinverse : ofShown oneBased ∘ shown oneBased = id := funext (ofShown_shown oneBased)
  rw [read?, hpairs, Option.map_some, List.map_map, hinverse, List.map_id]

/-- Ranges whose numbers are not too long have a text in both formats, each of which is read back as
these ranges: no other ranges have the same text, and the two formats tell the same ones. -/
theorem render?_read_back (h : ∀ range ∈ ranges, IsWritablePair (range.shown oneBased)) :
    (∀ format, ∃ text, render? format oneBased ranges = some text ∧
      read? format oneBased text = some ranges) ∧
    (∀ format others, render? format oneBased others = render? format oneBased ranges →
      others = ranges) ∧
    ∀ text json, render? .text oneBased ranges = some text →
      render? .json oneBased ranges = some json →
      read? .text oneBased text = read? .json oneBased json := by
  have hrender (format : Format) : ∃ text, render? format oneBased ranges = some text :=
    ⟨_, render?_eq_some_iff.mpr ⟨h, rfl⟩⟩
  refine ⟨?_, ?_, ?_⟩
  · intro format
    obtain ⟨text, htext⟩ := hrender format
    exact ⟨text, htext, read?_of_render? htext⟩
  · intro format others hsame
    obtain ⟨text, htext⟩ := hrender format
    have hranges := read?_of_render? htext
    rw [read?_of_render? (hsame.trans htext)] at hranges
    exact Option.some.inj hranges
  · intro text json htext hjson
    rw [read?_of_render? htext, read?_of_render? hjson]

/-- A range before the first line and one that ends before it begins. -/
theorem render?_read_back_negative :
    let ranges : List Range := [⟨-2, -4⟩, ⟨4, 2⟩]
    let text := "-1--3\n5-3\n"
    let json := "[\x7b\"start\": -1, \"end\": -3\x7d, \x7b\"start\": 5, \"end\": 3\x7d]\n"
    (∀ range ∈ ranges, IsWritablePair (range.shown true)) ∧
      (render? .text true ranges = some text ∧ read? .text true text = some ranges) ∧
      (render? .json true ranges = some json ∧ read? .json true json = some ranges) ∧
      ∀ others, render? .text true others = some text → others = ranges := by
  intro ranges text json
  have hwritable : ∀ range ∈ ranges, IsWritablePair (range.shown true) := by decide +kernel
  have htext : render? .text true ranges = some text := by decide +kernel
  have hjson : render? .json true ranges = some json := by decide +kernel
  obtain ⟨hread, hinjective, _⟩ := render?_read_back hwritable
  refine ⟨hwritable, ⟨htext, ?_⟩, ⟨hjson, ?_⟩, ?_⟩
  · obtain ⟨shown, hshown, hback⟩ := hread .text
    rwa [← Option.some.inj (hshown.symm.trans htext)]
  · obtain ⟨shown, hshown, hback⟩ := hread .json
    rwa [← Option.some.inj (hshown.symm.trans hjson)]
  · intro others hothers
    exact hinjective .text others (hothers.trans htext.symm)

end Range

end LineFold
