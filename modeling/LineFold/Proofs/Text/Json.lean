import LineFold.Proofs.Text.Integer
import Mathlib.Tactic.Common

/-! A part of JSON: arrays of objects whose values are whole numbers and whose keys need no escape.
White space, the order of the members and further members are free, and of two members with one key
the last counts. A list is read as the items it is written with, if each item is taken whole by the
reader of items: this is shown once, for arrays and for objects. -/
namespace LineFold.Json

open Text (BeginsNoDigit IsNumeral)

section Reader

def isBlank (c : Char) : Bool := c = ' ' || c = '\t' || c = '\n' || c = '\r'

def skipBlanks (text : List Char) : List Char := text.dropWhile isBlank

/-- The rest of a text behind a mark, if that is the first character that is not blank. -/
def readMark? (mark : Char) (text : List Char) : Option (List Char) :=
  match skipBlanks text with
  | [] => none
  | c :: rest => if c = mark then some rest else none

/-- What encloses a list: the marks of an array or those of an object. -/
inductive Brackets where
  | array
  | object

def Brackets.opening : Brackets → Char
  | .array => '['
  | .object => '{'

def Brackets.closing : Brackets → Char
  | .array => ']'
  | .object => '}'

variable {α : Type}

/-- One item and those behind it, with commas between them, up to the closing bracket. -/
def readItems? (brackets : Brackets) (readItem? : List Char → Option (α × List Char))
    (text : List Char) : Option (List α × List Char) :=
  match readItem? text with
  | none => none
  | some (item, behind) =>
    match readMark? brackets.closing behind, readMark? ',' behind with
    | some rest, _ => some ([item], rest)
    | none, some next =>
      if next.length < text.length then
        (readItems? brackets readItem? (skipBlanks next)).map fun (items, rest) =>
          (item :: items, rest)
      else none
    | none, none => none
termination_by text.length
decreasing_by
  exact Nat.lt_of_le_of_lt (List.dropWhile_sublist _).length_le ‹_›

/-- The items between two brackets, possibly none. -/
def readList? (brackets : Brackets) (readItem? : List Char → Option (α × List Char))
    (text : List Char) : Option (List α × List Char) :=
  (readMark? brackets.opening text).bind fun inner =>
    match readMark? brackets.closing inner with
    | some rest => some ([], rest)
    | none => readItems? brackets readItem? (skipBlanks inner)

/-- A character that stands for itself in a string. -/
def isPlain (c : Char) : Bool := c ≠ '\"' && c ≠ '\\' && 0x20 ≤ c.toNat

def readKey? (text : List Char) : Option (String × List Char) :=
  (readMark? '\"' text).bind fun inner =>
    match inner.dropWhile isPlain with
    | [] => none
    | c :: rest => if c = '\"' then some (String.ofList (inner.takeWhile isPlain), rest) else none

/-- Whether the digits of a number begin with a zero that they could do without. -/
def hasSpareZero : List Char → Bool
  | '-' :: '0' :: _ :: _ => true
  | '0' :: _ :: _ => true
  | _ => false

def readNumber? (text : List Char) : Option (Int × List Char) :=
  if hasSpareZero (Text.splitNumber (skipBlanks text)).1 then none
  else Text.readNumber? (skipBlanks text)

def readMember? (text : List Char) : Option ((String × Int) × List Char) := do
  let (key, behind) ← readKey? text
  let value ← readMark? ':' behind
  let (n, rest) ← readNumber? value
  return ((key, n), rest)

/-- The members of each object of an array, if the text holds nothing else. -/
def readObjects? (text : List Char) : Option (List (List (String × Int))) :=
  (readList? .array (readList? .object readMember?) text).bind fun (objects, rest) =>
    if skipBlanks rest = [] then some objects else none

/-- The value of the last member with a key. -/
def value? (key : String) (members : List (String × Int)) : Option Int := members.reverse.lookup key

end Reader

section Marks

variable {c mark : Char} {text rest : List Char}

@[simp] lemma skipBlanks_space (text : List Char) : skipBlanks (' ' :: text) = skipBlanks text :=
  List.dropWhile_cons_of_pos rfl

lemma skipBlanks_cons (h : isBlank c = false) (rest : List Char) :
    skipBlanks (c :: rest) = c :: rest :=
  List.dropWhile_cons_of_neg (by simp [h])

lemma readMark?_cons (h : isBlank mark = false) (rest : List Char) :
    readMark? mark (mark :: rest) = some rest := by
  rw [readMark?, skipBlanks_cons h]
  exact if_pos rfl

lemma readMark?_of_ne (h : isBlank c = false) (hne : c ≠ mark) (rest : List Char) :
    readMark? mark (c :: rest) = none := by
  rw [readMark?, skipBlanks_cons h]
  exact if_neg hne

end Marks

section Items

variable {α : Type} {brackets : Brackets} {readItem? : List Char → Option (α × List Char)}
variable {item : α} {text behind next rest : List Char}

lemma readItems?_last (hitem : readItem? text = some (item, behind))
    (hclose : readMark? brackets.closing behind = some rest) :
    readItems? brackets readItem? text = some ([item], rest) := by
  rw [readItems?, hitem]
  simp only [hclose]

lemma readItems?_more (hitem : readItem? text = some (item, behind))
    (hclose : readMark? brackets.closing behind = none) (hcomma : readMark? ',' behind = some next)
    (hshorter : next.length < text.length) :
    readItems? brackets readItem? text =
      (readItems? brackets readItem? (skipBlanks next)).map fun (items, rest) =>
        (item :: items, rest) := by
  rw [readItems?, hitem]
  simp only [hclose, hcomma, if_pos hshorter]

/-- A reader takes `written` for `item` wherever no digit follows, and no blank and no closing bracket
stands at the front of it. -/
structure Takes (readItem? : List Char → Option (α × List Char)) (written : List Char) (item : α) :
    Prop where
  begins : ∃ c tail, written = c :: tail ∧ isBlank c = false ∧
    ∀ brackets : Brackets, c ≠ brackets.closing
  takes : ∀ rest, BeginsNoDigit rest → readItem? (written ++ rest) = some (item, rest)

lemma Takes.skipBlanks {written : List Char} (h : Takes readItem? written item)
    (rest : List Char) : skipBlanks (written ++ rest) = written ++ rest := by
  obtain ⟨c, tail, rfl, hblank, _⟩ := h.begins
  exact skipBlanks_cons hblank (tail ++ rest)

/-- The items with a comma and a space between them. -/
def listed (written : List (List Char)) : List Char := [',', ' '].intercalate written

lemma listed_cons (written : List Char) (others : List (List Char)) :
    listed (written :: others) = written ++ others.flatMap ([',', ' '] ++ ·) := by
  induction others generalizing written with
  | nil => simp [listed]
  | cons next others ih =>
    rw [listed, List.intercalate_cons_cons, ← listed, ih, List.flatMap_cons, List.append_assoc,
      List.append_assoc]

lemma Brackets.beginsNoDigit_closing (brackets : Brackets) (rest : List Char) :
    BeginsNoDigit (brackets.closing :: rest) := by
  rintro c ⟨rfl⟩
  cases brackets with
  | array => decide
  | object => decide

lemma Brackets.isBlank_closing (brackets : Brackets) : isBlank brackets.closing = false := by
  cases brackets with
  | array => decide
  | object => decide

lemma Brackets.readMark?_closing_comma (brackets : Brackets) (text : List Char) :
    readMark? brackets.closing (',' :: text) = none := by
  apply readMark?_of_ne (by decide)
  cases brackets with
  | array => decide
  | object => decide

/-- Items that are taken one by one are read as they are listed. -/
lemma readItems?_listed (brackets : Brackets) {written : α → List Char} {others : List α}
    (h : ∀ next ∈ item :: others, Takes readItem? (written next) next) (rest : List Char) :
    readItems? brackets readItem?
        (listed ((item :: others).map written) ++ brackets.closing :: rest) =
      some (item :: others, rest) := by
  rw [List.map_cons, listed_cons, List.append_assoc]
  induction others generalizing item with
  | nil =>
    have hread := (h item List.mem_cons_self).takes _ (brackets.beginsNoDigit_closing rest)
    exact readItems?_last hread (readMark?_cons brackets.isBlank_closing rest)
  | cons next others ih =>
    have hnext : ∀ other ∈ next :: others, Takes readItem? (written other) other := by
      intro other hother
      exact h other (List.mem_cons_of_mem item hother)
    have hread := (h item List.mem_cons_self).takes (',' :: ' ' :: (written next ++
      ((others.map written).flatMap ([',', ' '] ++ ·) ++ brackets.closing :: rest)))
      (by rintro c ⟨rfl⟩; decide)
    rw [List.map_cons, List.flatMap_cons, List.append_assoc, List.append_assoc, List.cons_append,
      List.cons_append, List.nil_append,
      readItems?_more hread (brackets.readMark?_closing_comma _) (readMark?_cons (by decide) _)
        (by simp; omega), skipBlanks_space, (hnext next List.mem_cons_self).skipBlanks, ih hnext]
    rfl

/-- The items as they are listed, in brackets. -/
def enclosed (brackets : Brackets) (written : List (List Char)) : List Char :=
  brackets.opening :: listed written ++ [brackets.closing]

lemma Brackets.readMark?_opening (brackets : Brackets) (text : List Char) :
    readMark? brackets.opening (brackets.opening :: text) = some text := by
  apply readMark?_cons
  cases brackets with
  | array => decide
  | object => decide

/-- A list is read as the items it encloses. -/
theorem readList?_enclosed {written : α → List Char} {items : List α}
    (h : ∀ item ∈ items, Takes readItem? (written item) item) (rest : List Char) :
    readList? brackets readItem? (enclosed brackets (items.map written) ++ rest) =
      some (items, rest) := by
  rw [enclosed, List.append_assoc, List.cons_append, List.singleton_append, readList?,
    brackets.readMark?_opening, Option.bind_some]
  cases items with
  | nil =>
    simp only [listed, List.map_nil, List.intercalate_nil, List.nil_append,
      readMark?_cons brackets.isBlank_closing]
  | cons item others =>
    have hitem := h item List.mem_cons_self
    obtain ⟨c, tail, htext, hblank, hclosing⟩ := hitem.begins
    have hnone (more : List Char) : readMark? brackets.closing (written item ++ more) = none := by
      rw [htext]
      exact readMark?_of_ne hblank (hclosing brackets) (tail ++ more)
    have hskip (more : List Char) : skipBlanks (written item ++ more) = written item ++ more :=
      hitem.skipBlanks more
    have hread := readItems?_listed brackets h rest
    rw [List.map_cons, listed_cons, List.append_assoc] at hread ⊢
    simp only [hnone, hskip, hread]

end Items

section Members

variable {key : String} {rest : List Char} {n : Int}

lemma readKey?_written (h : key.toList.all isPlain) (rest : List Char) :
    readKey? ('\"' :: (key.toList ++ '\"' :: rest)) = some (key, rest) := by
  have h := List.all_eq_true.mp h
  have htake : (key.toList ++ '\"' :: rest).takeWhile isPlain = key.toList := by
    rw [List.takeWhile_append_of_pos h, List.takeWhile_cons_of_neg (by decide), List.append_nil]
  have hdrop : (key.toList ++ '\"' :: rest).dropWhile isPlain = '\"' :: rest := by
    rw [List.dropWhile_append_of_pos h, List.dropWhile_cons_of_neg (by decide)]
  rw [readKey?, readMark?_cons (by decide), Option.bind_some, hdrop, htake, String.ofList_toList]
  exact if_pos rfl

/-- The first digit of a number is a zero for zero alone. -/
lemma head_toDigits_ne_zero {n : Nat} (h : 0 < n) :
    ∃ c tail, Nat.toDigits 10 n = c :: tail ∧ c ≠ '0' := by
  induction n using Nat.strongRecOn with
  | ind n ih =>
    rw [Nat.toDigits_eq_if (by decide)]
    split
    · have hdigit : ∀ digit < 10, 0 < digit → digit.digitChar ≠ '0' := by decide
      exact ⟨n.digitChar, [], rfl, hdigit n ‹_› h⟩
    · obtain ⟨c, tail, htext, hc⟩ := ih (n / 10) (by omega) (by omega)
      exact ⟨c, _, by rw [htext, List.cons_append], hc⟩

lemma hasSpareZero_toString (n : Int) : hasSpareZero (toString n).toList = false := by
  have hdigit (n : Nat) : ∀ c ∈ Nat.toDigits 10 n, c ≠ '-' := by
    rintro c hc rfl
    exact absurd (Nat.isDigit_of_mem_toDigits (by decide) (by decide) hc) (by decide)
  cases n with
  | ofNat n =>
    rw [Text.toList_toString_ofNat]
    rcases Nat.eq_zero_or_pos n with rfl | hpos
    · rfl
    · obtain ⟨c, tail, htext, hzero⟩ := head_toDigits_ne_zero hpos
      have hminus : c ≠ '-' := hdigit n c (by simp [htext])
      rw [htext, hasSpareZero]
      · exact fun d more heq => hminus (List.cons.inj heq).1
      · exact fun d more heq => hzero (List.cons.inj heq).1
  | negSucc n =>
    obtain ⟨c, tail, htext, hzero⟩ := head_toDigits_ne_zero n.succ_pos
    rw [Text.toList_toString_negSucc, htext, hasSpareZero]
    · intro d more heq
      exact hzero (List.cons.inj (List.cons.inj heq).2).1
    · intro d more heq
      exact absurd (List.cons.inj heq).1 (by decide)

lemma isBlank_of_isDigit {c : Char} (h : c.isDigit) : isBlank c = false := by
  by_contra hblank
  simp only [isBlank, Bool.not_eq_false, Bool.or_eq_true, decide_eq_true_eq] at hblank
  rcases hblank with ((rfl | rfl) | rfl) | rfl
  all_goals exact absurd h (by decide)

lemma skipBlanks_numeral {numeral : List Char} (h : IsNumeral numeral n) (rest : List Char) :
    skipBlanks (numeral ++ rest) = numeral ++ rest := by
  cases h with
  | natural h =>
    obtain ⟨c, tail, rfl⟩ := List.exists_cons_of_ne_nil h.nonempty
    exact skipBlanks_cons (isBlank_of_isDigit (h.isDigit c List.mem_cons_self)) (tail ++ rest)
  | negated h => exact skipBlanks_cons (by decide) _

lemma readNumber?_space (text : List Char) : readNumber? (' ' :: text) = readNumber? text := by
  rw [readNumber?, skipBlanks_space, readNumber?]

lemma readNumber?_toString (h : Text.isWritable n) (hrest : BeginsNoDigit rest) :
    readNumber? ((toString n).toList ++ rest) = some (n, rest) := by
  have hnumeral := Text.isNumeral_toString h
  rw [readNumber?, skipBlanks_numeral hnumeral, Text.splitNumber_append hnumeral hrest,
    hasSpareZero_toString]
  exact Text.readNumber?_eq_some_iff.mpr ⟨_, hnumeral, rfl, hrest⟩

/-- A member that can be written and read: its key needs no escape, its number is not too long. -/
structure IsReadable (member : String × Int) : Prop where
  key : member.1.toList.all isPlain
  value : Text.isWritable member.2

/-- A member as it is written, with a space before the number. -/
def memberText (member : String × Int) : List Char :=
  '\"' :: (member.1.toList ++ '\"' :: ':' :: ' ' :: (toString member.2).toList)

lemma takes_memberText {member : String × Int} (h : IsReadable member) :
    Takes readMember? (memberText member) member where
  begins := ⟨'\"', _, rfl, by decide, fun brackets => by cases brackets <;> decide⟩
  takes := by
    intro rest hrest
    simp only [memberText, List.cons_append, List.append_assoc, readMember?,
      readKey?_written h.key, readMark?_cons (show isBlank ':' = false by decide),
      readNumber?_space, readNumber?_toString h.value hrest, Option.bind_eq_bind,
      Option.bind_some, Option.pure_def]

def objectText (members : List (String × Int)) : List Char :=
  enclosed .object (members.map memberText)

lemma takes_objectText {members : List (String × Int)} (h : ∀ member ∈ members, IsReadable member) :
    Takes (readList? .object readMember?) (objectText members) members where
  begins := ⟨'\x7b', _, rfl, by decide, fun brackets => by cases brackets <;> decide⟩
  takes := fun rest _ => readList?_enclosed (fun member hmem => takes_memberText (h member hmem)) rest

/-- An array of objects is read as the members of each object. -/
theorem readObjects?_enclosed {objects : List (List (String × Int))}
    (h : ∀ members ∈ objects, ∀ member ∈ members, IsReadable member) (hrest : skipBlanks rest = []) :
    readObjects? (enclosed .array (objects.map objectText) ++ rest) = some objects := by
  have hread : readList? .array (readList? .object readMember?)
      (enclosed .array (objects.map objectText) ++ rest) = some (objects, rest) :=
    readList?_enclosed (fun members hmem => takes_objectText (h members hmem)) rest
  rw [readObjects?, hread]
  exact if_pos hrest

end Members

end LineFold.Json
