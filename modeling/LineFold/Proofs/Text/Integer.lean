import LineFold.Text.Integer
import Mathlib.Tactic.Common

/-! Decimal numbers in text, written in ASCII digits. A text of digits is read as the number that
they stand for, and what is written for a number is read back as it, if it has no more digits than
are read. At the front of a longer text a number ends at the first character that is no digit, so
that a minus sign behind it never belongs to it. -/
namespace LineFold.Text

/-- The digits of a natural number, any zeros before it included. -/
structure IsDigits (digits : List Char) (n : Nat) : Prop where
  nonempty : digits ≠ []
  isDigit : ∀ c ∈ digits, c.isDigit
  short : digits.length ≤ integerDigitLimit
  value : Nat.ofDigitChars 10 digits 0 = n

/-- The texts of a number: its digits, behind a minus sign if it is negative. -/
inductive IsNumeral : List Char → Int → Prop
  | natural {digits : List Char} {n : Nat} (h : IsDigits digits n) : IsNumeral digits n
  | negated {digits : List Char} {n : Nat} (h : IsDigits digits n) : IsNumeral ('-' :: digits) (-n)

/-- No digit stands at the front of a text. -/
def BeginsNoDigit (text : List Char) : Prop := ∀ c ∈ text.head?, c.isDigit = false

section Digits

variable {c : Char} {digits : List Char} {n : Nat}

lemma digitValue?_of_isDigit (h : c.isDigit) : digitValue? c = some (c.toNat - '0'.toNat) := by
  obtain ⟨hlow, hhigh⟩ := Char.isDigit_iff_toNat.mp h
  have hfirst : Unicode.decimalZeros.find? (fun first => first ≤ c.toNat && c.toNat ≤ first + 9) =
      some '0'.toNat := by
    apply List.find?_cons_of_pos
    simpa using ⟨hlow, hhigh⟩
  rw [digitValue?, Unicode.decimalValue?, hfirst, Option.map_some]

lemma readDigits_of_isDigit (hne : digits ≠ []) (h : ∀ c ∈ digits, c.isDigit) :
    readDigits digits = some (digits.map fun c => c.toNat - '0'.toNat) := by
  fun_induction readDigits digits with
  | case1 => exact absurd rfl hne
  | case2 c => simp [digitValue?_of_isDigit (h c (by simp))]
  | case3 c rest => exact absurd (h '_' (by simp)) (by decide)
  | case4 c rest hone hunder ih =>
    have hrest := ih (by rintro rfl; exact hone rfl) fun d hd => h d (List.mem_cons_of_mem c hd)
    simp [digitValue?_of_isDigit (h c (by simp)), hrest]

lemma readNatural?_eq_some_iff (h : ∀ c ∈ digits, c.isDigit) :
    readNatural? digits = some n ↔ IsDigits digits n := by
  by_cases hne : digits = []
  · subst hne
    constructor
    · exact nofun
    · intro hdigits
      exact absurd rfl hdigits.nonempty
  · have hvalue : digitsValue (digits.map fun c => c.toNat - '0'.toNat) =
        Nat.ofDigitChars 10 digits 0 := by
      rw [digitsValue, List.foldl_map, Nat.ofDigitChars_eq_foldl]
    simp only [readNatural?, readDigits_of_isDigit hne h, Option.bind_eq_bind, Option.bind_some,
      List.length_map, hvalue, Option.ite_none_right_eq_some, Option.some.injEq]
    constructor
    · rintro ⟨hshort, hn⟩
      exact ⟨hne, h, hshort, hn⟩
    · intro hdigits
      exact ⟨hdigits.short, hdigits.value⟩

lemma isNumberBlank_of_isDigit (h : c.isDigit) : isNumberBlank c = false := by
  obtain ⟨hlow, hhigh⟩ := Char.isDigit_iff_toNat.mp h
  have hlow : 48 ≤ c.toNat := hlow
  have hhigh : c.toNat ≤ 57 := hhigh
  have hspace : c ≠ ' ' := by
    rintro rfl
    exact absurd hlow (by decide)
  rw [isNumberBlank, if_pos (by omega)]
  simp only [Bool.or_eq_false_iff, decide_eq_false_iff_not, Bool.and_eq_false_iff, beq_eq_false_iff_ne]
  exact ⟨Or.inr (by omega), hspace⟩

lemma stripNumberBlanks_of_no_blank {text : List Char} (h : ∀ c ∈ text, isNumberBlank c = false) :
    stripNumberBlanks text = text := by
  have hdrop {cs : List Char} (hcs : ∀ c ∈ cs, isNumberBlank c = false) :
      cs.dropWhile isNumberBlank = cs := by
    cases cs with
    | nil => rfl
    | cons c rest => rw [List.dropWhile_cons_of_neg (by simp [hcs c])]
  rw [stripNumberBlanks, hdrop h, hdrop (by simpa using h), List.reverse_reverse]

lemma readInteger?_digits (h : ∀ c ∈ digits, c.isDigit) :
    readInteger? digits = (readNatural? digits).map Int.ofNat := by
  rw [readInteger?, stripNumberBlanks_of_no_blank fun c hc => isNumberBlank_of_isDigit (h c hc)]
  split
  · exact absurd (h '-' (by simp)) (by decide)
  · exact absurd (h '+' (by simp)) (by decide)
  · rfl

lemma readInteger?_minus (h : ∀ c ∈ digits, c.isDigit) :
    readInteger? ('-' :: digits) = (readNatural? digits).map fun n : Nat => -(n : Int) := by
  have hblank : ∀ c ∈ '-' :: digits, isNumberBlank c = false := by
    intro c hc
    rcases List.mem_cons.mp hc with rfl | hc
    · decide
    · exact isNumberBlank_of_isDigit (h c hc)
  rw [readInteger?, stripNumberBlanks_of_no_blank hblank]
  simp only [Option.bind_eq_bind, Option.map_bind]
  cases readNatural? digits with
  | none => rfl
  | some n => rfl

lemma IsNumeral.eq_minus_or_isDigit {numeral : List Char} {n : Int} (h : IsNumeral numeral n) :
    ∀ c ∈ numeral, c = '-' ∨ c.isDigit := by
  intro c hc
  cases h with
  | natural h => exact .inr (h.isDigit c hc)
  | negated h => exact (List.mem_cons.mp hc).imp_right (h.isDigit c)

/-- The number that a numeral is read as. -/
theorem IsNumeral.readInteger? {numeral : List Char} {n : Int} (h : IsNumeral numeral n) :
    readInteger? numeral = some n := by
  cases h with
  | natural h => rw [readInteger?_digits h.isDigit, (readNatural?_eq_some_iff h.isDigit).mpr h]; rfl
  | negated h => rw [readInteger?_minus h.isDigit, (readNatural?_eq_some_iff h.isDigit).mpr h]; rfl

end Digits

section Written

lemma isWritable_iff {n : Int} : isWritable n ↔ n.natAbs < Nat.pow 10 integerDigitLimit := by
  rw [isWritable, decide_eq_true_iff]

lemma length_toDigits_le {n limit : Nat} (hlimit : 0 < limit) (h : n < Nat.pow 10 limit) :
    (Nat.toDigits 10 n).length ≤ limit :=
  (Nat.length_toDigits_le_iff (by decide) hlimit).mpr h

lemma isDigits_toDigits {n : Nat} (h : n < Nat.pow 10 integerDigitLimit) :
    IsDigits (Nat.toDigits 10 n) n where
  nonempty := Nat.toDigits_ne_nil
  isDigit := fun _ hc => Nat.isDigit_of_mem_toDigits (by decide) (by decide) hc
  short := length_toDigits_le (by decide) h
  value := Nat.ofDigitChars_ten_toDigits

lemma toList_toString_ofNat (n : Nat) : (toString (Int.ofNat n)).toList = Nat.toDigits 10 n := by
  have hrepr : toString (Int.ofNat n) = Nat.repr n := rfl
  rw [hrepr, Nat.toList_repr]

lemma toList_toString_negSucc (n : Nat) :
    (toString (Int.negSucc n)).toList = '-' :: Nat.toDigits 10 (n + 1) := by
  have hrepr : toString (Int.negSucc n) = "-" ++ Nat.repr (n + 1) := rfl
  rw [hrepr, String.toList_append, Nat.toList_repr, String.toList_ofList, List.singleton_append]

/-- What is written for a number is a numeral of it. -/
theorem isNumeral_toString {n : Int} (h : isWritable n) : IsNumeral (toString n).toList n := by
  have hsmall := isWritable_iff.mp h
  cases n with
  | ofNat n =>
    rw [toList_toString_ofNat]
    exact .natural (isDigits_toDigits hsmall)
  | negSucc n =>
    rw [toList_toString_negSucc]
    exact .negated (isDigits_toDigits hsmall)

end Written

section Front

variable {text rest digits : List Char} {n : Int}

/-- The sign and the digits at the front of a text, and the rest of it. -/
def splitNumber : List Char → List Char × List Char
  | '-' :: unsigned => ('-' :: unsigned.takeWhile Char.isDigit, unsigned.dropWhile Char.isDigit)
  | text => (text.takeWhile Char.isDigit, text.dropWhile Char.isDigit)

/-- The number at the front of a text, and the rest of the text. -/
def readNumber? (text : List Char) : Option (Int × List Char) :=
  (readInteger? (splitNumber text).1).map (·, (splitNumber text).2)

lemma beginsNoDigit_dropWhile (text : List Char) : BeginsNoDigit (text.dropWhile Char.isDigit) := by
  intro c hc
  have hhead := List.head?_dropWhile_not Char.isDigit text
  rwa [Option.mem_def.mp hc] at hhead

/-- The digits at the front are cut off where the rest begins with none. -/
lemma span_digits (hdigits : ∀ c ∈ digits, c.isDigit) (hrest : BeginsNoDigit rest) :
    (digits ++ rest).takeWhile Char.isDigit = digits ∧
      (digits ++ rest).dropWhile Char.isDigit = rest := by
  rw [List.takeWhile_append_of_pos hdigits, List.dropWhile_append_of_pos hdigits]
  cases rest with
  | nil => simp
  | cons c rest => simp [hrest c rfl]

lemma splitNumber_append {numeral : List Char} (h : IsNumeral numeral n)
    (hrest : BeginsNoDigit rest) : splitNumber (numeral ++ rest) = (numeral, rest) := by
  cases h with
  | natural h =>
    obtain ⟨htake, hdrop⟩ := span_digits h.isDigit hrest
    obtain ⟨c, digits, rfl⟩ := List.exists_cons_of_ne_nil h.nonempty
    rw [splitNumber, htake, hdrop]
    rintro unsigned hunsigned
    have hc : c = '-' := (List.cons.inj hunsigned).1
    exact absurd (h.isDigit c (by simp)) (by rw [hc]; decide)
  | negated h =>
    obtain ⟨htake, hdrop⟩ := span_digits h.isDigit hrest
    rw [List.cons_append, splitNumber, htake, hdrop]

/-- A text is a numeral and the rest that is left of it, as far as the numeral is read. -/
lemma splitNumber_sound (h : readInteger? (splitNumber text).1 = some n) :
    IsNumeral (splitNumber text).1 n ∧ text = (splitNumber text).1 ++ (splitNumber text).2 ∧
      BeginsNoDigit (splitNumber text).2 := by
  revert h
  fun_cases splitNumber text with
  | case1 unsigned =>
    have hdigit : ∀ c ∈ unsigned.takeWhile Char.isDigit, c.isDigit :=
      List.all_eq_true.mp List.all_takeWhile
    intro h
    rw [readInteger?_minus hdigit] at h
    obtain ⟨m, hm, rfl⟩ := Option.map_eq_some_iff.mp h
    refine ⟨.negated ((readNatural?_eq_some_iff hdigit).mp hm), ?_, beginsNoDigit_dropWhile unsigned⟩
    rw [List.cons_append, List.takeWhile_append_dropWhile]
  | case2 =>
    have hdigit : ∀ c ∈ text.takeWhile Char.isDigit, c.isDigit :=
      List.all_eq_true.mp List.all_takeWhile
    intro h
    rw [readInteger?_digits hdigit] at h
    obtain ⟨m, hm, rfl⟩ := Option.map_eq_some_iff.mp h
    exact ⟨.natural ((readNatural?_eq_some_iff hdigit).mp hm),
      List.takeWhile_append_dropWhile.symm, beginsNoDigit_dropWhile text⟩

/-- A number is read at the front of a text just where a numeral of it stands there and no further
digit behind it. -/
theorem readNumber?_eq_some_iff :
    readNumber? text = some (n, rest) ↔
      ∃ numeral, IsNumeral numeral n ∧ text = numeral ++ rest ∧ BeginsNoDigit rest := by
  constructor
  · intro h
    obtain ⟨m, hm, hpair⟩ := Option.map_eq_some_iff.mp h
    obtain ⟨rfl, rfl⟩ := Prod.mk.inj hpair
    exact ⟨_, splitNumber_sound hm⟩
  · rintro ⟨numeral, hnumeral, rfl, hrest⟩
    rw [readNumber?, splitNumber_append hnumeral hrest, hnumeral.readInteger?, Option.map_some]

end Front

end LineFold.Text
