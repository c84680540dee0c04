import LineFold.Text.Utf8
import Mathlib.Data.List.Basic
import Mathlib.Algebra.Group.Nat.Even
import Mathlib.Tactic.Common

/-! Reading characters back from their bytes. Bytes are read as a text exactly where they are the
encoding of this text. A character of several bytes is read by its first byte and a number of tails of
six bits each: the first byte fixes how many and the highest bits of the code, and the bounds of the
first tail leave out the codes that have a shorter encoding or are no character. -/
namespace LineFold.Text.Utf8

/-- The bytes of a text. -/
def encode (text : List Char) : List UInt8 := text.flatMap String.utf8EncodeChar

/-- The last `count` bytes of a character of several bytes, six bits of its code in each. -/
def tails : Nat → Nat → List UInt8
  | 0, _ => []
  | count + 1, code => UInt8.ofNat (0x80 + code / 64 ^ count % 64) :: tails count code

/-- Whether a character that is being read may have a code: the highest bits are those read so far,
and the next byte keeps its bounds. -/
structure Partial.Allows (p : Partial) (code : Nat) : Prop where
  read : code / 64 ^ p.needed = p.code
  low_le : p.low.toNat ≤ 0x80 + code / 64 ^ (p.needed - 1) % 64
  le_high : 0x80 + code / 64 ^ (p.needed - 1) % 64 ≤ p.high.toNat

/-- Whether the next byte is a tail and there is one to come. -/
structure Partial.Continues (p : Partial) : Prop where
  needed_pos : 0 < p.needed
  tail_le_low : 0x80 ≤ p.low.toNat
  high_le_tail : p.high.toNat ≤ 0xBF

variable {p : Partial} {byte : UInt8} {position code : Nat} {done text : List Char}
  {bytes rest : List UInt8}

section Tails

lemma toNat_tail (bits : Nat) : (UInt8.ofNat (0x80 + bits % 64)).toNat = 0x80 + bits % 64 := by
  rw [UInt8.toNat_ofNat']
  omega

/-- A byte that is a tail adds six bits to the code. -/
lemma eq_add_tail_iff {bits above : Nat} (low : 0x80 ≤ byte.toNat) (high : byte.toNat ≤ 0xBF) :
    bits = 0x40 * above + (byte.toNat - 0x80) ↔
      bits / 64 = above ∧ byte = UInt8.ofNat (0x80 + bits % 64) := by
  rw [← UInt8.toNat_inj, UInt8.toNat_ofNat']
  omega

lemma decodeFrom_partial_cons :
    decodeFrom position (some p) done (byte :: rest) = .ok text ↔
      p.low.toNat ≤ byte.toNat ∧ byte.toNat ≤ p.high.toNat ∧
        (if p.needed ≤ 1 then
          decodeFrom (position + 1) none
            (Char.ofNat (0x40 * p.code + (byte.toNat - 0x80)) :: done) rest
        else
          decodeFrom (position + 1)
            (some { p with
              needed := p.needed - 1, low := 0x80, high := 0xBF
              code := 0x40 * p.code + (byte.toNat - 0x80) }) done rest) = .ok text := by
  rw [decodeFrom]
  by_cases hbounds : p.low.toNat ≤ byte.toNat ∧ byte.toNat ≤ p.high.toNat
  · have hinside : (byte < p.low || p.high < byte) = false := by
      simp [UInt8.le_iff_toNat_le, hbounds]
    simp only [hinside, hbounds, Bool.false_eq_true, if_false, true_and]
  · have houtside : (byte < p.low || p.high < byte) = true := by
      simp only [Bool.or_eq_true, decide_eq_true_eq, UInt8.lt_iff_toNat_lt]
      omega
    simp only [houtside, if_true, reduceCtorEq, false_iff]
    exact fun h => hbounds ⟨h.1, h.2.1⟩

lemma allows_iff (count : Nat) (hcount : p.needed = count + 1) :
    p.Allows code ↔ code / 64 ^ count / 64 = p.code ∧
      p.low.toNat ≤ 0x80 + code / 64 ^ count % 64 ∧
        0x80 + code / 64 ^ count % 64 ≤ p.high.toNat := by
  have hread : code / 64 ^ p.needed = code / 64 ^ count / 64 := by
    rw [hcount, pow_succ, Nat.div_div_eq_div_mul]
  have hnext : p.needed - 1 = count := by omega
  constructor
  · rintro ⟨read, low_le, le_high⟩
    rw [hnext] at low_le le_high
    exact ⟨hread ▸ read, low_le, le_high⟩
  · rintro ⟨read, low_le, le_high⟩
    exact ⟨hread.trans read, hnext ▸ low_le, hnext ▸ le_high⟩

/-- The first tail of a character that is begun. -/
lemma exists_tails_iff {count : Nat} {Q : Nat → List UInt8 → Prop} (hcount : p.needed = count + 1)
    (hlow : 0x80 ≤ p.low.toNat) (hhigh : p.high.toNat ≤ 0xBF) :
    (∃ code rest, p.Allows code ∧ byte :: bytes = tails (count + 1) code ++ rest ∧ Q code rest) ↔
      p.low.toNat ≤ byte.toNat ∧ byte.toNat ≤ p.high.toNat ∧
        ∃ code rest, code / 64 ^ count = 0x40 * p.code + (byte.toNat - 0x80) ∧
          bytes = tails count code ++ rest ∧ Q code rest := by
  constructor
  · rintro ⟨code, rest, allows, heq, hQ⟩
    obtain ⟨read, low_le, le_high⟩ := (allows_iff count hcount).mp allows
    obtain ⟨hbyte, hbytes⟩ := List.cons_eq_cons.mp heq
    have hvalue : byte.toNat = 0x80 + code / 64 ^ count % 64 := by rw [hbyte, toNat_tail]
    refine ⟨by omega, by omega, code, rest, ?_, hbytes, hQ⟩
    exact (eq_add_tail_iff (by omega) (by omega)).mpr ⟨read, hbyte⟩
  · rintro ⟨low, high, code, rest, hcode, hbytes, hQ⟩
    obtain ⟨read, hbyte⟩ := (eq_add_tail_iff (by omega) (by omega)).mp hcode
    have hvalue : byte.toNat = 0x80 + code / 64 ^ count % 64 := by rw [hbyte, toNat_tail]
    refine ⟨code, rest, (allows_iff count hcount).mpr ⟨read, by omega, by omega⟩, ?_, hQ⟩
    exact List.cons_eq_cons.mpr ⟨hbyte, hbytes⟩

/-- A character that is begun is read to its end where its tails follow; only the first of them may have
bounds of its own. -/
lemma decodeFrom_partial_iff (continues : p.Continues) :
    decodeFrom position (some p) done bytes = .ok text ↔
      ∃ code rest, p.Allows code ∧ bytes = tails p.needed code ++ rest ∧
        decodeFrom (position + p.needed) none (Char.ofNat code :: done) rest = .ok text := by
  obtain ⟨count, hcount⟩ : ∃ count, p.needed = count + 1 :=
    ⟨p.needed - 1, (Nat.sub_add_cancel continues.needed_pos).symm⟩
  obtain ⟨-, hlow, hhigh⟩ := continues
  induction count generalizing p position bytes with
  | zero =>
    cases bytes with
    | nil => simp [decodeFrom, hcount, tails]
    | cons byte bytes =>
      rw [decodeFrom_partial_cons, if_pos (by omega), hcount, exists_tails_iff hcount hlow hhigh]
      simp [tails]
  | succ count ih =>
    cases bytes with
    | nil => simp [decodeFrom, hcount, tails]
    | cons byte bytes =>
      rw [decodeFrom_partial_cons, if_neg (by omega), hcount, exists_tails_iff hcount hlow hhigh]
      rw [Nat.add_sub_cancel, ih rfl (Nat.le_refl _) (Nat.le_refl _)]
      have hallows (code : Nat) :
          Partial.Allows ⟨count + 1, 0x80, 0xBF, 0x40 * p.code + (byte.toNat - 0x80), p.byte,
            p.first⟩ code ↔ code / 64 ^ (count + 1) = 0x40 * p.code + (byte.toNat - 0x80) := by
        refine ⟨Partial.Allows.read, fun read => ⟨read, Nat.le_add_right _ _, ?_⟩⟩
        change 0x80 + _ % 64 ≤ 0xBF
        omega
      have hposition : position + 1 + (count + 1) = position + (count + 1 + 1) := by omega
      simp only [hallows, hposition]

end Tails

section Leads

variable {c : Char}

lemma encodeChar_one (h : c.toNat < 0x80) : String.utf8EncodeChar c = [UInt8.ofNat c.toNat] := by
  have hle : c.val.toNat ≤ 127 := Nat.le_of_lt_succ h
  rw [String.utf8EncodeChar, if_pos hle]
  rfl

/-- A code of eleven bits. -/
lemma encodeChar_two (low : 0x80 ≤ c.toNat) (high : c.toNat < 0x800) :
    String.utf8EncodeChar c = UInt8.ofNat (0xC0 + c.toNat / 64) :: tails 1 c.toNat := by
  have hcode : c.val.toNat = c.toNat := rfl
  rw [String.utf8EncodeChar, hcode, if_neg (by omega), if_pos (by omega), Nat.mod_eq_of_lt (by omega)]
  simp [tails, Nat.add_comm]

/-- A code of sixteen bits. -/
lemma encodeChar_three (low : 0x800 ≤ c.toNat) (high : c.toNat < 0x10000) :
    String.utf8EncodeChar c = UInt8.ofNat (0xE0 + c.toNat / 64 ^ 2) :: tails 2 c.toNat := by
  have hcode : c.val.toNat = c.toNat := rfl
  rw [String.utf8EncodeChar, hcode, if_neg (by omega), if_neg (by omega), if_pos (by omega),
    Nat.mod_eq_of_lt (by omega)]
  simp [tails, Nat.add_comm]

/-- A code of twenty-one bits. -/
lemma encodeChar_four (low : 0x10000 ≤ c.toNat) :
    String.utf8EncodeChar c = UInt8.ofNat (0xF0 + c.toNat / 64 ^ 3) :: tails 3 c.toNat := by
  have hcode : c.val.toNat = c.toNat := rfl
  have hchar : c.toNat < 0xD800 ∨ 0xDFFF < c.toNat ∧ c.toNat < 0x110000 := c.valid
  rw [String.utf8EncodeChar, hcode, if_neg (by omega), if_neg (by omega), if_neg (by omega),
    Nat.mod_eq_of_lt (by omega)]
  simp [tails, Nat.add_comm]

/-- What a first byte says: how many tails there are, the highest bits of the code, and the bounds of
the first tail. -/
inductive Begins (byte : UInt8) (p : Partial) : Prop where
  | two (needed : p.needed = 1) (eq : byte.toNat = 0xC0 + p.code) (least : 2 ≤ p.code)
      (most : p.code < 0x20) (low : p.low.toNat = 0x80) (high : p.high.toNat = 0xBF)
  | three (needed : p.needed = 2) (eq : byte.toNat = 0xE0 + p.code) (most : p.code < 0x10)
      (low : p.code = 0 ∧ p.low.toNat = 0xA0 ∨ p.code ≠ 0 ∧ p.low.toNat = 0x80)
      (high : p.code = 0xD ∧ p.high.toNat = 0x9F ∨ p.code ≠ 0xD ∧ p.high.toNat = 0xBF)
  | four (needed : p.needed = 3) (eq : byte.toNat = 0xF0 + p.code) (most : p.code ≤ 4)
      (low : p.code = 0 ∧ p.low.toNat = 0x90 ∨ p.code ≠ 0 ∧ p.low.toNat = 0x80)
      (high : p.code = 4 ∧ p.high.toNat = 0x8F ∨ p.code ≠ 4 ∧ p.high.toNat = 0xBF)

lemma begins_of_begin? (h : begin? byte position = some p) : Begins byte p := by
  simp only [begin?] at h
  split at h
  · cases h
    refine .two rfl ?_ ?_ ?_ rfl rfl <;> dsimp only <;> omega
  split at h
  · cases h
    refine .three rfl ?_ ?_ (Or.inl ⟨rfl, rfl⟩) (Or.inr ⟨?_, rfl⟩) <;> dsimp only <;> omega
  split at h
  · cases h
    refine .three rfl ?_ ?_ (Or.inr ⟨?_, rfl⟩) (Or.inl ⟨rfl, rfl⟩) <;> dsimp only <;> omega
  split at h
  · cases h
    refine .three rfl ?_ ?_ (Or.inr ⟨?_, rfl⟩) (Or.inr ⟨?_, rfl⟩) <;> dsimp only <;> omega
  split at h
  · cases h
    refine .four rfl ?_ ?_ (Or.inl ⟨rfl, rfl⟩) (Or.inr ⟨?_, rfl⟩) <;> dsimp only <;> omega
  split at h
  · cases h
    refine .four rfl ?_ ?_ (Or.inr ⟨?_, rfl⟩) (Or.inr ⟨?_, rfl⟩) <;> dsimp only <;> omega
  split at h
  · cases h
    refine .four rfl ?_ ?_ (Or.inr ⟨?_, rfl⟩) (Or.inl ⟨rfl, rfl⟩) <;> dsimp only <;> omega
  · cases h

lemma exists_begin? (byte : UInt8) (low : 0xC2 ≤ byte.toNat) (high : byte.toNat ≤ 0xF4)
    (position : Nat) : ∃ p, begin? byte position = some p := by
  cases h : begin? byte position with
  | some p => exact ⟨p, rfl⟩
  | none =>
    simp [begin?, ite_eq_iff] at h
    omega

lemma Begins.continues (begins : Begins byte p) : p.Continues := by
  cases begins with
  | two needed => exact ⟨by omega, by omega, by omega⟩
  | three needed => exact ⟨by omega, by omega, by omega⟩
  | four needed => exact ⟨by omega, by omega, by omega⟩

/-- The codes that are allowed behind a first byte: those that have no shorter encoding, without the
surrogates and what lies beyond all characters. -/
lemma Begins.bounds (begins : Begins byte p) (allows : p.Allows code) :
    (p.needed = 1 ∧ 0x80 ≤ code ∧ code < 0x800) ∨
      (p.needed = 2 ∧ 0x800 ≤ code ∧ code < 0x10000 ∧ ¬(0xD800 ≤ code ∧ code ≤ 0xDFFF)) ∨
        (p.needed = 3 ∧ 0x10000 ≤ code ∧ code < 0x110000) := by
  cases begins with
  | two needed =>
    obtain ⟨read, low_le, le_high⟩ := (allows_iff 0 needed).mp allows
    omega
  | three needed =>
    obtain ⟨read, low_le, le_high⟩ := (allows_iff 1 needed).mp allows
    omega
  | four needed =>
    obtain ⟨read, low_le, le_high⟩ := (allows_iff 2 needed).mp allows
    omega

/-- The encoding of a character whose code is allowed behind a first byte. -/
lemma Begins.encodeChar_eq (begins : Begins byte p) (allows : p.Allows c.toNat) :
    String.utf8EncodeChar c = byte :: tails p.needed c.toNat := by
  have hbounds := begins.bounds allows
  have hbyte := UInt8.ofNat_toNat (x := byte)
  have hread := allows.read
  cases begins with
  | two needed eq =>
    rw [needed] at hread ⊢
    rw [encodeChar_two (by omega) (by omega), ← hbyte, eq, ← hread]
    rfl
  | three needed eq =>
    rw [needed] at hread ⊢
    rw [encodeChar_three (by omega) (by omega), ← hbyte, eq, ← hread]
  | four needed eq =>
    rw [needed] at hread ⊢
    rw [encodeChar_four (by omega), ← hbyte, eq, ← hread]

/-- Every character of several bytes is begun by a first byte that allows its code. -/
lemma exists_begins (several : 0x80 ≤ c.toNat) (position : Nat) :
    ∃ byte p, begin? byte position = some p ∧ p.Allows c.toNat := by
  have hchar : c.toNat < 0xD800 ∨ 0xDFFF < c.toNat ∧ c.toNat < 0x110000 := c.valid
  have hfirst (bits : Nat) (low : 2 ≤ bits) (high : bits ≤ 0x34) :
      ∃ byte p, byte.toNat = 0xC0 + bits ∧ begin? byte position = some p := by
    have hvalue : (UInt8.ofNat (0xC0 + bits)).toNat = 0xC0 + bits := by
      rw [UInt8.toNat_ofNat']
      omega
    obtain ⟨p, hp⟩ := exists_begin? (UInt8.ofNat (0xC0 + bits)) (by omega) (by omega) position
    exact ⟨_, p, hvalue, hp⟩
  by_cases htwo : c.toNat < 0x800
  · obtain ⟨byte, p, hvalue, hp⟩ := hfirst (c.toNat / 64) (by omega) (by omega)
    refine ⟨byte, p, hp, ?_⟩
    cases begins_of_begin? hp with
    | two needed => exact (allows_iff 0 needed).mpr (by omega)
    | three => omega
    | four => omega
  by_cases hthree : c.toNat < 0x10000
  · obtain ⟨byte, p, hvalue, hp⟩ := hfirst (0x20 + c.toNat / 64 ^ 2) (by omega) (by omega)
    refine ⟨byte, p, hp, ?_⟩
    cases begins_of_begin? hp with
    | two => omega
    | three needed => exact (allows_iff 1 needed).mpr (by omega)
    | four => omega
  · obtain ⟨byte, p, hvalue, hp⟩ := hfirst (0x30 + c.toNat / 64 ^ 3) (by omega) (by omega)
    refine ⟨byte, p, hp, ?_⟩
    cases begins_of_begin? hp with
    | two => omega
    | three => omega
    | four needed => exact (allows_iff 2 needed).mpr (by omega)

end Leads

section Decode

variable {c : Char}

lemma toNat_ofNat (valid : code.isValidChar) : (Char.ofNat code).toNat = code := by
  rw [Char.ofNat, dif_pos valid]
  rfl

lemma length_tails (count code : Nat) : (tails count code).length = count := by
  induction count with
  | zero => rfl
  | succ count ih => rw [tails, List.length_cons, ih]

lemma decodeFrom_begun (begun : begin? byte position = some p) :
    decodeFrom position none done (byte :: bytes) =
      decodeFrom (position + 1) (some p) done bytes := by
  have hbegins := begins_of_begin? begun
  have hlarge : ¬byte.toNat < 0x80 := by
    cases hbegins <;> omega
  rw [decodeFrom, if_neg hlarge, begun]

/-- A character is read from its encoding. -/
lemma decodeFrom_encodeChar
    (h : decodeFrom (position + (String.utf8EncodeChar c).length) none (c :: done) rest = .ok text) :
    decodeFrom position none done (String.utf8EncodeChar c ++ rest) = .ok text := by
  by_cases hone : c.toNat < 0x80
  · have hbyte : (UInt8.ofNat c.toNat).toNat = c.toNat := by
      rw [UInt8.toNat_ofNat']
      omega
    rw [encodeChar_one hone] at h ⊢
    rw [List.singleton_append, decodeFrom, if_pos (by rw [hbyte]; exact hone), hbyte, Char.ofNat_toNat]
    exact h
  · obtain ⟨byte, p, begun, allows⟩ := exists_begins (c := c) (by omega) position
    have begins := begins_of_begin? begun
    rw [begins.encodeChar_eq allows, List.length_cons, length_tails] at h
    rw [begins.encodeChar_eq allows, List.cons_append, decodeFrom_begun begun,
      decodeFrom_partial_iff begins.continues]
    refine ⟨c.toNat, rest, allows, rfl, ?_⟩
    rw [Char.ofNat_toNat, Nat.add_assoc, Nat.add_comm 1]
    exact h

/-- What is read begins with the encoding of a character. -/
lemma exists_encodeChar_of_decodeFrom
    (h : decodeFrom position none done (byte :: bytes) = .ok text) :
    ∃ c rest, byte :: bytes = String.utf8EncodeChar c ++ rest ∧
      decodeFrom (position + (String.utf8EncodeChar c).length) none (c :: done) rest = .ok text := by
  by_cases hone : byte.toNat < 0x80
  · have hvalid : byte.toNat.isValidChar := Or.inl (by omega)
    have hchar := toNat_ofNat hvalid
    have hencode : String.utf8EncodeChar (Char.ofNat byte.toNat) = [byte] := by
      rw [encodeChar_one (by omega), hchar, UInt8.ofNat_toNat]
    rw [decodeFrom, if_pos hone] at h
    exact ⟨Char.ofNat byte.toNat, bytes, by rw [hencode]; rfl, by rw [hencode]; exact h⟩
  · cases begun : begin? byte position with
    | none =>
      rw [decodeFrom, if_neg hone, begun] at h
      cases h
    | some p =>
      have begins := begins_of_begin? begun
      rw [decodeFrom_begun begun, decodeFrom_partial_iff begins.continues] at h
      obtain ⟨code, rest, allows, rfl, h⟩ := h
      have hvalid : code.isValidChar := by
        have := begins.bounds allows
        rw [Nat.isValidChar]
        omega
      have hchar := toNat_ofNat hvalid
      have hencode : String.utf8EncodeChar (Char.ofNat code) = byte :: tails p.needed code := by
        rw [begins.encodeChar_eq (by rw [hchar]; exact allows), hchar]
      refine ⟨Char.ofNat code, rest, by rw [hencode]; rfl, ?_⟩
      rw [hencode, List.length_cons, length_tails, Nat.add_comm p.needed, ← Nat.add_assoc]
      exact h

lemma decodeFrom_encode (position : Nat) (done text : List Char) :
    decodeFrom position none done (encode text) = .ok (done.reverse ++ text) := by
  induction text generalizing position done with
  | nil => simp [encode, decodeFrom]
  | cons c text ih =>
    rw [encode, List.flatMap_cons]
    refine decodeFrom_encodeChar ?_
    rw [← encode, ih, List.reverse_cons, List.append_assoc]
    rfl

lemma exists_encode_of_decodeFrom (h : decodeFrom position none done bytes = .ok text) :
    ∃ more, text = done.reverse ++ more ∧ bytes = encode more := by
  induction hlength : bytes.length using Nat.strong_induction_on generalizing position done bytes with
  | _ length ih =>
    cases bytes with
    | nil =>
      rw [decodeFrom] at h
      cases h
      exact ⟨[], (List.append_nil _).symm, rfl⟩
    | cons byte bytes =>
      obtain ⟨c, rest, heq, h⟩ := exists_encodeChar_of_decodeFrom h
      have hshorter : rest.length < length := by
        have hpos := String.length_utf8EncodeChar c
        have := c.utf8Size_pos
        rw [← hlength, heq, List.length_append]
        omega
      obtain ⟨more, rfl, hrest⟩ := ih _ hshorter h rfl
      refine ⟨c :: more, by simp, ?_⟩
      rw [heq, hrest, encode, encode, List.flatMap_cons]

/-- Bytes are read as a text exactly where they are its encoding. -/
theorem decode_eq_ok_iff : decode bytes = .ok text ↔ bytes = encode text := by
  constructor
  · intro h
    obtain ⟨more, rfl, rfl⟩ := exists_encode_of_decodeFrom h
    rfl
  · rintro rfl
    exact decodeFrom_encode 0 [] text

end Decode

end LineFold.Text.Utf8
