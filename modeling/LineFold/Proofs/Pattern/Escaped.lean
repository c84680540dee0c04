import LineFold.Pattern.Compile
import Mathlib.Tactic.Lemma

/-! Reading a literal back. Escaping puts a backslash before each character that pattern syntax
gives a meaning, so every character of a literal becomes one token: an escape of a special
character, which names that character, or a character without a meaning. The reader makes one item
of each token, and the items compile to tests for the characters in their order. -/
namespace LineFold.Pattern

/-- The token that a character of a literal is read as. -/
def literalToken (c : Char) : Token := if specialChars.contains c then .escape c else .char c

def literalNode (c : Char) : Node := .literal c.toNat

/-- What matches one character and nothing else. -/
def literalChar (c : Char) : Regex := .char ⟨.exact, false, [.code c.toNat]⟩

/-- The pattern of a literal. -/
def literal (text : String) : Pattern :=
  ⟨escapeLiteral text, .sequence (text.toList.map literalChar)⟩

section Tokens

lemma tokenize_escapeChars (text : List Char) :
    tokenize (escapeChars text) = text.map literalToken := by
  induction text with
  | nil => rfl
  | cons c rest ih =>
    rw [escapeChars, List.flatMap_cons, List.map_cons, literalToken]
    by_cases special : specialChars.contains c = true
    · rw [if_pos special, if_pos special]
      exact congrArg (Token.escape c :: ·) ih
    · rw [if_neg special, if_neg special]
      have hne : c ≠ '\\' := by
        rintro rfl
        exact special (by decide)
      simp only [List.cons_append, List.nil_append, tokenize, hne, false_implies, implies_true]
      exact congrArg (Token.char c :: ·) ih

/-- A literal opens no group. -/
lemma not_group_mem_literalTokens {text : List Char} :
    (text.map literalToken).contains (.char '(') = false := by
  rw [List.contains_eq_mem, decide_eq_false_iff_not, List.mem_map]
  rintro ⟨c, -, h⟩
  rw [literalToken] at h
  split at h
  · cases h
  · rename_i special
    cases h
    exact special (by decide)

lemma not_dangling_mem_literalTokens {text : List Char} :
    (text.map literalToken).contains .dangling = false := by
  rw [List.contains_eq_mem, decide_eq_false_iff_not, List.mem_map]
  rintro ⟨c, -, h⟩
  rw [literalToken] at h
  split at h <;> cases h

end Tokens

section Reading

variable {α β : Type} {names : CharacterNames} {cursor next : Cursor} {scope : Scope} {text : List Char}

/-- A step of reading that succeeds hands its value and the cursor on. -/
lemma bind_of_ok {first : ReadM α} {value : α} (second : α → ReadM β)
    (h : first cursor = .ok (value, next)) : (first >>= second) cursor = second value next := by
  change (first cursor >>= fun result => second result.1 result.2) = _
  rw [h]
  rfl

lemma get_apply (cursor : Cursor) : (get : ReadM Cursor) cursor = .ok (cursor, cursor) := rfl

lemma peek_apply (cursor : Cursor) : peek cursor = .ok (cursor.rest.head?, cursor) := rfl

/-- The cursor once some tokens are skipped. -/
def Cursor.past (cursor : Cursor) (count : Nat) : Cursor :=
  { cursor with
    rest := cursor.rest.drop count
    position := cursor.position + (tokensText (cursor.rest.take count)).length }

lemma skip_literalTokens (h : cursor.rest = text.map literalToken) (count : Nat) :
    skip count cursor = .ok ((), cursor.past count) := by
  have hdangling : (cursor.rest.take (count + 1)).contains .dangling = false := by
    rw [h, ← List.map_take]
    exact not_dangling_mem_literalTokens
  rw [skip, bind_of_ok _ (get_apply cursor), hdangling]
  rfl

lemma escapeNode_of_special {c : Char} (special : c ∈ specialChars) :
    escapeNode names c = pure (literalNode c) := by
  simp only [specialChars, List.mem_cons, List.not_mem_nil, or_false] at special
  rcases special with rfl | rfl | rfl | rfl | rfl | rfl | rfl | rfl | rfl | rfl | rfl | rfl | rfl |
    rfl | rfl | rfl | rfl | rfl | rfl | rfl | rfl | rfl | rfl | rfl <;> rfl

/-- The token of a character adds its literal to the items read so far. -/
lemma sequence_literalToken {c : Char} {rest : List Char} (plain : scope.verbose = false)
    (h : cursor.rest = (c :: rest).map literalToken) (fuel : Nat) (read : List Node) :
    sequence names (fuel + 1) scope read cursor =
      sequence names fuel scope (literalNode c :: read) (cursor.past 1) := by
  have hskip := skip_literalTokens h 1
  have hhead : cursor.rest.head? = some (literalToken c) := by rw [h]; rfl
  rw [sequence, bind_of_ok _ (peek_apply cursor), hhead, literalToken]
  by_cases special : specialChars.contains c = true
  · rw [if_pos special]
    simp only
    rw [bind_of_ok _ hskip, escapeNode_of_special (List.contains_iff_mem.mp special)]
    rfl
  · rw [if_neg special]
    have hne : ∀ other ∈ specialChars, c ≠ other := by
      rintro other hother rfl
      exact special (List.contains_iff_mem.mpr hother)
    simp only [specialChars, List.forall_mem_cons] at hne
    simp only [hne, plain, or_self, if_false, Bool.false_eq_true, false_and]
    rw [bind_of_ok _ hskip]
    rfl

lemma Cursor.past_past (cursor : Cursor) (a b : Nat) :
    (cursor.past a).past b = cursor.past (a + b) := by
  have htext : tokensText (cursor.rest.take (a + b)) =
      tokensText (cursor.rest.take a) ++ tokensText ((cursor.rest.drop a).take b) := by
    rw [List.take_add, tokensText, List.flatMap_append]
    rfl
  simp only [Cursor.past, htext, List.drop_drop, List.length_append, Nat.add_assoc]

lemma spliceGroups_literalNodes (text : List Char) :
    spliceGroups (text.map literalNode) = text.map literalNode := by
  rw [spliceGroups, List.flatMap_map]
  exact List.map_eq_flatMap.symm

/-- The tokens of a literal are read as the literals of its characters. -/
lemma sequence_literalTokens (plain : scope.verbose = false)
    (h : cursor.rest = text.map literalToken) {fuel : Nat} (enough : text.length < fuel)
    (read : List Node) :
    sequence names fuel scope read cursor =
      .ok (spliceGroups (read.reverse ++ text.map literalNode), cursor.past text.length) := by
  induction text generalizing fuel cursor read with
  | nil =>
    obtain ⟨fuel, rfl⟩ := Nat.exists_eq_succ_of_ne_zero (Nat.ne_zero_of_lt enough)
    have hend : cursor.rest.head? = none := by rw [h]; rfl
    rw [sequence, bind_of_ok _ (peek_apply cursor), hend, List.map_nil, List.append_nil]
    rfl
  | cons c rest ih =>
    obtain ⟨fuel, rfl⟩ := Nat.exists_eq_succ_of_ne_zero (Nat.ne_zero_of_lt enough)
    have hrest : (cursor.past 1).rest = rest.map literalToken := by
      change cursor.rest.drop 1 = _
      rw [h]
      rfl
    have hlength : rest.length < fuel := Nat.lt_of_succ_lt_succ enough
    rw [sequence_literalToken plain h, ih hrest hlength, Cursor.past_past, List.reverse_cons,
      List.append_assoc, List.length_cons, Nat.add_comm]
    rfl

lemma accept_nil (h : cursor.rest = []) (c : Char) : accept c cursor = .ok (false, cursor) := by
  have hend : cursor.rest.head? = none := by rw [h]; rfl
  rw [accept, bind_of_ok _ (peek_apply cursor), hend]
  rfl

lemma alternatives_literalTokens (plain : scope.verbose = false)
    (h : cursor.rest = text.map literalToken) {fuel : Nat} (enough : text.length + 1 < fuel) :
    alternatives names fuel scope cursor =
      .ok (.seq (text.map literalNode), cursor.past text.length) := by
  obtain ⟨fuel, rfl⟩ := Nat.exists_eq_succ_of_ne_zero (Nat.ne_zero_of_lt enough)
  have hlength : text.length < fuel := Nat.lt_of_succ_lt_succ enough
  have hitems : sequence names fuel scope [] cursor =
      .ok (spliceGroups ([].reverse ++ text.map literalNode), cursor.past text.length) :=
    sequence_literalTokens plain h hlength []
  rw [List.reverse_nil, List.nil_append, spliceGroups_literalNodes] at hitems
  have hend : (cursor.past text.length).rest = [] := by
    change cursor.rest.drop text.length = []
    exact List.drop_eq_nil_of_le (Nat.le_of_eq (by rw [h, List.length_map]))
  have hothers : moreAlternatives names fuel { scope with leading := false } (cursor.past text.length) =
      .ok ([], cursor.past text.length) := by
    obtain ⟨fuel, rfl⟩ := Nat.exists_eq_succ_of_ne_zero (Nat.ne_zero_of_lt hlength)
    rw [moreAlternatives, bind_of_ok _ (accept_nil hend '|')]
    rfl
  rw [alternatives, bind_of_ok _ hitems, bind_of_ok _ hothers]
  rfl

/-- An escaped literal is read as the sequence of its characters, without options. -/
theorem read_escapeChars (names : CharacterNames) (text : List Char) :
    ∃ widths, read names (escapeChars text) = .ok ⟨.seq (text.map literalNode), {}, widths⟩ := by
  let start : Cursor := { rest := text.map literalToken }
  let scope : Scope := ⟨false, true, true⟩
  have hstart : skip 0 start = .ok ((), start) := skip_literalTokens rfl 0
  have enough : text.length + 1 < 3 * start.rest.length + 3 := by
    simp only [start, List.length_map]
    omega
  have htree : alternatives names (3 * start.rest.length + 3) scope start =
      .ok (.seq (text.map literalNode), start.past text.length) :=
    alternatives_literalTokens rfl rfl enough
  have hend : (start.past text.length).rest = [] :=
    List.drop_eq_nil_of_le (Nat.le_of_eq (List.length_map _))
  refine ⟨(start.past text.length).widthOf, ?_⟩
  rw [read, tokenize_escapeChars]
  change Prod.fst <$> readWhole names start = _
  rw [readWhole, bind_of_ok _ hstart, bind_of_ok _ (get_apply start), bind_of_ok _ htree,
    bind_of_ok _ (get_apply _), hend]
  rfl

end Reading

section Compiling

variable {groups : Nat → Width}

lemma regex_literalNode (c : Char) : (literalNode c).regex groups {} = .ok (literalChar c) := rfl

lemma regexes_literalNodes (text : List Char) :
    Node.regexes groups {} (text.map literalNode) = .ok (text.map literalChar) := by
  induction text with
  | nil => rfl
  | cons c rest ih =>
    rw [List.map_cons, Node.regexes, regex_literalNode, ih]
    rfl

lemma stackFault?_escapeLiteral (compiler : Compiler) (text : String) :
    compiler.stackFault? (escapeLiteral text) = none := by
  rw [Compiler.stackFault?, escapeLiteral, String.toList_ofList, tokenize_escapeChars,
    not_group_mem_literalTokens]
  rfl

/-- Every escaped literal compiles. -/
theorem compile_escapeLiteral (compiler : Compiler) (text : String) :
    compile compiler (escapeLiteral text) = .ok (literal text) := by
  obtain ⟨widths, hread⟩ := read_escapeChars compiler.named? text.toList
  have hregex : Node.regex widths {} (.seq (text.toList.map literalNode)) =
      .ok (.sequence (text.toList.map literalChar)) := by
    rw [Node.regex, regexes_literalNodes]
    rfl
  have hchars : (escapeLiteral text).toList = escapeChars text.toList := String.toList_ofList
  rw [compile, stackFault?_escapeLiteral, hchars, hread]
  change (Node.regex widths {} (.seq (text.toList.map literalNode)) >>= _) = _
  rw [hregex]
  rfl

end Compiling

end LineFold.Pattern
