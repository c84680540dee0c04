import LineFold.Rule
import LineFold.Proofs.Pattern.Literal

/-! Rules that are given by literals. Every literal compiles to a pattern that finds its text, so a
rule whose fields are literals is never dropped, and no warning tells of it. -/
namespace LineFold.Rule
open Pattern (Line FirstOccurrence OccursAt)

/-- The fields of a rule that is given by literals alone. -/
structure LiteralFields where
  opening : String
  closing : String
  skipLine : Option String
  skipOpening : Option String
  skipClosing : Option String

namespace LiteralFields

/-- The value of an optional text; an absent one counts as null. -/
def optional (text : Option String) : Value := (text.map Value.text).getD .null

/-- What a mapping with these fields holds under a key. -/
def value (fields : LiteralFields) : String → Value
  | "begin" => .text fields.opening
  | "end" => .text fields.closing
  | "skipLine" => optional fields.skipLine
  | "skipBegin" => optional fields.skipOpening
  | "skipEnd" => optional fields.skipClosing
  | _ => .null

/-- Whether every text that is given has characters. -/
structure NonEmpty (fields : LiteralFields) : Prop where
  opening : fields.opening ≠ ""
  closing : fields.closing ≠ ""
  skipLine : ∀ text ∈ fields.skipLine, text ≠ ""
  skipOpening : ∀ text ∈ fields.skipOpening, text ≠ ""
  skipClosing : ∀ text ∈ fields.skipClosing, text ≠ ""

/-- The rule that searches for the texts, without offsets. -/
def rule (fields : LiteralFields) (index : Int) : Rule where
  index := index
  opening := .literal fields.opening
  closing := .literal fields.closing
  skipLine := fields.skipLine.map .literal
  skipOpening := fields.skipOpening.map .literal
  skipClosing := fields.skipClosing.map .literal
  topOffset := 0
  bottomOffset := 0

end LiteralFields

variable {compiler : Pattern.Compiler} {fields : LiteralFields} {entries : Entries} {text : Option String}

section Fields

lemma nonEmptyText?_text {text : String} (nonempty : text ≠ "") :
    nonEmptyText? (.text text) = some text :=
  if_neg nonempty

lemma skipSource_of_optional {literalKey patternKey : String}
    (hliteral : entries.find literalKey = LiteralFields.optional text)
    (hpattern : entries.find patternKey = .null) (nonempty : ∀ value ∈ text, value ≠ "") :
    skipSource entries literalKey patternKey = text.map Pattern.escapeLiteral := by
  rw [skipSource, hliteral, hpattern]
  cases text with
  | none => rfl
  | some value =>
    have htext : nonEmptyText? (LiteralFields.optional (some value)) = some value :=
      nonEmptyText?_text (nonempty value rfl)
    rw [htext]
    rfl

lemma pairSources_of_literals (given : ∀ key, entries.find key = fields.value key)
    (nonempty : fields.NonEmpty) :
    pairSources entries =
      some (Pattern.escapeLiteral fields.opening, Pattern.escapeLiteral fields.closing) := by
  have hregex : entries.find "beginRegex" = .null := given "beginRegex"
  have hbegin : entries.find "begin" = .text fields.opening := given "begin"
  have hend : entries.find "end" = .text fields.closing := given "end"
  rw [pairSources, hregex, hbegin, hend, nonEmptyText?_text nonempty.opening,
    nonEmptyText?_text nonempty.closing]
  rfl

end Fields

section Compiling

lemma compileSource_escapeLiteral (text : String) :
    compileSource compiler (Pattern.escapeLiteral text) = pure (some (.literal text)) := by
  rw [compileSource, Pattern.compile_escapeLiteral]

lemma compileSkip_escapeLiteral (text : Option String) :
    compileSkip compiler (text.map Pattern.escapeLiteral) = pure (some (text.map .literal)) := by
  cases text with
  | none => rfl
  | some value =>
    rw [Option.map_some, compileSkip, compileSource_escapeLiteral, pure_bind]
    rfl

lemma compileSkips_of_literals (given : ∀ key, entries.find key = fields.value key)
    (nonempty : fields.NonEmpty) :
    compileSkips compiler entries = pure (some (fields.skipLine.map .literal,
      fields.skipOpening.map .literal, fields.skipClosing.map .literal)) := by
  have hline := skipSource_of_optional (given "skipLine") (given "skipLineRegex") nonempty.skipLine
  have hopening :=
    skipSource_of_optional (given "skipBegin") (given "skipBeginRegex") nonempty.skipOpening
  have hclosing :=
    skipSource_of_optional (given "skipEnd") (given "skipEndRegex") nonempty.skipClosing
  rw [compileSkips, hline, hopening, hclosing, compileSkip_escapeLiteral, pure_bind,
    compileSkip_escapeLiteral]
  simp only [pure_bind, compileSkip_escapeLiteral]

/-- A rule that is given by literals compiles to the rule that searches for their texts. -/
theorem compile_of_literals (given : ∀ key, entries.find key = fields.value key)
    (nonempty : fields.NonEmpty) (index : Int) :
    compile compiler (.map entries) index = pure (some (fields.rule index)) := by
  have htop : entries.find "offsetTop" = .null := given "offsetTop"
  have hbottom : entries.find "offsetBottom" = .null := given "offsetBottom"
  rw [compile, compileEntries, pairSources_of_literals given nonempty, htop, hbottom]
  simp only [offset?, Option.bind_some, Option.map_some, compileSource_escapeLiteral,
    compileSkips_of_literals given nonempty, pure_bind]
  rfl

end Compiling

/-- A literal compiles to a pattern whose searches find the first occurrence of its text, and
nothing where that does not occur; and a rule that is given by literals is made of these patterns,
without a warning. -/
theorem literal_matches_itself (compiler : Pattern.Compiler) :
    (∀ text : String, text ≠ "" →
      Pattern.compile compiler (Pattern.escapeLiteral text) = .ok (.literal text) ∧
      ∀ (line : Line) (position : Nat), position ≤ line.size →
        (∀ span, (Pattern.literal text).search? line position = some span ↔
          FirstOccurrence text.toList line position span) ∧
        ((Pattern.literal text).search? line position = none ↔
          ∀ column, position ≤ column → ¬ OccursAt text.toList line column)) ∧
    ∀ (fields : LiteralFields) (entries : Entries) (index : Int), fields.NonEmpty →
      (∀ key, entries.find key = fields.value key) →
      logged (compile compiler (.map entries) index) = (.ok (some (fields.rule index)), []) := by
  constructor
  · intro text nonempty
    refine ⟨Pattern.compile_escapeLiteral compiler text, fun line position inside => ⟨fun span => ?_, ?_⟩⟩
    · exact Pattern.search?_literal_eq_some_iff nonempty inside
    · exact Pattern.search?_literal_eq_none_iff nonempty inside
  · intro fields entries index nonempty given
    rw [compile_of_literals given nonempty]
    rfl

/-- A comment whose markers are full of special characters, with its keys in another order. -/
theorem literal_matches_itself_comment :
    "(*" ≠ "" ∧
    Pattern.compile .plain (Pattern.escapeLiteral "(*") = .ok (.literal "(*") ∧
    FirstOccurrence "(*".toList (Line.ofText "f(x) (* (*") 2 ⟨5, 7⟩ ∧
    LiteralFields.NonEmpty ⟨"(*", "*)", some "#", none, none⟩ ∧
    (∀ key, Entries.find [("end", .text "*)"), ("skipLine", .text "#"), ("begin", .text "(*")] key =
      LiteralFields.value ⟨"(*", "*)", some "#", none, none⟩ key) ∧
    logged (compile .plain
        (.map [("end", .text "*)"), ("skipLine", .text "#"), ("begin", .text "(*")]) 0) =
      (.ok (some (LiteralFields.rule ⟨"(*", "*)", some "#", none, none⟩ 0)), []) := by
  have nonempty : "(*" ≠ "" := by decide
  obtain ⟨hcompile, hsearch⟩ := (literal_matches_itself .plain).1 "(*" nonempty
  have hfound : (Pattern.literal "(*").search? (Line.ofText "f(x) (* (*") (2 : Nat) =
      some ⟨5, 7⟩ := by decide
  have hfirst := ((hsearch (Line.ofText "f(x) (* (*") 2 (by decide)).1 ⟨5, 7⟩).mp hfound
  have hfields : LiteralFields.NonEmpty ⟨"(*", "*)", some "#", none, none⟩ :=
    ⟨by decide, by decide, by simp, by simp, by simp⟩
  have given : ∀ key,
      Entries.find [("end", .text "*)"), ("skipLine", .text "#"), ("begin", .text "(*")] key =
        LiteralFields.value ⟨"(*", "*)", some "#", none, none⟩ key := by
    intro key
    unfold LiteralFields.value
    split
    · rfl
    · rfl
    · rfl
    · rfl
    · rfl
    · rename_i hbegin hend hskipLine _ _
      rw [Entries.find, Entries.get?, List.lookup_cons, beq_eq_false_iff_ne.mpr hend,
        List.lookup_cons, beq_eq_false_iff_ne.mpr hskipLine, List.lookup_cons,
        beq_eq_false_iff_ne.mpr hbegin]
      rfl
  exact ⟨nonempty, hcompile, hfirst, hfields, given,
    (literal_matches_itself .plain).2 _ _ 0 hfields given⟩

end LineFold.Rule
