import LineFold.Proofs.Guards
import LineFold.Proofs.Rule.Logged
import LineFold.Proofs.Value.Entries
import LineFold.Settings
import Mathlib.Data.List.ReduceOption

/-! The fields of a mapping that count. A mapping selects the sources of the pair and of the skip markers,
and two offsets. It gives a rule just if all of these sources compile, and the rule holds what they
compile to. So mappings that agree on the fields that count give the same, whatever else they hold. -/
namespace LineFold.Rule
open LineFold.Guards

section Selection

/-- A text with characters under a key. -/
def HoldsText (entries : Entries) (key text : String) : Prop :=
  entries.find key = .text text ∧ text ≠ ""

def HasText (entries : Entries) (key : String) : Prop := ∃ text, HoldsText entries key text

/-- Whether both patterns of the pair are given. -/
def HasPatternPair (entries : Entries) : Prop :=
  HasText entries "beginRegex" ∧ HasText entries "endRegex"

/-- The sources of the opening and the closing pattern: the two patterns as they are where both are
given, and otherwise the two literals. -/
inductive SelectsPair (entries : Entries) : String → String → Prop where
  | patterns {opening closing : String} :
      HoldsText entries "beginRegex" opening → HoldsText entries "endRegex" closing →
      SelectsPair entries opening closing
  | literals {opening closing : String} :
      ¬HasPatternPair entries →
      HoldsText entries "begin" opening → HoldsText entries "end" closing →
      SelectsPair entries (Pattern.escapeLiteral opening) (Pattern.escapeLiteral closing)

/-- The source of a skip marker: the literal where it is given, or else the pattern. -/
inductive SelectsSkip (entries : Entries) (literalKey patternKey : String) : Option String → Prop where
  | literal {text : String} :
      HoldsText entries literalKey text →
      SelectsSkip entries literalKey patternKey (some (Pattern.escapeLiteral text))
  | pattern {text : String} :
      ¬HasText entries literalKey → HoldsText entries patternKey text →
      SelectsSkip entries literalKey patternKey (some text)
  | nothing :
      ¬HasText entries literalKey → ¬HasText entries patternKey →
      SelectsSkip entries literalKey patternKey none

/-- An offset: an absent one is zero. -/
inductive SelectsOffset (entries : Entries) (key : String) : Int → Prop where
  | absent : entries.find key = .null → SelectsOffset entries key 0
  | given {offset : Int} : entries.find key = .int offset → SelectsOffset entries key offset

/-- What a rule is made of. -/
structure Sources where
  opening : String
  closing : String
  skipLine : Option String
  skipOpening : Option String
  skipClosing : Option String
  topOffset : Int
  bottomOffset : Int

/-- Whether these sources and offsets are what a mapping holds in the fields that count. -/
structure Selects (entries : Entries) (sources : Sources) : Prop where
  pair : SelectsPair entries sources.opening sources.closing
  skipLine : SelectsSkip entries "skipLine" "skipLineRegex" sources.skipLine
  skipOpening : SelectsSkip entries "skipBegin" "skipBeginRegex" sources.skipOpening
  skipClosing : SelectsSkip entries "skipEnd" "skipEndRegex" sources.skipClosing
  topOffset : SelectsOffset entries "offsetTop" sources.topOffset
  bottomOffset : SelectsOffset entries "offsetBottom" sources.bottomOffset

end Selection

section Rules

/-- The sources that are compiled. -/
def Sources.patterns (sources : Sources) : List String :=
  sources.opening :: sources.closing ::
    [sources.skipLine, sources.skipOpening, sources.skipClosing].reduceOption

def patterns (rule : Rule) : List Pattern :=
  rule.opening :: rule.closing :: [rule.skipLine, rule.skipOpening, rule.skipClosing].reduceOption

/-- The sources and offsets that a rule holds. -/
def sources (rule : Rule) : Sources where
  opening := rule.opening.source
  closing := rule.closing.source
  skipLine := rule.skipLine.map Pattern.source
  skipOpening := rule.skipOpening.map Pattern.source
  skipClosing := rule.skipClosing.map Pattern.source
  topOffset := rule.topOffset
  bottomOffset := rule.bottomOffset

section Compilation

variable (compiler : Pattern.Compiler)

def Accepted (source : String) : Prop := ∃ pattern, Pattern.compile compiler source = .ok pattern

/-- Whether a pattern is what its source compiles to. -/
def IsCompiled (pattern : Pattern) : Prop := Pattern.compile compiler pattern.source = .ok pattern

/-- A step that may have no result, and the next one where it has one. -/
def carryOn {α β : Type} (first : CompileM (Option α)) (next : α → CompileM (Option β)) :
    CompileM (Option β) := do
  let some value ← first | return none
  next value

/-- Both patterns of the pair; the second one is also compiled where the first one is refused. -/
def Sources.compilePair (sources : Sources) : CompileM (Option (Pattern × Pattern)) := do
  let opening? ← compileSource compiler sources.opening
  let closing? ← compileSource compiler sources.closing
  return opening?.bind fun opening => closing?.map fun closing => (opening, closing)

def Sources.compileSkips (sources : Sources) :
    CompileM (Option (Option Pattern × Option Pattern × Option Pattern)) :=
  carryOn (compileSkip compiler sources.skipLine) fun line =>
  carryOn (compileSkip compiler sources.skipOpening) fun opening =>
  carryOn (compileSkip compiler sources.skipClosing) fun closing =>
    return some (line, opening, closing)

/-- The rule of sources that were selected. -/
def Sources.compile (sources : Sources) (index : Int) : CompileM (Option Rule) :=
  carryOn (sources.compilePair compiler) fun (opening, closing) =>
  carryOn (sources.compileSkips compiler) fun (skipLine, skipOpening, skipClosing) =>
    return some {
      index, opening, closing, skipLine, skipOpening, skipClosing
      topOffset := sources.topOffset
      bottomOffset := sources.bottomOffset }

end Compilation

end Rules

section Shadows

/-- A field that is not read beside the others of its mapping. -/
def Shadowed (entries : Entries) : String → Prop
  | "begin" | "end" => HasPatternPair entries
  | "beginRegex" | "endRegex" => ¬HasPatternPair entries
  | "skipLineRegex" => HasText entries "skipLine"
  | "skipBeginRegex" => HasText entries "skipBegin"
  | "skipEndRegex" => HasText entries "skipEnd"
  | _ => False

/-- Mappings that differ only in the order of their keys, in keys that no rule has and in fields that
are shadowed in both. -/
def SameFields (entries other : Entries) : Prop :=
  ∀ key ∈ Settings.ruleKeys,
    entries.find key = other.find key ∨ Shadowed entries key ∧ Shadowed other key

end Shadows

variable {compiler : Pattern.Compiler} {entries other : Entries} {sources : Sources} {rule : Rule}
  {index offset : Int} {key literalKey patternKey opening closing text source : String} {skip : Option String}
  {pattern : Pattern}

section Reading

lemma nonEmptyText?_eq_some_iff :
    nonEmptyText? (entries.find key) = some text ↔ HoldsText entries key text := by
  unfold HoldsText
  cases entries.find key with
  | text value =>
    rw [nonEmptyText?, Value.text.injEq]
    constructor
    · intro h
      split at h
      · cases h
      · cases h
        exact ⟨rfl, ‹_›⟩
    · rintro ⟨rfl, nonempty⟩
      exact if_neg nonempty
  | _ => simp [nonEmptyText?]

lemma nonEmptyText?_eq_none_iff :
    nonEmptyText? (entries.find key) = none ↔ ¬HasText entries key := by
  rw [HasText, Option.eq_none_iff_forall_ne_some, not_exists]
  exact forall_congr' fun text => not_congr nonEmptyText?_eq_some_iff

lemma pairSources_of_selectsPair (h : SelectsPair entries opening closing) :
    pairSources entries = some (opening, closing) := by
  rw [pairSources]
  cases h with
  | patterns hopening hclosing =>
    rw [nonEmptyText?_eq_some_iff.mpr hopening, nonEmptyText?_eq_some_iff.mpr hclosing]
  | literals incomplete hopening hclosing =>
    split
    case h_1 _ _ hbegin hend =>
      exact absurd ⟨⟨_, nonEmptyText?_eq_some_iff.mp hbegin⟩, ⟨_, nonEmptyText?_eq_some_iff.mp hend⟩⟩
        incomplete
    case h_2 =>
      rw [nonEmptyText?_eq_some_iff.mpr hopening, nonEmptyText?_eq_some_iff.mpr hclosing]

lemma selectsPair_of_pairSources (h : pairSources entries = some (opening, closing)) :
    SelectsPair entries opening closing := by
  rw [pairSources] at h
  split at h
  case h_1 hbegin hend =>
    cases h
    exact .patterns (nonEmptyText?_eq_some_iff.mp hbegin) (nonEmptyText?_eq_some_iff.mp hend)
  case h_2 hincomplete =>
    split at h
    case h_1 hbegin hend =>
      cases h
      refine .literals ?_ (nonEmptyText?_eq_some_iff.mp hbegin) (nonEmptyText?_eq_some_iff.mp hend)
      rintro ⟨⟨opening, hopening⟩, ⟨closing, hclosing⟩⟩
      exact hincomplete opening closing (nonEmptyText?_eq_some_iff.mpr hopening)
        (nonEmptyText?_eq_some_iff.mpr hclosing)
    case h_2 => cases h

lemma skipSource_eq_iff :
    skipSource entries literalKey patternKey = skip ↔ SelectsSkip entries literalKey patternKey skip := by
  rw [skipSource]
  constructor
  · rintro rfl
    split
    case h_1 literal hliteral => exact .literal (nonEmptyText?_eq_some_iff.mp hliteral)
    case h_2 hliteral =>
      have absent := nonEmptyText?_eq_none_iff.mp hliteral
      cases hpattern : nonEmptyText? (entries.find patternKey) with
      | none => exact .nothing absent (nonEmptyText?_eq_none_iff.mp hpattern)
      | some text => exact .pattern absent (nonEmptyText?_eq_some_iff.mp hpattern)
  · intro h
    cases h with
    | literal hliteral => rw [nonEmptyText?_eq_some_iff.mpr hliteral]
    | pattern absent hpattern =>
      rw [nonEmptyText?_eq_none_iff.mpr absent]
      exact nonEmptyText?_eq_some_iff.mpr hpattern
    | nothing absent hpattern =>
      rw [nonEmptyText?_eq_none_iff.mpr absent]
      exact nonEmptyText?_eq_none_iff.mpr hpattern

lemma offset?_eq_some_iff :
    offset? (entries.find key) = some offset ↔ SelectsOffset entries key offset := by
  constructor
  · intro h
    cases hvalue : entries.find key with
    | null =>
      rw [hvalue] at h
      cases h
      exact .absent hvalue
    | int value =>
      rw [hvalue] at h
      cases h
      exact .given hvalue
    | _ =>
      rw [hvalue] at h
      cases h
  · rintro (hvalue | hvalue)
    · rw [hvalue]
      rfl
    · rw [hvalue]
      rfl

lemma bind_eq_carryOn {α β : Type} {first : CompileM (Option α)} {next : α → CompileM (Option β)}
    {rest : Option α → CompileM (Option β)} (hnone : rest none = pure none)
    (hsome : ∀ value, rest (some value) = next value) : first >>= rest = carryOn first next := by
  refine bind_congr fun outcome => ?_
  cases outcome with
  | none => exact hnone
  | some value => exact hsome value

/-- Compiling a mapping is compiling what it selects. -/
lemma compile_of_selects (h : Selects entries sources) (index : Int) :
    compile compiler (.map entries) index = sources.compile compiler index := by
  have htop := offset?_eq_some_iff.mpr h.topOffset
  have hbottom := offset?_eq_some_iff.mpr h.bottomOffset
  have hskips : compileSkips compiler entries = sources.compileSkips compiler := by
    rw [compileSkips, skipSource_eq_iff.mpr h.skipLine, skipSource_eq_iff.mpr h.skipOpening,
      skipSource_eq_iff.mpr h.skipClosing]
    exact bind_eq_carryOn rfl fun _ => bind_eq_carryOn rfl fun _ => bind_eq_carryOn rfl fun _ => rfl
  rw [compile, compileEntries, pairSources_of_selectsPair h.pair, htop, hbottom, hskips,
    Sources.compile, carryOn, Sources.compilePair, bind_assoc]
  refine bind_congr fun opening? => ?_
  rw [bind_assoc]
  refine bind_congr fun closing? => ?_
  cases opening? with
  | none => rfl
  | some opening =>
    cases closing? with
    | none => rfl
    | some closing => exact bind_eq_carryOn rfl fun _ => rfl

/-- A mapping that selects nothing is dropped with one warning. -/
lemma logged_compile_of_not_selects (h : ∀ sources, ¬Selects entries sources) (index : Int) :
    ∃ warning, logged (compile compiler (.map entries) index) = (.ok none, [warning]) := by
  rw [compile, compileEntries]
  split
  case h_2 => exact ⟨_, rfl⟩
  case h_1 opening closing hpair =>
    split
    case h_2 => exact ⟨_, rfl⟩
    case h_1 top bottom hoffsets =>
      obtain ⟨_, htop, hrest⟩ := Option.bind_eq_some_iff.mp hoffsets
      obtain ⟨_, hbottom, hpaired⟩ := Option.map_eq_some_iff.mp hrest
      cases hpaired
      exfalso
      exact h ⟨opening, closing, _, _, _, top, bottom⟩
        { pair := selectsPair_of_pairSources hpair
          skipLine := skipSource_eq_iff.mp rfl
          skipOpening := skipSource_eq_iff.mp rfl
          skipClosing := skipSource_eq_iff.mp rfl
          topOffset := offset?_eq_some_iff.mp htop
          bottomOffset := offset?_eq_some_iff.mp hbottom }

end Reading

section Compiling

lemma source_of_compile (h : Pattern.compile compiler source = .ok pattern) : pattern.source = source := by
  rw [Pattern.compile] at h
  split at h
  · cases h
  · obtain ⟨parsed, -, h⟩ := bind_eq_ok.mp h
    obtain ⟨regex, -, h⟩ := bind_eq_ok.mp h
    cases h
    rfl

lemma compile_eq_ok_iff :
    Pattern.compile compiler source = .ok pattern ↔
      pattern.source = source ∧ IsCompiled compiler pattern := by
  constructor
  · intro h
    obtain rfl := source_of_compile h
    exact ⟨rfl, h⟩
  · rintro ⟨rfl, h⟩
    exact h

lemma fst_logged_compileSource :
    (logged (compileSource compiler source)).1 = .ok (some pattern) ↔
      pattern.source = source ∧ IsCompiled compiler pattern := by
  rw [← compile_eq_ok_iff, compileSource]
  split
  case h_1 found hfound =>
    rw [hfound]
    constructor
    · rintro ⟨⟩
      rfl
    · rintro ⟨⟩
      rfl
  case h_2 refusal hrefused =>
    rw [hrefused]
    constructor
    · intro h
      cases h
    · intro h
      cases h
  case h_3 abort haborted =>
    rw [haborted]
    constructor
    · intro h
      cases h
    · intro h
      cases h

lemma appends_carryOn {α β : Type} {first : CompileM (Option α)} {next : α → CompileM (Option β)}
    (hfirst : Appends first) (rest : ∀ value, Appends (next value)) : Appends (carryOn first next) := by
  refine hfirst.bind ?_
  rintro (_ | value)
  · exact appends_pure none
  · exact rest value

lemma fst_logged_carryOn {α β : Type} {first : CompileM (Option α)} {next : α → CompileM (Option β)}
    (rest : ∀ value, Appends (next value)) {result : β} :
    (logged (carryOn first next)).1 = .ok (some result) ↔
      ∃ value, (logged first).1 = .ok (some value) ∧ (logged (next value)).1 = .ok (some result) := by
  rw [carryOn, fst_logged_bind, bind_eq_ok]
  · constructor
    · rintro ⟨_ | value, hfirst, hnext⟩
      · cases hnext
      · exact ⟨value, hfirst, hnext⟩
    · rintro ⟨value, hfirst, hnext⟩
      exact ⟨some value, hfirst, hnext⟩
  · rintro (_ | value)
    · exact appends_pure none
    · exact rest value

lemma compileSkip_some (source : String) :
    compileSkip compiler (some source) =
      carryOn (compileSource compiler source) fun pattern => pure (some (some pattern)) :=
  bind_eq_carryOn rfl fun _ => rfl

lemma fst_logged_compileSkip {found : Option Pattern} :
    (logged (compileSkip compiler skip)).1 = .ok (some found) ↔
      found.map Pattern.source = skip ∧ ∀ pattern ∈ found, IsCompiled compiler pattern := by
  cases skip with
  | none =>
    constructor
    · rintro ⟨⟩
      exact ⟨rfl, nofun⟩
    · rintro ⟨hfound, -⟩
      obtain rfl := Option.map_eq_none_iff.mp hfound
      rfl
  | some source =>
    rw [compileSkip_some, fst_logged_carryOn fun _ => appends_pure _]
    constructor
    · rintro ⟨pattern, hpattern, ⟨⟩⟩
      obtain ⟨rfl, hcompiled⟩ := fst_logged_compileSource.mp hpattern
      refine ⟨rfl, ?_⟩
      rintro _ ⟨⟩
      exact hcompiled
    · rintro ⟨hfound, hcompiled⟩
      obtain ⟨pattern, rfl, rfl⟩ := Option.map_eq_some_iff.mp hfound
      exact ⟨pattern, fst_logged_compileSource.mpr ⟨rfl, hcompiled pattern rfl⟩, rfl⟩

lemma fst_logged_compilePair {pair : Pattern × Pattern} :
    (logged (sources.compilePair compiler)).1 = .ok (some pair) ↔
      (pair.1.source = sources.opening ∧ IsCompiled compiler pair.1) ∧
        pair.2.source = sources.closing ∧ IsCompiled compiler pair.2 := by
  have hclosing (opening? : Option Pattern) :
      Appends (do
        let closing? ← compileSource compiler sources.closing
        return opening?.bind fun opening => closing?.map fun closing => (opening, closing)) :=
    (appends_compileSource _).bind fun _ => appends_pure _
  rw [Sources.compilePair, fst_logged_bind _ hclosing, bind_eq_ok]
  simp only [fst_logged_bind _ fun _ => appends_pure _, bind_eq_ok, ← fst_logged_compileSource]
  constructor
  · rintro ⟨opening?, hopening, closing?, hclosing, hpair⟩
    have hpair : (opening?.bind fun opening => closing?.map fun closing => (opening, closing)) =
        some pair := Except.ok.inj hpair
    obtain ⟨opening, rfl, hpair⟩ := Option.bind_eq_some_iff.mp hpair
    obtain ⟨closing, rfl, rfl⟩ := Option.map_eq_some_iff.mp hpair
    exact ⟨hopening, hclosing⟩
  · rintro ⟨hopening, hclosing⟩
    exact ⟨_, hopening, _, hclosing, rfl⟩

lemma appends_compileSkips_sources (sources : Sources) :
    Appends (sources.compileSkips compiler) := by
  refine appends_carryOn (appends_compileSkip _) fun line => ?_
  refine appends_carryOn (appends_compileSkip _) fun opening => ?_
  exact appends_carryOn (appends_compileSkip _) fun closing => appends_pure _

lemma fst_logged_compileSkips {line opening closing : Option Pattern} :
    (logged (sources.compileSkips compiler)).1 = .ok (some (line, opening, closing)) ↔
      (logged (compileSkip compiler sources.skipLine)).1 = .ok (some line) ∧
      (logged (compileSkip compiler sources.skipOpening)).1 = .ok (some opening) ∧
      (logged (compileSkip compiler sources.skipClosing)).1 = .ok (some closing) := by
  have hclosing (line opening : Option Pattern) :
      Appends (carryOn (compileSkip compiler sources.skipClosing) fun closing =>
        pure (some (line, opening, closing))) :=
    appends_carryOn (appends_compileSkip _) fun _ => appends_pure _
  have hopening (line : Option Pattern) :
      Appends (carryOn (compileSkip compiler sources.skipOpening) fun opening =>
        carryOn (compileSkip compiler sources.skipClosing) fun closing =>
          pure (some (line, opening, closing))) :=
    appends_carryOn (appends_compileSkip _) (hclosing line)
  rw [Sources.compileSkips, fst_logged_carryOn hopening]
  constructor
  · rintro ⟨_, hline, h⟩
    obtain ⟨_, hopening, h⟩ := (fst_logged_carryOn (hclosing _)).mp h
    obtain ⟨_, hclosing, ⟨⟩⟩ := (fst_logged_carryOn fun _ => appends_pure _).mp h
    exact ⟨hline, hopening, hclosing⟩
  · rintro ⟨hline, hopening, hclosing'⟩
    refine ⟨line, hline, (fst_logged_carryOn (hclosing _)).mpr ⟨opening, hopening, ?_⟩⟩
    exact (fst_logged_carryOn fun _ => appends_pure _).mpr ⟨closing, hclosing', rfl⟩

lemma forall_mem_patterns {p : Pattern → Prop} :
    (∀ pattern ∈ rule.patterns, p pattern) ↔
      p rule.opening ∧ p rule.closing ∧ (∀ pattern ∈ rule.skipLine, p pattern) ∧
        (∀ pattern ∈ rule.skipOpening, p pattern) ∧ ∀ pattern ∈ rule.skipClosing, p pattern := by
  simp [patterns, List.reduceOption_mem_iff, or_imp, forall_and, eq_comm]

/-- The rule of sources holds them, and each of its patterns is what its source compiles to. -/
lemma fst_logged_compile_sources :
    (logged (sources.compile compiler index)).1 = .ok (some rule) ↔
      rule.index = index ∧ rule.sources = sources ∧
        ∀ pattern ∈ rule.patterns, IsCompiled compiler pattern := by
  have hskips (pair : Pattern × Pattern) :
      Appends (carryOn (sources.compileSkips compiler) fun (skipLine, skipOpening, skipClosing) =>
        return some (⟨index, pair.1, pair.2, skipLine, skipOpening, skipClosing, sources.topOffset,
          sources.bottomOffset⟩ : Rule)) :=
    appends_carryOn (appends_compileSkips_sources sources) fun _ => appends_pure _
  rw [Sources.compile, fst_logged_carryOn hskips, forall_mem_patterns]
  constructor
  · rintro ⟨pair, hpair, h⟩
    obtain ⟨⟨line, opening, closing⟩, hfound, ⟨⟩⟩ := (fst_logged_carryOn fun _ => appends_pure _).mp h
    obtain ⟨hline, hopening, hclosing⟩ := fst_logged_compileSkips.mp hfound
    obtain ⟨⟨hopener, compiledOpener⟩, hcloser, compiledCloser⟩ := fst_logged_compilePair.mp hpair
    obtain ⟨hline, compiledLine⟩ := fst_logged_compileSkip.mp hline
    obtain ⟨hopening, compiledOpening⟩ := fst_logged_compileSkip.mp hopening
    obtain ⟨hclosing, compiledClosing⟩ := fst_logged_compileSkip.mp hclosing
    refine ⟨rfl, ?_, compiledOpener, compiledCloser, compiledLine, compiledOpening, compiledClosing⟩
    simp only [Rule.sources, hopener, hcloser, hline, hopening, hclosing]
  · rintro ⟨rfl, rfl, hopener, hcloser, hline, hopening, hclosing⟩
    refine ⟨(rule.opening, rule.closing), ?_, ?_⟩
    · exact fst_logged_compilePair.mpr ⟨⟨rfl, hopener⟩, rfl, hcloser⟩
    · refine (fst_logged_carryOn fun _ => appends_pure _).mpr
        ⟨(rule.skipLine, rule.skipOpening, rule.skipClosing), ?_, rfl⟩
      apply fst_logged_compileSkips.mpr
      refine ⟨fst_logged_compileSkip.mpr ⟨rfl, hline⟩, fst_logged_compileSkip.mpr ⟨rfl, hopening⟩, ?_⟩
      exact fst_logged_compileSkip.mpr ⟨rfl, hclosing⟩

/-- A specification gives a rule just if it is a mapping that selects what the rule holds. -/
lemma compile_eq_some_iff {spec : Value} :
    (logged (compile compiler spec index)).1 = .ok (some rule) ↔
      rule.index = index ∧ (∃ entries, spec = .map entries ∧ Selects entries rule.sources) ∧
        ∀ pattern ∈ rule.patterns, IsCompiled compiler pattern := by
  constructor
  · intro h
    cases spec with
    | map entries =>
      by_cases hselects : ∃ sources, Selects entries sources
      · obtain ⟨sources, hselects⟩ := hselects
        rw [compile_of_selects hselects] at h
        obtain ⟨hindex, rfl, hcompiled⟩ := fst_logged_compile_sources.mp h
        exact ⟨hindex, ⟨entries, rfl, hselects⟩, hcompiled⟩
      · obtain ⟨warning, hdropped⟩ := logged_compile_of_not_selects (not_exists.mp hselects) index
        rw [hdropped] at h
        cases h
    | _ => cases h
  · rintro ⟨hindex, ⟨entries, rfl, hselects⟩, hcompiled⟩
    rw [compile_of_selects hselects]
    exact fst_logged_compile_sources.mpr ⟨hindex, rfl, hcompiled⟩

end Compiling

section Accepting

lemma patterns_sources (rule : Rule) : rule.sources.patterns = rule.patterns.map Pattern.source := by
  rcases rule with ⟨_, _, _, _ | _, _ | _, _ | _, _, _⟩ <;> rfl

lemma exists_compiled (h : Accepted compiler source) :
    ∃ pattern : Pattern, pattern.source = source ∧ IsCompiled compiler pattern := by
  obtain ⟨pattern, hpattern⟩ := h
  exact ⟨pattern, compile_eq_ok_iff.mp hpattern⟩

lemma exists_compiled_skip (h : ∀ source ∈ skip, Accepted compiler source) :
    ∃ found : Option Pattern, found.map Pattern.source = skip ∧
      ∀ pattern ∈ found, IsCompiled compiler pattern := by
  cases skip with
  | none => exact ⟨none, rfl, nofun⟩
  | some source =>
    obtain ⟨pattern, rfl, hcompiled⟩ := exists_compiled (h source rfl)
    refine ⟨some pattern, rfl, ?_⟩
    rintro _ ⟨⟩
    exact hcompiled

/-- Sources that all compile are those of a rule. -/
lemma exists_rule_of_accepted (index : Int) (h : ∀ source ∈ sources.patterns, Accepted compiler source) :
    ∃ rule : Rule, rule.index = index ∧ rule.sources = sources ∧
      ∀ pattern ∈ rule.patterns, IsCompiled compiler pattern := by
  obtain ⟨opening, closing, skipLine, skipOpening, skipClosing, top, bottom⟩ := sources
  simp only [Sources.patterns, List.mem_cons, List.reduceOption_mem_iff, List.not_mem_nil, or_false,
    forall_eq_or_imp] at h
  obtain ⟨hopening, hclosing, hskips⟩ := h
  obtain ⟨opener, rfl, compiledOpener⟩ := exists_compiled hopening
  obtain ⟨closer, rfl, compiledCloser⟩ := exists_compiled hclosing
  obtain ⟨line, rfl, compiledLine⟩ := exists_compiled_skip fun source hsource =>
    hskips source (Or.inl hsource.symm)
  obtain ⟨before, rfl, compiledBefore⟩ := exists_compiled_skip fun source hsource =>
    hskips source (Or.inr (Or.inl hsource.symm))
  obtain ⟨after, rfl, compiledAfter⟩ := exists_compiled_skip fun source hsource =>
    hskips source (Or.inr (Or.inr hsource.symm))
  refine ⟨⟨index, opener, closer, line, before, after, top, bottom⟩, rfl, rfl, ?_⟩
  exact forall_mem_patterns.mpr
    ⟨compiledOpener, compiledCloser, compiledLine, compiledBefore, compiledAfter⟩

end Accepting

section Sameness

lemma SameFields.symm (same : SameFields entries other) : SameFields other entries := by
  intro key hkey
  exact (same key hkey).imp Eq.symm And.symm

lemma SameFields.of_perm (perm : entries.Perm other) (nodup : entries.keys.Nodup) :
    SameFields entries other := by
  intro key _
  exact Or.inl (Entries.find_eq_of_perm perm nodup key)

lemma SameFields.find_eq (same : SameFields entries other) (hkey : key ∈ Settings.ruleKeys)
    (counts : ¬Shadowed entries key) : entries.find key = other.find key := by
  rcases same key hkey with h | ⟨h, -⟩
  · exact h
  · exact absurd h counts

lemma holdsText_congr (h : entries.find key = other.find key) :
    HoldsText entries key text ↔ HoldsText other key text := by
  rw [HoldsText, HoldsText, h]

lemma hasText_congr (h : entries.find key = other.find key) :
    HasText entries key ↔ HasText other key :=
  exists_congr fun _ => holdsText_congr h

lemma SameFields.hasPatternPair (same : SameFields entries other) (h : HasPatternPair entries) :
    HasPatternPair other := by
  have hopening : entries.find "beginRegex" = other.find "beginRegex" :=
    same.find_eq (by simp [Settings.ruleKeys]) (not_not_intro h)
  have hclosing : entries.find "endRegex" = other.find "endRegex" :=
    same.find_eq (by simp [Settings.ruleKeys]) (not_not_intro h)
  exact ⟨(hasText_congr hopening).mp h.1, (hasText_congr hclosing).mp h.2⟩

lemma SameFields.selectsPair (same : SameFields entries other)
    (h : SelectsPair entries opening closing) : SelectsPair other opening closing := by
  cases h with
  | patterns hopening hclosing =>
    have complete : HasPatternPair entries := ⟨⟨_, hopening⟩, ⟨_, hclosing⟩⟩
    have hbegin : entries.find "beginRegex" = other.find "beginRegex" :=
      same.find_eq (by simp [Settings.ruleKeys]) (not_not_intro complete)
    have hend : entries.find "endRegex" = other.find "endRegex" :=
      same.find_eq (by simp [Settings.ruleKeys]) (not_not_intro complete)
    exact .patterns ((holdsText_congr hbegin).mp hopening) ((holdsText_congr hend).mp hclosing)
  | literals incomplete hopening hclosing =>
    have hbegin : entries.find "begin" = other.find "begin" :=
      same.find_eq (by simp [Settings.ruleKeys]) incomplete
    have hend : entries.find "end" = other.find "end" :=
      same.find_eq (by simp [Settings.ruleKeys]) incomplete
    have incompleteOther : ¬HasPatternPair other := fun h => incomplete (same.symm.hasPatternPair h)
    exact .literals incompleteOther ((holdsText_congr hbegin).mp hopening)
      ((holdsText_congr hend).mp hclosing)

/-- A skip marker is the same where the literal is, and the pattern too unless the literal hides it. -/
lemma selectsSkip_congr (hliteral : entries.find literalKey = other.find literalKey)
    (hpattern : ¬HasText entries literalKey → entries.find patternKey = other.find patternKey)
    (h : SelectsSkip entries literalKey patternKey skip) :
    SelectsSkip other literalKey patternKey skip := by
  cases h with
  | literal htext => exact .literal ((holdsText_congr hliteral).mp htext)
  | pattern absent htext =>
    refine .pattern ?_ ((holdsText_congr (hpattern absent)).mp htext)
    exact fun h => absent ((hasText_congr hliteral).mpr h)
  | nothing absent habsent =>
    refine .nothing ?_ ?_
    · exact fun h => absent ((hasText_congr hliteral).mpr h)
    · exact fun h => habsent ((hasText_congr (hpattern absent)).mpr h)

lemma selectsOffset_congr (hfind : entries.find key = other.find key)
    (h : SelectsOffset entries key offset) : SelectsOffset other key offset := by
  cases h with
  | absent hnull => exact .absent (hfind.symm.trans hnull)
  | given hoffset => exact .given (hfind.symm.trans hoffset)

/-- Mappings that agree on the fields that count select the same. -/
lemma SameFields.selects (same : SameFields entries other) (h : Selects entries sources) :
    Selects other sources where
  pair := same.selectsPair h.pair
  skipLine := selectsSkip_congr (same.find_eq (by simp [Settings.ruleKeys]) not_false)
    (fun absent => same.find_eq (by simp [Settings.ruleKeys]) absent) h.skipLine
  skipOpening := selectsSkip_congr (same.find_eq (by simp [Settings.ruleKeys]) not_false)
    (fun absent => same.find_eq (by simp [Settings.ruleKeys]) absent) h.skipOpening
  skipClosing := selectsSkip_congr (same.find_eq (by simp [Settings.ruleKeys]) not_false)
    (fun absent => same.find_eq (by simp [Settings.ruleKeys]) absent) h.skipClosing
  topOffset := selectsOffset_congr (same.find_eq (by simp [Settings.ruleKeys]) not_false) h.topOffset
  bottomOffset :=
    selectsOffset_congr (same.find_eq (by simp [Settings.ruleKeys]) not_false) h.bottomOffset

/-- Mappings that agree on the fields that count compile to the same. -/
lemma compile_congr (same : SameFields entries other) (index : Int) :
    (logged (compile compiler (.map entries) index)).1 =
      (logged (compile compiler (.map other) index)).1 := by
  by_cases h : ∃ sources, Selects entries sources
  · obtain ⟨sources, hselects⟩ := h
    rw [compile_of_selects hselects, compile_of_selects (same.selects hselects)]
  · have hother (sources : Sources) : ¬Selects other sources :=
      fun hselects => h ⟨sources, same.symm.selects hselects⟩
    obtain ⟨_, hentries⟩ := logged_compile_of_not_selects (not_exists.mp h) index
    obtain ⟨_, hdropped⟩ := logged_compile_of_not_selects hother index
    rw [hentries, hdropped]

end Sameness

/-- A pair of patterns with a literal of a wrong type under it, a skip literal with a pattern under it
that does not compile, and a key that no rule has. -/
def shadowingEntries : Entries :=
  [("begin", .int 3), ("beginRegex", .text "x+"), ("skipLineRegex", .text "("), ("color", .bool true),
    ("endRegex", .text "y"), ("skipLine", .text "#"), ("offsetTop", .int (-1))]

/-- The same rule without what does not count, in another order. -/
def plainEntries : Entries :=
  [("offsetTop", .int (-1)), ("skipLine", .text "#"), ("endRegex", .text "y"), ("beginRegex", .text "x+")]

lemma sameFields_shadowingEntries : SameFields shadowingEntries plainEntries := by
  have hpair : HasPatternPair shadowingEntries :=
    ⟨⟨"x+", rfl, by decide⟩, ⟨"y", rfl, by decide⟩⟩
  have hplain : HasPatternPair plainEntries := ⟨⟨"x+", rfl, by decide⟩, ⟨"y", rfl, by decide⟩⟩
  intro key hkey
  simp only [Settings.ruleKeys, List.mem_cons, List.not_mem_nil, or_false] at hkey
  rcases hkey with rfl | rfl | rfl | rfl | rfl | rfl | rfl | rfl | rfl | rfl | rfl | rfl
  case inl => exact Or.inr ⟨hpair, hplain⟩
  case inr.inr.inr.inr.inr.inl =>
    exact Or.inr ⟨⟨"#", rfl, by decide⟩, ⟨"#", rfl, by decide⟩⟩
  all_goals exact Or.inl rfl

/-- A named character is accepted by a compiler that knows the name. -/
example : Accepted ⟨fun name => if name = "LEFT CURLY BRACKET".toList then some '\x7b' else none,
    fun _ => none⟩ "\\N\x7bLEFT CURLY BRACKET\x7d" :=
  ⟨_, rfl⟩

end LineFold.Rule
