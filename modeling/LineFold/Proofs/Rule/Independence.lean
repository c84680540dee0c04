import LineFold.Proofs.Guards
import LineFold.Proofs.Rule.Literal
import LineFold.Proofs.Rule.Logged
import LineFold.Proofs.Scan.Relabel
import LineFold.RuleSet

/-! Rules compile independently of each other. The index that a specification is compiled with only ends
up in its rule, so the rules of a list are what its specifications give one by one, numbered by their
places. -/
namespace LineFold.Rule
open Pattern (Line)
open Scan (renumber renumberAll)

section Outcomes

variable (compiler : Pattern.Compiler)

/-- Whether a specification gives a rule, which is told up to its index, or none. -/
def Gives (spec : Value) (outcome : Option Rule) : Prop :=
  ∀ index, (logged (compile compiler spec index)).1 = .ok (outcome.map (renumber fun _ => index))

/-- Specifications, and the same ones with others among them that give no rule. -/
inductive Padded : List Value → List Value → Prop where
  | nil : Padded [] []
  | keep {specs padded : List Value} (spec : Value) :
      Padded specs padded → Padded (spec :: specs) (spec :: padded)
  | insert {specs padded : List Value} {spec : Value} :
      Gives compiler spec none → Padded specs padded → Padded specs (spec :: padded)

end Outcomes

variable {compiler : Pattern.Compiler} {specs padded : List Value} {spec : Value}
  {outcome : Option Rule} {rule : Rule} {rules : List Rule}

section Index

lemma compileEntries_index (entries : Entries) (number : Int → Int) (index : Int) :
    compileEntries compiler entries (number index) =
      Option.map (renumber number) <$> compileEntries compiler entries index := by
  unfold compileEntries
  split
  · split
    · simp only [map_bind]
      refine bind_congr fun opening? => bind_congr fun closing? => ?_
      split
      · rw [map_bind]
        refine bind_congr fun skips? => ?_
        cases skips? with
        | none => rfl
        | some skips => rfl
      · rfl
    · rfl
  · rfl

/-- The index ends up in the rule, and decides nothing else. -/
lemma compile_index (spec : Value) (number : Int → Int) (index : Int) :
    compile compiler spec (number index) = Option.map (renumber number) <$> compile compiler spec index := by
  unfold compile
  split
  · exact compileEntries_index _ number index
  · rfl

/-- What a specification gives with one index, it gives with all. -/
lemma gives_of_compile {index : Int} (h : (logged (compile compiler spec index)).1 = .ok outcome) :
    Gives compiler spec outcome := by
  intro other
  rw [compile_index spec (fun _ => other) index, fst_logged_map, h]
  rfl

end Index

section Lists

/-- Rules that are numbered on from a later index are the same ones with their indexes raised. -/
lemma compileAll_add (specs : List Value) (index count : Int) :
    compileAll compiler specs (index + count) =
      List.map (renumber (· + count)) <$> compileAll compiler specs index := by
  induction specs generalizing index with
  | nil => rfl
  | cons spec rest ih =>
    rw [compileAll, compileAll, compile_index spec (· + count) index, map_bind, bind_map_left]
    refine bind_congr fun rule? => ?_
    cases rule? with
    | none => exact ih index
    | some rule =>
      have hnext := ih (index + 1)
      rw [Int.add_right_comm] at hnext
      change (do return renumber (· + count) rule :: (← compileAll compiler rest (index + count + 1))) = _
      rw [hnext, map_bind, bind_map_left]
      rfl

/-- The rules of two lists are those of the first one, and then those of the second one, numbered on. -/
lemma compileAll_append (first second : List Value) (index : Int) :
    compileAll compiler (first ++ second) index = (do
      let rules ← compileAll compiler first index
      return rules ++ (← compileAll compiler second (index + rules.length))) := by
  induction first generalizing index with
  | nil =>
    have hindex : index + (([] : List Rule).length : Nat) = index := by simp
    rw [List.nil_append, compileAll, pure_bind, hindex]
    simp
  | cons spec rest ih =>
    rw [List.cons_append, compileAll, compileAll, bind_assoc]
    refine bind_congr fun rule? => ?_
    cases rule? with
    | none => exact ih index
    | some rule =>
      change (do return rule :: (← compileAll compiler (rest ++ second) (index + 1))) = _
      rw [ih (index + 1)]
      simp only [bind_assoc, pure_bind, List.cons_append]
      refine bind_congr fun rules => ?_
      have hindex : index + 1 + (rules.length : Nat) = index + ((rule :: rules).length : Nat) := by
        rw [List.length_cons]
        omega
      rw [hindex]

/-- The rule of a specification goes before those of the rest, whose indexes it raises. -/
lemma compileAll_cons (spec : Value) (rest : List Value) :
    compileAll compiler (spec :: rest) 0 = (do
      let outcome ← compile compiler spec 0
      let rules ← compileAll compiler rest 0
      return outcome.elim rules fun rule => rule :: rules.map (renumber (· + 1))) := by
  rw [compileAll]
  refine bind_congr fun outcome => ?_
  cases outcome with
  | none => exact (bind_pure _).symm
  | some rule =>
    change (do return rule :: (← compileAll compiler rest (0 + 1))) = _
    rw [compileAll_add, bind_map_left]
    rfl

lemma fst_logged_compileAll_cons (spec : Value) (rest : List Value) :
    (logged (compileAll compiler (spec :: rest) 0)).1 = (do
      let outcome ← (logged (compile compiler spec 0)).1
      let rules ← (logged (compileAll compiler rest 0)).1
      return outcome.elim rules fun rule => rule :: rules.map (renumber (· + 1))) := by
  rw [compileAll_cons, fst_logged_bind]
  · refine bind_congr fun outcome => ?_
    exact fst_logged_bind _ fun rules => appends_pure _
  · intro outcome
    exact (appends_compileAll rest 0).bind fun rules => appends_pure _

/-- Specifications that give no rule may stand anywhere in a list. -/
lemma compileAll_padded (h : Padded compiler specs padded) :
    (logged (compileAll compiler padded 0)).1 = (logged (compileAll compiler specs 0)).1 := by
  induction h with
  | nil => rfl
  | keep spec _ ih => rw [fst_logged_compileAll_cons, ih, ← fst_logged_compileAll_cons]
  | insert gives _ ih =>
    rw [fst_logged_compileAll_cons, gives 0, ih]
    exact bind_pure (m := Except Pattern.Abort) _

end Lists

section Numbering

lemma renumberAll_cons (rule : Rule) (rules : List Rule) :
    renumberAll (rule :: rules) =
      renumber (fun _ => 0) rule :: (renumberAll rules).map (renumber (· + 1)) := by
  refine List.ext_getElem (by simp [renumberAll]) fun position _ _ => ?_
  cases position with
  | zero => simp [renumberAll, renumber]
  | succ position => simp [renumberAll, renumber]

lemma renumberAll_reduceOption_cons (outcome : Option Rule) (outcomes : List (Option Rule)) :
    renumberAll (outcome :: outcomes).reduceOption =
      (outcome.map (renumber fun _ => 0)).elim (renumberAll outcomes.reduceOption) fun rule =>
        rule :: (renumberAll outcomes.reduceOption).map (renumber (· + 1)) := by
  cases outcome with
  | none => rfl
  | some rule => exact renumberAll_cons rule outcomes.reduceOption

/-- The rules of a list are what its specifications give, numbered by their places. -/
lemma compileAll_eq_ok_iff :
    (logged (compileAll compiler specs 0)).1 = .ok rules ↔
      ∃ outcomes, List.Forall₂ (Gives compiler) specs outcomes ∧
        rules = renumberAll outcomes.reduceOption := by
  induction specs generalizing rules with
  | nil =>
    constructor
    · intro h
      cases h
      exact ⟨[], .nil, rfl⟩
    · rintro ⟨outcomes, hgives, rfl⟩
      cases hgives
      rfl
  | cons spec rest ih =>
    simp only [fst_logged_compileAll_cons, Guards.bind_eq_ok]
    constructor
    · rintro ⟨outcome, houtcome, others, hothers, hrules⟩
      obtain ⟨outcomes, hgives, rfl⟩ := ih.mp hothers
      have hspec := gives_of_compile houtcome
      have hindex : outcome = outcome.map (renumber fun _ => 0) :=
        Except.ok.inj (houtcome.symm.trans (hspec 0))
      refine ⟨outcome :: outcomes, .cons hspec hgives, ?_⟩
      rw [renumberAll_reduceOption_cons, ← hindex]
      exact (Except.ok.inj hrules).symm
    · rintro ⟨_, hgives, rfl⟩
      cases hgives with
      | cons hspec hrest =>
        refine ⟨_, hspec 0, _, ih.mpr ⟨_, hrest, rfl⟩, ?_⟩
        rw [renumberAll_reduceOption_cons]
        rfl

lemma index_of_getElem?_renumberAll {position : Nat}
    (h : (renumberAll rules)[position]? = some rule) : rule.index = position := by
  rw [renumberAll, List.getElem?_mapIdx] at h
  obtain ⟨_, -, rfl⟩ := Option.map_eq_some_iff.mp h
  rfl

end Numbering

/-- The ranges of a document, or the reason why compilation aborts. -/
lemma ranges_of_compile (compiler : Pattern.Compiler) (specs : List Value) (clamps : Bool)
    (lines : List Line) :
    (·.ranges lines) <$> (logged (RuleSet.compile compiler (.list specs) clamps)).1 =
      (fun rules => RuleSet.ranges ⟨rules, clamps⟩ lines) <$> (logged (compileAll compiler specs 0)).1 := by
  have hcompile : RuleSet.compile compiler (.list specs) clamps =
      (fun rules => (⟨rules, clamps⟩ : RuleSet)) <$> compileAll compiler specs 0 := by
    rw [map_eq_pure_bind]
    rfl
  rw [hcompile, fst_logged_map, Functor.map_map]

/-- The specification of two braces. -/
def bracesSpec : Value := .map [("begin", .text "\x7b"), ("end", .text "\x7d")]

def bracesRule : Rule := LiteralFields.rule ⟨"\x7b", "\x7d", none, none, none⟩ 0

lemma compileAll_bracesSpec : (logged (compileAll .plain [bracesSpec] 0)).1 = .ok [bracesRule] := by rfl

/-- A specification with a group that is left open. -/
def unclosedSpec : Value := .map [("beginRegex", .text "("), ("endRegex", .text "x")]

/-- A specification with a pattern that asks for two alphabets. -/
def flagsSpec : Value := .map [("beginRegex", .text "(?a)(?u)"), ("endRegex", .text "x")]

end LineFold.Rule
