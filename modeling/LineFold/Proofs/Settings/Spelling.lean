import LineFold.Proofs.Rule.Fields
import LineFold.Proofs.Settings.Normalizing

/-! The spelling of rule keys. A rule table is normalized just if each of its keys spells a rule key, and
the first one that does not is told otherwise. The result has each key that is spelled once, in the order
of the first spellings and with the values of the last ones. Where no key is spelled twice, neither the
spelling nor the order of the keys matters for the rule. -/
namespace LineFold.Settings
open LineFold.Guards

section Definitions

/-- Whether a key spells a rule key: it is the key in camel case, or in snake case. -/
def Spells (key canonical : String) : Prop :=
  canonical ∈ ruleKeys ∧ (key = canonical ∨ key = snakeCase canonical)

instance (key canonical : String) : Decidable (Spells key canonical) :=
  inferInstanceAs (Decidable (_ ∧ (_ ∨ _)))

/-- The place of the first spelling of a rule key, counted from zero. -/
def firstPlace (entries : Entries) (canonical : String) : Nat :=
  entries.keys.findIdx fun key => Spells key canonical

/-- Whether the last spelling of a rule key stands with this value. -/
def LastSpelled (entries : Entries) (canonical : String) (value : Value) : Prop :=
  ∃ before key after, entries = before ++ (key, value) :: after ∧ Spells key canonical ∧
    ∀ later ∈ Entries.keys after, ¬Spells later canonical

/-- The rule keys that entries spell, each of them once, in the order of their first spellings and with
the values of their last ones. -/
structure NormalForm (entries result : Entries) : Prop where
  nodup : result.keys.Nodup
  mem_keys_iff : ∀ canonical, canonical ∈ result.keys ↔ ∃ key ∈ entries.keys, Spells key canonical
  ordered : result.keys.Pairwise fun a b => firstPlace entries a < firstPlace entries b
  get?_eq_some_iff : ∀ canonical value,
    result.get? canonical = some value ↔ LastSpelled entries canonical value

end Definitions

variable {entries other seen done result : Entries} {key canonical another : String} {value : Value}
  {position index : Int}

section Keys

lemma canonicalKey?_eq_some_iff : canonicalKey? key = some canonical ↔ Spells key canonical := by
  constructor
  · intro h
    refine ⟨mem_ruleKeys_of_canonicalKey? h, ?_⟩
    have hspelled := List.find?_some h
    rw [Bool.or_eq_true, decide_eq_true_iff, decide_eq_true_iff] at hspelled
    exact hspelled.imp Eq.symm Eq.symm
  · rintro ⟨hmem, rfl | rfl⟩
    · exact canonicalKey?_of_mem hmem
    · have hall : ∀ canonical ∈ ruleKeys, canonicalKey? (snakeCase canonical) = some canonical := by
        decide +kernel
      exact hall canonical hmem

lemma canonicalKey?_eq_none_iff : canonicalKey? key = none ↔ ∀ canonical, ¬Spells key canonical := by
  rw [Option.eq_none_iff_forall_ne_some]
  exact forall_congr' fun canonical => not_congr canonicalKey?_eq_some_iff

/-- No key spells two rule keys. -/
lemma Spells.unique (h : Spells key canonical) (h' : Spells key another) : canonical = another :=
  Option.some.inj ((canonicalKey?_eq_some_iff.mpr h).symm.trans (canonicalKey?_eq_some_iff.mpr h'))

end Keys

section Step

lemma keys_concat (entries : Entries) (key : String) (value : Value) :
    Entries.keys (entries ++ [(key, value)]) = entries.keys ++ [key] :=
  List.map_append

lemma exists_spelled_concat_iff (h : Spells key canonical) :
    (∃ k ∈ Entries.keys (seen ++ [(key, value)]), Spells k another) ↔
      (∃ k ∈ seen.keys, Spells k another) ∨ another = canonical := by
  rw [keys_concat]
  constructor
  · rintro ⟨k, hk, hspells⟩
    rcases List.mem_append.mp hk with hk | hk
    · exact Or.inl ⟨k, hk, hspells⟩
    · rw [List.mem_singleton.mp hk] at hspells
      exact Or.inr (hspells.unique h)
  · rintro (⟨k, hk, hspells⟩ | rfl)
    · exact ⟨k, List.mem_append_left _ hk, hspells⟩
    · exact ⟨key, by simp, h⟩

lemma firstPlace_lt (h : ∃ k ∈ seen.keys, Spells k another) :
    firstPlace seen another < seen.keys.length := by
  obtain ⟨k, hk, hspells⟩ := h
  exact List.findIdx_lt_length_of_exists ⟨k, hk, decide_eq_true hspells⟩

/-- A rule key that is spelled already keeps its first place. -/
lemma firstPlace_concat (h : ∃ k ∈ seen.keys, Spells k another) :
    firstPlace (seen ++ [(key, value)]) another = firstPlace seen another := by
  rw [firstPlace, keys_concat, List.findIdx_append]
  exact if_pos (firstPlace_lt h)

lemma le_firstPlace_concat (h : ¬∃ k ∈ seen.keys, Spells k another) :
    seen.keys.length ≤ firstPlace (seen ++ [(key, value)]) another := by
  have hnot : ¬firstPlace seen another < seen.keys.length := by
    intro hlt
    obtain ⟨k, hk, hspells⟩ := List.findIdx_lt_length.mp hlt
    exact h ⟨k, hk, of_decide_eq_true hspells⟩
  rw [firstPlace, keys_concat, List.findIdx_append]
  exact le_of_le_of_eq (Nat.le_add_left _ _) (if_neg hnot).symm

/-- One more entry is the last spelling of its rule key, and changes nothing for the others. -/
lemma lastSpelled_concat_iff (h : Spells key canonical) {last : Value} :
    LastSpelled (seen ++ [(key, value)]) another last ↔
      if another = canonical then value = last else LastSpelled seen another last := by
  constructor
  · rintro ⟨before, k, after, heq, hspells, hlater⟩
    rcases List.eq_nil_or_concat' after with rfl | ⟨rest, entry, rfl⟩
    · obtain ⟨-, hentry⟩ := List.append_singleton_inj.mp heq
      cases hentry
      exact (if_pos (hspells.unique h)).symm ▸ rfl
    · rw [← List.cons_append, ← List.append_assoc] at heq
      obtain ⟨rfl, rfl⟩ := List.append_singleton_inj.mp heq
      have hne : another ≠ canonical := by
        rintro rfl
        exact hlater key (by simp [keys_concat]) h
      rw [if_neg hne]
      refine ⟨before, k, rest, rfl, hspells, fun later hmem => hlater later ?_⟩
      rw [keys_concat]
      exact List.mem_append_left _ hmem
  · intro hlast
    by_cases heq : another = canonical
    · rw [if_pos heq] at hlast
      subst heq hlast
      exact ⟨seen, key, [], rfl, h, nofun⟩
    · rw [if_neg heq] at hlast
      obtain ⟨before, k, after, rfl, hspells, hlater⟩ := hlast
      refine ⟨before, k, after ++ [(key, value)], by simp, hspells, ?_⟩
      intro later hmem
      rw [keys_concat] at hmem
      rcases List.mem_append.mp hmem with hmem | hmem
      · exact hlater later hmem
      · rw [List.mem_singleton.mp hmem]
        exact fun hspells => heq (hspells.unique h)

lemma normalForm_nil : NormalForm [] [] where
  nodup := List.nodup_nil
  mem_keys_iff canonical := by simp [Entries.keys]
  ordered := List.Pairwise.nil
  get?_eq_some_iff canonical value := by
    constructor
    · intro h
      cases h
    · rintro ⟨before, key, after, heq, -⟩
      exact absurd heq (by simp)

/-- Setting the rule key of one more entry gives the normal form with this entry, as the first places of the
keys so far stay what they are. -/
lemma NormalForm.insert (normal : NormalForm seen done) (h : Spells key canonical) :
    NormalForm (seen ++ [(key, value)]) (done.insert canonical value) := by
  have hordered : done.keys.Pairwise fun a b =>
      firstPlace (seen ++ [(key, value)]) a < firstPlace (seen ++ [(key, value)]) b := by
    refine normal.ordered.imp_of_mem fun ha hb hlt => ?_
    rw [firstPlace_concat ((normal.mem_keys_iff _).mp ha),
      firstPlace_concat ((normal.mem_keys_iff _).mp hb)]
    exact hlt
  refine ⟨Entries.nodup_keys_insert normal.nodup, ?_, ?_, ?_⟩
  · intro another
    rw [Entries.mem_keys_insert, exists_spelled_concat_iff h, normal.mem_keys_iff]
  · rcases Entries.keys_insert done canonical value with ⟨-, hkeys⟩ | ⟨absent, hkeys⟩
    · rw [hkeys]
      exact hordered
    · rw [hkeys, List.pairwise_append]
      refine ⟨hordered, List.pairwise_singleton _ _, ?_⟩
      intro before hbefore last hlast
      have hspelled := (normal.mem_keys_iff before).mp hbefore
      rw [List.mem_singleton.mp hlast, firstPlace_concat hspelled]
      refine Nat.lt_of_lt_of_le (firstPlace_lt hspelled) (le_firstPlace_concat fun h => ?_)
      exact absent ((normal.mem_keys_iff _).mpr h)
  · intro another last
    rw [Entries.get?_insert, lastSpelled_concat_iff h]
    by_cases heq : another = canonical
    · rw [if_pos heq, if_pos heq, Option.some_inj]
    · rw [if_neg heq, if_neg heq, normal.get?_eq_some_iff]

end Step

section Run

/-- What entries are done, in normal form, stays so to the end. -/
lemma normalForm_of_normalizeEntries (normal : NormalForm seen done)
    (h : normalizeEntries position entries done = .ok result) : NormalForm (seen ++ entries) result := by
  induction entries generalizing seen done with
  | nil =>
    cases h
    rw [List.append_nil]
    exact normal
  | cons entry rest ih =>
    rw [normalizeEntries] at h
    cases hkey : canonicalKey? entry.1 with
    | none =>
      rw [hkey] at h
      cases h
    | some canonical =>
      rw [hkey] at h
      rw [List.append_cons]
      exact ih (normal.insert (canonicalKey?_eq_some_iff.mp hkey)) h

/-- Normalizing ends with a result, or at the first key that spells no rule key. -/
lemma normalizeEntries_ends (position : Int) (entries done : Entries) :
    ((∀ key ∈ entries.keys, ∃ canonical, Spells key canonical) ∧
      ∃ result, normalizeEntries position entries done = .ok result) ∨
    ∃ before key value after, entries = before ++ (key, value) :: after ∧
      (∀ k ∈ Entries.keys before, ∃ canonical, Spells k canonical) ∧
      (∀ canonical, ¬Spells key canonical) ∧
      normalizeEntries position entries done = .error (.unsupportedKey position key) := by
  induction entries generalizing done with
  | nil => exact Or.inl ⟨nofun, done, rfl⟩
  | cons entry rest ih =>
    obtain ⟨key, value⟩ := entry
    rw [normalizeEntries]
    cases hkey : canonicalKey? key with
    | none =>
      exact Or.inr ⟨[], key, value, rest, rfl, nofun, canonicalKey?_eq_none_iff.mp hkey, rfl⟩
    | some canonical =>
      have hspells : ∃ canonical, Spells key canonical := ⟨canonical, canonicalKey?_eq_some_iff.mp hkey⟩
      rcases ih (done.insert canonical value) with
        ⟨hrest, hresult⟩ | ⟨before, k, v, after, rfl, hbefore, hend⟩
      · exact Or.inl ⟨List.forall_mem_cons.mpr ⟨hspells, hrest⟩, hresult⟩
      · exact Or.inr ⟨(key, value) :: before, k, v, after, rfl,
          List.forall_mem_cons.mpr ⟨hspells, hbefore⟩, hend⟩

lemma normalizeRule_eq_ok_iff :
    (∃ result, normalizeRule (.map entries) position = .ok result) ↔
      ∀ key ∈ entries.keys, ∃ canonical, Spells key canonical := by
  rcases normalizeEntries_ends position entries [] with
    ⟨hall, hresult⟩ | ⟨before, key, value, after, rfl, -, hkey, herror⟩
  · exact iff_of_true hresult hall
  · refine iff_of_false ?_ ?_
    · rintro ⟨result, hresult⟩
      cases herror.symm.trans hresult
    · intro hall
      obtain ⟨canonical, hspells⟩ := hall key (by simp [Entries.keys])
      exact hkey canonical hspells

end Run

section Respelling

/-- Whether no rule key is spelled twice. -/
def SpelledOnce (entries : Entries) : Prop :=
  entries.Pairwise fun a b => ∀ canonical, Spells a.1 canonical → ¬Spells b.1 canonical

/-- Entries with the same value, whose keys are the same or spell the same rule key. -/
def SameSpelled (a b : String × Value) : Prop :=
  a.2 = b.2 ∧ (a.1 = b.1 ∨ ∃ canonical, Spells a.1 canonical ∧ Spells b.1 canonical)

/-- Entries in another order, and with other spellings of their keys. -/
def Respelled (entries other : Entries) : Prop :=
  ∃ permuted, entries.Perm permuted ∧ List.Forall₂ SameSpelled permuted other

lemma SameSpelled.spells_iff {a b : String × Value} (same : SameSpelled a b) :
    Spells a.1 canonical ↔ Spells b.1 canonical := by
  obtain ⟨-, heq | ⟨common, ha, hb⟩⟩ := same
  · rw [heq]
  · constructor
    · intro h
      rw [h.unique ha]
      exact hb
    · intro h
      rw [h.unique hb]
      exact ha

/-- Whether a rule key is spelled somewhere with this value. -/
def SpelledWith (entries : Entries) (canonical : String) (value : Value) : Prop :=
  ∃ entry ∈ entries, Spells entry.1 canonical ∧ entry.2 = value

lemma spelledWith_of_forall₂ (same : List.Forall₂ SameSpelled entries other) :
    SpelledWith entries canonical value ↔ SpelledWith other canonical value := by
  induction same with
  | nil => exact Iff.rfl
  | cons hab _ ih =>
    simp only [SpelledWith, List.exists_mem_cons_iff] at ih ⊢
    rw [hab.spells_iff, hab.1, ih]

lemma spelledOnce_of_forall₂ (same : List.Forall₂ SameSpelled entries other)
    (once : SpelledOnce entries) : SpelledOnce other := by
  induction same with
  | nil => exact List.Pairwise.nil
  | cons hab hrest ih =>
    obtain ⟨hnew, honce⟩ := List.pairwise_cons.mp once
    refine List.pairwise_cons.mpr ⟨?_, ih honce⟩
    intro entry hentry canonical hspells hagain
    obtain ⟨original, horiginal, hspelled, -⟩ :=
      (spelledWith_of_forall₂ hrest).mpr ⟨entry, hentry, hagain, rfl⟩
    exact hnew original horiginal canonical (hab.spells_iff.mpr hspells) hspelled

lemma Respelled.spelledOnce (same : Respelled entries other) (once : SpelledOnce entries) :
    SpelledOnce other := by
  obtain ⟨permuted, hperm, hsame⟩ := same
  refine spelledOnce_of_forall₂ hsame ((hperm.pairwise_iff ?_).mp once)
  intro a b h canonical hb ha
  exact h canonical ha hb

lemma Respelled.spelledWith_iff (same : Respelled entries other) :
    SpelledWith entries canonical value ↔ SpelledWith other canonical value := by
  obtain ⟨permuted, hperm, hsame⟩ := same
  have hpermuted : SpelledWith entries canonical value ↔ SpelledWith permuted canonical value :=
    exists_congr fun entry => and_congr_left fun _ => hperm.mem_iff
  exact hpermuted.trans (spelledWith_of_forall₂ hsame)

lemma allSpelled_of_forall₂ (same : List.Forall₂ SameSpelled entries other) :
    (∀ key ∈ entries.keys, ∃ canonical, Spells key canonical) ↔
      ∀ key ∈ other.keys, ∃ canonical, Spells key canonical := by
  induction same with
  | nil => exact Iff.rfl
  | cons hab _ ih =>
    simp only [Entries.keys, List.map_cons, List.forall_mem_cons, hab.spells_iff] at ih ⊢
    rw [ih]

lemma Respelled.allSpelled_iff (same : Respelled entries other) :
    (∀ key ∈ entries.keys, ∃ canonical, Spells key canonical) ↔
      ∀ key ∈ other.keys, ∃ canonical, Spells key canonical := by
  obtain ⟨permuted, hperm, hsame⟩ := same
  have hkeys (key : String) : key ∈ entries.keys ↔ key ∈ Entries.keys permuted :=
    (hperm.map Prod.fst).mem_iff
  rw [← allSpelled_of_forall₂ hsame]
  exact forall_congr' fun key => imp_congr_left (hkeys key)

/-- Where a rule key is spelled once, its value is that of its spelling. -/
lemma lastSpelled_iff_of_spelledOnce (once : SpelledOnce entries) :
    LastSpelled entries canonical value ↔ SpelledWith entries canonical value := by
  constructor
  · rintro ⟨before, key, after, rfl, hspells, -⟩
    exact ⟨(key, value), by simp, hspells, rfl⟩
  · rintro ⟨⟨key, _⟩, hmem, hspells, rfl⟩
    obtain ⟨before, after, rfl⟩ := List.append_of_mem hmem
    refine ⟨before, key, after, rfl, hspells, ?_⟩
    intro later hlater hagain
    obtain ⟨entry, hentry, rfl⟩ := List.mem_map.mp hlater
    have hpair := (List.pairwise_append.mp once).2.1
    exact List.rel_of_pairwise_cons hpair hentry canonical hspells hagain

/-- What a rule table gives: it is normalized, and the result is compiled. -/
def compileTable (compiler : Pattern.Compiler) (table : Entries) (position index : Int) :
    Except SettingsError (Except Pattern.Abort (Option Rule)) := do
  let normalized ← normalizeRule (.map table) position
  return (Rule.logged (Rule.compile compiler (.map normalized) index)).1

lemma find_eq_of_respelled {normalized : Entries} (same : Respelled entries other)
    (once : SpelledOnce entries) (hresult : NormalForm entries result)
    (hother : NormalForm other normalized) (key : String) : result.find key = normalized.find key := by
  have hget : result.get? key = normalized.get? key := by
    ext value
    rw [hresult.get?_eq_some_iff, hother.get?_eq_some_iff, lastSpelled_iff_of_spelledOnce once,
      lastSpelled_iff_of_spelledOnce (same.spelledOnce once), same.spelledWith_iff]
  rw [Entries.find, Entries.find, hget]

lemma compileTable_of_respelled (compiler : Pattern.Compiler) (same : Respelled entries other)
    (once : SpelledOnce entries) (position index : Int) {outcome : Except Pattern.Abort (Option Rule)} :
    compileTable compiler entries position index = .ok outcome ↔
      compileTable compiler other position index = .ok outcome := by
  by_cases hall : ∀ key ∈ entries.keys, ∃ canonical, Spells key canonical
  · obtain ⟨result, hresult⟩ := normalizeRule_eq_ok_iff.mpr hall
    obtain ⟨normalized, hother⟩ := normalizeRule_eq_ok_iff.mpr (same.allSpelled_iff.mp hall)
    have hfields : Rule.SameFields result normalized := fun key _ =>
      Or.inl (find_eq_of_respelled same once (normalForm_of_normalizeEntries normalForm_nil hresult)
        (normalForm_of_normalizeEntries normalForm_nil hother) key)
    have htables :
        compileTable compiler entries position index = compileTable compiler other position index := by
      rw [compileTable, compileTable, hresult, hother]
      exact congrArg Except.ok (Rule.compile_congr hfields index)
    rw [htables]
  · have hfails : ¬∃ result, normalizeRule (.map entries) position = .ok result := by
      rwa [normalizeRule_eq_ok_iff]
    have hothers : ¬∃ result, normalizeRule (.map other) position = .ok result := by
      rwa [normalizeRule_eq_ok_iff, ← same.allSpelled_iff]
    rw [compileTable, compileTable, bind_eq_ok, bind_eq_ok]
    refine iff_of_false ?_ ?_
    · rintro ⟨result, hresult, -⟩
      exact hfails ⟨result, hresult⟩
    · rintro ⟨result, hresult, -⟩
      exact hothers ⟨result, hresult⟩

end Respelling

/-- A rule table is normalized just if each of its keys spells a rule key, and otherwise the error names
the first one that does not. The result has each key once, in the order of the first spellings and with
the values of the last ones, and normalizing it again changes nothing. Where no rule key is spelled
twice, tables that differ in the spelling of keys and in their order compile to the same. -/
theorem normalizeRule_canonical (compiler : Pattern.Compiler) (entries : Entries) (position index : Int) :
    ((∃ result, normalizeRule (.map entries) position = .ok result) ↔
      ∀ key ∈ entries.keys, ∃ canonical, Spells key canonical) ∧
    (∀ error, normalizeRule (.map entries) position = .error error →
      ∃ before key value after, entries = before ++ (key, value) :: after ∧
        (∀ k ∈ Entries.keys before, ∃ canonical, Spells k canonical) ∧
        (∀ canonical, ¬Spells key canonical) ∧ error = .unsupportedKey position key) ∧
    (∀ result, normalizeRule (.map entries) position = .ok result →
      NormalForm entries result ∧ ∀ place, normalizeRule (.map result) place = .ok result) ∧
    ∀ other, Respelled entries other → SpelledOnce entries → ∀ outcome,
      compileTable compiler entries position index = .ok outcome ↔
        compileTable compiler other position index = .ok outcome := by
  refine ⟨normalizeRule_eq_ok_iff, ?_, ?_, ?_⟩
  · intro error herror
    rcases normalizeEntries_ends position entries [] with
      ⟨-, result, hresult⟩ | ⟨before, key, value, after, hentries, hbefore, hkey, hend⟩
    · cases hresult.symm.trans herror
    · cases hend.symm.trans herror
      exact ⟨before, key, value, after, hentries, hbefore, hkey, rfl⟩
  · intro result hresult
    refine ⟨normalForm_of_normalizeEntries normalForm_nil hresult, fun place => ?_⟩
    exact normalizeRule_of_canonical (canonical_of_normalizeRule hresult) place
  · intro other same once outcome
    exact compileTable_of_respelled compiler same once position index

/-- A table with an offset that is spelled twice, in two ways. -/
def twiceSpelledTable : Entries :=
  [("end_regex", .text "y"), ("offset_top", .int 1), ("beginRegex", .text "x"), ("offsetTop", .int 2)]

def pairTable : Entries := [("begin_regex", .text "x"), ("endRegex", .text "y")]

def swappedPairTable : Entries := [("end_regex", .text "y"), ("begin_regex", .text "x")]

/-- The offset keeps its first place and takes its last value. -/
theorem normalizeRule_canonical_twice :
    normalizeRule (.map twiceSpelledTable) 3 =
      .ok [("endRegex", .text "y"), ("offsetTop", .int 2), ("beginRegex", .text "x")] ∧
    NormalForm twiceSpelledTable
      [("endRegex", .text "y"), ("offsetTop", .int 2), ("beginRegex", .text "x")] ∧
    (∃ before key value after, [("begin", .text "x"), ("color", .null), ("depth", .null)] =
        before ++ (key, value) :: after ∧
      (∀ k ∈ Entries.keys before, ∃ canonical, Spells k canonical) ∧
      (∀ canonical, ¬Spells key canonical) ∧
      SettingsError.unsupportedKey 3 "color" = .unsupportedKey 3 key) ∧
    Respelled pairTable swappedPairTable ∧ SpelledOnce pairTable ∧
    ∀ outcome, compileTable .plain pairTable 0 1 = .ok outcome ↔
      compileTable .plain swappedPairTable 0 1 = .ok outcome := by
  have hresult : normalizeRule (.map twiceSpelledTable) 3 =
      .ok [("endRegex", .text "y"), ("offsetTop", .int 2), ("beginRegex", .text "x")] := by rfl
  have herror : normalizeRule (.map [("begin", .text "x"), ("color", .null), ("depth", .null)]) 3 =
      .error (.unsupportedKey 3 "color") := by rfl
  have hbegin : Spells "begin_regex" "beginRegex" := by decide +kernel
  have hend : Spells "endRegex" "endRegex" := by decide +kernel
  have hsnake : Spells "end_regex" "endRegex" := by decide +kernel
  have hrespelled : Respelled pairTable swappedPairTable := by
    refine ⟨pairTable.reverse, pairTable.reverse_perm.symm, ?_⟩
    exact .cons ⟨rfl, Or.inr ⟨"endRegex", hend, hsnake⟩⟩ (.cons ⟨rfl, Or.inl rfl⟩ .nil)
  have honce : SpelledOnce pairTable := by
    refine List.pairwise_pair.mpr fun canonical hfirst hsecond => ?_
    have heq : "beginRegex" = "endRegex" := (hbegin.unique hfirst).trans (hsecond.unique hend)
    exact absurd heq (by decide)
  obtain ⟨-, -, hnormal, -⟩ := normalizeRule_canonical .plain twiceSpelledTable 3 0
  obtain ⟨-, hunsupported, -, -⟩ :=
    normalizeRule_canonical .plain [("begin", .text "x"), ("color", .null), ("depth", .null)] 3 0
  obtain ⟨-, -, -, hsame⟩ := normalizeRule_canonical .plain pairTable 0 1
  exact ⟨hresult, (hnormal _ hresult).1, hunsupported _ herror, hrespelled, honce,
    hsame _ hrespelled honce⟩

end LineFold.Settings
