import LineFold.Proofs.Settings.Normalizing

/-! Checking settings. The check succeeds exactly where the rules can be normalized, the clamp is a
boolean and both limits are positive integers, and normalizing beforehand makes no difference to it. -/
namespace LineFold.Settings
open LineFold.Guards

variable {settings normalized : Settings} {checked : Checked} {name : String} {value : Value} {n : Int}

/-- Whether settings hold what checked settings do. -/
structure Holds (settings : Settings) (checked : Checked) : Prop where
  rules : settings.rules = .list checked.rules
  clamp : settings.clamp = .bool checked.clamp
  fileSize : settings.maxFileSize = .int checked.maxFileSize
  lineLength : settings.maxLineLength = .int checked.maxLineLength

lemma checkInteger_eq_ok_iff : checkInteger name value = .ok n ↔ value = .int n := by
  cases value <;> simp [checkInteger]

lemma checkPositive_eq_ok_iff {done : Unit} : checkPositive name n = .ok done ↔ 0 < n := by
  by_cases h : n ≤ 0
  · simp [checkPositive, h]
  · simp [checkPositive, h]
    omega

lemma check_eq_ok_iff :
    settings.check = .ok checked ↔
      ∃ normalized, settings.normalize = .ok normalized ∧ normalized.Holds checked ∧
        0 < checked.maxFileSize ∧ 0 < checked.maxLineLength := by
  constructor
  · intro h
    rw [check, bind_eq_ok] at h
    obtain ⟨normalized, hnormal, h⟩ := h
    obtain ⟨rules, -, rfl⟩ := canonical_of_normalize hnormal
    cases hclamp : settings.clamp with
    | bool clamp =>
      simp only [hclamp, bind_eq_ok, checkInteger_eq_ok_iff, checkPositive_eq_ok_iff] at h
      obtain ⟨fileSize, hfile, lineLength, hline, _, hfilePos, _, hlinePos, h⟩ := h
      cases h
      exact ⟨_, hnormal, ⟨rfl, hclamp, hfile, hline⟩, hfilePos, hlinePos⟩
    | _ =>
      rw [hclamp] at h
      cases h
  · rintro ⟨normalized, hnormal, holds, hfilePos, hlinePos⟩
    obtain ⟨rules, -, rfl⟩ := canonical_of_normalize hnormal
    obtain ⟨hrules, hclamp, hfile, hline⟩ := holds
    refine bind_eq_ok.mpr ⟨_, hnormal, ?_⟩
    change settings.clamp = _ at hclamp
    simp only [hclamp, bind_eq_ok, checkInteger_eq_ok_iff, checkPositive_eq_ok_iff]
    refine ⟨_, hfile, _, hline, (), hfilePos, (), hlinePos, ?_⟩
    cases hrules
    rfl

/-- Settings and the normalized ones are checked alike. -/
lemma check_of_normalize (h : settings.normalize = .ok normalized) :
    normalized.check = settings.check := by
  have hidem := normalize_idem h
  obtain ⟨rules, -, rfl⟩ := canonical_of_normalize h
  rw [check, check, hidem, h]

lemma check_of_normalize_error {fault : SettingsError} (h : settings.normalize = .error fault) :
    settings.check = .error fault := by
  rw [check, h]
  rfl

lemma validate_eq_error_iff {fault : SettingsError} :
    settings.validate = .error fault ↔ settings.check = .error fault := by
  rw [validate, bind_eq_error]
  constructor
  · rintro (h | ⟨checked, -, h⟩)
    · exact h
    · cases h
  · exact Or.inl

lemma validate_of_check (h : settings.check = .ok checked) : settings.validate = .ok () :=
  bind_eq_ok.mpr ⟨checked, h, rfl⟩

/-- The rules of settings are those of the checked ones. -/
lemma Holds.ruleSet_eq (holds : settings.Holds checked) (compiler : Pattern.Compiler) :
    settings.ruleSet compiler = RuleSet.compile compiler (.list checked.rules) checked.clamp := by
  rw [ruleSet, holds.rules, holds.clamp, Value.isTrue]

/-- What holds of settings that can be used. -/
structure Valid (settings : Settings) : Prop where
  normalized : settings.normalize = .ok settings
  validated : settings.validate = .ok ()
  clamp : ∃ on, settings.clamp = .bool on
  fileSize : ∃ n, settings.maxFileSize = .int n ∧ 0 < n
  lineLength : ∃ n, settings.maxLineLength = .int n ∧ 0 < n
  rules : ∃ rules, settings.rules = .list rules ∧
    ∀ rule ∈ rules, ∃ entries, rule = .map entries ∧ ∀ key ∈ Entries.keys entries, key ∈ ruleKeys

/-- Normalized settings hold what they are checked for. -/
lemma holds_of_check (hnormal : settings.normalize = .ok normalized)
    (hcheck : normalized.check = .ok checked) :
    normalized.Holds checked ∧ 0 < checked.maxFileSize ∧ 0 < checked.maxLineLength := by
  obtain ⟨again, hagain, holds⟩ := check_eq_ok_iff.mp hcheck
  rw [normalize_idem hnormal] at hagain
  cases hagain
  exact holds

lemma valid_of_check (hnormal : settings.normalize = .ok normalized)
    (hcheck : normalized.check = .ok checked) : normalized.Valid := by
  obtain ⟨holds, hfile, hline⟩ := holds_of_check hnormal hcheck
  obtain ⟨rules, canonical, heq⟩ := canonical_of_normalize hnormal
  refine ⟨normalize_idem hnormal, validate_of_check hcheck, ⟨_, holds.clamp⟩,
    ⟨_, holds.fileSize, hfile⟩, ⟨_, holds.lineLength, hline⟩, rules, by rw [heq], ?_⟩
  intro rule hrule
  obtain ⟨entries, rfl, hentries⟩ := canonical rule hrule
  exact ⟨entries, rfl, hentries.isKey⟩

end LineFold.Settings
