import LineFold.Settings.Load
import LineFold.Proofs.Settings.Checking

/-! Building settings. What is built comes field by field from the overrides and the loaded settings, it is
normalized and valid, and building fails on loaded settings exactly where the merged ones are refused. -/
namespace LineFold.Settings
open LineFold.Guards

/-- The names of settings. -/
def fieldNames : List String := ["rules", "clamp", "max_file_size", "max_line_length"]

/-- The value of a setting: its override or, where this is null or absent, the loaded value. -/
def chosen (overrides : Entries) (name : String) (loaded : Value) : Value :=
  if (overrides.find name).isNull then loaded else overrides.find name

/-- The loaded settings with the overrides over them. -/
def merged (loaded : Settings) (overrides : Entries) : Settings where
  rules := chosen overrides "rules" loaded.rules
  clamp := chosen overrides "clamp" loaded.clamp
  maxFileSize := chosen overrides "max_file_size" loaded.maxFileSize
  maxLineLength := chosen overrides "max_line_length" loaded.maxLineLength

variable {host : Host} {start : Path} {overrides : Entries} {loaded settings : Settings}
  {checked : Checked} {key name : String} {value : Value}

section Merging

lemma chosen_cons (key : String) (value : Value) (rest : Entries) (name : String) (loaded : Value) :
    chosen ((key, value) :: rest) name loaded =
      if name = key then (if value.isNull then loaded else value) else chosen rest name loaded := by
  by_cases h : name = key
  · simp [chosen, Entries.find, Entries.get?, h]
  · rw [if_neg h, chosen, chosen, Entries.find, Entries.get?, List.lookup_cons,
      beq_eq_false_iff_ne.mpr h]
    rfl

lemma chosen_of_absent (absent : name ∉ overrides.keys) (loaded : Value) :
    chosen overrides name loaded = loaded := by
  have hlookup : overrides.lookup name = none := by
    rw [List.lookup_eq_none_iff]
    intro entry hentry
    simp only [bne_iff_ne, ne_eq]
    rintro rfl
    exact absent (List.mem_map_of_mem hentry)
  simp [chosen, Entries.find, Entries.get?, hlookup, Value.isNull]

lemma merged_cons_null (null : value.isNull = true) (absent : key ∉ overrides.keys) :
    merged loaded ((key, value) :: overrides) = merged loaded overrides := by
  have hchosen (name : String) (loaded : Value) :
      chosen ((key, value) :: overrides) name loaded = chosen overrides name loaded := by
    rw [chosen_cons, if_pos null]
    split
    case isTrue h => rw [h, chosen_of_absent absent]
    case isFalse => rfl
  simp only [merged, hchosen]

lemma merged_set? (loaded : Settings) (absent : key ∉ overrides.keys) (notNull : value.isNull = false)
    (known : key ∈ fieldNames) :
    ∃ updated, loaded.set? key value = some updated ∧
      merged updated overrides = merged loaded ((key, value) :: overrides) := by
  simp only [fieldNames, List.mem_cons, List.not_mem_nil, or_false] at known
  rcases known with rfl | rfl | rfl | rfl
  all_goals
    refine ⟨_, rfl, ?_⟩
    simp [merged, chosen_cons, chosen_of_absent absent, notNull]

/-- Overriding with known names, each of them once, merges the overrides into the settings. -/
lemma override_eq_merged (known : ∀ key ∈ overrides.keys, key ∈ fieldNames)
    (distinct : overrides.keys.Nodup) (loaded : Settings) :
    loaded.override overrides = .ok (merged loaded overrides) := by
  induction overrides generalizing loaded with
  | nil => rfl
  | cons entry rest ih =>
    obtain ⟨key, value⟩ := entry
    obtain ⟨absent, distinctRest⟩ := List.nodup_cons.mp distinct
    obtain ⟨knownKey, knownRest⟩ := List.forall_mem_cons.mp known
    cases null : value.isNull with
    | true =>
      rw [merged_cons_null null absent, ← ih knownRest distinctRest, override, override,
        List.filter_cons_of_neg (by simp [null])]
    | false =>
      obtain ⟨updated, hset, hmerged⟩ := merged_set? loaded absent null knownKey
      rw [override, List.filter_cons_of_pos (by simp [null]), setAll, hset, ← hmerged,
        ← ih knownRest distinctRest]
      rfl

end Merging

section Build

/-- Building normalizes and checks the merged settings. -/
lemma build_of_load (known : ∀ key ∈ overrides.keys, key ∈ fieldNames)
    (distinct : overrides.keys.Nodup) (hload : load host start = .ok loaded) :
    build host start overrides = do
      let settings ← (merged loaded overrides).normalize.mapError fun e => .load (.settings e)
      let checked ← settings.check.mapError fun e => .load (.settings e)
      return (settings, checked) := by
  rw [build, hload]
  change ((loaded.override overrides).mapError _ >>= _) = _
  rw [override_eq_merged known distinct]
  rfl

lemma load_of_build (h : build host start overrides = .ok (settings, checked)) :
    ∃ loaded, load host start = .ok loaded := by
  simp only [build, bind_eq_ok, mapError_eq_ok] at h
  obtain ⟨loaded, hload, -⟩ := h
  exact ⟨loaded, hload⟩

/-- What is built holds what it was checked for. -/
lemma holds_of_build (h : build host start overrides = .ok (settings, checked)) :
    settings.Holds checked ∧ 0 < checked.maxFileSize ∧ 0 < checked.maxLineLength := by
  simp only [build, bind_eq_ok, mapError_eq_ok] at h
  obtain ⟨loaded, -, overridden, -, normalized, hnormal, found, hcheck, h⟩ := h
  cases h
  exact holds_of_check hnormal hcheck

lemma build_eq_ok_iff (known : ∀ key ∈ overrides.keys, key ∈ fieldNames)
    (distinct : overrides.keys.Nodup) :
    build host start overrides = .ok (settings, checked) ↔
      ∃ loaded, load host start = .ok loaded ∧
        (merged loaded overrides).normalize = .ok settings ∧ settings.check = .ok checked := by
  constructor
  · intro h
    obtain ⟨loaded, hload⟩ := load_of_build h
    simp only [build_of_load known distinct hload, bind_eq_ok, mapError_eq_ok] at h
    obtain ⟨normalized, hnormal, found, hcheck, h⟩ := h
    cases h
    exact ⟨loaded, hload, hnormal, hcheck⟩
  · rintro ⟨loaded, hload, hnormal, hcheck⟩
    simp only [build_of_load known distinct hload, bind_eq_ok, mapError_eq_ok]
    exact ⟨settings, hnormal, checked, hcheck, rfl⟩

/-- Where settings are loaded, building fails with the error of checking the merged ones. -/
lemma build_eq_error_iff (known : ∀ key ∈ overrides.keys, key ∈ fieldNames)
    (distinct : overrides.keys.Nodup) (hload : load host start = .ok loaded) {error : BuildError} :
    build host start overrides = .error error ↔
      ∃ fault, (merged loaded overrides).check = .error fault ∧ error = .load (.settings fault) := by
  simp only [build_of_load known distinct hload, bind_eq_error, mapError_eq_error, mapError_eq_ok]
  constructor
  · rintro (⟨fault, hnormal, rfl⟩ | ⟨settings, hnormal, ⟨fault, hcheck, rfl⟩ | ⟨checked, -, h⟩⟩)
    · exact ⟨fault, check_of_normalize_error hnormal, rfl⟩
    · exact ⟨fault, check_of_normalize hnormal ▸ hcheck, rfl⟩
    · cases h
  · rintro ⟨fault, hcheck, rfl⟩
    cases hnormal : (merged loaded overrides).normalize with
    | error other =>
      rw [check_of_normalize_error hnormal] at hcheck
      cases hcheck
      exact Or.inl ⟨fault, rfl, rfl⟩
    | ok settings =>
      exact Or.inr ⟨settings, rfl, Or.inl ⟨fault, (check_of_normalize hnormal).trans hcheck, rfl⟩⟩

end Build

/-- Whether each field is the override or else the loaded field, the rules after normalizing. -/
structure ComesFrom (loaded : Settings) (overrides : Entries) (settings : Settings) : Prop where
  clamp : settings.clamp = chosen overrides "clamp" loaded.clamp
  fileSize : settings.maxFileSize = chosen overrides "max_file_size" loaded.maxFileSize
  lineLength : settings.maxLineLength = chosen overrides "max_line_length" loaded.maxLineLength
  rules : normalize { settings with rules := chosen overrides "rules" loaded.rules } = .ok settings

lemma comesFrom_of_normalize (h : (merged loaded overrides).normalize = .ok settings) :
    ComesFrom loaded overrides settings := by
  obtain ⟨rules, -, rfl⟩ := canonical_of_normalize h
  exact ⟨rfl, rfl, rfl, h⟩

/-- What is built is valid and has each field from the overrides or the loaded settings. Once settings
are loaded, nothing is built exactly where the merged settings are not valid, with the same error. -/
theorem build_valid (host : Host) (start : Path) (overrides : Entries)
    (known : ∀ key ∈ overrides.keys, key ∈ fieldNames) (distinct : overrides.keys.Nodup) :
    (∀ settings checked, build host start overrides = .ok (settings, checked) →
      settings.Valid ∧ ∃ loaded, load host start = .ok loaded ∧ ComesFrom loaded overrides settings) ∧
    ∀ loaded, load host start = .ok loaded → ∀ error, build host start overrides = .error error ↔
      ∃ fault, (merged loaded overrides).validate = .error fault ∧ error = .load (.settings fault) := by
  constructor
  · intro settings checked h
    obtain ⟨loaded, hload, hnormal, hcheck⟩ := (build_eq_ok_iff known distinct).mp h
    exact ⟨valid_of_check hnormal hcheck, loaded, hload, comesFrom_of_normalize hnormal⟩
  · intro loaded hload error
    simp only [validate_eq_error_iff]
    exact build_eq_error_iff known distinct hload

/-- A host without files. -/
def bareHost : Host where
  disk := { entries := [] }
  current := []
  environment := []
  homes := []

lemma load_bareHost : load bareHost ⟨"/", []⟩ = .ok {} := rfl

theorem build_valid_table :
    let table : Value := .map [("begin_regex", .text "<"), ("endRegex", .text ">"), ("beginRegex", .text "[")]
    let overrides : Entries := [("rules", table), ("clamp", .null), ("max_line_length", .int 80)]
    let refused : Entries := [("max_file_size", .int 0), ("clamp", .text "no")]
    (∀ key ∈ overrides.keys ++ refused.keys, key ∈ fieldNames) ∧
      overrides.keys.Nodup ∧ refused.keys.Nodup ∧
      (∃ settings checked, build bareHost ⟨"/", []⟩ overrides = .ok (settings, checked) ∧
        settings.Valid ∧ ComesFrom {} overrides settings ∧
        settings.rules = .list [.map [("beginRegex", .text "["), ("endRegex", .text ">")]]) ∧
      build bareHost ⟨"/", []⟩ refused = .error (.load (.settings .clampNotBoolean)) := by
  intro table overrides refused
  have known : ∀ key ∈ overrides.keys, key ∈ fieldNames := by decide
  have knownRefused : ∀ key ∈ refused.keys, key ∈ fieldNames := by decide
  obtain ⟨valid, -⟩ := build_valid bareHost ⟨"/", []⟩ overrides known (by decide)
  obtain ⟨-, refuses⟩ := build_valid bareHost ⟨"/", []⟩ refused knownRefused (by decide)
  refine ⟨by decide, by decide, by decide, ⟨_, _, rfl, ?_, ?_, rfl⟩, ?_⟩
  · exact (valid _ _ rfl).1
  · obtain ⟨loaded, hload, comes⟩ := (valid _ _ rfl).2
    rw [load_bareHost] at hload
    cases hload
    exact comes
  · exact (refuses {} load_bareHost _).mpr ⟨.clampNotBoolean, rfl, rfl⟩

end LineFold.Settings
