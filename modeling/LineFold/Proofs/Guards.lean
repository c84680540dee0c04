import Mathlib.Init

/-! What success of a sequence of checks says: each of them was passed. What failure says: those before
one of them were passed, and this one was not. -/
namespace LineFold.Guards

variable {ε δ α β : Type} {p : Prop} [Decidable p]

lemma bind_eq_ok {first : Except ε α} {next : α → Except ε β} {b : β} :
    (first >>= next) = .ok b ↔ ∃ a, first = .ok a ∧ next a = .ok b := by
  cases first <;> simp [bind, Except.bind]

lemma mapError_eq_ok {result : Except ε α} {f : ε → δ} {a : α} :
    result.mapError f = .ok a ↔ result = .ok a := by
  constructor
  · intro h
    cases result with
    | error error => cases h
    | ok value =>
      cases h
      rfl
  · rintro rfl
    rfl

/-- A check that refuses where `p` holds. -/
lemma refuse_eq_ok {error : ε} {refused : α → Except ε β} {next : Except ε β} {b : β} :
    (if p then throw error >>= refused else next) = .ok b ↔ ¬p ∧ next = .ok b := by
  by_cases hp : p <;> simp [hp, throw, throwThe, MonadExceptOf.throw, bind, Except.bind]

/-- A check that refuses where `p` does not hold. -/
lemma require_eq_ok {error : ε} {refused : α → Except ε β} {next : Except ε β} {b : β} :
    (if p then next else throw error >>= refused) = .ok b ↔ p ∧ next = .ok b := by
  by_cases hp : p <;> simp [hp, throw, throwThe, MonadExceptOf.throw, bind, Except.bind]

lemma bind_eq_error {first : Except ε α} {next : α → Except ε β} {error : ε} :
    (first >>= next) = .error error ↔
      first = .error error ∨ ∃ a, first = .ok a ∧ next a = .error error := by
  cases first <;> simp [bind, Except.bind]

lemma mapError_eq_error {result : Except ε α} {f : ε → δ} {error : δ} :
    result.mapError f = .error error ↔ ∃ cause, result = .error cause ∧ f cause = error := by
  constructor
  · intro h
    cases result with
    | error cause =>
      cases h
      exact ⟨cause, rfl, rfl⟩
    | ok value => cases h
  · rintro ⟨cause, rfl, rfl⟩
    rfl

lemma refuse_eq_error {refusal error : ε} {refused : α → Except ε β} {next : Except ε β} :
    (if p then throw refusal >>= refused else next) = .error error ↔
      p ∧ refusal = error ∨ ¬p ∧ next = .error error := by
  by_cases hp : p <;> simp [hp, throw, throwThe, MonadExceptOf.throw, bind, Except.bind]

lemma require_eq_error {refusal error : ε} {refused : α → Except ε β} {next : Except ε β} :
    (if p then next else throw refusal >>= refused) = .error error ↔
      p ∧ next = .error error ∨ ¬p ∧ refusal = error := by
  by_cases hp : p <;> simp [hp, throw, throwThe, MonadExceptOf.throw, bind, Except.bind]

end LineFold.Guards
