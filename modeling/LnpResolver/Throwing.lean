import Mathlib.Tactic.Common

/-!
Code that may throw, as computations in `Except`: a sequence returns exactly when
each of its parts does.
-/

namespace Throwing

universe u v

variable {ε : Type u} {α β : Type v}

theorem ok_bind (value : α) (next : α → Except ε β) : (.ok value >>= next) = next value := rfl

theorem error_bind (exception : ε) (next : α → Except ε β) :
    (.error exception >>= next) = .error exception := rfl

theorem pure_ok (value : α) : (pure value : Except ε α) = .ok value := rfl

theorem bind_ok_iff (action : Except ε α) (next : α → Except ε β) (result : β) :
    (action >>= next) = .ok result ↔ ∃ value, action = .ok value ∧ next value = .ok result := by
  cases action with
  | error exception => simp [error_bind]
  | ok value => simp [ok_bind]

theorem bind_error_iff (action : Except ε α) (next : α → Except ε β) (exception : ε) :
    (action >>= next) = .error exception ↔
      action = .error exception ∨ ∃ value, action = .ok value ∧ next value = .error exception := by
  cases action with
  | error exception => simp [error_bind]
  | ok value => simp [ok_bind]

theorem pure_ok_iff (value result : α) :
    (pure value : Except ε α) = .ok result ↔ value = result := by
  simp [pure_ok]

/-! What holds of every exception thrown. -/

def Throws (throws : ε → Prop) (action : Except ε α) : Prop :=
  ∀ exception, action = .error exception → throws exception

theorem throws_ok (throws : ε → Prop) (value : α) : Throws throws (.ok value) :=
  fun _ thrown => by cases thrown

theorem throws_error {throws : ε → Prop} {exception : ε} (good : throws exception) :
    Throws throws (.error exception : Except ε α) :=
  fun _ thrown => by cases thrown; exact good

theorem throws_bind {throws : ε → Prop} {action : Except ε α} {next : α → Except ε β}
    (first : Throws throws action) (second : ∀ value, Throws throws (next value)) :
    Throws throws (action >>= next) := by
  intro exception thrown
  rcases (bind_error_iff action next exception).mp thrown with early | ⟨value, -, late⟩
  · exact first exception early
  · exact second value exception late

end Throwing
