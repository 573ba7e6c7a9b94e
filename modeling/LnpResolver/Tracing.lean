import LnpResolver.Throwing

/-!
Code that may throw and records events on its way. What has been recorded stays
recorded when the code throws, and when the exception is caught.
-/

namespace Tracing

open Throwing

universe u

variable {κ ε δ α β : Type u}

structure Traced (κ ε α : Type u) where
  events : List κ
  outcome : Except ε α

instance : Monad (Traced κ ε) where
  pure value := ⟨[], .ok value⟩
  bind block next :=
    match block.outcome with
    | .ok value => ⟨block.events ++ (next value).events, (next value).outcome⟩
    | .error exception => ⟨block.events, .error exception⟩

def record (event : κ) : Traced κ ε PUnit := ⟨[event], .ok .unit⟩

/-- Code that records nothing; it is lifted where traced code calls it. -/
def attempt (action : Except ε α) : Traced κ ε α := ⟨[], action⟩

instance : MonadLift (Except ε) (Traced κ ε) := ⟨attempt⟩

def throwing (event : κ) (exception : ε) : Traced κ ε α := ⟨[event], .error exception⟩

def catching (block : Traced κ ε α) (handler : ε → Traced κ δ α) : Traced κ δ α :=
  match block.outcome with
  | .ok value => ⟨block.events, .ok value⟩
  | .error exception =>
      ⟨block.events ++ (handler exception).events, (handler exception).outcome⟩

/-! Without its record, traced code is code that may throw. -/

@[simp] theorem outcome_pure (value : α) : (pure value : Traced κ ε α).outcome = .ok value := rfl

@[simp] theorem outcome_attempt (action : Except ε α) :
    (attempt action : Traced κ ε α).outcome = action := rfl

@[simp] theorem liftM_eq_attempt (action : Except ε α) :
    (liftM action : Traced κ ε α) = attempt action := rfl

@[simp] theorem outcome_throwing (event : κ) (exception : ε) :
    (throwing event exception : Traced κ ε α).outcome = .error exception := rfl

@[simp] theorem outcome_bind (block : Traced κ ε α) (next : α → Traced κ ε β) :
    (block >>= next).outcome = block.outcome >>= fun value => (next value).outcome := by
  obtain ⟨events, outcome⟩ := block
  cases outcome <;> rfl

theorem outcome_catching (block : Traced κ ε α) (handler : ε → Traced κ δ α) :
    (catching block handler).outcome =
      match block.outcome with
      | .ok value => .ok value
      | .error exception => (handler exception).outcome := by
  obtain ⟨events, outcome⟩ := block
  cases outcome <;> rfl

/-! What holds of everything recorded. -/

def Records (holds : κ → Prop) (block : Traced κ ε α) : Prop := ∀ event ∈ block.events, holds event

section Rules

variable {holds : κ → Prop}

theorem records_pure (value : α) : Records holds (pure value : Traced κ ε α) :=
  fun _ member => absurd member List.not_mem_nil

theorem records_attempt (action : Except ε α) : Records holds (attempt action : Traced κ ε α) :=
  fun _ member => absurd member List.not_mem_nil

theorem records_throwing_iff (event : κ) (exception : ε) :
    Records holds (throwing event exception : Traced κ ε α) ↔ holds event := by
  simp [Records, throwing]

theorem records_bind_iff (block : Traced κ ε α) (next : α → Traced κ ε β) :
    Records holds (block >>= next) ↔ Records holds block ∧
      ∀ value, block.outcome = .ok value → Records holds (next value) := by
  obtain ⟨events, outcome⟩ := block
  cases outcome with
  | ok value =>
      have recorded : ((⟨events, .ok value⟩ : Traced κ ε α) >>= next).events =
          events ++ (next value).events := rfl
      simp [Records, recorded, or_imp, forall_and]
  | error exception =>
      have recorded : ((⟨events, .error exception⟩ : Traced κ ε α) >>= next).events = events := rfl
      simp [Records, recorded]

theorem records_catching_iff (block : Traced κ ε α) (handler : ε → Traced κ δ α) :
    Records holds (catching block handler) ↔ Records holds block ∧
      ∀ exception, block.outcome = .error exception → Records holds (handler exception) := by
  obtain ⟨events, outcome⟩ := block
  cases outcome with
  | ok value => simp [Records, catching]
  | error exception => simp [Records, catching, or_imp, forall_and]

end Rules

/-! The same together with what holds of an exception thrown. -/

structure Keeps (holds : κ → Prop) (throws : ε → Prop) (block : Traced κ ε α) : Prop where
  records : Records holds block
  exceptions : Throws throws block.outcome

section Rules

variable {holds : κ → Prop} {throws : ε → Prop}

theorem keeps_pure (value : α) : Keeps holds throws (pure value : Traced κ ε α) :=
  ⟨records_pure value, throws_ok throws value⟩

theorem keeps_record {event : κ} (good : holds event) :
    Keeps holds throws (record event : Traced κ ε PUnit) :=
  ⟨fun _ member => List.mem_singleton.mp member ▸ good, throws_ok throws PUnit.unit⟩

theorem keeps_attempt {action : Except ε α} (safe : Throws throws action) :
    Keeps holds throws (attempt action) :=
  ⟨records_attempt action, safe⟩

theorem keeps_throwing {event : κ} {exception : ε} (good : holds event) (safe : throws exception) :
    Keeps holds throws (throwing event exception : Traced κ ε α) :=
  ⟨(records_throwing_iff event exception).mpr good, throws_error safe⟩

theorem keeps_bind {block : Traced κ ε α} {next : α → Traced κ ε β}
    (first : Keeps holds throws block) (second : ∀ value, Keeps holds throws (next value)) :
    Keeps holds throws (block >>= next) := by
  constructor
  · rw [records_bind_iff]
    exact ⟨first.records, fun value _ => (second value).records⟩
  · rw [outcome_bind]
    exact throws_bind first.exceptions fun value => (second value).exceptions

end Rules

end Tracing
