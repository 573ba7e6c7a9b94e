import LnpResolver.RecordedAccess

/-!
Programs whose accesses are recorded each with the size of the array that it goes to,
and those of them that may fail.
-/

namespace BoundedAccess

open RecordedAccess

structure Access where
  index : Nat
  size : Nat
  deriving DecidableEq, Repr

def Access.Inside (access : Access) : Prop := access.index < access.size

abbrev Touching := Recording Access

def touch (index size : Nat) : Touching Unit := record [⟨index, size⟩]

/-- Accesses to the indices from one on. -/
def touchRange (index count size : Nat) : Touching Unit :=
  record ((List.range' index count).map fun index => ⟨index, size⟩)

theorem yields_touch {index size : Nat} (inside : index < size) :
    Yields Access.Inside (touch index size) () :=
  yields_record fun _ member => List.mem_singleton.mp member ▸ inside

theorem yields_touchRange {index count size : Nat} (inside : index + count ≤ size) :
    Yields Access.Inside (touchRange index count size) () := by
  refine yields_record fun access member => ?_
  obtain ⟨found, range, rfl⟩ := List.mem_map.mp member
  exact Nat.lt_of_lt_of_le (List.mem_range'_1.mp range).2 inside

/-! Programs that may fail. -/

/-- The program ends with a value of which the postcondition holds, or fails for the
reason. None of its accesses lies outside its array. -/
def Delivers {α : Type} (program : OptionT Touching α) (post : α → Prop) (reason : Prop) : Prop :=
  ∃ outcome, Yields Access.Inside program.run outcome ∧
    match outcome with
    | some value => post value
    | none => reason

section Delivery

variable {α β : Type} {reason : Prop}

theorem delivers_pure {post : α → Prop} {value : α} (holds : post value) :
    Delivers (pure value) post reason :=
  ⟨some value, yields_pure _, holds⟩

theorem delivers_failure {post : α → Prop} (holds : reason) :
    Delivers (failure : OptionT Touching α) post reason :=
  ⟨none, yields_pure none, holds⟩

theorem delivers_lift {post : α → Prop} {program : Touching α} {value : α}
    (yields : Yields Access.Inside program value) (holds : post value) :
    Delivers (OptionT.lift program) post reason :=
  ⟨some value, yields_bind yields (yields_pure _), holds⟩

theorem delivers_bind {post : β → Prop} {middle : α → Prop} {program : OptionT Touching α}
    {next : α → OptionT Touching β} (first : Delivers program middle reason)
    (second : ∀ value, middle value → Delivers (next value) post reason) :
    Delivers (program >>= next) post reason := by
  obtain ⟨outcome, yields, ends⟩ := first
  rw [Delivers, OptionT.run_bind, Option.elimM]
  cases outcome with
  | none => exact ⟨none, yields_bind yields (yields_pure none), ends⟩
  | some value =>
      obtain ⟨last, rest, holds⟩ := second value ends
      exact ⟨last, yields_bind yields rest, holds⟩

theorem delivers_weaken {post weaker : α → Prop} {other : Prop} {program : OptionT Touching α}
    (delivers : Delivers program post reason) (implied : ∀ value, post value → weaker value)
    (because : reason → other) : Delivers program weaker other := by
  obtain ⟨outcome, yields, ends⟩ := delivers
  refine ⟨outcome, yields, ?_⟩
  cases outcome with
  | none => exact because ends
  | some value => exact implied value ends

end Delivery

end BoundedAccess
