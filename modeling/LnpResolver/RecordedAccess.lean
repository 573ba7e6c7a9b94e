import LnpResolver.PackedBytes

/-!
Programs whose accesses to arrays are recorded. A program yields a result if it ends
with it and all of its accesses are inside, whatever that means for an access. One that
reads a byte array learns its bytes through `fetch` only, so that its record has every
index it depends on. A store outside the array changes no byte of it, and is recorded
all the same.
-/

namespace RecordedAccess

open PackedBytes

abbrev Recording (A : Type) := StateM (List A)

section Programs

variable {A α β : Type}

def record (made : List A) : Recording A Unit := modify (· ++ made)

def accesses (program : Recording A α) : List A := (program.run []).2

def result (program : Recording A α) : α := (program.run []).1

def Yields (inside : A → Prop) (program : Recording A α) (value : α) : Prop :=
  ∀ log, (program.run log).1 = value ∧
    ((∀ access ∈ log, inside access) → ∀ access ∈ (program.run log).2, inside access)

variable {inside : A → Prop}

theorem yields_pure (value : α) : Yields inside (pure value) value := fun _ => ⟨rfl, id⟩

theorem yields_record {made : List A} (keeps : ∀ access ∈ made, inside access) :
    Yields inside (record made) () := by
  intro log
  refine ⟨rfl, ?_⟩
  intro before access member
  have recorded : access ∈ log ++ made := member
  rcases List.mem_append.mp recorded with old | new
  · exact before access old
  · exact keeps access new

theorem yields_bind {program : Recording A α} {next : α → Recording A β} {middle : α} {value : β}
    (first : Yields inside program middle) (second : Yields inside (next middle) value) :
    Yields inside (program >>= next) value := by
  intro log
  have split : (program >>= next).run log =
      (next (program.run log).1).run (program.run log).2 := rfl
  rw [split, (first log).1]
  exact ⟨(second _).1, fun before => (second _).2 ((first log).2 before)⟩

theorem yields_then {program : Recording A Unit} {next : Recording A β} {value : β}
    (first : Yields inside program ()) (second : Yields inside next value) :
    Yields inside (do program; next) value :=
  yields_bind first second

theorem yields_ite {condition : Prop} [Decidable condition] {program other : Recording A α}
    {value alternative : α} (holds : condition → Yields inside program value)
    (fails : ¬ condition → Yields inside other alternative) :
    Yields inside (if condition then program else other)
      (if condition then value else alternative) := by
  split
  · rename_i truth
    exact holds truth
  · rename_i falsity
    exact fails falsity

theorem yields_inside {program : Recording A α} {value : α} (yields : Yields inside program value) :
    ∀ access ∈ accesses program, inside access :=
  (yields []).2 (by simp)

theorem yields_result {program : Recording A α} {value : α} (yields : Yields inside program value) :
    result program = value :=
  (yields []).1

end Programs

/-! Reading. -/

abbrev Reading := Recording Nat

def fetch (array : Bytes) (offset width : Nat) : Reading Bytes := do
  record (List.range' offset width)
  return window offset width array

theorem yields_fetch {bound : Nat} (array : Bytes) (offset width : Nat)
    (within : offset + width ≤ bound) :
    Yields (· < bound) (fetch array offset width) (window offset width array) := by
  refine yields_then (yields_record fun index member => ?_) (yields_pure _)
  have range := List.mem_range'_1.mp member
  omega

/-! Storing. -/

structure Recorded where
  data : Bytes
  stored : List Nat
  deriving DecidableEq, Repr

def storeByte (index : Nat) (byte : UInt8) (array : Recorded) : Recorded :=
  ⟨array.data.set index byte, array.stored ++ [index]⟩

def storeBytes (offset : Nat) : Bytes → Recorded → Recorded
  | [], array => array
  | byte :: rest, array => storeBytes (offset + 1) rest (storeByte offset byte array)

theorem storeBytes_stored (offset : Nat) (bytes : Bytes) (array : Recorded) :
    (storeBytes offset bytes array).stored = array.stored ++ List.range' offset bytes.length := by
  induction bytes generalizing offset array with
  | nil => simp [storeBytes]
  | cons byte rest ih => simp [storeBytes, ih, storeByte, List.range'_succ]

theorem storeBytes_length (offset : Nat) (bytes : Bytes) (array : Recorded) :
    (storeBytes offset bytes array).data.length = array.data.length := by
  induction bytes generalizing offset array with
  | nil => rfl
  | cons byte rest ih => rw [storeBytes, ih, storeByte, List.length_set]

theorem storeBytes_middle (front old back : Bytes) (stored : List Nat) (bytes : Bytes)
    (size : old.length = bytes.length) :
    (storeBytes front.length bytes ⟨front ++ (old ++ back), stored⟩).data =
      front ++ (bytes ++ back) := by
  induction bytes generalizing front old stored with
  | nil =>
      rw [List.length_eq_zero_iff.mp size]
      rfl
  | cons byte rest ih =>
      obtain ⟨first, old, rfl⟩ := List.exists_cons_of_length_eq_add_one size
      have here : (front ++ (first :: old ++ back)).set front.length byte =
          front ++ [byte] ++ (old ++ back) := by
        simp
      have next : front.length + 1 = (front ++ [byte]).length := by simp
      rw [storeBytes, storeByte, here, next, ih _ old _ (Nat.succ.inj size)]
      simp

/-- Storing to the front of an array keeps the rest of it. -/
theorem storeBytes_front (bytes : Bytes) (array : Recorded) (fits : bytes.length ≤ array.data.length) :
    (storeBytes 0 bytes array).data = bytes ++ array.data.drop bytes.length := by
  have size : (array.data.take bytes.length).length = bytes.length := by
    rw [List.length_take]
    omega
  have stored := storeBytes_middle [] (array.data.take bytes.length)
    (array.data.drop bytes.length) array.stored bytes size
  rw [List.take_append_drop] at stored
  exact stored

end RecordedAccess
