import LnpResolver.DriverConfig

/-!
The getters of drivers/JsonHelpers and libs/jsonxx. The two getters for strings take
one quote off each end of the text. They look for the second one at the last byte of
what the first step has left, so they throw when that is nothing, and the emptiness
checks of their callers are not reached.
-/

namespace LnpResolver.JsonGetters

open PackedBytes RequestWire JsonItems DriverConfig

def unquoted (text : Bytes) : Bytes :=
  let text := if text.head? = some quote then text.tail else text
  if text.getLast? = some quote then text.dropLast else text

/-- What both getters do with the text. -/
theorem eraseQuotes_eq (text : Bytes) :
    eraseQuotes text =
      if text = [] ∨ text = [quote] then .error compareOutOfRange else .ok (unquoted text) := by
  cases text with
  | nil => rfl
  | cons first rest =>
      by_cases quoted : first = quote
      · subst quoted
        cases rest with
        | nil => rfl
        | cons second more =>
            simp only [eraseQuotes, unquoted, List.head?_cons, if_true, List.tail_cons,
              List.isEmpty_cons, Bool.false_eq_true, if_false, reduceCtorEq, List.cons.injEq,
              and_false, or_self]
            split <;> rfl
      · simp only [eraseQuotes, unquoted, List.head?_cons, Option.some.injEq, quoted, if_false,
          List.isEmpty_cons, Bool.false_eq_true, reduceCtorEq, List.cons.injEq, false_and, or_self]
        split <;> rfl

theorem eraseQuotes_readable {text : Bytes} (filled : text ≠ []) (more : text ≠ [quote]) :
    eraseQuotes text = .ok (unquoted text) := by
  rw [eraseQuotes_eq, if_neg (by simp [filled, more])]

/-- A text without quotes at its ends stays as it is. -/
theorem unquoted_plain {text : Bytes} (first : text.head? ≠ some quote)
    (last : text.getLast? ≠ some quote) : unquoted text = text := by
  simp only [unquoted, if_neg first, if_neg last]

structure Getters (text : Bytes) : Prop where
  item : itemString (.string text) = .ok (unquoted text)
  helper : getJsonString (.string text) = .ok (unquoted text)
  agree : itemString (.string text) = getJsonString (.string text)
  checked : ∀ invalid, (itemString (.string text) >>= filled invalid) =
    if unquoted text = [] then .error invalid else .ok (unquoted text)

theorem getters_iff (text : Bytes) : Getters text ↔ text ≠ [] ∧ text ≠ [quote] := by
  constructor
  · rintro ⟨item, -⟩
    rw [itemString, eraseQuotes_eq] at item
    split at item
    · cases item
    · rename_i readable
      exact not_or.mp readable
  · rintro ⟨filled, more⟩
    have read := eraseQuotes_readable filled more
    refine ⟨read, read, rfl, ?_⟩
    intro invalid
    rw [itemString, read]
    simp [DriverConfig.filled, Throwing.ok_bind]

/-- An empty host in the parameters of a driver is not reported as one. -/
theorem empty_string_unchecked :
    ¬ Getters [] ∧ (getJsonHost (.object [(bytesOf "host", .string [])]) >>=
      filled (bytesOf "host value is invalid!")) = .error compareOutOfRange := by
  constructor
  · rintro ⟨item, -⟩
    cases item
  · rfl

/-! Integers: the getters narrow an int by static_cast. -/

theorem toNat_uint32 (value : Int) : ((UInt32.ofInt value).toNat : Int) = value % 4294967296 := by
  simp only [UInt32.ofInt, UInt32.toNat_ofNat']
  omega

theorem toNat_uint16 (value : Int) : ((UInt16.ofInt value).toNat : Int) = value % 65536 := by
  simp only [UInt16.ofInt, UInt16.toNat_ofNat']
  omega

/-! The getters of drivers/JsonHelpers for a member of an object. -/

theorem getJsonValueByKey_ok_iff {α : Type} (getJsonValue : Json → Except Bytes α)
    (members : List (Bytes × Json)) (key : String) (value : α) :
    getJsonValueByKey getJsonValue (.object members) key = .ok value ↔
      ∃ item, getObjectItem (.object members) (bytesOf key) = some item ∧
        getJsonValue item = .ok value := by
  cases found : getObjectItem (.object members) (bytesOf key) <;>
    simp [getJsonValueByKey, found]

theorem getJsonInt_ok_iff (item : Json) (value : Int) :
    getJsonInt item = .ok value ↔ ∃ valuedouble, item = .number value valuedouble := by
  cases item <;> simp [getJsonInt, eq_comm]

/-- A string that is longer than a single quote, as far as cJSON holds it. -/
def HasText (members : List (Bytes × Json)) (name : String) (text : Bytes) : Prop :=
  getObjectItem (.object members) (bytesOf name) = some (.string text) ∧ text ≠ [] ∧ text ≠ [quote]

theorem hasText_iff (members : List (Bytes × Json)) (name : String) (read : Bytes) :
    getJsonValueByKey getJsonString (.object members) name = .ok read ↔
      ∃ text, HasText members name text ∧ read = unquoted text := by
  rw [getJsonValueByKey_ok_iff]
  constructor
  · rintro ⟨item, found, string⟩
    cases item with
    | string text =>
        rw [getJsonString, eraseQuotes_eq] at string
        split at string
        · cases string
        · rename_i readable
          exact ⟨text, ⟨found, not_or.mp readable⟩, (Except.ok.inj string).symm⟩
    | null | bool | number | array | object => cases string
  · rintro ⟨text, ⟨found, filled, more⟩, rfl⟩
    exact ⟨_, found, eraseQuotes_readable filled more⟩

end LnpResolver.JsonGetters
