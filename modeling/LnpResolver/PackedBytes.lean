import Mathlib.Data.List.Basic
import Mathlib.Tactic.Ring

/-!
Packed little-endian records. A record is a byte list; a field is a window of
it, and a field's value is the number its bytes spell. Writing a value that is
too large for its field keeps its low bytes, as a narrowing store does.
-/

namespace PackedBytes

abbrev Bytes := List UInt8

def store : Nat → Nat → Bytes
  | 0, _ => []
  | width + 1, value => UInt8.ofNat value :: store width (value / 256)

def load : Bytes → Nat
  | [] => 0
  | byte :: rest => byte.toNat + 256 * load rest

def window (offset width : Nat) (record : Bytes) : Bytes :=
  (record.drop offset).take width

@[simp] theorem store_length (width value : Nat) : (store width value).length = width := by
  induction width generalizing value with
  | zero => rfl
  | succ width ih => simp [store, ih]

theorem load_store (width value : Nat) : load (store width value) = value % 256 ^ width := by
  induction width generalizing value with
  | zero => simp [store, load, Nat.mod_one]
  | succ width ih =>
      have low : (UInt8.ofNat value).toNat = value % 256 := by simp
      rw [store, load, ih, low, pow_succ', Nat.mod_mul]

/-- A field reads back what was stored exactly when the value fits its width. -/
theorem load_store_fits (width value : Nat) (fits : value < 256 ^ width) :
    load (store width value) = value := by
  rw [load_store, Nat.mod_eq_of_lt fits]

theorem load_lt (record : Bytes) : load record < 256 ^ record.length := by
  induction record with
  | nil => simp [load]
  | cons byte rest ih =>
      have small : byte.toNat < 256 := byte.toNat_lt
      rw [load, List.length_cons, pow_succ]
      omega

theorem store_load (record : Bytes) : store record.length (load record) = record := by
  induction record with
  | nil => rfl
  | cons byte rest ih =>
      have small : byte.toNat < 256 := byte.toNat_lt
      have high : (byte.toNat + 256 * load rest) / 256 = load rest := by omega
      have low : UInt8.ofNat (byte.toNat + 256 * load rest) = byte := by
        apply UInt8.toNat_inj.mp
        simp only [UInt8.toNat_ofNat']
        omega
      rw [List.length_cons, load, store, high, low, ih]

theorem window_length (offset width : Nat) (record : Bytes)
    (inside : offset + width ≤ record.length) : (window offset width record).length = width := by
  simp only [window, List.length_take, List.length_drop]
  omega

/-- The window over the middle part of a concatenation is that part. -/
theorem window_middle (before field after : Bytes) :
    window before.length field.length (before ++ (field ++ after)) = field := by
  simp [window]

-- Bytes behind the window, such as the zero padding of a fixed buffer, do not matter.
theorem window_pad (offset width : Nat) (record padding : Bytes)
    (inside : offset + width ≤ record.length) :
    window offset width (record ++ padding) = window offset width record := by
  have shorter : width ≤ (record.drop offset).length := by
    simp only [List.length_drop]
    omega
  have reached : offset ≤ record.length := by omega
  rw [window, List.drop_append_of_le_length reached, List.take_append_of_le_length shorter,
    window]

end PackedBytes
