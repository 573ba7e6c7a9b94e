import Mathlib.Data.List.Basic
import LnpResolver.PackedBytes

/-!
Formats of the printf family with the conversions %d, %s, %zu and %%. A text with
any other conversion is not read: it asks for arguments of other kinds, or its
meaning is undefined. The same holds of a text that ends inside a conversion.
-/

namespace PrintfFormats

open PackedBytes

inductive Kind where
  | int | size | str
  deriving DecidableEq, Repr

inductive Arg where
  | int (value : Int)
  | size (value : Nat)
  | str (text : Bytes)
  deriving DecidableEq, Repr

def Arg.kind : Arg → Kind
  | .int _ => .int
  | .size _ => .size
  | .str _ => .str

inductive Directive where
  | byte (value : UInt8)
  | conversion (kind : Kind)
  deriving DecidableEq, Repr

def Directive.kind : Directive → Option Kind
  | .byte _ => none
  | .conversion kind => some kind

/-- Where in a format its reader is: outside of a conversion, behind `%`, behind `%z`. -/
inductive State where
  | text | percent | size

def directives : State → Bytes → Option (List Directive)
  | .text, [] => some []
  | .percent, [] | .size, [] => none
  | .text, byte :: rest =>
      if byte = 37 then directives .percent rest
      else (directives .text rest).map (.byte byte :: ·)
  | .percent, byte :: rest =>
      if byte = 37 then (directives .text rest).map (.byte 37 :: ·)
      else if byte = 100 then (directives .text rest).map (.conversion .int :: ·)
      else if byte = 115 then (directives .text rest).map (.conversion .str :: ·)
      else if byte = 122 then directives .size rest
      else none
  | .size, byte :: rest =>
      if byte = 117 then (directives .text rest).map (.conversion .size :: ·) else none

/-- The kinds of the arguments that a format asks for. -/
def demands (fmt : Bytes) : Option (List Kind) :=
  (directives .text fmt).map fun list => list.filterMap Directive.kind

/-- The arguments match the format in number, type and width. -/
def Conforms (fmt : Bytes) (args : List Arg) : Prop := demands fmt = some (args.map Arg.kind)

instance (fmt : Bytes) (args : List Arg) : Decidable (Conforms fmt args) :=
  inferInstanceAs (Decidable (_ = _))

def numeral (value : Int) : Bytes := (toString value).toUTF8.data.toList

/-- What a conversion makes of an argument. A number of the other width is taken
for its value. -/
def Arg.print : Arg → Kind → Option Bytes
  | .int value, .int | .int value, .size => some (numeral value)
  | .size value, .int | .size value, .size => some (numeral value)
  | .str text, .str => some text
  | .int _, .str | .size _, .str | .str _, .int | .str _, .size => none

def write : List Directive → List Arg → Option Bytes
  | [], _ => some []
  | .byte value :: rest, args => (write rest args).map (value :: ·)
  | .conversion _ :: _, [] => none
  | .conversion kind :: rest, arg :: args =>
      match arg.print kind with
      | some text => (write rest args).map (text ++ ·)
      | none => none

/-- The text printed, where the format and the arguments determine one. -/
def render (fmt : Bytes) (args : List Arg) : Option Bytes :=
  match directives .text fmt with
  | some list => write list args
  | none => none

/-! A format piece by piece. -/

/-- The text of a conversion. -/
def Kind.spec : Kind → Bytes
  | .int => [37, 100]
  | .size => [37, 122, 117]
  | .str => [37, 115]

theorem directives_text {front : Bytes} (plain : 37 ∉ front) (rest : Bytes) :
    directives .text (front ++ rest) =
      (directives .text rest).map (front.map Directive.byte ++ ·) := by
  induction front with
  | nil => simp
  | cons byte front ih =>
      have different : byte ≠ 37 := fun same => plain (same ▸ List.mem_cons_self)
      have others : 37 ∉ front := fun member => plain (List.mem_cons_of_mem _ member)
      rw [List.cons_append, directives, if_neg different, ih others, Option.map_map]
      rfl

theorem directives_spec (kind : Kind) (rest : Bytes) :
    directives .text (kind.spec ++ rest) =
      (directives .text rest).map (.conversion kind :: ·) := by
  cases kind <;> simp [Kind.spec, directives]

theorem write_text (front : Bytes) (list : List Directive) (args : List Arg) :
    write (front.map Directive.byte ++ list) args = (write list args).map (front ++ ·) := by
  induction front with
  | nil => simp
  | cons byte front ih =>
      rw [List.map_cons, List.cons_append, write, ih, Option.map_map]
      rfl

theorem conforms_nil (args : List Arg) : Conforms [] args ↔ args = [] := by
  simp [Conforms, demands, directives, eq_comm]

theorem conforms_text {front : Bytes} (plain : 37 ∉ front) (rest : Bytes) (args : List Arg) :
    Conforms (front ++ rest) args ↔ Conforms rest args := by
  have letters : (front.map Directive.byte).filterMap Directive.kind = [] := by
    simp [List.filterMap_map, Directive.kind, Function.comp_def]
  simp only [Conforms, demands, directives_text plain, Option.map_map, Function.comp_def,
    List.filterMap_append, letters, List.nil_append]

theorem conforms_spec (kind : Kind) (rest : Bytes) (arg : Arg) (args : List Arg) :
    Conforms (kind.spec ++ rest) (arg :: args) ↔ arg.kind = kind ∧ Conforms rest args := by
  simp only [Conforms, demands, directives_spec]
  cases directives .text rest with
  | none => simp
  | some list => simp [Directive.kind, eq_comm]

theorem render_nil (args : List Arg) : render [] args = some [] := rfl

theorem render_text {front : Bytes} (plain : 37 ∉ front) (rest : Bytes) (args : List Arg) :
    render (front ++ rest) args = (render rest args).map (front ++ ·) := by
  rw [render, directives_text plain, render]
  cases directives .text rest with
  | none => rfl
  | some list => exact write_text front list args

theorem render_spec {kind : Kind} {arg : Arg} {text : Bytes} (printed : arg.print kind = some text)
    (rest : Bytes) (args : List Arg) :
    render (kind.spec ++ rest) (arg :: args) = (render rest args).map (text ++ ·) := by
  rw [render, directives_spec, render]
  cases directives .text rest with
  | none => rfl
  | some list => simp [write, printed]

/-! A text as a format of its own. -/

theorem conforms_plain {fmt : Bytes} (plain : 37 ∉ fmt) : Conforms fmt [] := by
  rw [← List.append_nil fmt, conforms_text plain, conforms_nil]

theorem render_plain {fmt : Bytes} (plain : 37 ∉ fmt) (args : List Arg) :
    render fmt args = some fmt := by
  rw [← List.append_nil fmt, render_text plain, render_nil]
  simp

theorem directives_length {state : State} {fmt : Bytes} {list : List Directive}
    (read : directives state fmt = some list) : list.length ≤ fmt.length := by
  have longer : ∀ {rest : Bytes} {directive : Directive} {list : List Directive},
      (∀ {later}, directives .text rest = some later → later.length ≤ rest.length) →
      (directives .text rest).map (directive :: ·) = some list → list.length ≤ rest.length + 1 := by
    intro rest directive list ih mapped
    obtain ⟨later, ran, rfl⟩ := Option.map_eq_some_iff.mp mapped
    exact Nat.succ_le_succ (ih ran)
  fun_induction directives state fmt generalizing list with
  | case1 => cases read; exact Nat.le_refl _
  | case2 => cases read
  | case3 => cases read
  | case4 rest ih => exact Nat.le_succ_of_le (ih read)
  | case5 byte rest _ ih => exact longer ih read
  | case6 rest ih => exact longer ih read
  | case7 rest _ ih => exact longer ih read
  | case8 rest _ _ ih => exact longer ih read
  | case9 rest _ _ _ ih => exact Nat.le_succ_of_le (ih read)
  | case10 => cases read
  | case11 rest ih => exact longer ih read
  | case12 => cases read

/-- A conversion has more bytes than directives. -/
theorem directives_shorter {fmt : Bytes} {list : List Directive}
    (read : directives .text fmt = some list) (marked : 37 ∈ fmt) : list.length < fmt.length := by
  induction fmt generalizing list with
  | nil => cases marked
  | cons byte rest ih =>
      rw [directives] at read
      split at read
      · exact Nat.lt_succ_of_le (directives_length read)
      · rename_i different
        obtain ⟨later, ran, rfl⟩ := Option.map_eq_some_iff.mp read
        rcases List.mem_cons.mp marked with same | member
        · exact absurd same.symm different
        · exact Nat.succ_lt_succ (ih ran member)

theorem write_length {list : List Directive} {text : Bytes} (written : write list [] = some text) :
    text.length = list.length := by
  induction list generalizing text with
  | nil =>
      cases written
      rfl
  | cons directive list ih =>
      cases directive with
      | byte value =>
          obtain ⟨later, ran, rfl⟩ := Option.map_eq_some_iff.mp written
          exact congrArg Nat.succ (ih ran)
      | conversion kind => cases written

/-- A text comes out of printf as it is exactly when it has no percent sign. -/
theorem render_self_iff (fmt : Bytes) : render fmt [] = some fmt ↔ 37 ∉ fmt := by
  constructor
  · intro same marked
    rw [render] at same
    split at same
    · rename_i list read
      have shorter := directives_shorter read marked
      rw [write_length same] at shorter
      exact Nat.lt_irrefl _ shorter
    · cases same
  · exact fun plain => render_plain plain []

end PrintfFormats
