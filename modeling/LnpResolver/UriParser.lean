import LnpResolver.Decimals

/-!
Listen addresses, parseAddr of libs/uri_parser.c. The arrays of UriComponents
have one byte more than the longest component, for the terminator. A null pointer
is `none`. The indices that strncpy stores to are recorded, since the stores that
miss the array have no meaning of their own.
-/

namespace LnpResolver.UriParser

open PackedBytes TextStreams CStrings RequestWire JsonItems Decimals

def sockaddrSize : Nat := 128
def protocolSize : Nat := 16
def hostSize : Nat := 64

structure UriComponents where
  proto : Bytes
  host : Bytes
  port : Int
  protoSized : proto.length = protocolSize + 1
  hostSized : host.length = hostSize + 1
  deriving DecidableEq, Repr

inductive Component where
  | proto | host
  deriving DecidableEq, Repr

def Component.limit : Component → Nat
  | .proto => protocolSize
  | .host => hostSize

def UriComponents.array (out : UriComponents) : Component → Bytes
  | .proto => out.proto
  | .host => out.host

structure Filling where
  out : UriComponents
  written : List (Component × Nat) := []
  deriving DecidableEq, Repr

/-- `memset(out, 0, sizeof(UriComponents))` -/
def cleared : UriComponents where
  proto := List.replicate (protocolSize + 1) 0
  host := List.replicate (hostSize + 1) 0
  port := 0
  protoSized := List.length_replicate
  hostSized := List.length_replicate

/-- strncpy to one of the arrays. -/
def copy (component : Component) (addr : Bytes) (count : Nat) (filling : Filling) : Filling where
  out :=
    match component with
    | .proto =>
        { filling.out with
          proto := strncpy filling.out.proto addr count
          protoSized := by rw [strncpy_length]; exact filling.out.protoSized }
    | .host =>
        { filling.out with
          host := strncpy filling.out.host addr count
          hostSized := by rw [strncpy_length]; exact filling.out.hostSized }
  written := filling.written ++ (List.range count).map (component, ·)

/-- `if (comp_sz > 0 && comp_sz <= limit)` and the copy under it -/
def copyGuarded (component : Component) (addr : Bytes) (compSz : Nat) (filling : Filling) :
    Filling :=
  if 0 < compSz ∧ compSz ≤ component.limit then copy component addr compSz filling else filling

def schemeMark : Bytes := bytesOf "://"
def colon : UInt8 := 58

/-- The protocol, and the address behind it. -/
def parseProto (addr : Bytes) (filling : Filling) : Bytes × Filling :=
  match strstr schemeMark addr with
  | none => (addr, filling)
  | some compSz =>
      (addr.drop (compSz + schemeMark.length), copyGuarded .proto addr compSz filling)

def parsePort (addr : Bytes) (filling : Filling) : Filling :=
  { filling with out := { filling.out with port := atoi addr } }

def parseHost (addr : Bytes) (filling : Filling) : Filling :=
  match strchr colon addr with
  | some compSz =>
      parsePort (addr.drop (compSz + 1)) (copyGuarded .host addr compSz filling)
  | none =>
      -- the second copy has no guard, and repeats the guarded one
      copy .host addr addr.length (copyGuarded .host addr addr.length filling)

def fill (addr : Bytes) : Filling :=
  let parsed := parseProto addr { out := cleared }
  parseHost parsed.1 parsed.2

def parseAddr (addr : Option Bytes) (out : Option UriComponents) : Int × Option Filling :=
  match addr with
  | none => (-1, out.map ({ out := · }))
  | some memory =>
      let addr := cString memory
      if addr.length = 0 ∨ sockaddrSize ≤ addr.length then (-1, out.map ({ out := · }))
      else
        match out with
        | none => (-1, none)
        | some _ => (0, some (fill addr))

/-! The components of an address, `[proto://]host[:port]`. -/

def ProtoSplit (addr proto rest : Bytes) : Prop :=
  FirstAt schemeMark addr proto rest ∨
    (proto = [] ∧ rest = addr ∧ ∀ front back, addr ≠ front ++ schemeMark ++ back)

def HostSplit (rest host : Bytes) (port : Int) : Prop :=
  colon ∉ host ∧ ((rest = host ∧ port = 0) ∨
    ∃ text, rest = host ++ colon :: text ∧ DecimalValue text port)

def Components (addr proto host : Bytes) (port : Int) : Prop :=
  ∃ rest, ProtoSplit addr proto rest ∧ HostSplit rest host port

/-- The array is terminated and holds the text. -/
def Stored (array text : Bytes) : Prop := 0 ∈ array ∧ cString array = text

structure Holds (filling : Filling) (proto host : Bytes) (port : Int) : Prop where
  proto : Stored filling.out.proto proto
  host : Stored filling.out.host host
  port : filling.out.port = port
  inside : ∀ store ∈ filling.written, store.2 ≤ store.1.limit

/-- The components have room in the record. -/
def Room (proto host : Bytes) (port : Int) : Prop :=
  proto.length ≤ protocolSize ∧ host.length ≤ hostSize ∧ intMin ≤ port ∧ port ≤ intMax

def portText (port : Int) : Bytes := if port = 0 then [] else colon :: decimal port

def render (proto host : Bytes) (port : Int) : Bytes :=
  (if proto = [] then [] else proto ++ schemeMark) ++ (host ++ portText port)

/-- Components that can be told apart in their rendering. -/
structure Separable (proto host : Bytes) : Prop where
  proto : ∀ front back, proto ≠ front ++ schemeMark ++ back
  host : colon ∉ host

structure AddrParsed (addr : Bytes) (outcome : Int × Option Filling) : Prop where
  returned : outcome.1 = -1 ∨ ∃ filling proto host port, outcome = (0, some filling) ∧
    Components addr proto host port ∧ Holds filling proto host port
  rendered : ∀ proto host port, Separable proto host → Room proto host port → addr ≠ [] →
    addr = render proto host port → ∃ filling, outcome = (0, some filling) ∧
      Holds filling proto host port

/-! An address has its components once. -/

theorem protoSplit_unique {addr proto rest other tail : Bytes} (split : ProtoSplit addr proto rest)
    (second : ProtoSplit addr other tail) : proto = other ∧ rest = tail := by
  rcases split with first | ⟨rfl, rfl, absent⟩
  · rcases second with second | ⟨rfl, rfl, absent⟩
    · exact firstAt_unique first second
    · exact absurd first.1 (absent _ _)
  · rcases second with second | ⟨rfl, rfl, -⟩
    · exact absurd second.1 (absent _ _)
    · exact ⟨rfl, rfl⟩

theorem hostSplit_unique {rest host other : Bytes} {port value : Int}
    (split : HostSplit rest host port) (second : HostSplit rest other value) :
    host = other ∧ port = value := by
  obtain ⟨free, whole⟩ := split
  obtain ⟨otherFree, otherWhole⟩ := second
  rcases whole with ⟨rfl, rfl⟩ | ⟨text, rfl, decimalText⟩
  · rcases otherWhole with ⟨rfl, rfl⟩ | ⟨text, rfl, -⟩
    · exact ⟨rfl, rfl⟩
    · exact absurd (by simp) free
  · rcases otherWhole with ⟨rfl, rfl⟩ | ⟨tail, same, otherDecimal⟩
    · exact absurd (by simp) otherFree
    · have stops : ∀ after : Bytes, ∀ byte ∈ (colon :: after).head?, byte = colon := by simp
      obtain ⟨front, back⟩ := span_until free (stops text)
      obtain ⟨otherFront, otherBack⟩ := span_until otherFree (stops tail)
      rw [same] at front back
      rw [otherBack] at back
      cases (List.cons.inj back).2
      rw [decimalValue_iff] at decimalText otherDecimal
      exact ⟨front.symm.trans otherFront, decimalText.trans otherDecimal.symm⟩

theorem components_unique {addr proto host other tail : Bytes} {port value : Int}
    (components : Components addr proto host port) (second : Components addr other tail value) :
    proto = other ∧ host = tail ∧ port = value := by
  obtain ⟨rest, split, hostSplit⟩ := components
  obtain ⟨otherRest, otherSplit, otherHost⟩ := second
  obtain ⟨rfl, rfl⟩ := protoSplit_unique split otherSplit
  exact ⟨rfl, hostSplit_unique hostSplit otherHost⟩

/-! One copy into a cleared array. -/

theorem stored_padded {text : Bytes} (noNul : 0 ∉ text) (more : Nat) :
    Stored (text ++ List.replicate (more + 1) 0) text := by
  constructor
  · simp
  · exact (span_until noNul (by simp [List.replicate_succ])).1

def guarded (size : Nat) (source text : Bytes) : Bytes :=
  if 0 < text.length ∧ text.length ≤ size then
    strncpy (List.replicate (size + 1) 0) source text.length
  else List.replicate (size + 1) 0

theorem guarded_fits {size : Nat} {text : Bytes} (more : Bytes) (fits : text.length ≤ size) :
    guarded size (text ++ more) text = text ++ List.replicate (size - text.length + 1) 0 := by
  have left : size + 1 - text.length = size - text.length + 1 := by omega
  by_cases filled : 0 < text.length
  · rw [guarded, if_pos ⟨filled, fits⟩, strncpy_inside _ _ _ (by simp) (by simp; omega),
      List.take_left, List.drop_replicate, left]
  · have empty : text = [] := List.length_eq_zero_iff.mp (by omega)
    subst text
    simp [guarded]

theorem guarded_stored_iff (size : Nat) {text : Bytes} (more : Bytes) (noNul : 0 ∉ text) :
    Stored (guarded size (text ++ more) text) text ↔ text.length ≤ size := by
  constructor
  · intro stored
    by_contra long
    have untouched : guarded size (text ++ more) text = List.replicate (size + 1) 0 :=
      if_neg (by omega)
    have empty : text = [] := by
      rw [← stored.2, untouched]
      rfl
    subst text
    exact long (Nat.zero_le _)
  · intro fits
    rw [guarded_fits more fits]
    exact stored_padded noNul _

/-- The copy without a guard fills the array to its last byte. -/
theorem unguarded_stored_iff (size : Nat) {text : Bytes} (noNul : 0 ∉ text) :
    Stored (strncpy (guarded size text text) text text.length) text ↔ text.length ≤ size := by
  have plain : guarded size text text = guarded size (text ++ []) text := by rw [List.append_nil]
  constructor
  · intro stored
    by_contra long
    have untouched : guarded size text text = List.replicate (size + 1) 0 := if_neg (by omega)
    have full := strncpy_over (guarded size text text) text text.length (Nat.le_refl _)
      (by rw [untouched, List.length_replicate]; omega)
    have terminated := stored.1
    rw [full] at terminated
    exact noNul (List.mem_of_mem_take terminated)
  · intro fits
    have again : strncpy (guarded size text text) text text.length = guarded size text text := by
      rw [plain, guarded_fits [] fits, strncpy_inside _ _ _ (Nat.le_refl _) (by simp),
        List.take_length, List.drop_left]
    rw [again, plain]
    exact (guarded_stored_iff size [] noNul).mpr fits

/-! What the branches fill in. -/

theorem parseProto_spec (addr : Bytes) (filling : Filling) :
    ∃ proto more rest, ProtoSplit addr proto rest ∧ addr = proto ++ more ∧
      parseProto addr filling = (rest, copyGuarded .proto addr proto.length filling) := by
  cases found : strstr schemeMark addr with
  | none =>
      refine ⟨[], addr, addr, Or.inr ⟨rfl, rfl, strstr_none found⟩, rfl, ?_⟩
      simp [parseProto, found, copyGuarded]
  | some index =>
      have first := strstr_some found
      have size : (addr.take index).length = index := by
        have parts := congrArg List.length first.1
        simp only [List.length_append, List.length_take, List.length_drop] at parts ⊢
        have marks : schemeMark.length = 3 := rfl
        omega
      refine ⟨addr.take index, addr.drop index, _, Or.inl first,
        (List.take_append_drop index addr).symm, ?_⟩
      rw [parseProto, found, size]

theorem parseHost_spec (addr : Bytes) (filling : Filling) :
    (∃ host text, colon ∉ host ∧ addr = host ++ colon :: text ∧
      parseHost addr filling = parsePort text (copyGuarded .host addr host.length filling)) ∨
    (colon ∉ addr ∧ parseHost addr filling =
      copy .host addr addr.length (copyGuarded .host addr addr.length filling)) := by
  cases found : strchr colon addr with
  | none =>
      right
      refine ⟨strchr_none found, ?_⟩
      rw [parseHost, found]
  | some index =>
      left
      obtain ⟨free, whole⟩ := strchr_some found
      have size : (addr.take index).length = index := by
        have parts := congrArg List.length whole
        simp only [List.length_append, List.length_take, List.length_cons, List.length_drop]
          at parts ⊢
        omega
      refine ⟨addr.take index, addr.drop (index + 1), free, whole, ?_⟩
      rw [parseHost, found, size]

section Copies

variable (component other : Component) (addr text : Bytes) (count : Nat) (filling : Filling)

@[simp] theorem copy_array :
    (copy component addr count filling).out.array component =
      strncpy (filling.out.array component) addr count := by
  cases component <;> rfl

@[simp] theorem copy_other (different : other ≠ component) :
    (copy component addr count filling).out.array other = filling.out.array other := by
  cases component <;> cases other <;> first | rfl | exact absurd rfl different

@[simp] theorem copy_port :
    (copy component addr count filling).out.port = filling.out.port := by
  cases component <;> rfl

/-- A copy within the limit stores inside its array. -/
theorem copy_inside (fits : count ≤ component.limit)
    (inside : ∀ store ∈ filling.written, store.2 ≤ store.1.limit) :
    ∀ store ∈ (copy component addr count filling).written, store.2 ≤ store.1.limit := by
  intro store member
  rcases List.mem_append.mp member with old | new
  · exact inside store old
  · obtain ⟨index, low, rfl⟩ := List.mem_map.mp new
    have bound := List.mem_range.mp low
    simp only
    omega

theorem copyGuarded_array (fresh : filling.out.array component = List.replicate (component.limit + 1) 0) :
    (copyGuarded component addr text.length filling).out.array component =
      guarded component.limit addr text := by
  unfold copyGuarded guarded
  split
  · rw [copy_array, fresh]
  · exact fresh

@[simp] theorem copyGuarded_other (different : other ≠ component) :
    (copyGuarded component addr count filling).out.array other = filling.out.array other := by
  unfold copyGuarded
  split
  · exact copy_other component other addr count filling different
  · rfl

@[simp] theorem copyGuarded_port :
    (copyGuarded component addr count filling).out.port = filling.out.port := by
  unfold copyGuarded
  split
  · exact copy_port component addr count filling
  · rfl

theorem copyGuarded_inside (inside : ∀ store ∈ filling.written, store.2 ≤ store.1.limit) :
    ∀ store ∈ (copyGuarded component addr count filling).written, store.2 ≤ store.1.limit := by
  unfold copyGuarded
  split
  · rename_i guard
    exact copy_inside component addr count filling guard.2 inside
  · exact inside

end Copies

theorem holds_iff (filling : Filling) (proto host : Bytes) (port : Int) :
    Holds filling proto host port ↔ Stored (filling.out.array .proto) proto ∧
      Stored (filling.out.array .host) host ∧ filling.out.port = port ∧
      ∀ store ∈ filling.written, store.2 ≤ store.1.limit :=
  ⟨fun holds => ⟨holds.proto, holds.host, holds.port, holds.inside⟩,
    fun ⟨proto, host, port, inside⟩ => ⟨proto, host, port, inside⟩⟩

theorem atoi_int_iff (text : Bytes) :
    atoi text = leadingValue text ↔ intMin ≤ leadingValue text ∧ leadingValue text ≤ intMax := by
  have largest : intMax = 2147483647 := rfl
  have smallest : intMin = -2147483648 := rfl
  rw [atoi_iff]
  omega

theorem protoSplit_noNul {addr proto rest : Bytes} (split : ProtoSplit addr proto rest)
    (noNul : 0 ∉ addr) : 0 ∉ rest := by
  rcases split with first | ⟨-, rfl, -⟩
  · rw [first.1] at noNul
    exact fun member => noNul (List.mem_append_right _ member)
  · exact noNul

section Filled

variable {filling : Filling} {proto rest : Bytes}
  (fresh : filling.out.array .host = List.replicate (hostSize + 1) 0)
  (zero : filling.out.port = 0)
  (inside : ∀ store ∈ filling.written, store.2 ≤ store.1.limit)
  (protoStored : Stored (filling.out.array .proto) proto ↔ proto.length ≤ protocolSize)

include fresh inside protoStored

/-- A host in front of a port is copied under its guard only. -/
theorem host_with_port {host text : Bytes} (noNul : 0 ∉ host) (whole : rest = host ++ colon :: text) :
    Holds (parsePort text (copyGuarded .host rest host.length filling)) proto host
      (leadingValue text) ↔ Room proto host (leadingValue text) := by
  have hostArray := copyGuarded_array .host rest host filling fresh
  have hostStored := guarded_stored_iff hostSize (colon :: text) noNul
  rw [← whole] at hostStored
  have kept := copyGuarded_other .host .proto rest host.length filling (by decide)
  have stores := copyGuarded_inside .host rest host.length filling inside
  rw [holds_iff, Room, ← protoStored, ← hostStored, ← atoi_int_iff]
  change Stored ((copyGuarded .host rest host.length filling).out.array .proto) proto ∧
    Stored ((copyGuarded .host rest host.length filling).out.array .host) host ∧
      atoi text = leadingValue text ∧ _ ↔ _
  rw [kept, hostArray]
  exact ⟨fun ⟨first, second, third, _⟩ => ⟨first, second, third⟩,
    fun ⟨first, second, third⟩ => ⟨first, second, third, stores⟩⟩

include zero

/-- A host at the end is copied without a guard, past its array when it is too long. -/
theorem host_at_end (noNul : 0 ∉ rest) :
    Holds (copy .host rest rest.length (copyGuarded .host rest rest.length filling)) proto rest 0 ↔
      Room proto rest 0 := by
  have hostArray := copyGuarded_array .host rest rest filling fresh
  have hostStored := unguarded_stored_iff hostSize noNul
  have kept := copyGuarded_other .host .proto rest rest.length filling (by decide)
  have stores := copyGuarded_inside .host rest rest.length filling inside
  have smallPort : intMin ≤ 0 ∧ 0 ≤ intMax := by decide
  rw [holds_iff, Room, copy_array, copy_other _ _ _ _ _ (by decide), copy_port, copyGuarded_port,
    kept, hostArray, ← protoStored]
  constructor
  · rintro ⟨first, second, -⟩
    exact ⟨first, hostStored.mp second, smallPort⟩
  · rintro ⟨first, second, -⟩
    exact ⟨first, hostStored.mpr second, zero,
      copy_inside .host rest _ _ (Nat.le_trans second (Nat.le_refl _)) stores⟩

end Filled

/-- The record holds the components exactly when they have room in it. -/
theorem fill_holds_iff (addr : Bytes) (noNul : 0 ∉ addr) :
    ∃ proto host port, Components addr proto host port ∧
      (Holds (fill addr) proto host port ↔ Room proto host port) := by
  obtain ⟨proto, more, rest, split, whole, parsed⟩ := parseProto_spec addr { out := cleared }
  have inside : ∀ store ∈ (copyGuarded .proto addr proto.length { out := cleared }).written,
      store.2 ≤ store.1.limit :=
    copyGuarded_inside .proto addr proto.length { out := cleared } (by simp)
  have protoFree : 0 ∉ proto := by
    rw [whole] at noNul
    exact fun member => noNul (List.mem_append_left _ member)
  have protoStored := guarded_stored_iff (Component.limit .proto) more protoFree
  rw [← whole, ← copyGuarded_array .proto addr proto { out := cleared } rfl] at protoStored
  have fresh := copyGuarded_other .proto .host addr proto.length { out := cleared } (by decide)
  have zero := copyGuarded_port .proto addr proto.length { out := cleared }
  have restFree := protoSplit_noNul split noNul
  rw [fill, parsed]
  rcases parseHost_spec rest (copyGuarded .proto addr proto.length { out := cleared }) with
    ⟨host, text, free, hostWhole, filled⟩ | ⟨free, filled⟩
  · have hostFree : 0 ∉ host := by
      rw [hostWhole] at restFree
      exact fun member => restFree (List.mem_append_left _ member)
    refine ⟨proto, host, leadingValue text, ⟨rest, split, free, Or.inr ⟨text, hostWhole, ?_⟩⟩, ?_⟩
    · exact (decimalValue_iff text _).mpr rfl
    · rw [filled]
      exact host_with_port fresh inside protoStored hostFree hostWhole
  · refine ⟨proto, rest, 0, ⟨rest, split, free, Or.inl ⟨rfl, rfl⟩⟩, ?_⟩
    rw [filled]
    exact host_at_end fresh zero inside protoStored restFree

/-! A rendered address has the components it was rendered from. -/

theorem decimal_bytes (port : Int) :
    ∀ byte ∈ decimal port, byte ≠ colon ∧ byte ≠ 47 := by
  have digits : ∀ value : Nat, ∀ byte ∈ decimal value, byte ≠ colon ∧ byte ≠ 47 := by
    intro value byte member
    have range := (decimal_digits value).2 byte member
    simp only [colon, ne_eq, ← UInt8.toNat_inj, UInt8.reduceToNat]
    omega
  cases port with
  | ofNat value => exact digits value
  | negSucc value =>
      rw [decimal_negative]
      intro byte member
      rcases List.mem_cons.mp member with rfl | digit
      · decide
      · exact digits _ byte digit

theorem decimalValue_decimal (port : Int) : DecimalValue (decimal port) port := by
  left
  cases port with
  | ofNat value =>
      refine ⟨[], .none, decimal value, [], by simp [Sign.text], by simp, (decimal_digits value).1,
        decimal_isdigit value, by simp, ?_⟩
      rw [digitsValue_decimal]
      rfl
  | negSucc value =>
      refine ⟨[], .minus, decimal (value + 1 : Nat), [], ?_, by simp, (decimal_digits _).1,
        decimal_isdigit _, by simp, ?_⟩
      · simp [decimal_negative, Sign.text]
      · rw [digitsValue_decimal]
        exact Int.negSucc_eq value

theorem decimal_length {port : Int} (low : intMin ≤ port) (high : port ≤ intMax) :
    (decimal port).length ≤ 11 := by
  have largest : intMax = 2147483647 := rfl
  have smallest : intMin = -2147483648 := rfl
  have short : ∀ value : Nat, value ≤ 2147483648 → (decimal value).length ≤ 10 := by
    intro value bound
    rw [decimal_nat, List.length_map, Nat.length_toDigits_le_iff (by decide) (by decide)]
    omega
  cases port with
  | ofNat value =>
      rw [Int.ofNat_eq_natCast] at high ⊢
      have bound := short value (by omega)
      omega
  | negSucc value =>
      have negative := Int.negSucc_eq value
      have bound := short (value + 1) (by omega)
      rw [decimal_negative, List.length_cons]
      omega

theorem no_mark {host : Bytes} (free : colon ∉ host) (port : Int) (front back : Bytes) :
    host ++ portText port ≠ front ++ schemeMark ++ back := by
  have mark : schemeMark = [colon, 47, 47] := rfl
  have member : colon ∈ front ++ schemeMark ++ back := by simp [mark]
  intro same
  by_cases zero : port = 0
  · rw [portText, if_pos zero, List.append_nil] at same
    exact free (same ▸ member)
  · rw [portText, if_neg zero, List.append_assoc, mark] at same
    have digits := decimal_bytes port
    -- the mark begins at the colon of the port, behind it, or inside the host
    rcases List.append_eq_append_iff.mp same with ⟨extra, rfl, tail⟩ | ⟨extra, rfl, tail⟩
    · cases extra with
      | nil =>
          have text : decimal port = 47 :: 47 :: back := (List.cons.inj tail).2
          exact (digits 47 (by simp [text])).2 rfl
      | cons byte extra =>
          have text : decimal port = extra ++ (colon :: 47 :: 47 :: back) := (List.cons.inj tail).2
          exact (digits colon (by simp [text])).1 rfl
    · cases extra with
      | nil =>
          have text : 47 :: 47 :: back = decimal port := (List.cons.inj tail).2
          exact (digits 47 (by simp [← text])).2 rfl
      | cons byte extra =>
          have first : colon = byte := (List.cons.inj tail).1
          exact free (by simp [first])

theorem mark_first {proto : Bytes} (free : ∀ front back, proto ≠ front ++ schemeMark ++ back)
    (rest : Bytes) : FirstAt schemeMark (proto ++ schemeMark ++ rest) proto rest := by
  have mark : schemeMark = [58, 47, 47] := rfl
  refine ⟨rfl, ?_⟩
  intro front back same
  by_contra short
  rw [List.append_assoc, List.append_assoc] at same
  rcases List.append_eq_append_iff.mp same with ⟨extra, rfl, -⟩ | ⟨extra, rfl, tail⟩
  · simp at short
  · -- the mark overlaps no shifted copy of itself
    rw [mark] at tail
    match extra with
    | [] => simp at short
    | [_] => simp at tail
    | [_, _] => simp at tail
    | first :: second :: third :: extra =>
        simp only [List.cons_append, List.nil_append, List.cons.injEq] at tail
        obtain ⟨rfl, rfl, rfl, -⟩ := tail
        exact free front extra (by rw [mark]; simp)

theorem components_render {proto host : Bytes} (separable : Separable proto host) (port : Int) :
    Components (render proto host port) proto host port := by
  refine ⟨host ++ portText port, ?_, separable.host, ?_⟩
  · rw [render]
    by_cases empty : proto = []
    · rw [if_pos empty]
      exact Or.inr ⟨empty, rfl, no_mark separable.host port⟩
    · rw [if_neg empty]
      exact Or.inl (mark_first separable.proto _)
  · by_cases zero : port = 0
    · left
      rw [portText, if_pos zero]
      exact ⟨List.append_nil _, zero⟩
    · right
      rw [portText, if_neg zero]
      exact ⟨decimal port, rfl, decimalValue_decimal port⟩

theorem render_length {proto host : Bytes} {port : Int} (room : Room proto host port) :
    (render proto host port).length < sockaddrSize := by
  obtain ⟨protoShort, hostShort, low, high⟩ := room
  have mark : schemeMark.length = 3 := rfl
  have digits := decimal_length low high
  simp only [protocolSize, hostSize] at protoShort hostShort
  simp only [render, portText, sockaddrSize, List.length_append]
  split <;> split <;> simp only [List.length_append, List.length_cons, List.length_nil] <;> omega

theorem parse_refused {memory : Bytes} (out : UriComponents)
    (refused : cString memory = [] ∨ sockaddrSize ≤ (cString memory).length) :
    (parseAddr (some memory) (some out)).1 = -1 := by
  simp [parseAddr, refused]

theorem parse_filled {memory : Bytes} (out : UriComponents) (filled : cString memory ≠ [])
    (short : (cString memory).length < sockaddrSize) :
    parseAddr (some memory) (some out) = (0, some (fill (cString memory))) := by
  simpa [parseAddr] using ⟨filled, short⟩

theorem fill_components {addr proto host : Bytes} {port : Int} (noNul : 0 ∉ addr)
    (components : Components addr proto host port) :
    Holds (fill addr) proto host port ↔ Room proto host port := by
  obtain ⟨other, tail, value, known, holds⟩ := fill_holds_iff addr noNul
  obtain ⟨rfl, rfl, rfl⟩ := components_unique known components
  exact holds

/-- Every rendering that fits is read back. -/
theorem parse_render {memory proto host : Bytes} {port : Int} (out : UriComponents)
    (separable : Separable proto host) (room : Room proto host port) (filled : cString memory ≠ [])
    (rendered : cString memory = render proto host port) :
    ∃ filling, parseAddr (some memory) (some out) = (0, some filling) ∧
      Holds filling proto host port := by
  have short : (cString memory).length < sockaddrSize := by
    rw [rendered]
    exact render_length room
  refine ⟨fill (cString memory), parse_filled out filled short, ?_⟩
  apply (fill_components (cString_noNul memory) _).mpr room
  rw [rendered]
  exact components_render separable port

theorem accepted_parsed_iff {memory proto host : Bytes} {port : Int} (out : UriComponents)
    (filled : cString memory ≠ []) (short : (cString memory).length < sockaddrSize)
    (components : Components (cString memory) proto host port) :
    AddrParsed (cString memory) (parseAddr (some memory) (some out)) ↔ Room proto host port := by
  have accepted := parse_filled out filled short
  have holds := fill_components (cString_noNul memory) components
  constructor
  · intro parsed
    rcases parsed.returned with refused | ⟨filling, other, tail, value, same, known, held⟩
    · rw [accepted] at refused
      cases refused
    · rw [accepted] at same
      cases same
      obtain ⟨rfl, rfl, rfl⟩ := components_unique known components
      exact holds.mp held
  · intro room
    constructor
    · exact Or.inr ⟨_, proto, host, port, accepted, components, holds.mpr room⟩
    · exact fun other tail value separable fits _ rendered =>
        parse_render out separable fits filled rendered

/-- parseAddr refuses an address or returns its components, exactly when the
components of an address that is not refused have room in the record. -/
theorem address_parsed_iff (memory : Bytes) (out : UriComponents) :
    AddrParsed (cString memory) (parseAddr (some memory) (some out)) ↔
      cString memory = [] ∨ sockaddrSize ≤ (cString memory).length ∨
        ∀ proto host port, Components (cString memory) proto host port → Room proto host port := by
  by_cases refused : cString memory = [] ∨ sockaddrSize ≤ (cString memory).length
  · have parsed : AddrParsed (cString memory) (parseAddr (some memory) (some out)) := by
      constructor
      · exact Or.inl (parse_refused out refused)
      · exact fun proto host port separable room filled rendered =>
          parse_render out separable room filled rendered
    exact iff_of_true parsed (or_assoc.mp (Or.inl refused))
  · obtain ⟨filled, longer⟩ := not_or.mp refused
    obtain ⟨proto, host, port, components, -⟩ := fill_holds_iff _ (cString_noNul memory)
    rw [accepted_parsed_iff out filled (Nat.not_le.mp longer) components]
    constructor
    · intro room
      right
      right
      intro other tail value known
      obtain ⟨rfl, rfl, rfl⟩ := components_unique known components
      exact room
    · rintro (empty | long | room)
      · exact absurd empty filled
      · exact absurd long longer
      · exact room proto host port components

/-- A host of seventy bytes is stored past the end of its array. -/
theorem long_host_overflows :
    ¬ AddrParsed (cString (List.replicate 70 97))
      (parseAddr (some (List.replicate 70 97)) (some cleared)) := by
  have text : cString (List.replicate 70 97) = List.replicate 70 97 := cString_eq_self (by decide)
  have free : colon ∉ List.replicate 70 97 := by decide
  have components : Components (cString (List.replicate 70 97)) [] (List.replicate 70 97) 0 := by
    rw [text]
    have plain := no_mark free 0
    rw [portText, if_pos rfl, List.append_nil] at plain
    exact ⟨_, Or.inr ⟨rfl, rfl, plain⟩, free, Or.inl ⟨rfl, rfl⟩⟩
  rw [accepted_parsed_iff cleared (by rw [text]; decide) (by rw [text]; decide) components]
  exact fun room => absurd room.2.1 (by decide)

end LnpResolver.UriParser
