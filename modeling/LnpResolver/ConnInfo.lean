import Mathlib.Algebra.Order.BigOperators.Group.List
import Mathlib.Data.List.Perm.Subperm
import LnpResolver.CStrings

/-!
libpq's keyword/value connection strings, read byte by byte. Blanks separate the
settings and may stand around the equals sign. A value ends at white space, unless
it begins with a single quote; a backslash takes the next byte as it is, in and out
of quotes. A text that ends inside quotes or before an equals sign is refused.
-/

namespace ConnInfo

open PackedBytes CStrings

/-- A keyword and the value written for it. -/
abbrev Setting := Bytes × Bytes

inductive State where
  | gap
  | name (key : Bytes)
  | named (key : Bytes)
  | assigned (key : Bytes)
  | bare (key value : Bytes)
  | bareEscape (key value : Bytes)
  | quoted (key value : Bytes)
  | quotedEscape (key value : Bytes)

def next : State → UInt8 → Option (List Setting × State)
  | .gap, byte =>
      if isspace byte then some ([], .gap) else
      if byte = 61 then some ([], .assigned []) else some ([], .name [byte])
  | .name key, byte =>
      if byte = 61 then some ([], .assigned key) else
      if isspace byte then some ([], .named key) else some ([], .name (key ++ [byte]))
  | .named key, byte =>
      if isspace byte then some ([], .named key) else
      if byte = 61 then some ([], .assigned key) else none
  | .assigned key, byte =>
      if isspace byte then some ([], .assigned key) else
      if byte = 39 then some ([], .quoted key []) else
      if byte = 92 then some ([], .bareEscape key []) else some ([], .bare key [byte])
  | .bare key value, byte =>
      if isspace byte then some ([(key, value)], .gap) else
      if byte = 92 then some ([], .bareEscape key value) else
      some ([], .bare key (value ++ [byte]))
  | .bareEscape key value, byte => some ([], .bare key (value ++ [byte]))
  | .quoted key value, byte =>
      if byte = 92 then some ([], .quotedEscape key value) else
      if byte = 39 then some ([(key, value)], .gap) else
      some ([], .quoted key (value ++ [byte]))
  | .quotedEscape key value, byte => some ([], .quoted key (value ++ [byte]))

/-- A text may end after `=`: the value is then empty. -/
def finish : State → Option (List Setting)
  | .gap => some []
  | .assigned key => some [(key, [])]
  | .bare key value | .bareEscape key value => some [(key, value)]
  | .name _ | .named _ | .quoted _ _ | .quotedEscape _ _ => none

def scan : State → Bytes → Option (List Setting)
  | state, [] => finish state
  | state, byte :: rest =>
      match next state byte with
      | none => none
      | some (emitted, after) => (scan after rest).map (emitted ++ ·)

def parse (text : Bytes) : Option (List Setting) := scan .gap text

/-- The value a keyword has in the end: a later setting replaces an earlier one. -/
def assigned : List Setting → Bytes → Option Bytes
  | [], _ => none
  | (key, value) :: rest, keyword =>
      (assigned rest keyword).or (if key = keyword then some value else none)

/-- A value that can be written without quotes and escapes. -/
def Plain (value : Bytes) : Prop :=
  value ≠ [] ∧ (∀ byte ∈ value, isspace byte = false ∧ byte ≠ 92) ∧ value.head? ≠ some 39

/-- A word that reads as a keyword. -/
def Keyword (key : Bytes) : Prop :=
  key ≠ [] ∧ (key.all fun byte => !isspace byte && byte != 61) = true

instance (key : Bytes) : Decidable (Keyword key) := inferInstanceAs (Decidable (_ ∧ _))

theorem assigned_mem {settings : List Setting} {keyword value : Bytes}
    (found : assigned settings keyword = some value) : (keyword, value) ∈ settings := by
  induction settings with
  | nil => cases found
  | cons setting rest ih =>
      rw [assigned, Option.or_eq_some_iff] at found
      rcases found with later | ⟨-, here⟩
      · exact List.mem_cons_of_mem _ (ih later)
      · split at here
        · rename_i same
          cases here
          exact same ▸ List.mem_cons_self
        · cases here

theorem assigned_iff_mem {settings : List Setting} (different : (settings.map Prod.fst).Nodup)
    (keyword value : Bytes) :
    assigned settings keyword = some value ↔ (keyword, value) ∈ settings := by
  constructor
  · exact assigned_mem
  · intro member
    induction settings with
    | nil => cases member
    | cons setting rest ih =>
        obtain ⟨fresh, others⟩ := List.nodup_cons.mp different
        rw [assigned, Option.or_eq_some_iff]
        rcases List.mem_cons.mp member with rfl | later
        · right
          refine ⟨?_, if_pos rfl⟩
          apply Option.eq_none_iff_forall_ne_some.mpr
          intro other found
          have present : keyword ∈ rest.map Prod.fst :=
            List.mem_map.mpr ⟨_, assigned_mem found, rfl⟩
          exact fresh present
        · left
          exact ih others later

/-! A plain value reads back as it is written. -/

theorem plain_single {byte : UInt8} (solid : isspace byte = false) (noQuote : byte ≠ 39)
    (kept : byte ≠ 92) : Plain [byte] := by
  refine ⟨by simp, ?_, by simpa using noQuote⟩
  intro other member
  rw [List.mem_singleton.mp member]
  exact ⟨solid, kept⟩

theorem plain_concat {value : Bytes} {byte : UInt8} (plain : Plain value)
    (solid : isspace byte = false) (kept : byte ≠ 92) : Plain (value ++ [byte]) := by
  obtain ⟨filled, inside, unquoted⟩ := plain
  refine ⟨by simp, ?_, ?_⟩
  · intro other member
    rcases List.mem_append.mp member with old | new
    · exact inside other old
    · rw [List.mem_singleton.mp new]
      exact ⟨solid, kept⟩
  · rw [List.head?_append_of_ne_nil value filled]
    exact unquoted

/-- A state that takes each byte of a text into what it has read. -/
theorem scan_grow (grow : Bytes → State) {inside : UInt8 → Prop}
    (grows : ∀ front byte, inside byte →
      next (grow front) byte = some ([], grow (front ++ [byte])))
    {text : Bytes} (all : ∀ byte ∈ text, inside byte) (front rest : Bytes) :
    scan (grow front) (text ++ rest) = scan (grow (front ++ text)) rest := by
  induction text generalizing front with
  | nil => simp
  | cons byte text ih =>
      obtain ⟨first, others⟩ := List.forall_mem_cons.mp all
      rw [List.cons_append, scan, grows front byte first]
      simp [ih others]

theorem scan_name {key : Bytes} (word : ∀ byte ∈ key, isspace byte = false ∧ byte ≠ 61)
    (front rest : Bytes) :
    scan (.name front) (key ++ rest) = scan (.name (front ++ key)) rest := by
  apply scan_grow .name _ word
  rintro front byte ⟨solid, different⟩
  simp [next, solid, different]

theorem scan_bare {value : Bytes} (inside : ∀ byte ∈ value, isspace byte = false ∧ byte ≠ 92)
    (key front rest : Bytes) :
    scan (.bare key front) (value ++ rest) = scan (.bare key (front ++ value)) rest := by
  apply scan_grow (.bare key) _ inside
  rintro front byte ⟨solid, kept⟩
  simp [next, solid, kept]

theorem scan_blanks {state : State}
    (stays : ∀ byte, isspace byte = true → next state byte = some ([], state))
    {blanks : Bytes} (blank : ∀ byte ∈ blanks, isspace byte = true) (rest : Bytes) :
    scan state (blanks ++ rest) = scan state rest :=
  scan_grow (fun _ => state) (fun _ => stays) blank [] rest

theorem scan_named {blanks : Bytes} (blank : ∀ byte ∈ blanks, isspace byte = true)
    (key rest : Bytes) : scan (.named key) (blanks ++ rest) = scan (.named key) rest := by
  apply scan_blanks _ blank
  intro byte space
  rw [next, if_pos space]

theorem scan_assigned {blanks : Bytes} (blank : ∀ byte ∈ blanks, isspace byte = true)
    (key rest : Bytes) : scan (.assigned key) (blanks ++ rest) = scan (.assigned key) rest := by
  apply scan_blanks _ blank
  intro byte space
  rw [next, if_pos space]

theorem scan_equals {before : Bytes} (blank : ∀ byte ∈ before, isspace byte = true)
    (key rest : Bytes) : scan (.name key) (before ++ 61 :: rest) = scan (.assigned key) rest := by
  have equals : isspace 61 = false := by decide
  cases before with
  | nil => simp [scan, next]
  | cons byte before =>
      obtain ⟨first, others⟩ := List.forall_mem_cons.mp blank
      have different : byte ≠ 61 := by
        rintro rfl
        rw [equals] at first
        cases first
      rw [List.cons_append, scan, next, if_neg different, if_pos first]
      simp [scan_named others, scan, next, equals]

theorem scan_plain {value : Bytes} (plain : Plain value) (key rest : Bytes) :
    scan (.assigned key) (value ++ rest) = scan (.bare key value) rest := by
  obtain ⟨filled, inside, unquoted⟩ := plain
  cases value with
  | nil => exact absurd rfl filled
  | cons byte value =>
      obtain ⟨first, others⟩ := List.forall_mem_cons.mp inside
      have noQuote : byte ≠ 39 := by
        rintro rfl
        exact unquoted rfl
      rw [List.cons_append, scan, next, if_neg (by simp [first.1]), if_neg noQuote, if_neg first.2]
      simp [scan_bare others]

/-- A setting up to the end of its value. -/
theorem scan_setting {key before after value : Bytes} (keyword : Keyword key)
    (blankBefore : ∀ byte ∈ before, isspace byte = true)
    (blankAfter : ∀ byte ∈ after, isspace byte = true) (plain : Plain value) (rest : Bytes) :
    scan .gap (key ++ before ++ 61 :: (after ++ value ++ rest)) = scan (.bare key value) rest := by
  obtain ⟨filled, all⟩ := keyword
  have word : ∀ byte ∈ key, isspace byte = false ∧ byte ≠ 61 := by simpa using all
  cases key with
  | nil => exact absurd rfl filled
  | cons byte key =>
      obtain ⟨first, others⟩ := List.forall_mem_cons.mp word
      have shape : byte :: key ++ before ++ 61 :: (after ++ value ++ rest) =
          byte :: (key ++ (before ++ 61 :: (after ++ (value ++ rest)))) := by simp
      rw [shape, scan, next, if_neg (by simp [first.1]), if_neg first.2]
      simp [scan_name others, scan_equals blankBefore, scan_assigned blankAfter, scan_plain plain]

theorem scan_blank (key value rest : Bytes) :
    scan (.bare key value) (32 :: rest) = (scan .gap rest).map ((key, value) :: ·) := by
  have blank : isspace 32 = true := by decide
  rw [scan, next, if_pos blank]
  rfl

/-! Quotes and backslashes are lost where they are not part of a value as they stand. -/

/-- How often a byte stands in the values read. -/
def weight (byte : UInt8) (settings : List Setting) : Nat :=
  (settings.map fun setting => setting.2.count byte).sum

/-- How often it stands in the value that is being read. -/
def pending (byte : UInt8) : State → Nat
  | .gap | .name _ | .named _ | .assigned _ => 0
  | .bare _ value | .bareEscape _ value | .quoted _ value | .quotedEscape _ value =>
      value.count byte

/-- No quote or backslash has been taken for syntax in the value being read. -/
def Literal : State → Prop
  | .gap | .name _ | .named _ | .assigned _ => True
  | .bare _ value => Plain value
  | .bareEscape _ _ | .quoted _ _ | .quotedEscape _ _ => False

@[simp] theorem weight_nil (byte : UInt8) : weight byte [] = 0 := rfl

@[simp] theorem weight_cons (byte : UInt8) (setting : Setting) (settings : List Setting) :
    weight byte (setting :: settings) = setting.2.count byte + weight byte settings := rfl

@[simp] theorem weight_append (byte : UInt8) (front rest : List Setting) :
    weight byte (front ++ rest) = weight byte front + weight byte rest := by
  simp [weight]

/-- Different settings that can all be looked up weigh no more than what was read. -/
theorem weight_le_of_assigned {options settings : List Setting} (byte : UInt8)
    (different : options.Nodup)
    (found : ∀ option ∈ options, assigned settings option.1 = some option.2) :
    weight byte options ≤ weight byte settings := by
  have inside : options ⊆ settings := fun option member => assigned_mem (found option member)
  obtain ⟨arranged, same, part⟩ := List.subperm_of_subset different inside
  have equal : weight byte arranged = weight byte options := (same.map _).sum_eq
  rw [← equal]
  exact (part.map _).sum_le_sum fun _ _ => Nat.zero_le _

theorem finish_weight {state : State} {settings : List Setting} (byte : UInt8)
    (read : finish state = some settings) : weight byte settings ≤ pending byte state := by
  cases state <;> simp only [finish, Option.some.injEq, reduceCtorEq] at read <;> subst read <;>
    simp [pending]

theorem next_weight {state after : State} {emitted : List Setting} {read : UInt8} (byte : UInt8)
    (step : next state read = some (emitted, after)) :
    weight byte emitted + pending byte after ≤ pending byte state + [read].count byte := by
  revert step
  fun_cases next state read <;> rintro ⟨⟩ <;> simp [pending]

theorem scan_weight {state : State} {text : Bytes} {settings : List Setting} (byte : UInt8)
    (read : scan state text = some settings) :
    weight byte settings ≤ pending byte state + text.count byte := by
  induction text generalizing state settings with
  | nil => simpa using finish_weight byte read
  | cons head rest ih =>
      rw [scan] at read
      split at read
      · cases read
      · rename_i emitted after step
        obtain ⟨later, ran, rfl⟩ := Option.map_eq_some_iff.mp read
        have here := next_weight byte step
        have there := ih ran
        rw [weight_append, ← List.singleton_append, List.count_append]
        omega

/-- A step that loses neither a quote nor a backslash takes none for syntax. -/
theorem next_literal {state after : State} {emitted : List Setting} {read : UInt8}
    (step : next state read = some (emitted, after)) (literal : Literal state)
    (kept : ∀ byte : UInt8, byte = 39 ∨ byte = 92 →
      pending byte state + [read].count byte ≤ weight byte emitted + pending byte after) :
    Literal after ∧ ∀ setting ∈ emitted, Plain setting.2 := by
  have quotes := kept 39 (.inl rfl)
  have escapes := kept 92 (.inr rfl)
  clear kept
  revert step
  fun_cases next state read <;> rintro ⟨⟩ <;> simp_all [pending, Literal]
  · -- the first byte of a value
    apply plain_single <;> assumption
  · -- a further byte of it
    apply plain_concat <;> assumption

/-- Only a blank and an equals sign leave a keyword without a value. -/
theorem next_assigned {state : State} {emitted : List Setting} {read : UInt8} {key : Bytes}
    (step : next state read = some (emitted, .assigned key)) :
    isspace read = true ∨ read = 61 := by
  revert step
  fun_cases next state read <;> rintro ⟨⟩ <;> simp_all

theorem finish_literal {state : State} {settings : List Setting}
    (read : finish state = some settings) (literal : Literal state)
    (begun : ∀ key, state ≠ .assigned key) : ∀ setting ∈ settings, Plain setting.2 := by
  cases state with
  | gap =>
      cases read
      exact fun _ member => absurd member List.not_mem_nil
  | assigned key => exact absurd rfl (begun key)
  | bare key value =>
      cases read
      intro setting member
      rw [List.mem_singleton.mp member]
      exact literal
  | bareEscape key value => cases literal
  | name key => cases read
  | named key => cases read
  | quoted key value => cases read
  | quotedEscape key value => cases read

/-- A text whose values have all its quotes and backslashes, and that does not end
before a value, has only plain values. -/
theorem scan_literal {state : State} {text : Bytes} {settings : List Setting}
    (read : scan state text = some settings) (literal : Literal state)
    (begun : text = [] → ∀ key, state ≠ .assigned key)
    (ends : ∀ byte ∈ text.getLast?, isspace byte = false ∧ byte ≠ 61)
    (kept : ∀ byte : UInt8, byte = 39 ∨ byte = 92 →
      pending byte state + text.count byte ≤ weight byte settings) :
    ∀ setting ∈ settings, Plain setting.2 := by
  induction text generalizing state settings with
  | nil => exact finish_literal read literal (begun rfl)
  | cons head rest ih =>
      rw [scan] at read
      split at read
      · cases read
      · rename_i emitted after step
        obtain ⟨later, ran, rfl⟩ := Option.map_eq_some_iff.mp read
        -- each byte is lost neither in this step nor in the rest of the text
        have shares : ∀ byte : UInt8, byte = 39 ∨ byte = 92 →
            pending byte state + [head].count byte ≤ weight byte emitted + pending byte after ∧
              pending byte after + rest.count byte ≤ weight byte later := by
          intro byte special
          have all := kept byte special
          have here := next_weight byte step
          have there := scan_weight byte ran
          rw [weight_append, ← List.singleton_append, List.count_append] at all
          omega
        obtain ⟨goesOn, plain⟩ := next_literal step literal fun byte special =>
          (shares byte special).1
        have notBare : rest = [] → ∀ key, after ≠ .assigned key := by
          rintro rfl key rfl
          have last := ends head rfl
          rcases next_assigned step with blank | equals
          · rw [last.1] at blank
            cases blank
          · exact last.2 equals
        have endsLater : ∀ byte ∈ rest.getLast?, isspace byte = false ∧ byte ≠ 61 := by
          intro byte last
          apply ends byte
          rw [List.getLast?_cons, Option.mem_def.mp last]
          rfl
        have plainLater := ih ran goesOn notBare endsLater fun byte special =>
          (shares byte special).2
        intro setting member
        rcases List.mem_append.mp member with early | late
        · exact plain setting early
        · exact plainLater setting late

theorem parse_plain {text : Bytes} {options settings : List Setting}
    (read : parse text = some settings)
    (ends : ∀ byte ∈ text.getLast?, isspace byte = false ∧ byte ≠ 61)
    (different : options.Nodup)
    (found : ∀ option ∈ options, assigned settings option.1 = some option.2)
    (complete : ∀ byte : UInt8, byte = 39 ∨ byte = 92 → text.count byte ≤ weight byte options) :
    ∀ option ∈ options, Plain option.2 := by
  have plain := scan_literal read trivial (fun _ _ => State.noConfusion) ends fun byte special =>
    by
      have enough := complete byte special
      have known := weight_le_of_assigned byte different found
      simp only [pending]
      omega
  intro option member
  exact plain _ (assigned_mem (found option member))

end ConnInfo
