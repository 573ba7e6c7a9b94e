import Mathlib.Data.List.Find
import Mathlib.Data.List.TakeWhile
import LnpResolver.Doubles
import LnpResolver.RequestWire

/-!
JSON documents as the drivers see them: the struct of libs/cJSON.h, the lookup of
libs/cJSON.c, the getters of libs/jsonxx.h and drivers/JsonHelpers. What holds for
every parser and printer is stated over the class `CJson`; those of libs/cJSON.c are
an instance of it. Strings and names are C strings: they are stored up to the first
NUL byte of what is written.
-/

namespace LnpResolver.JsonItems

open PackedBytes RequestWire DecimalNumerals Doubles

inductive Json where
  | null
  | bool (value : Bool)
  | number (valueint : Int) (valuedouble : Double)
  | string (valuestring : Bytes)
  | array (items : List Json)
  | object (members : List (Bytes × Json))

/-- The part of a byte string that a `const char *` reader sees. -/
def cString (data : Bytes) : Bytes := data.takeWhile (· ≠ 0)

theorem cString_eq_self {text : Bytes} (noNul : 0 ∉ text) : cString text = text := by
  apply List.takeWhile_eq_self_iff.mpr
  intro byte member
  exact decide_eq_true fun zero => noNul (zero ▸ member)

theorem cString_noNul (text : Bytes) : 0 ∉ cString text := by
  intro member
  simpa using List.mem_takeWhile_imp member

theorem cString_eq_self_iff (text : Bytes) : cString text = text ↔ 0 ∉ text :=
  ⟨fun same => same ▸ cString_noNul text, cString_eq_self⟩

/-! Documents as they are written: a number is an integer literal, or a numeral with a
fraction or an exponent. -/

inductive Written where
  | null
  | bool (value : Bool)
  | integer (literal : Int)
  | fraction (numeral : Numeral)
  | string (text : Bytes)
  | array (items : List Written)
  | object (members : List (Bytes × Written))

def intMax : Int := 2147483647
def intMin : Int := -2147483648

/-- parse_number saturates what an int cannot hold. -/
def valueint (literal : Int) : Int :=
  if literal ≥ intMax then intMax
  else if literal ≤ intMin then intMin
  else literal

def numberValueint (number : Double) : Int := number.saturated intMin intMax

mutual

def Written.stored : Written → Json
  | .null => .null
  | .bool value => .bool value
  | .integer literal => .number (valueint literal) (ofInteger literal)
  | .fraction numeral => .number (numberValueint (ofNumeral numeral)) (ofNumeral numeral)
  | .string text => .string (cString text)
  | .array items => .array (storedItems items)
  | .object members => .object (storedMembers members)

def storedItems : List Written → List Json
  | [] => []
  | item :: items => item.stored :: storedItems items

def storedMembers : List (Bytes × Written) → List (Bytes × Json)
  | [] => []
  | (name, item) :: members => (cString name, item.stored) :: storedMembers members

end

/-- The number that is written is this integer. -/
def Written.IsInteger (number : Int) : Written → Prop
  | .integer literal => literal = number
  | .fraction numeral => numeral.value = number
  | _ => False

/-- However an integer is written, its valueint is the one of the literal. -/
theorem stored_integer {value : Written} {number : Int} (whole : value.IsInteger number) :
    ∃ valuedouble, value.stored = .number (valueint number) valuedouble := by
  cases value with
  | integer literal =>
      cases whole
      exact ⟨_, rfl⟩
  | fraction numeral =>
      have saturated : numberValueint (ofNumeral numeral) = valueint number :=
        saturated_numeral intMin intMax numeral (by decide) (by decide) (by decide) (by decide)
          number whole
      exact ⟨_, by rw [Written.stored, saturated]⟩
  | null | bool | string | array | object => cases whole

class CJson where
  parse : Bytes → Option Json
  printUnformatted : Json → Bytes

def decimal (value : Int) : Bytes := bytesOf (toString value)

def lower (byte : UInt8) : UInt8 := if 65 ≤ byte ∧ byte ≤ 90 then byte + 32 else byte

def getObjectItem (root : Json) (name : Bytes) : Option Json :=
  match root with
  | .object members =>
      (members.find? fun member => member.1.map lower == (cString name).map lower).map Prod.snd
  | _ => none

/-- What a document has under a name. The case of letters does not matter. -/
def valueUnder (members : List (Bytes × Written)) (name : Bytes) : Option Written :=
  (members.find? fun member => member.1.map lower == name.map lower).map Prod.snd

/-- What cJSON finds under it, since it holds the names as C strings. -/
def foundUnder (members : List (Bytes × Written)) (name : Bytes) : Option Written :=
  (members.find? fun member => (cString member.1).map lower == (cString name).map lower).map
    Prod.snd

/-- No other member stands for the one of this name because its own name is cut. -/
def UnderOwnName (members : List (Bytes × Written)) (name : Bytes) : Prop :=
  foundUnder members name = valueUnder members name

theorem storedMembers_eq_map (members : List (Bytes × Written)) :
    storedMembers members = members.map fun member => (cString member.1, member.2.stored) := by
  induction members with
  | nil => rfl
  | cons member members ih =>
      obtain ⟨name, item⟩ := member
      rw [storedMembers, ih]
      rfl

theorem getObjectItem_stored (members : List (Bytes × Written)) (name : Bytes) :
    getObjectItem (Written.object members).stored name =
      (foundUnder members name).map Written.stored := by
  rw [Written.stored, storedMembers_eq_map]
  simp only [getObjectItem, foundUnder, List.find?_map, Option.map_map]
  rfl

theorem underOwnName_plain {members : List (Bytes × Written)} {name : Bytes}
    (names : ∀ member ∈ members, 0 ∉ member.1) (plain : 0 ∉ name) : UnderOwnName members name := by
  rw [UnderOwnName, foundUnder, valueUnder, cString_eq_self plain]
  congr 1
  apply List.find?_congr
  intro member inside
  rw [cString_eq_self (names member inside)]

def quote : UInt8 := 34

/-- `compare(size() - 1, ...)` on an empty string starts behind its end. -/
def compareOutOfRange : Bytes := bytesOf
  "basic_string::compare: __pos (which is 18446744073709551615) > this->size() (which is 0)"

/-- The quote removal both string getters perform; it throws on what is empty
after the first erase. -/
def eraseQuotes (value : Bytes) : Except Bytes Bytes :=
  let value := if value.head? = some quote then value.tail else value
  if value.isEmpty then .error compareOutOfRange
  else if value.getLast? = some quote then .ok value.dropLast
  else .ok value

/-! libs/jsonxx: every failure is a std::exception with its text. -/

def jsonxx [CJson] (data : Bytes) : Except Bytes Json :=
  match CJson.parse (cString data) with
  | some root => .ok root
  | none => .error (bytesOf "jsonxx: data parsing error")

def jsonxxItem (root : Json) (value : String) : Except Bytes Json :=
  match root with
  | .object _ =>
      match getObjectItem root (bytesOf value) with
      | some item => .ok item
      | none => .error (bytesOf "jsonxx: not found parsing item - " ++ bytesOf value)
  | _ => .error (bytesOf "jsonxx: item parsing internal error")

def itemString : Json → Except Bytes Bytes
  | .string value => eraseQuotes value
  | _ => .ok []

def itemInteger : Json → Int
  | .number valueint _ => valueint
  | _ => 0

def itemBool : Json → Bool
  | .bool value => value
  | _ => false

/-! drivers/JsonHelpers. -/

def getJsonString : Json → Except Bytes Bytes
  | .string value => eraseQuotes value
  | _ => .error (bytesOf "getJsonKey unexpected type for string return")

def getJsonInt : Json → Except Bytes Int
  | .number valueint _ => .ok valueint
  | _ => .error (bytesOf "getJsonKey unexpected type for integral return")

def getJsonValueByKey (getJsonValue : Json → Except Bytes α) (root : Json) (key : String) :
    Except Bytes α :=
  match root with
  | .object _ =>
      match getObjectItem root (bytesOf key) with
      | some item => getJsonValue item
      | none => .error (bytesOf "getJsonValueByKey key not found: ")
  | _ => .error (bytesOf "getJsonValueByKey passed non-object item")

end LnpResolver.JsonItems
