import LnpResolver.Decimals
import LnpResolver.ResolverSteps
import LnpResolver.JsonGetters

/-!
The answers of the Coure ANQ driver: the operators map that is read with the
configuration, and what the driver makes of the first element of "Result". Names and
strings are those that cJSON holds, up to the first NUL byte of what is written.
-/

namespace LnpResolver.CoureAnqAnswers

open PackedBytes RequestWire Doubles JsonItems DriverInterface Drivers DriverConfig JsonGetters
open ResolverSteps (emplace_lookup)

def defaultKey : Bytes := bytesOf "default"

def IsNumber : Written → Prop
  | .integer _ | .fraction _ => True
  | _ => False

/-- The rule for the map: numbers only, and one of them is the default. -/
def ValidMap (members : List (Bytes × Written)) : Prop :=
  (∀ member ∈ members, IsNumber member.2) ∧
    members.countP (fun member => cString member.1 = defaultKey) = 1

/-- The first entry of an operator, else the default. -/
def configured (members : List (Bytes × Written)) (operatorName : Bytes) : Option Written :=
  ((members.find? fun member => cString member.1 = operatorName).or
    (members.find? fun member => cString member.1 = defaultKey)).map Prod.snd

/-! OperatorsMap_t::parse, by induction on the members. -/

/-- A member as the loop converts it. -/
def mapped : Json → Option UInt32
  | .number valueint _ => some (UInt32.ofInt valueint)
  | _ => none

theorem parseOperators_number (name : Bytes) (valueint : Int) (valuedouble : Double)
    (members : List (Bytes × Json)) (operators : OperatorsMap) (hasDefault : Bool) :
    parseOperators ((name, .number valueint valuedouble) :: members) operators hasDefault =
      if name = defaultKey then
        if hasDefault then .error (bytesOf "OperatorsMap_t::parse: duplicate \"default\" key")
        else parseOperators members { operators with defaultValue := UInt32.ofInt valueint } true
      else parseOperators members
        { operators with entries := Resolver.emplace operators.entries name (UInt32.ofInt valueint) }
        hasDefault := by
  rfl

theorem parseOperators_ok_iff (members : List (Bytes × Json)) (operators : OperatorsMap)
    (hasDefault : Bool) :
    (∃ after, parseOperators members operators hasDefault = .ok after) ↔
      (∀ member ∈ members, (mapped member.2).isSome) ∧
        members.countP (fun member => member.1 = defaultKey) + hasDefault.toNat = 1 := by
  induction members generalizing operators hasDefault with
  | nil => cases hasDefault <;> simp [parseOperators]
  | cons member members ih =>
      obtain ⟨name, item⟩ := member
      rw [List.forall_mem_cons, List.countP_cons]
      cases item with
      | number valueint valuedouble =>
          rw [parseOperators_number]
          by_cases default : name = defaultKey
          · simp only [default, if_true, decide_true]
            cases hasDefault with
            | true => simp
            | false =>
                rw [if_neg Bool.false_ne_true, ih]
                simp [mapped]
          · simp only [default, if_false, decide_false]
            rw [ih]
            simp [mapped]
      | null | bool | string | array | object => simp [mapped, parseOperators]

/-- What the finished map holds: its entries without the default, and the default. -/
theorem parseOperators_holds (members : List (Bytes × Json)) (operators after : OperatorsMap)
    (hasDefault : Bool) (parsed : parseOperators members operators hasDefault = .ok after) :
    (∀ name, name ≠ defaultKey → after.entries.lookup name = (operators.entries.lookup name).or
      ((members.find? fun member => member.1 = name).bind fun member => mapped member.2)) ∧
    after.entries.lookup defaultKey = operators.entries.lookup defaultKey ∧
    some after.defaultValue = if hasDefault then some operators.defaultValue else
      (members.find? fun member => member.1 = defaultKey).bind fun member => mapped member.2 := by
  induction members generalizing operators hasDefault with
  | nil =>
      cases hasDefault with
      | false => cases parsed
      | true =>
          cases parsed
          simp
  | cons member members ih =>
      obtain ⟨name, item⟩ := member
      cases item with
      | number valueint valuedouble =>
          rw [parseOperators_number] at parsed
          by_cases default : name = defaultKey
          · rw [if_pos default] at parsed
            cases hasDefault with
            | true => cases parsed
            | false =>
                rw [if_neg Bool.false_ne_true] at parsed
                obtain ⟨named, kept, value⟩ := ih _ _ parsed
                refine ⟨?_, kept, ?_⟩
                · intro other different
                  have skipped : name ≠ other := default ▸ Ne.symm different
                  simpa [skipped] using named other different
                · simpa [default, mapped] using value
          · rw [if_neg default] at parsed
            obtain ⟨named, kept, value⟩ := ih _ _ parsed
            simp only [emplace_lookup, default, if_false, Option.or_none] at named kept
            refine ⟨?_, kept, by simpa [default] using value⟩
            intro other different
            rw [named other different, Option.or_assoc]
            by_cases same : name = other
            · simp [same, mapped]
            · simp [same]
      | null | bool | string | array | object => cases parsed

theorem mapped_isSome_iff (value : Written) : (mapped value.stored).isSome ↔ IsNumber value := by
  cases value <;> simp [Written.stored, mapped, IsNumber]

theorem operatorsMap_ok_iff (members : List (Bytes × Written)) :
    (∃ operators, operatorsMap (Written.object members).stored = .ok operators) ↔
      ValidMap members := by
  rw [Written.stored, operatorsMap, parseOperators_ok_iff, storedMembers_eq_map, List.countP_map,
    List.forall_mem_map]
  simp only [mapped_isSome_iff]
  rfl

theorem operatorsMap_holds {members : List (Bytes × Written)} {operators : OperatorsMap}
    (parsed : operatorsMap (Written.object members).stored = .ok operators) :
    (∀ name, name ≠ defaultKey → operators.entries.lookup name =
      (members.find? fun member => cString member.1 = name).bind
        fun member => mapped member.2.stored) ∧
    operators.entries.lookup defaultKey = none ∧
    some operators.defaultValue =
      (members.find? fun member => cString member.1 = defaultKey).bind
        fun member => mapped member.2.stored := by
  have stored : ∀ key, ((storedMembers members).find? fun member => member.1 = key).bind
      (fun member => mapped member.2) =
        (members.find? fun member => cString member.1 = key).bind
          fun member => mapped member.2.stored := by
    intro key
    rw [storedMembers_eq_map, List.find?_map, Option.bind_map]
    rfl
  have held := parseOperators_holds _ _ _ _ parsed
  simpa only [stored, AList.lookup_empty, Option.none_or, Bool.false_eq_true, if_false] using held

theorem resolve_configured (members : List (Bytes × Written)) (operators : OperatorsMap)
    (parsed : operatorsMap (Written.object members).stored = .ok operators) (name : Bytes) :
    ∃ value, configured members name = some value ∧
      mapped value.stored = some (operators.resolve name) := by
  obtain ⟨numbers, single⟩ := (operatorsMap_ok_iff members).mp ⟨operators, parsed⟩
  have number : ∀ key member, (members.find? fun member => cString member.1 = key) = some member →
      ∃ value, mapped member.2.stored = some value := by
    intro key member found
    apply Option.isSome_iff_exists.mp
    rw [mapped_isSome_iff]
    exact numbers member (List.mem_of_find?_eq_some found)
  obtain ⟨default, found⟩ : ∃ default,
      (members.find? fun member => cString member.1 = defaultKey) = some default := by
    have positive : 0 < members.countP fun member => cString member.1 = defaultKey := by
      rw [single]
      exact Nat.one_pos
    obtain ⟨default, member, isDefault⟩ := List.countP_pos_iff.mp positive
    exact Option.isSome_iff_exists.mp (List.find?_isSome.mpr ⟨default, member, isDefault⟩)
  obtain ⟨named, kept, value⟩ := operatorsMap_holds parsed
  rw [found, Option.bind_some] at value
  unfold configured OperatorsMap.resolve
  by_cases isDefault : name = defaultKey
  · subst isDefault
    exact ⟨default.2, by simp [found], by rw [kept]; exact value.symm⟩
  · rw [named name isDefault]
    cases entry : members.find? fun member => cString member.1 = name with
    | none => exact ⟨default.2, by simp [found], value.symm⟩
    | some member =>
        obtain ⟨converted, exact⟩ := number name member entry
        exact ⟨member.2, by simp, by simp [exact]⟩

/-! The reply. Its first result is an object with the fields IsPorted, Number and
TheOperator. -/

section Replies

variable [CJson]

def FirstResult (data : Bytes) (fields : List (Bytes × Json)) : Prop :=
  ∃ members others, CJson.parse (cString data) = some (.object members) ∧
    getObjectItem (.object members) (bytesOf "Result") = some (.array (.object fields :: others))

/-- A number, read as an int. -/
def IsPorted (fields : List (Bytes × Json)) (ported : Int) : Prop :=
  ∃ valuedouble, getObjectItem (.object fields) (bytesOf "IsPorted") =
    some (.number ported valuedouble)

structure Answer (members : List (Bytes × Written)) (fields : List (Bytes × Json)) (number : Bytes)
    (outcome : ParseOutcome) : Prop where
  notPorted : IsPorted fields 0 ∨ IsPorted fields 2 → ∃ after, outcome = .ok () after ∧
    after.localRoutingNumber = number ∧ after.localRoutingTag = []
  ported : ∀ lrn operatorName, IsPorted fields 1 → HasText fields "Number" lrn →
    HasText fields "TheOperator" operatorName → ∃ after, outcome = .ok () after ∧
      after.localRoutingNumber = unquoted lrn ∧
      ∀ value integer, configured members (unquoted operatorName) = some value →
        value.IsInteger integer → 0 ≤ integer → integer ≤ intMax →
        after.localRoutingTag = decimal integer
  others : ¬ (IsPorted fields 0 ∨ IsPorted fields 2) →
    ¬ (IsPorted fields 1 ∧ (∃ lrn, HasText fields "Number" lrn) ∧
      ∃ operatorName, HasText fields "TheOperator" operatorName) →
    ∃ exception after, outcome = .error exception after

theorem parse_first_result (driver : CHttpCoureAnqDriver) (data : Bytes)
    (fields : List (Bytes × Json)) (first : FirstResult data fields)
    (request : ResolverRequest) :
    driver.parse data request = driver.parseElement (.object fields) request.data
      { request.result with rawData := data } := by
  obtain ⟨members, others, parsed, result⟩ := first
  have element : resultElement (.object members) = .ok (.object fields) := by
    rw [resultElement, result]
  simp only [CHttpCoureAnqDriver.parse, parsed, element]

theorem parse_no_result (driver : CHttpCoureAnqDriver) (data : Bytes)
    (none : ∀ fields, ¬ FirstResult data fields) (request : ResolverRequest) :
    ∃ exception after, driver.parse data request = .error exception after := by
  unfold CHttpCoureAnqDriver.parse
  cases parsed : CJson.parse (cString data) with
  | none => exact ⟨_, _, rfl⟩
  | some root =>
      simp only
      cases element : resultElement root with
      | error text => exact ⟨_, _, rfl⟩
      | ok first =>
          exfalso
          cases root with
          | object members =>
              simp only [resultElement] at element
              -- only an array with an object in front leads to an element
              cases found : getObjectItem (.object members) (bytesOf "Result") with
              | none => simp [found] at element
              | some value =>
                  rw [found] at element
                  cases value with
                  | array items =>
                      cases items with
                      | nil => cases element
                      | cons item others =>
                          cases item with
                          | object fields => exact none fields ⟨members, others, parsed, found⟩
                          | null | bool | number | string | array => cases element
                  | null | bool | number | string | object => cases element
          | null | bool | number | string | array => cases element

omit [CJson] in
theorem isPorted_iff (fields : List (Bytes × Json)) (ported : Int) :
    getJsonValueByKey getJsonInt (.object fields) "IsPorted" = .ok ported ↔
      IsPorted fields ported := by
  rw [getJsonValueByKey_ok_iff]
  simp only [getJsonInt_ok_iff, IsPorted]
  constructor
  · rintro ⟨_, found, valuedouble, rfl⟩
    exact ⟨valuedouble, found⟩
  · rintro ⟨valuedouble, found⟩
    exact ⟨_, found, valuedouble, rfl⟩

omit [CJson] in
theorem tag_exact (value : Written) (tag : UInt32) (integer : Int) (whole : value.IsInteger integer)
    (low : 0 ≤ integer) (high : integer ≤ intMax) (converted : mapped value.stored = some tag) :
    decimal tag.toNat = decimal integer := by
  have smallest : intMin = -2147483648 := rfl
  have largest : intMax = 2147483647 := rfl
  obtain ⟨valuedouble, stored⟩ := stored_integer whole
  rw [stored, mapped, Decimals.valueint_in_range (by omega) high] at converted
  have number : (tag.toNat : Int) = integer := by
    rw [← Option.some.inj converted, toNat_uint32]
    omega
  rw [number]

omit [CJson] in
theorem parseElement_answers (members : List (Bytes × Written)) (fields : List (Bytes × Json))
    (driver : CHttpCoureAnqDriver)
    (parsed : operatorsMap (Written.object members).stored = .ok driver.operatorsMap)
    (number : Bytes) (result : SResult) :
    Answer members fields number (driver.parseElement (.object fields) number result) := by
  unfold CHttpCoureAnqDriver.parseElement
  cases read : getJsonValueByKey getJsonInt (.object fields) "IsPorted" with
  | error what =>
      have none : ∀ ported, ¬ IsPorted fields ported := by
        intro ported isPorted
        rw [(isPorted_iff fields ported).mpr isPorted] at read
        cases read
      refine ⟨?_, ?_, fun _ _ => ⟨_, _, rfl⟩⟩
      · rintro (zero | two)
        · exact absurd zero (none 0)
        · exact absurd two (none 2)
      · intro lrn operatorName one
        exact absurd one (none 1)
  | ok value =>
      have only : ∀ ported, IsPorted fields ported ↔ value = ported := by
        intro ported
        rw [← isPorted_iff, read, Except.ok.injEq]
      simp only
      by_cases zeroOrTwo : value = 0 ∨ value = 2
      · rw [if_pos zeroOrTwo]
        refine ⟨fun _ => ⟨_, rfl, rfl, rfl⟩, ?_, ?_⟩
        · intro lrn operatorName one
          have := (only 1).mp one
          omega
        · intro neither
          simp only [only] at neither
          exact absurd zeroOrTwo neither
      · rw [if_neg zeroOrTwo]
        have notPorted : ¬ (IsPorted fields 0 ∨ IsPorted fields 2) := by
          simpa only [only] using zeroOrTwo
        by_cases one : value = 1
        · rw [if_pos one]
          refine ⟨fun ported => absurd ported notPorted, ?_, ?_⟩
          · intro lrn operatorName _ hasLrn hasOperator
            have first := (hasText_iff fields "Number" _).mpr ⟨lrn, hasLrn, rfl⟩
            have second := (hasText_iff fields "TheOperator" _).mpr ⟨operatorName, hasOperator, rfl⟩
            simp only [first, second]
            refine ⟨_, rfl, rfl, ?_⟩
            intro value integer isConfigured whole low high
            obtain ⟨found, known, converted⟩ :=
              resolve_configured members _ parsed (unquoted operatorName)
            rw [isConfigured] at known
            cases known
            exact tag_exact value _ integer whole low high converted
          · intro _ incomplete
            cases first : getJsonValueByKey getJsonString (.object fields) "Number" with
            | error what => exact ⟨_, _, rfl⟩
            | ok lrn =>
                cases second : getJsonValueByKey getJsonString (.object fields) "TheOperator" with
                | error what => exact ⟨_, _, rfl⟩
                | ok operatorName =>
                    obtain ⟨text, hasLrn, -⟩ := (hasText_iff _ _ _).mp first
                    obtain ⟨name, hasOperator, -⟩ := (hasText_iff _ _ _).mp second
                    exact absurd ⟨(only 1).mpr one, ⟨text, hasLrn⟩, name, hasOperator⟩ incomplete
        · rw [if_neg one]
          refine ⟨fun ported => absurd ported notPorted, ?_, fun _ _ => ⟨_, _, rfl⟩⟩
          intro lrn operatorName isOne
          exact absurd ((only 1).mp isOne) one

/-- Which maps are accepted, and how a driver with such a map answers. -/
theorem coure_anq_answers (members : List (Bytes × Written)) :
    ((∃ operators, operatorsMap (Written.object members).stored = .ok operators) ↔
      ValidMap members) ∧
    (∀ driver : CHttpCoureAnqDriver,
      operatorsMap (Written.object members).stored = .ok driver.operatorsMap →
      ∀ data fields, FirstResult data fields → ∀ request : ResolverRequest,
        Answer members fields request.data (driver.parse data request)) ∧
    ∀ (driver : CHttpCoureAnqDriver) (data : Bytes), (∀ fields, ¬ FirstResult data fields) →
      ∀ request, ∃ exception after, driver.parse data request = .error exception after := by
  refine ⟨operatorsMap_ok_iff members, ?_, parse_no_result⟩
  intro driver parsed data fields first request
  rw [parse_first_result driver data fields first request]
  exact parseElement_answers members fields driver parsed request.data _

end Replies

/-! Two replies for a map with one operator, one of them with quotes around the number. -/

def sampleMap : List (Bytes × Written) :=
  [(defaultKey, .integer 9), (bytesOf "ETS", .integer 3)]

/-- The name of its operator is cut at the NUL byte. -/
def cutMap : List (Bytes × Written) :=
  [(defaultKey, .integer 9), (bytesOf "ETS" ++ 0 :: bytesOf "x", .integer 3)]

def sampleFields (number : Bytes) : List (Bytes × Json) :=
  storedMembers [(bytesOf "IsPorted", .integer 1), (bytesOf "Number", .string number),
    (bytesOf "TheOperator", .string (bytesOf "ETS"))]

def sampleReply (number : Bytes) : Json :=
  .object [(bytesOf "Result", .array [.object (sampleFields number)])]

def plainReply : Bytes :=
  bytesOf "\x7b\"Result\":[\x7b\"IsPorted\":1,\"Number\":\"5\",\"TheOperator\":\"ETS\"\x7d]\x7d"

def quotedReply : Bytes :=
  bytesOf "\x7b\"Result\":[\x7b\"IsPorted\":1,\"Number\":\"\\\"5\\\"\",\"TheOperator\":\"ETS\"\x7d]\x7d"

@[reducible]
def etsReplies : CJson where
  parse := fun text =>
    if text = plainReply then some (sampleReply (bytesOf "5"))
    else if text = quotedReply then some (sampleReply (bytesOf "\"5\""))
    else none
  printUnformatted := fun _ => []

attribute [local instance] etsReplies

theorem sample_driver : ∃ driver : CHttpCoureAnqDriver,
    operatorsMap (Written.object sampleMap).stored = .ok driver.operatorsMap :=
  ⟨⟨1, [], [], [], [], 4000, _⟩, rfl⟩

theorem plain_reply_answered : ∃ driver : CHttpCoureAnqDriver,
    operatorsMap (Written.object sampleMap).stored = .ok driver.operatorsMap ∧
    ∃ after, driver.parse plainReply { data := bytesOf "4" } = .ok () after ∧
      after.localRoutingNumber = bytesOf "5" ∧ after.localRoutingTag = bytesOf "3" := by
  obtain ⟨driver, parsed⟩ := sample_driver
  have first : FirstResult plainReply (sampleFields (bytesOf "5")) := ⟨_, [], rfl, rfl⟩
  have answer := (coure_anq_answers sampleMap).2.1 driver parsed _ _ first { data := bytesOf "4" }
  obtain ⟨after, answered, number, tag⟩ := answer.ported (bytesOf "5") (bytesOf "ETS")
    ⟨_, rfl⟩ ⟨rfl, by decide, by decide⟩ ⟨rfl, by decide, by decide⟩
  exact ⟨driver, parsed, after, answered, number,
    tag (.integer 3) 3 rfl rfl (by decide) (by decide)⟩

/-- A number in quotes does not make the driver raise an error, and the entry of another
name may be taken for the one of the operator. -/
theorem quoted_reply_answered :
    FirstResult quotedReply (sampleFields (bytesOf "\"5\"")) ∧
    IsPorted (sampleFields (bytesOf "\"5\"")) 1 ∧
    (∃ driver : CHttpCoureAnqDriver,
      operatorsMap (Written.object sampleMap).stored = .ok driver.operatorsMap ∧
      ∃ after, driver.parse quotedReply { data := bytesOf "4" } = .ok () after ∧
        after.localRoutingNumber = bytesOf "5") ∧
    ∃ operators, operatorsMap (Written.object cutMap).stored = .ok operators ∧
      operators.resolve (bytesOf "ETS") = 3 := by
  obtain ⟨driver, parsed⟩ := sample_driver
  have first : FirstResult quotedReply (sampleFields (bytesOf "\"5\"")) := ⟨_, [], rfl, rfl⟩
  refine ⟨first, ⟨_, rfl⟩, ⟨driver, parsed, ?_⟩, _, rfl, rfl⟩
  rw [parse_first_result driver _ _ first]
  exact ⟨_, rfl, rfl⟩

end LnpResolver.CoureAnqAnswers
