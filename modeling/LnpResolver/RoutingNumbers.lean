import LnpResolver.SipContacts
import LnpResolver.JsonGetters
import LnpResolver.Throwing

/-!
The routing number of a successful answer. Each driver takes it from its
provider's reply in its own way; `EmptyAnswer` lists the replies that pass for an
answer and have no number in them.
-/

namespace LnpResolver.RoutingNumbers

open PackedBytes RequestWire JsonItems JsonGetters DriverInterface Drivers

section Answers

variable [CJson]

/-- The result a request completes with: found by resolve itself, or parsed from
the body of the HTTP response. -/
def completes (driver : Driver) (sip : Bytes → SipOutcome) (body : Bytes)
    (request : ResolverRequest) : Option SResult :=
  match driver.resolve sip request with
  | .threw _ => none
  | .done result => some result
  | .http _ =>
      match driver.parse body request with
      | .ok _ result => some result
      | .error _ _ => none

/-! The replies without a number, by driver. -/

/-- The jsonxx getter makes an empty string of this item. -/
def EmptyItem : Json → Prop
  | .string text => text = [quote, quote]
  | _ => True

/-- The string getters throw on this item. -/
def Unquotable : Json → Prop
  | .string text => text = [] ∨ text = [quote]
  | _ => False

def MemberOf (body : Bytes) (key : String) (item : Json) : Prop :=
  ∃ members, CJson.parse (cString body) = some (.object members) ∧
    getObjectItem (.object members) (bytesOf key) = some item

/-- No user part, or one whose first rn parameter is spelled "rn==". -/
def EmptyContact (contact : Bytes) : Prop :=
  contact = [] ∨ (semicolon ∈ contact ∧
    ((split contact semicolon).find? fun element => (rnValue element).isSome) =
      some (bytesOf "rn=="))

/-- The first result says that the number is ported, to nowhere. -/
def EmptyElement (element : Json) : Prop :=
  ∃ members operatorName valuedouble, element = .object members ∧
    getObjectItem element (bytesOf "IsPorted") = some (.number 1 valuedouble) ∧
    getObjectItem element (bytesOf "Number") = some (.string [quote, quote]) ∧
    getObjectItem element (bytesOf "TheOperator") = some (.string operatorName) ∧
    ¬ Unquotable (.string operatorName)

def EmptyAnswer (driver : Driver) (sip : Bytes → SipOutcome) (body : Bytes)
    (request : ResolverRequest) : Prop :=
  match driver with
  | .sip driver => ∃ contact, sip (cString (driver.dstUri request)) = .ok contact ∧
      EmptyContact contact
  | .thinq _ => ∃ item, MemberOf body "lrn" item ∧ EmptyItem item
  | .bulkvs _ => ∃ item, MemberOf body "name" item ∧ EmptyItem item
  | .alcazar _ => (∃ item, MemberOf body "LRN" item ∧ EmptyItem item) ∧
      ∃ item, MemberOf body "JURISDICTION" item ∧ ¬ Unquotable item
  | .coureAnq _ => ∃ root element, CJson.parse (cString body) = some root ∧
      resultElement root = .ok element ∧ EmptyElement element
  | .mhashCsv driver => ∃ row, driver.perform request.data = some row ∧ row.field.getD 2 [] = []
  | .cnam _ => False

/-! The string getters. -/

omit [CJson] in
theorem eraseQuotes_nil_iff (value : Bytes) :
    eraseQuotes value = .ok [] ↔ value = [quote, quote] := by
  constructor
  · intro erased
    cases value with
    | nil => cases erased
    | cons first rest =>
        by_cases quoted : first = quote
        · subst quoted
          cases rest with
          | nil => cases erased
          | cons second more =>
              simp only [eraseQuotes, List.head?_cons, if_true, List.tail_cons,
                List.isEmpty_cons, Bool.false_eq_true, if_false] at erased
              split at erased
              · rename_i last
                have alone : more = [] := by
                  cases more with
                  | nil => rfl
                  | cons third others => cases erased
                subst alone
                rw [List.getLast?_singleton] at last
                rw [Option.some.inj last]
              · cases erased
        · simp only [eraseQuotes, List.head?_cons, Option.some.injEq, quoted, if_false,
            List.isEmpty_cons, Bool.false_eq_true] at erased
          split at erased
          · rename_i last
            have alone : rest = [] := by
              cases rest with
              | nil => rfl
              | cons second others => cases erased
            subst alone
            rw [List.getLast?_singleton] at last
            exact absurd (Option.some.inj last) quoted
          · cases erased
  · rintro rfl
    rfl

omit [CJson] in
theorem eraseQuotes_ok_iff (value : Bytes) :
    (∃ text, eraseQuotes value = .ok text) ↔ ¬ (value = [] ∨ value = [quote]) := by
  rw [eraseQuotes_eq]
  split
  · rename_i unreadable
    simp [unreadable]
  · rename_i readable
    simp [readable]

omit [CJson] in
theorem itemString_nil_iff (item : Json) : itemString item = .ok [] ↔ EmptyItem item := by
  cases item with
  | string text => exact eraseQuotes_nil_iff text
  | null | bool | number | array | object => exact iff_of_true rfl trivial

omit [CJson] in
theorem itemString_ok_iff (item : Json) :
    (∃ text, itemString item = .ok text) ↔ ¬ Unquotable item := by
  cases item with
  | string text => exact eraseQuotes_ok_iff text
  | null | bool | number | array | object => exact iff_of_true ⟨[], rfl⟩ not_false

theorem replyString_ok_iff (body : Bytes) (key : String) (text : Bytes) :
    replyString body key = .ok text ↔ ∃ item, MemberOf body key item ∧ itemString item = .ok text := by
  simp only [replyString, Throwing.bind_ok_iff]
  constructor
  · rintro ⟨root, parsed, item, found, read⟩
    have parse : CJson.parse (cString body) = some root := by
      unfold jsonxx at parsed
      split at parsed <;> cases parsed
      assumption
    cases root with
    | object members =>
        cases present : getObjectItem (.object members) (bytesOf key) with
        | none =>
            simp only [jsonxxItem, present] at found
            cases found
        | some other =>
            simp only [jsonxxItem, present] at found
            cases found
            exact ⟨item, ⟨members, parse, present⟩, read⟩
    | null | bool | number | string | array => cases found
  · rintro ⟨item, ⟨members, parse, present⟩, read⟩
    exact ⟨.object members, by simp only [jsonxx, parse], item, by simp only [jsonxxItem, present],
      read⟩

theorem replyString_nil_iff (body : Bytes) (key : String) :
    replyString body key = .ok [] ↔ ∃ item, MemberOf body key item ∧ EmptyItem item := by
  simp only [replyString_ok_iff, itemString_nil_iff]

theorem replyString_succeeds_iff (body : Bytes) (key : String) :
    (∃ text, replyString body key = .ok text) ↔
      ∃ item, MemberOf body key item ∧ ¬ Unquotable item := by
  simp only [replyString_ok_iff, ← itemString_ok_iff]
  constructor
  · rintro ⟨text, item, member, read⟩
    exact ⟨item, member, text, read⟩
  · rintro ⟨item, member, text, read⟩
    exact ⟨text, item, member, read⟩

/-! One lemma for each driver: when does it succeed with no number. -/

omit [CJson] in
theorem rnValue_nil_iff (element : Bytes) : rnValue element = some [] ↔ element = bytesOf "rn==" := by
  rw [SipContacts.rnValue_some_iff]
  constructor
  · rintro ⟨-, ⟨filled, -⟩ | rfl⟩
    · exact absurd rfl filled
    · rfl
  · rintro rfl
    exact ⟨List.not_mem_nil, Or.inr rfl⟩

omit [CJson] in
theorem first_rn_nil_iff (elements : List Bytes) :
    elements.findSome? rnValue = some [] ↔
      (elements.find? fun element => (rnValue element).isSome) = some (bytesOf "rn==") := by
  induction elements with
  | nil => simp
  | cons element rest ih =>
      cases value : rnValue element with
      | none => simp [value, ih]
      | some number => simp [value, ← rnValue_nil_iff]

omit [CJson] in
theorem sip_parse_nil_iff (contact : Bytes) (result : SResult) :
    (∃ after, CSipDriver.parse contact result = .ok () after ∧ after.localRoutingNumber = []) ↔
      EmptyContact contact := by
  unfold CSipDriver.parse EmptyContact
  by_cases parameters : semicolon ∈ contact
  · have filled : contact ≠ [] := List.ne_nil_of_mem parameters
    simp only [parameters, if_true, filled, false_or, true_and, ← first_rn_nil_iff]
    cases (split contact semicolon).findSome? rnValue <;> simp
  · simp only [parameters, if_false, false_and, or_false]
    simp

omit [CJson] in
theorem getJsonString_nil_iff (item : Json) :
    getJsonString item = .ok [] ↔ item = .string [quote, quote] := by
  cases item with
  | string text => simpa [getJsonString] using eraseQuotes_nil_iff text
  | null | bool | number | array | object => simp [getJsonString]

omit [CJson] in
theorem getJsonString_ok_iff (item : Json) :
    (∃ text, getJsonString item = .ok text) ↔
      ∃ text, item = .string text ∧ ¬ Unquotable (.string text) := by
  cases item with
  | string text => simpa [getJsonString, Unquotable] using eraseQuotes_ok_iff text
  | null | bool | number | array | object => simp [getJsonString]

omit [CJson] in
/-- A result of the Coure driver has the number asked for, or that of a ported one. -/
theorem coure_element_ok (driver : CHttpCoureAnqDriver) (element : Json) (number : Bytes)
    (result after : SResult) (parsed : driver.parseElement element number result = .ok () after) :
    after.localRoutingNumber = number ∨
      getJsonValueByKey getJsonInt element "IsPorted" = .ok 1 ∧
      getJsonValueByKey getJsonString element "Number" = .ok after.localRoutingNumber ∧
      ∃ operatorName, getJsonValueByKey getJsonString element "TheOperator" = .ok operatorName := by
  unfold CHttpCoureAnqDriver.parseElement at parsed
  split at parsed
  · cases parsed
  · rename_i status ported
    split at parsed
    · cases parsed
      exact Or.inl rfl
    · split at parsed
      · rename_i isPorted
        subst isPorted
        split at parsed
        · cases parsed
        · rename_i lrn numbered
          simp only at parsed
          split at parsed
          · cases parsed
          · rename_i operatorName operated
            cases parsed
            exact Or.inr ⟨ported, numbered, operatorName, operated⟩
      · cases parsed

omit [CJson] in
theorem coure_element_nil_iff (driver : CHttpCoureAnqDriver) (members : List (Bytes × Json))
    (number : Bytes) (result : SResult) (asked : number ≠ []) :
    (∃ after, driver.parseElement (.object members) number result = .ok () after ∧
      after.localRoutingNumber = []) ↔ EmptyElement (.object members) := by
  constructor
  · rintro ⟨after, parsed, empty⟩
    rcases coure_element_ok driver _ _ _ _ parsed with own | ⟨ported, numbered, name, operated⟩
    · exact absurd (own.symm.trans empty) asked
    · rw [empty] at numbered
      obtain ⟨first, isFirst, readFirst⟩ := (getJsonValueByKey_ok_iff _ _ _ _).mp ported
      obtain ⟨second, isSecond, readSecond⟩ := (getJsonValueByKey_ok_iff _ _ _ _).mp numbered
      obtain ⟨third, isThird, readThird⟩ := (getJsonValueByKey_ok_iff _ _ _ _).mp operated
      obtain ⟨text, rfl, quotable⟩ := (getJsonString_ok_iff third).mp ⟨_, readThird⟩
      obtain ⟨valuedouble, rfl⟩ := (getJsonInt_ok_iff first 1).mp readFirst
      rw [(getJsonString_nil_iff second).mp readSecond] at isSecond
      exact ⟨members, text, valuedouble, rfl, isFirst, isSecond, isThird, quotable⟩
  · rintro ⟨_, operatorName, valuedouble, -, ported, numbered, operated, quotable⟩
    have first := (getJsonValueByKey_ok_iff getJsonInt members "IsPorted" 1).mpr ⟨_, ported, rfl⟩
    have second := (getJsonValueByKey_ok_iff getJsonString members "Number" []).mpr
      ⟨_, numbered, (getJsonString_nil_iff _).mpr rfl⟩
    obtain ⟨text, read⟩ := (getJsonString_ok_iff _).mpr ⟨operatorName, rfl, quotable⟩
    have third := (getJsonValueByKey_ok_iff getJsonString members "TheOperator" text).mpr
      ⟨_, operated, read⟩
    refine ⟨_, by simp only [CHttpCoureAnqDriver.parseElement, first, second, third]; rfl, rfl⟩

omit [CJson] in
theorem resultElement_object (root element : Json) (found : resultElement root = .ok element) :
    ∃ members, element = .object members := by
  unfold resultElement at found
  repeat' split at found
  all_goals cases found
  exact ⟨_, rfl⟩

theorem coure_parse_nil_iff (driver : CHttpCoureAnqDriver) (body : Bytes)
    (request : ResolverRequest) (asked : request.data ≠ []) :
    (∃ after, driver.parse body request = .ok () after ∧ after.localRoutingNumber = []) ↔
      ∃ root element, CJson.parse (cString body) = some root ∧
        resultElement root = .ok element ∧ EmptyElement element := by
  unfold CHttpCoureAnqDriver.parse
  cases parsed : CJson.parse (cString body) with
  | none => simp
  | some root =>
      cases found : resultElement root with
      | error text => simp [found]
      | ok element =>
          obtain ⟨members, rfl⟩ := resultElement_object root element found
          simp only [found, coure_element_nil_iff driver members request.data _ asked]
          constructor
          · intro empty
            exact ⟨root, _, rfl, found, empty⟩
          · rintro ⟨_, _, same, other, empty⟩
            cases same
            rw [found] at other
            cases other
            exact empty

theorem parseNumber_nil_iff (key : String) (body : Bytes) (result : SResult) :
    (∃ after, parseNumber key body result = .ok () after ∧ after.localRoutingNumber = []) ↔
      ∃ item, MemberOf body key item ∧ EmptyItem item := by
  rw [← replyString_nil_iff]
  unfold parseNumber
  cases read : replyString body key <;> simp

theorem alcazar_parse_nil_iff (body : Bytes) (result : SResult) :
    (∃ after, CHttpAlcazarDriver.parse body result = .ok () after ∧
      after.localRoutingNumber = []) ↔
      (∃ item, MemberOf body "LRN" item ∧ EmptyItem item) ∧
        ∃ item, MemberOf body "JURISDICTION" item ∧ ¬ Unquotable item := by
  rw [← replyString_nil_iff, ← replyString_succeeds_iff]
  unfold CHttpAlcazarDriver.parse
  cases number : replyString body "LRN" with
  | error what => simp
  | ok lrn => cases replyString body "JURISDICTION" <;> simp

/-- The successful answers without a number are exactly those to the empty replies. -/
theorem empty_answer_iff (driver : Driver) (sip : Bytes → SipOutcome) (body : Bytes)
    (request : ResolverRequest) (tagged : driver.driverType = driverTypeTagged)
    (asked : request.data ≠ []) :
    (∃ result, completes driver sip body request = some result ∧
      result.localRoutingNumber = []) ↔ EmptyAnswer driver sip body request := by
  cases driver with
  | sip driver =>
      simp only [completes, EmptyAnswer, Driver.resolve, CSipDriver.resolve]
      cases sip (cString (driver.dstUri request)) with
      | threw error => simp
      | fail => simp
      | ok contact =>
          have spec := sip_parse_nil_iff contact request.result
          cases parsed : CSipDriver.parse contact request.result with
          | ok _ result => simpa [parsed] using spec
          | error exception half => simpa [parsed] using spec
  | thinq driver =>
      have spec := parseNumber_nil_iff "lrn" body request.result
      simp only [completes, EmptyAnswer, Driver.resolve, CHttpThinqDriver.resolve, Driver.parse,
        CHttpThinqDriver.parse, ← spec]
      cases parseNumber "lrn" body request.result <;> simp
  | bulkvs driver =>
      have spec := parseNumber_nil_iff "name" body request.result
      simp only [completes, EmptyAnswer, Driver.resolve, CHttpBulkvsDriver.resolve, Driver.parse,
        CHttpBulkvsDriver.parse, ← spec]
      cases parseNumber "name" body request.result <;> simp
  | alcazar driver =>
      have spec := alcazar_parse_nil_iff body request.result
      simp only [completes, EmptyAnswer, Driver.resolve, CHttpAlcazarDriver.resolve, Driver.parse,
        ← spec]
      cases CHttpAlcazarDriver.parse body request.result <;> simp
  | coureAnq driver =>
      have spec := coure_parse_nil_iff driver body request asked
      simp only [completes, EmptyAnswer, Driver.resolve, CHttpCoureAnqDriver.resolve, Driver.parse,
        ← spec]
      cases driver.parse body request <;> simp
  | mhashCsv driver =>
      simp only [completes, EmptyAnswer, Driver.resolve, CMhashCsvDriver.resolve]
      cases driver.perform request.data with
      | none => simpa using asked
      | some row => simp
  | cnam driver => cases tagged

theorem answers_filled_iff (driver : Driver) (sip : Bytes → SipOutcome) (body : Bytes)
    (request : ResolverRequest) (tagged : driver.driverType = driverTypeTagged)
    (asked : request.data ≠ []) :
    (∀ result, completes driver sip body request = some result →
      result.localRoutingNumber ≠ []) ↔ ¬ EmptyAnswer driver sip body request := by
  rw [← empty_answer_iff driver sip body request tagged asked]
  constructor
  · rintro filled ⟨result, completed, empty⟩
    exact filled result completed empty
  · rintro none result completed empty
    exact none ⟨result, completed, empty⟩

end Answers

/-! ThinQ with a reply that has a number and one that has null in its place. -/

def filledReply : Bytes := bytesOf "\x7b\"lrn\":\"2\"\x7d"
def nullReply : Bytes := bytesOf "\x7b\"lrn\":null\x7d"

@[reducible]
def twoReplies : CJson where
  parse := fun text =>
    if text = filledReply then some (.object [(bytesOf "lrn", .string (bytesOf "2"))])
    else if text = nullReply then some (.object [(bytesOf "lrn", .null)])
    else none
  printUnformatted := fun _ => []

attribute [local instance] twoReplies

def provider : Driver := .thinq
  { uniqId := 1, host := bytesOf "api.thinq.com", port := 0, userName := bytesOf "u"
    token := bytesOf "t", timeout := 4000 }

def question : ResolverRequest := { id := 7, type := taggedReqVersion, dbId := 1, data := bytesOf "1" }

theorem answers_filled_by_number :
    provider.driverType = driverTypeTagged ∧ question.data ≠ [] ∧
      ∀ result, completes provider (fun _ => .fail) filledReply question = some result →
        result.localRoutingNumber ≠ [] := by
  refine ⟨rfl, by decide, ?_⟩
  apply (answers_filled_iff provider (fun _ => .fail) filledReply question rfl (by decide)).mpr
  rintro ⟨item, ⟨members, parsed, found⟩, empty⟩
  have object : CJson.parse (cString filledReply) =
      some (.object [(bytesOf "lrn", .string (bytesOf "2"))]) := by rfl
  rw [object] at parsed
  cases parsed
  have member : getObjectItem (.object [(bytesOf "lrn", .string (bytesOf "2"))])
      (bytesOf "lrn") = some (.string (bytesOf "2")) := by rfl
  rw [member] at found
  cases found
  have quotes : bytesOf "2" = [quote, quote] := empty
  exact absurd quotes (by decide)

theorem null_reply_completes_empty :
    ¬ ∀ result, completes provider (fun _ => .fail) nullReply question = some result →
      result.localRoutingNumber ≠ [] := by
  intro filled
  exact filled { rawData := nullReply } (by rfl) rfl

end LnpResolver.RoutingNumbers
