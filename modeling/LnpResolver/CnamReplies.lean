import LnpResolver.CJsonPrintBuffer
import LnpResolver.CJsonValues
import LnpResolver.JsonErrorReplies

/-!
What a CNAM client receives. The driver puts the document of the HTTP server under
the name "response" and prints it; the client reads the document that the server
sent, with its numbers as doubles.
-/

namespace LnpResolver.CnamReplies

open PackedBytes RequestWire JsonText JsonDocuments JsonItems DriverInterface Drivers ReplyWire JsonErrorReplies
open CJsonParser CJsonConformance CJsonPrinter CJsonPrintBuffer CJsonValues

def response : Bytes := bytesOf "response"

/-- libs/cJSON.c as the drivers call it. What they do with a null pointer for a text that
is too long to be printed is not defined; here it is no text. -/
@[reducible]
def vendored : CJson where
  parse := fun text => (cJsonParse text).map json
  printUnformatted := fun root => (cJsonPrintUnformatted (item root)).getD []

attribute [local instance] vendored

theorem printUnformatted_response (members : List (Bytes × Item))
    (fits : (printValue (.object [(response, .object members)])).length + 2 ≤ largestInt) :
    CJson.printUnformatted (.object [(response, json (.object members))]) =
      printValue (.object [(response, .object members)]) := by
  have printed : item (.object [(response, json (.object members))]) =
      .object [(response, .object members)] := item_json (.object [(response, .object members)])
  simp only [CJson.printUnformatted, printed, cJsonPrintUnformatted, if_pos fits, Option.getD_some]

/-- The document in a reply, and its announced size. -/
structure Conveys (payload : Bytes) (item : Item) : Prop where
  document : ∃ value, decode (payload.drop cnamHeaderSize) = some (.object [(response, value)]) ∧
    stored cjsonNestingLimit value = some item
  size : replyJsonSize payload = (payload.drop cnamHeaderSize).length

theorem sendJsonReply_payload (request : ResolverRequest) :
    (sendJsonReply request).payload.drop cnamHeaderSize = request.result.rawData ∧
      replyJsonSize (sendJsonReply request).payload = request.result.rawData.length % 256 ^ 4 := by
  have header : (replyHdrCnam request.id.toNat request.result.rawData.length).length = cnamHeaderSize := by
    simp only [replyHdrCnam, List.length_append, store_length, cnamHeaderSize]
  have field := window_middle (store 4 request.id.toNat) (store 4 request.result.rawData.length)
    request.result.rawData
  simp only [store_length] at field
  constructor
  · simp only [sendJsonReply, ← header, List.drop_left]
  · simp only [replyJsonSize, sendJsonReply, replyHdrCnam, List.append_assoc, field, load_store]

theorem response_storable : StorableText response := by
  constructor <;> decide

theorem reply_storable {item : Item} {levels : Nat} (storable : StorableItem levels item) :
    StorableItem (levels + 1) (.object [(response, item)]) := ⟨response_storable, storable, trivial⟩

theorem reply_value (item : Item) :
    (document (.object [(response, item)])).value = .object [(response, (document item).value)] := by
  have name : cString response = response := cString_eq_self response_storable.2
  simp only [document, memberDocuments, Document.value, membersValue, quotedText, name]

theorem stored_object {levels : Nat} {values : List (Bytes × Value)} {item : Item}
    (found : stored levels (.object values) = some item) : ∃ members, item = .object members := by
  match levels with
  | 0 => cases found
  | less + 1 =>
      rw [stored] at found
      obtain ⟨members, -, same⟩ := Option.map_eq_some_iff.mp found
      exact ⟨members, same.symm⟩

theorem cJsonParse_object {data : Bytes} {values : List (Bytes × Value)}
    (decoded : decode data = some (.object values)) :
    cJsonParse (cString data) = stored cjsonNestingLimit (.object values) := by
  have noNumber : ∀ spelling, Value.object values = .number spelling → spelling.length ≤ 63 := by
    intro spelling same
    cases same
  obtain ⟨utf8, before, doc, after, rfl, same⟩ := (decode_iff data (.object values)).mp decoded
  have encoded := (isUtf8_document before doc after).mp utf8
  rw [← same] at noNumber ⊢
  rw [document_cString, cJsonParse_document before doc after encoded noNumber]

theorem printed_conveys (request : ResolverRequest) {item : Item}
    (storable : StorableItem cjsonNestingLimit item)
    (fits : (printValue (.object [(response, item)])).length + 2 ≤ largestInt)
    (printed : request.result.rawData = printValue (.object [(response, item)])) :
    Conveys (sendJsonReply request).payload (settled item) := by
  obtain ⟨payload, size⟩ := sendJsonReply_payload request
  rw [printed] at payload size
  have less : (printValue (.object [(response, item)])).length < 256 ^ 4 := by
    rw [largestInt] at fits
    omega
  refine ⟨⟨(document item).value, ?_, document_stored _ item storable⟩, ?_⟩
  · rw [payload, document_decodes _ _ (reply_storable storable), reply_value]
  · rw [payload, size, Nat.mod_eq_of_lt less]

/-- The client reads the document of the server, or is told that it could not be parsed. -/
theorem server_document_conveyed (request : ResolverRequest) (data : Bytes)
    (values : List (Bytes × Value)) (cnam : request.type = cnamReqVersion)
    (decoded : decode data = some (.object values)) :
    (∀ item, stored cjsonNestingLimit (.object values) = some item →
      (printValue (.object [(response, item)])).length + 2 ≤ largestInt →
      ∃ result outgoing, CCnamHttpDriver.parse data request.result = .ok () result ∧
        sendReply { request with result := result } = some outgoing ∧
        Conveys outgoing.payload (settled item)) ∧
    (stored cjsonNestingLimit (.object values) = none →
      CCnamHttpDriver.parse data request.result =
        .error (driverError "failed to parse reply JSON")
          { request.result with rawData := data }) := by
  have parsed : CJson.parse (cString data) =
      (stored cjsonNestingLimit (.object values)).map json :=
    congrArg (Option.map json) (cJsonParse_object decoded)
  constructor
  · intro item found fits
    obtain ⟨members, rfl⟩ := stored_object found
    have storable := stored_storable _ _ _ found
    rw [found] at parsed
    have sent : sendReply { request with result := { request.result with
          rawData := printValue (.object [(response, .object members)]) } } =
        some (sendJsonReply { request with result := { request.result with
          rawData := printValue (.object [(response, .object members)]) } }) := by
      have other : request.type ≠ taggedReqVersion := by
        rw [cnam]
        decide
      simp only [sendReply, if_neg other, if_pos cnam]
    refine ⟨_, _, ?_, sent, printed_conveys _ storable fits rfl⟩
    rw [← printUnformatted_response members fits]
    simp only [CCnamHttpDriver.parse, parsed, Option.map_some, json, response]
  · intro refused
    rw [refused] at parsed
    simp only [CCnamHttpDriver.parse, parsed, Option.map_none]

def serverData : Bytes := bytesOf "\x7b\"name\":\"A\"\x7d"

def serverItem : Item := .object [(bytesOf "name", .string (bytesOf "A"))]

theorem server_document_conveyed_name :
    ∃ result outgoing, CCnamHttpDriver.parse serverData cnamRequest.result = .ok () result ∧
      sendReply { cnamRequest with result := result } = some outgoing ∧
      Conveys outgoing.payload (settled serverItem) :=
  (server_document_conveyed cnamRequest serverData [(bytesOf "name", .string (bytesOf "A"))] rfl
    rfl).1 serverItem rfl (by decide)

end LnpResolver.CnamReplies
