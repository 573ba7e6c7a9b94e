import LnpResolver.JsonText
import LnpResolver.Resolver

/-!
Error replies in the JSON form. The document is put together by concatenation, so
it is the intended one exactly when the description needs no escaping.
-/

namespace LnpResolver.JsonErrorReplies

open PackedBytes Transport RequestWire JsonItems DriverInterface Drivers ReplyWire Resolver JsonText

def cnamHeaderSize : Nat := 8

def replyJsonSize (datagram : Bytes) : Nat := load (window 4 4 datagram)

/-- What a JSON error reply is meant to say. -/
def errorObject (error : CResolverError) : Value :=
  .object [(bytesOf "error",
    .object [(bytesOf "code", .number (decimal error.code.value)),
      (bytesOf "reason", .string error.what)])]

structure Readable (request : ResolverRequest) (error : CResolverError) : Prop where
  document : decode ((sendJsonErrorReply request error).payload.drop cnamHeaderSize) =
    some (errorObject error)
  size : replyJsonSize (sendJsonErrorReply request error).payload =
    ((sendJsonErrorReply request error).payload.drop cnamHeaderSize).length

theorem payload_document (request : ResolverRequest) (error : CResolverError) :
    (sendJsonErrorReply request error).payload.drop cnamHeaderSize = errorJson error := by
  have header : (replyHdrCnam request.id.toNat (errorJson error).length).length = cnamHeaderSize := by
    simp only [replyHdrCnam, List.length_append, store_length, cnamHeaderSize]
  simp only [sendJsonErrorReply, ← header, List.drop_left]

theorem payload_size (request : ResolverRequest) (error : CResolverError) :
    replyJsonSize (sendJsonErrorReply request error).payload =
      (errorJson error).length % 256 ^ 4 := by
  have field := window_middle (store 4 request.id.toNat) (store 4 (errorJson error).length)
    (errorJson error)
  simp only [store_length] at field
  simp only [replyJsonSize, sendJsonErrorReply, replyHdrCnam, List.append_assoc, field, load_store]

/-- The document with its names and delimiters apart. -/
def memberReason (what : Bytes) : Bytes :=
  quotationMark :: (bytesOf "reason" ++ quotationMark :: 58 :: quotationMark ::
    (what ++ quotationMark :: [125, 125]))

def memberCode (error : CResolverError) : Bytes :=
  quotationMark :: (bytesOf "code" ++ quotationMark :: 58 ::
    (decimal error.code.value ++ 44 :: memberReason error.what))

def memberError (error : CResolverError) : Bytes :=
  quotationMark :: (bytesOf "error" ++ quotationMark :: 58 :: 123 :: memberCode error)

theorem errorJson_members (error : CResolverError) :
    errorJson error = 123 :: memberError error := by
  have opening : bytesOf "\x7b\"error\":\x7b\"code\":" =
      123 :: quotationMark :: (bytesOf "error" ++ quotationMark :: 58 :: 123 :: quotationMark ::
        (bytesOf "code" ++ quotationMark :: [58])) := by rfl
  have middle : bytesOf ",\"reason\":\"" =
      44 :: quotationMark :: (bytesOf "reason" ++ quotationMark :: 58 :: [quotationMark]) := by rfl
  have closing : bytesOf "\"\x7d\x7d" = quotationMark :: [125, 125] := by rfl
  simp only [errorJson, opening, middle, closing, memberError, memberCode, memberReason,
    List.append_assoc, List.cons_append, List.nil_append]

theorem plain_error : Plain (bytesOf "error") := by decide
theorem plain_code : Plain (bytesOf "code") := by decide
theorem plain_reason : Plain (bytesOf "reason") := by decide

-- the codes have one or two digits
theorem readValue_code (depth : Nat) (code : ECErrorId) (rest : Bytes) :
    readValue (depth + 1) (decimal code.value ++ 44 :: rest) =
      some (.number (decimal code.value), 44 :: rest) := by
  cases code <;> rfl

theorem reason_name (what : Bytes) :
    readName (memberReason what) =
      some (bytesOf "reason", quotationMark :: (what ++ quotationMark :: [125, 125])) :=
  readName_plain _ _ plain_reason

theorem code_name (error : CResolverError) :
    readName (memberCode error) =
      some (bytesOf "code", decimal error.code.value ++ 44 :: memberReason error.what) :=
  readName_plain _ _ plain_code

theorem error_name (error : CResolverError) :
    readName (memberError error) = some (bytesOf "error", 123 :: memberCode error) :=
  readName_plain _ _ plain_error

theorem memberCode_cons (error : CResolverError) :
    ∃ input, memberCode error = quotationMark :: input ∧ 1 ≤ input.length := by
  refine ⟨_, rfl, ?_⟩
  rw [List.length_append, List.length_cons]
  omega

/-- A plain description is read as it stands, and the braces close around it. -/
theorem readValue_document (depth : Nat) (error : CResolverError) (plain : Plain error.what) :
    readValue (depth + 3) (123 :: memberError error) = some (errorObject error, []) := by
  have reason : readValue (depth + 1) (quotationMark :: (error.what ++ quotationMark :: [125, 125])) =
      some (.string error.what, 125 :: [125]) := by
    rw [readValue_string, readString_plain _ _ plain]
    rfl
  have inner : readValue (depth + 2) (123 :: memberCode error) =
      some (.object [(bytesOf "code", .number (decimal error.code.value)),
        (bytesOf "reason", .string error.what)], 125 :: []) := by
    obtain ⟨input, shape, filled⟩ := memberCode_cons error
    obtain ⟨fuel, size⟩ : ∃ fuel, input.length = fuel + 1 := ⟨input.length - 1, by omega⟩
    rw [shape, readValue_object, ← shape, size,
      readMembers_more (readValue (depth + 1)) (fuel + 1) (memberCode error) _ _ _ _ _ _
        (code_name error) (readValue_code depth error.code _)
        (readMembers_last (readValue (depth + 1)) fuel _ _ _ _ _ (reason_name error.what) reason)]
    rfl
  have outer := readMembers_last (readValue (depth + 2))
    ((bytesOf "error" ++ quotationMark :: 58 :: 123 :: memberCode error).length)
    (memberError error) _ _ _ _ (error_name error) inner
  rw [memberError, readValue_object]
  rw [memberError] at outer
  rw [outer]
  rfl

theorem reason_read {depth fuel : Nat} {what rest key : Bytes}
    (read : readMembers (readValue (depth + 1)) (fuel + 1) (memberReason what) =
      some ([(key, .string what)], rest)) :
    ∃ behind, readString (what ++ quotationMark :: [125, 125]) = some (what, behind) := by
  obtain ⟨behind, valued, -⟩ := readMembers_first (reason_name what) read
  rw [readValue_string] at valued
  obtain ⟨⟨text, after⟩, string, same⟩ := Option.map_eq_some_iff.mp valued
  have text_eq := Value.string.inj (Prod.mk.inj same).1
  exact ⟨after, text_eq ▸ string⟩

theorem code_read {depth : Nat} {error : CResolverError} {rest key other : Bytes} {item : Value}
    (read : readValue (depth + 2) (123 :: memberCode error) =
      some (.object [(key, item), (other, .string error.what)], rest)) :
    ∃ behind, readString (error.what ++ quotationMark :: [125, 125]) =
      some (error.what, behind) := by
  obtain ⟨input, shape, filled⟩ := memberCode_cons error
  rw [shape, readValue_object, ← shape] at read
  obtain ⟨⟨members, last⟩, inner, same⟩ := Option.map_eq_some_iff.mp read
  rw [Value.object.inj (Prod.mk.inj same).1] at inner
  obtain ⟨behind, valued, continued⟩ := readMembers_first (code_name error) inner
  rw [readValue_code] at valued
  obtain ⟨rfl, rfl⟩ := Prod.mk.inj (Option.some.inj valued)
  rcases continued with none | ⟨later, comma, others⟩
  · cases none
  · have follows : later = memberReason error.what := (List.cons.inj comma).2.symm
    obtain ⟨fuel, size⟩ : ∃ fuel, input.length = fuel + 1 := ⟨input.length - 1, by omega⟩
    rw [follows, size] at others
    exact reason_read others

/-- If the document is read as intended, the description was read as it stands. -/
theorem document_reason (depth : Nat) (error : CResolverError) (rest : Bytes)
    (read : readValue (depth + 3) (123 :: memberError error) = some (errorObject error, rest)) :
    ∃ behind, readString (error.what ++ quotationMark :: [125, 125]) =
      some (error.what, behind) := by
  rw [memberError, readValue_object, ← memberError] at read
  obtain ⟨⟨members, last⟩, outer, same⟩ := Option.map_eq_some_iff.mp read
  rw [Value.object.inj (Prod.mk.inj same).1] at outer
  obtain ⟨behind, valued, -⟩ := readMembers_first (error_name error) outer
  exact code_read valued

def documentHead (code : ECErrorId) : Bytes :=
  bytesOf "\x7b\"error\":\x7b\"code\":" ++ decimal code.value ++ bytesOf ",\"reason\":\""

theorem errorJson_utf8 (error : CResolverError) :
    IsUtf8 (errorJson error) ↔ IsUtf8 error.what := by
  have whole : errorJson error =
      documentHead error.code ++ (error.what ++ quotationMark :: [125, 125]) := by
    simp only [errorJson, documentHead, List.append_assoc]
    rfl
  have front : Ascii (documentHead error.code) := by
    cases error.code <;> decide
  rw [whole]
  exact isUtf8_between _ _ _ _ front (by decide)

/-- The document is the intended one exactly when the description is UTF-8 and needs
no escaping. -/
theorem errorJson_decodes_iff (error : CResolverError) :
    decode (errorJson error) = some (errorObject error) ↔
      Plain error.what ∧ IsUtf8 error.what := by
  obtain ⟨depth, size⟩ : ∃ depth, (errorJson error).length = depth + 3 := by
    refine ⟨(errorJson error).length - 3, ?_⟩
    have long : 3 ≤ (errorJson error).length := by
      rw [errorJson_members, memberError, List.length_cons, List.length_cons, List.length_append,
        List.length_cons]
      omega
    omega
  constructor
  · intro decoded
    unfold decode at decoded
    split at decoded
    · rename_i valid
      refine ⟨?_, (errorJson_utf8 error).mp valid⟩
      rw [size, errorJson_members] at decoded
      split at decoded
      · rename_i value rest read
        split at decoded
        · rw [Option.some.inj decoded] at read
          obtain ⟨behind, string⟩ := document_reason depth error rest read
          exact plain_of_readString _ _ _ (by decide) string
        · cases decoded
      · cases decoded
    · cases decoded
  · rintro ⟨plain, valid⟩
    rw [decode, if_pos ((errorJson_utf8 error).mpr valid), size, errorJson_members,
      readValue_document depth error plain]
    rfl

theorem json_error_readable_iff (request : ResolverRequest) (error : CResolverError) :
    Readable request error ↔
      Plain error.what ∧ IsUtf8 error.what ∧ (errorJson error).length < 2 ^ 32 := by
  constructor
  · rintro ⟨document, size⟩
    rw [payload_document] at document size
    rw [payload_size] at size
    obtain ⟨plain, valid⟩ := (errorJson_decodes_iff error).mp document
    have below := Nat.mod_lt (errorJson error).length (show 0 < 256 ^ 4 by decide)
    exact ⟨plain, valid, by omega⟩
  · rintro ⟨plain, valid, fits⟩
    constructor
    · rw [payload_document]
      exact (errorJson_decodes_iff error).mpr ⟨plain, valid⟩
    · rw [payload_size, payload_document]
      exact Nat.mod_eq_of_lt fits

/-! A template whose placeholder has a quotation mark in its name, and a request
without that member. -/

section QuotedKey

@[reducible]
def oneMember : CJson where
  parse := fun text =>
    if text = bytesOf "\x7b\"x\":1\x7d" then some (Written.object [(bytesOf "x", .integer 1)]).stored
    else none
  printUnformatted := fun _ => []

attribute [local instance] oneMember

def quotedKey : CCnamHttpDriver :=
  { uniqId := 1
    uriParts := [.string (bytesOf "http://cnam/"), .placeholder (bytesOf "a\"b")]
    timeout := 1000 }

def cnamRequest : ResolverRequest :=
  { id := 7, type := cnamReqVersion, dbId := 1, data := bytesOf "\x7b\"x\":1\x7d" }

theorem missed_quoted_key_unreadable :
    ∃ exception, quotedKey.resolve cnamRequest = .threw exception ∧
      ¬ Readable cnamRequest (mapException exception) := by
  refine ⟨.error (bytesOf "missed required key 'a\"b' in request"), by rfl, ?_⟩
  rintro ⟨document, -⟩
  rw [payload_document] at document
  have undecodable : decode (errorJson (mapException
      (.error (bytesOf "missed required key 'a\"b' in request")))) = none := by
    rfl
  rw [undecodable] at document
  cases document

end QuotedKey

end LnpResolver.JsonErrorReplies
