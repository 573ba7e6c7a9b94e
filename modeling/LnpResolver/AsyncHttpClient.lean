import LnpResolver.DriverInterface

/-!
drivers/modules/AsyncHttpClient.cpp up to the handle that libcurl takes over.
`curl` answers every library call of make_request with success or failure; the
request is handed over exactly when make_request returns 0. A finished transfer
yields the collected body or the text in the CURL_ERROR_SIZE buffer.
-/

namespace LnpResolver.AsyncHttpClient

open PackedBytes RequestWire DriverInterface

inductive CurlOption where
  | url | sslVerifypeer | sslVerifyhost | httpauth | username | password | timeoutMs | nosignal
  | httpheader | writefunction | writedata | privatePointer | errorbuffer
  deriving DecidableEq, Repr

inductive CurlCall where
  | easyInit
  | setopt (option : CurlOption)
  | slistAppend (index : Nat)
  | multiAddHandle
  deriving DecidableEq, Repr

abbrev Curl := CurlCall → Bool

def headersAppended (curl : Curl) (count : Nat) : Bool :=
  (List.range count).all fun index => curl (.slistAppend index)

def makeRequest (curl : Curl) (request : HttpRequest) : Except Bytes Int :=
  let setopt := fun option => curl (.setopt option)
  -- the first and the last call fail with a return value, those between them with an exception
  if !curl .easyInit then .ok (-1)
  else if !setopt .url then .error (bytesOf "URL processing error")
  else if !(setopt .sslVerifypeer && setopt .sslVerifyhost) then
    .error (bytesOf "SSL verification option error")
  else if !setopt .httpauth then .error (bytesOf "authorization type processing error")
  else if request.login.isSome && request.pass.isSome && !(setopt .username && setopt .password) then
    .error (bytesOf "authorization credentials processing error")
  else if !(setopt .timeoutMs && setopt .nosignal) then
    .error (bytesOf "set up timeout value error")
  else if !headersAppended curl request.headers.length then
    .error (bytesOf "appending header to request error")
  else if !request.headers.isEmpty && !setopt .httpheader then
    .error (bytesOf "headers processing error")
  else if !(setopt .writefunction && setopt .writedata) then
    .error (bytesOf "initializing write callback data error")
  else if !setopt .privatePointer then .error (bytesOf "private pointer initialization error")
  else if !setopt .errorbuffer then .error (bytesOf "error buffer initializing error")
  else if !curl .multiAddHandle then .ok (-1)
  else .ok 0

def curlErrorSize : Nat := 256

/-- The error buffer of a ConnInfo as the C string it holds. -/
structure ErrorBuffer where
  text : Bytes
  terminated : text.length < curlErrorSize
  noNul : 0 ∉ text

inductive TransferResult where
  | ok (body : Bytes)
  | failed (error : ErrorBuffer)

structure HttpResponse where
  id : UInt32
  isSuccess : Bool
  data : Bytes
  deriving DecidableEq, Repr

/-- The response that check_multi_info queues for a finished transfer. -/
def TransferResult.response (id : UInt32) : TransferResult → HttpResponse
  | .ok body => ⟨id, true, body⟩
  | .failed error => ⟨id, false, error.text⟩

@[simp] theorem response_id (id : UInt32) (result : TransferResult) :
    (result.response id).id = id := by
  cases result <;> rfl

end LnpResolver.AsyncHttpClient
