import Mathlib.Data.List.Nodup
import Mathlib.Logic.Function.Basic
import LnpResolver.AsyncHttpClient
import LnpResolver.LabelledRuns

/-!
The transfers of drivers/modules/AsyncHttpClient.cpp with the memory they hold: easy
handles, header lists and ConnInfos, from make_request to the response that the
handler is given. libcurl's side is in the events: it writes to a handle that it
works on, and reports its end once. The bytes that a handle has received, the ends
and the calls of make_request are history variables, read by no function.

A ConnInfo comes from calloc and goes with free, so its string is neither constructed
nor destroyed. The buffer of a long body is not counted here.
-/

namespace LnpResolver.HttpTransfers

open PackedBytes RequestWire DriverInterface AsyncHttpClient

structure ConnInfo where
  id : UInt32
  easy : Nat
  headerList : Option Nat
  error : ErrorBuffer
  response : Bytes

def noError : ErrorBuffer := ⟨[], by decide, List.not_mem_nil⟩

/-- CURLMSG_DONE with its handle and whether the transfer succeeded, or another message. -/
inductive Message where
  | done (easy : Nat) (success : Bool)
  | other
  deriving DecidableEq, Repr

structure State where
  fresh : Nat := 0
  easyHandles : List Nat := []
  headerLists : List Nat := []
  connections : Nat → Option ConnInfo := fun _ => none
  privateData : Nat → Option Nat := fun _ => none
  multi : List Nat := []
  messages : List Message := []
  responseQueue : List HttpResponse := []
  /-- respose_notifier_fd with its counter, none below zero. -/
  notifier : Option Nat := none
  linked : Bool := false
  fault : Bool := false
  calls : List (Curl × HttpRequest) := []
  requests : Nat → Option HttpRequest := fun _ => none
  received : Nat → Bytes := fun _ => []
  ends : List (Nat × Option ErrorBuffer) := []
  delivered : List HttpResponse := []

/-- The results of eventfd and link are the system's; the constructor ignores both. -/
def initResposeNotifier (eventfd link : Bool) (state : State) : State :=
  if eventfd then { state with notifier := some 0, linked := link } else state

/-! make_request -/

/-- curl_slist_free_all on a list that is not there is a fault. -/
def freeList (list : Nat) (state : State) : State :=
  { state with
    headerLists := state.headerLists.erase list
    fault := state.fault || !state.headerLists.contains list }

def freeConnInfo (address : Nat) (state : State) : State :=
  match state.connections address with
  | none => { state with fault := true }
  | some conn =>
      let state := match conn.headerList with
        | none => state
        | some list => freeList list state
      { state with connections := Function.update state.connections address none }

def refuse {α : Type} (outcome : α) (address : Nat) (state : State) : α × State :=
  (outcome, freeConnInfo address state)

/-- No way out but the last one gives the easy handle back, and until it is stored in the
ConnInfo nobody owns the header list. -/
def makeRequest (curl : Curl) (request : HttpRequest) (state : State) : Except Bytes Int × State :=
  let setopt := fun option => curl (.setopt option)
  let state := { state with calls := state.calls ++ [(curl, request)] }
  if !curl .easyInit then (.ok (-1), state)
  else
    let easy := state.fresh
    let address := state.fresh + 1
    let list := state.fresh + 2
    let state :=
      { state with
        fresh := state.fresh + 3
        easyHandles := state.easyHandles ++ [easy]
        connections := Function.update state.connections address
          (some ⟨request.id, easy, none, noError, []⟩) }
    if !setopt .url then refuse (.error (bytesOf "URL processing error")) address state
    else if !(setopt .sslVerifypeer && setopt .sslVerifyhost) then
      refuse (.error (bytesOf "SSL verification option error")) address state
    else if !setopt .httpauth then
      refuse (.error (bytesOf "authorization type processing error")) address state
    else if request.login.isSome && request.pass.isSome &&
        !(setopt .username && setopt .password) then
      refuse (.error (bytesOf "authorization credentials processing error")) address state
    else if !(setopt .timeoutMs && setopt .nosignal) then
      refuse (.error (bytesOf "set up timeout value error")) address state
    else
      let appended := headersAppended curl request.headers.length
      let state :=
        if !request.headers.isEmpty && curl (.slistAppend 0) then
          { state with headerLists := state.headerLists ++ [list] }
        else state
      if !appended then refuse (.error (bytesOf "appending header to request error")) address state
      else if !request.headers.isEmpty && !setopt .httpheader then
        refuse (.error (bytesOf "headers processing error")) address state
      else
        let state :=
          if request.headers.isEmpty then state
          else
            { state with
              connections := Function.update state.connections address
                (some ⟨request.id, easy, some list, noError, []⟩) }
        if !(setopt .writefunction && setopt .writedata) then
          refuse (.error (bytesOf "initializing write callback data error")) address state
        else if !setopt .privatePointer then
          refuse (.error (bytesOf "private pointer initialization error")) address state
        else
          let state :=
            { state with privateData := Function.update state.privateData easy (some address) }
          if !setopt .errorbuffer then
            refuse (.error (bytesOf "error buffer initializing error")) address state
          else if !curl .multiAddHandle then refuse (.ok (-1)) address state
          else
            (.ok 0,
              { state with
                multi := state.multi ++ [easy]
                requests := Function.update state.requests easy (some request) })

/-! libcurl -/

def connectionOf (state : State) (easy : Nat) : Option (Nat × ConnInfo) := do
  let address ← state.privateData easy
  let conn ← state.connections address
  return (address, conn)

/-- A chunk of a body. -/
def writeCb (easy : Nat) (chunk : Bytes) (state : State) : State :=
  match connectionOf state easy with
  | none => { state with fault := true }
  | some (address, conn) =>
      { state with
        connections := Function.update state.connections address
          (some { conn with response := conn.response ++ chunk })
        received := Function.update state.received easy (state.received easy ++ chunk) }

/-- What libcurl does at the end of a transfer: it writes the text of an error. -/
def endTransfer (easy : Nat) (failure : Option ErrorBuffer) (state : State) : State :=
  match connectionOf state easy with
  | none => { state with fault := true }
  | some (address, conn) =>
      { state with
        connections := Function.update state.connections address
          (some { conn with error := failure.getD conn.error })
        messages := state.messages ++ [.done easy failure.isNone]
        ends := state.ends ++ [(easy, failure)] }

/-! check_multi_info -/

def notifyResposeAvailable (state : State) : State :=
  match state.notifier with
  | none => state
  | some count => { state with notifier := some (count + 1) }

def checkMessage (message : Message) (state : State) : State :=
  match message with
  | .other => state
  | .done easy success =>
      match connectionOf state easy with
      | none => { state with fault := true }
      | some (address, conn) =>
          let response : HttpResponse :=
            if success then ⟨conn.id, true, conn.response⟩ else ⟨conn.id, false, conn.error.text⟩
          let state :=
            { state with
              responseQueue := state.responseQueue ++ [response]
              multi := state.multi.erase easy
              easyHandles := state.easyHandles.erase easy
              fault := state.fault || !state.easyHandles.contains easy }
          notifyResposeAvailable (freeConnInfo address state)

def checkMessages : List Message → State → State
  | [], state => state
  | message :: messages, state => checkMessages messages (checkMessage message state)

def checkMultiInfo (state : State) : State :=
  checkMessages state.messages { state with messages := [] }

/-- The counter is read, and with it the whole queue is handed to the handler. -/
def resposeNotifierEventHandler (state : State) : State :=
  match state.notifier with
  | none => state
  | some _ =>
      { state with
        notifier := some 0
        delivered := state.delivered ++ state.responseQueue
        responseQueue := [] }

/-- epoll reports the descriptor. -/
def readable (state : State) : Bool := state.linked && state.notifier.any fun count => 0 < count

inductive Event where
  | request (curl : Curl) (request : HttpRequest)
  | write (easy : Nat) (chunk : Bytes)
  | finish (easy : Nat) (failure : Option ErrorBuffer)
  | message
  | action
  | notified

def bodyMax : Nat := 2147483647

/-- A handle that libcurl works on. -/
def Running (state : State) (easy : Nat) : Prop :=
  easy ∈ state.multi ∧ ∀ success, Message.done easy success ∉ state.messages

def step (state : State) : Event → Option State
  | .request curl request => some (makeRequest curl request state).2
  | .write easy chunk => some (writeCb easy chunk state)
  | .finish easy failure => some (endTransfer easy failure state)
  | .message => some { state with messages := state.messages ++ [.other] }
  | .action => some (checkMultiInfo state)
  | .notified => if readable state then some (resposeNotifierEventHandler state) else none

/-- libcurl works on the handles that it was given and has not reported as done, and the
servers send no body that passes the ints of write_cb. -/
def Promised (state : State) : Event → Prop
  | .write easy chunk => Running state easy ∧ (state.received easy).length + chunk.length ≤ bodyMax
  | .finish easy _ => Running state easy
  | _ => True

def system (eventfd link : Bool) : LabelledRuns.System State Event :=
  ⟨initResposeNotifier eventfd link {}, step⟩

instance (state : State) (easy : Nat) : Decidable (Running state easy) :=
  inferInstanceAs (Decidable (_ ∧ _))

instance (state : State) : (event : Event) → Decidable (Promised state event)
  | .request _ _ => isTrue trivial
  | .write _ _ => inferInstanceAs (Decidable (_ ∧ _))
  | .finish easy _ => inferInstanceAs (Decidable (Running state easy))
  | .message => isTrue trivial
  | .action => isTrue trivial
  | .notified => isTrue trivial

/-! What a call of make_request does. -/

/-- The options before the headers. -/
def optionsSet (curl : Curl) (request : HttpRequest) : Bool :=
  let setopt := fun option => curl (.setopt option)
  setopt .url && (setopt .sslVerifypeer && setopt .sslVerifyhost) && setopt .httpauth &&
    !(request.login.isSome && request.pass.isSome && !(setopt .username && setopt .password)) &&
    (setopt .timeoutMs && setopt .nosignal)

def started (curl : Curl) (request : HttpRequest) : Bool :=
  match AsyncHttpClient.makeRequest curl request with
  | .ok status => status = 0
  | .error _ => false

/-- An easy handle that is never cleaned up. -/
def losesHandle (curl : Curl) (request : HttpRequest) : Bool :=
  curl .easyInit && !started curl request

/-- A header list that is never freed. -/
def losesList (curl : Curl) (request : HttpRequest) : Bool :=
  curl .easyInit && optionsSet curl request && !request.headers.isEmpty && curl (.slistAppend 0) &&
    !(headersAppended curl request.headers.length && curl (.setopt .httpheader))

/-- What is left of a call that ended with a failure behind curl_easy_init. -/
def abandoned (curl : Curl) (request : HttpRequest) (state : State) (privateData : Nat → Option Nat) :
    State :=
  { state with
    calls := state.calls ++ [(curl, request)]
    fresh := state.fresh + 3
    easyHandles := state.easyHandles ++ [state.fresh]
    headerLists := state.headerLists ++ if losesList curl request then [state.fresh + 2] else []
    privateData := privateData }

/-- Behind the last option. -/
def added (curl : Curl) (request : HttpRequest) (state : State) : State :=
  { state with
    calls := state.calls ++ [(curl, request)]
    fresh := state.fresh + 3
    easyHandles := state.easyHandles ++ [state.fresh]
    headerLists := state.headerLists ++ if request.headers.isEmpty then [] else [state.fresh + 2]
    connections := Function.update state.connections (state.fresh + 1)
      (some ⟨request.id, state.fresh,
        if request.headers.isEmpty then none else some (state.fresh + 2), noError, []⟩)
    privateData := Function.update state.privateData state.fresh (some (state.fresh + 1))
    multi := state.multi ++ [state.fresh]
    requests := Function.update state.requests state.fresh (some request) }

inductive Called (curl : Curl) (request : HttpRequest) (state : State) : State → Prop
  | unavailable (failed : curl .easyInit = false) :
      Called curl request state { state with calls := state.calls ++ [(curl, request)] }
  | refused (privateData : Nat → Option Nat) (available : curl .easyInit = true)
      (failed : started curl request = false)
      (others : ∀ easy, easy ≠ state.fresh → privateData easy = state.privateData easy) :
      Called curl request state (abandoned curl request state privateData)
  | started (available : curl .easyInit = true) (all : started curl request = true) :
      Called curl request state (added curl request state)

section Call

variable (curl : Curl) (request : HttpRequest) (state : State)

/-- Behind curl_easy_init and calloc. -/
def opened : State :=
  { state with
    calls := state.calls ++ [(curl, request)]
    fresh := state.fresh + 3
    easyHandles := state.easyHandles ++ [state.fresh]
    connections := Function.update state.connections (state.fresh + 1)
      (some ⟨request.id, state.fresh, none, noError, []⟩) }

/-- Behind the storing of the header list. -/
def owned : State :=
  { opened curl request state with
    headerLists := state.headerLists ++ if request.headers.isEmpty then [] else [state.fresh + 2]
    connections := Function.update state.connections (state.fresh + 1)
      (some ⟨request.id, state.fresh,
        if request.headers.isEmpty then none else some (state.fresh + 2), noError, []⟩) }

variable {curl request state}

theorem refuse_unowned (outcome : Except Bytes Int)
    (unused : state.connections (state.fresh + 1) = none) :
    refuse outcome (state.fresh + 1)
        { opened curl request state with
          headerLists := state.headerLists ++ if losesList curl request then [state.fresh + 2] else [] } =
      (outcome, abandoned curl request state state.privateData) := by
  have restored : Function.update state.connections (state.fresh + 1) none = state.connections := by
    rw [← unused, Function.update_eq_self]
  simp only [refuse, freeConnInfo, opened, abandoned, Function.update_self, Function.update_idem,
    restored]

theorem refuse_owned (outcome : Except Bytes Int)
    (unused : state.connections (state.fresh + 1) = none)
    (newList : state.fresh + 2 ∉ state.headerLists) (kept : losesList curl request = false)
    (privateData : Nat → Option Nat) :
    refuse outcome (state.fresh + 1) { owned curl request state with privateData := privateData } =
      (outcome, abandoned curl request state privateData) := by
  have restored : Function.update state.connections (state.fresh + 1) none = state.connections := by
    rw [← unused, Function.update_eq_self]
  cases empty : request.headers.isEmpty with
  | true =>
      simp [refuse, freeConnInfo, owned, opened, abandoned, restored, empty, kept]
  | false =>
      have erased : (state.headerLists ++ [state.fresh + 2]).erase (state.fresh + 2) =
          state.headerLists := by
        rw [List.erase_append_right _ newList, List.erase_cons_head, List.append_nil]
      simp [refuse, freeConnInfo, freeList, owned, opened, abandoned, restored, empty, erased, kept]

/-- The same call, in the parts that its ways out share. -/
theorem makeRequest_eq (available : curl .easyInit = true) :
    makeRequest curl request state =
      if (optionsSet curl request && headersAppended curl request.headers.length &&
          (request.headers.isEmpty || curl (.setopt .httpheader))) = false then
        refuse (AsyncHttpClient.makeRequest curl request) (state.fresh + 1)
          { opened curl request state with
            headerLists := state.headerLists ++
              if losesList curl request then [state.fresh + 2] else [] }
      else if (curl (.setopt .writefunction) && curl (.setopt .writedata) &&
          curl (.setopt .privatePointer)) = false then
        refuse (AsyncHttpClient.makeRequest curl request) (state.fresh + 1)
          { owned curl request state with privateData := state.privateData }
      else if started curl request = false then
        refuse (AsyncHttpClient.makeRequest curl request) (state.fresh + 1)
          { owned curl request state with
            privateData := Function.update state.privateData state.fresh (some (state.fresh + 1)) }
      else (.ok 0, added curl request state) := by
  unfold makeRequest started losesList optionsSet AsyncHttpClient.makeRequest
  simp only [available]
  cases url : curl (.setopt .url) with
  | false => simp [opened]
  | true =>
  cases ssl : (curl (.setopt .sslVerifypeer) && curl (.setopt .sslVerifyhost)) with
  | false => simp [opened]
  | true =>
  cases auth : curl (.setopt .httpauth) with
  | false => simp [opened]
  | true =>
  cases credentials : (request.login.isSome && request.pass.isSome &&
      !(curl (.setopt .username) && curl (.setopt .password))) with
  | true => simp [opened]
  | false =>
  cases timeout : (curl (.setopt .timeoutMs) && curl (.setopt .nosignal)) with
  | false => simp [opened]
  | true =>
  cases appended : headersAppended curl request.headers.length with
  | false =>
      cases none : request.headers.isEmpty <;> cases first : curl (.slistAppend 0) <;>
        simp [opened]
  | true =>
  have first : request.headers.isEmpty = false → curl (.slistAppend 0) = true := by
    intro some
    obtain ⟨header, others, shape⟩ := List.exists_cons_of_ne_nil (List.isEmpty_eq_false_iff.mp some)
    rw [headersAppended, shape, List.length_cons, List.all_eq_true] at appended
    exact appended 0 (List.mem_range.mpr (Nat.succ_pos _))
  -- the ways out that are left, behind the header list
  rcases Bool.eq_false_or_eq_true request.headers.isEmpty with empty | filled
  · rcases Bool.eq_false_or_eq_true (curl (.setopt .writefunction) && curl (.setopt .writedata))
      with write | write
    · rcases Bool.eq_false_or_eq_true (curl (.setopt .privatePointer)) with pointer | pointer
      · rcases Bool.eq_false_or_eq_true (curl (.setopt .errorbuffer)) with buffer | buffer
        · rcases Bool.eq_false_or_eq_true (curl .multiAddHandle) with handle | handle
          · simp [added, empty, write, pointer, buffer, handle]
          · simp [owned, opened, empty, write, pointer, buffer, handle]
        · simp [owned, opened, empty, write, pointer, buffer]
      · simp [owned, opened, empty, write, pointer]
    · simp [owned, opened, empty, write]
  · rcases Bool.eq_false_or_eq_true (curl (.setopt .httpheader)) with headers | headers
    · rcases Bool.eq_false_or_eq_true (curl (.setopt .writefunction) && curl (.setopt .writedata))
        with write | write
      · rcases Bool.eq_false_or_eq_true (curl (.setopt .privatePointer)) with pointer | pointer
        · rcases Bool.eq_false_or_eq_true (curl (.setopt .errorbuffer)) with buffer | buffer
          · rcases Bool.eq_false_or_eq_true (curl .multiAddHandle) with handle | handle
            · simp [added, filled, first filled, headers, write, pointer, buffer, handle]
            · simp [owned, opened, filled, first filled, headers, write, pointer, buffer, handle]
          · simp [owned, opened, filled, first filled, headers, write, pointer, buffer]
        · simp [owned, opened, filled, first filled, headers, write, pointer]
      · simp [owned, opened, filled, first filled, headers, write]
    · simp [opened, filled, first filled, headers]

theorem started_eq :
    started curl request =
      (curl .easyInit && (optionsSet curl request && headersAppended curl request.headers.length &&
          (request.headers.isEmpty || curl (.setopt .httpheader))) &&
        (curl (.setopt .writefunction) && curl (.setopt .writedata) &&
          curl (.setopt .privatePointer)) &&
        (curl (.setopt .errorbuffer) && curl .multiAddHandle)) := by
  unfold started optionsSet AsyncHttpClient.makeRequest
  simp only
  generalize curl .easyInit = init
  generalize curl (.setopt .url) = url
  generalize (curl (.setopt .sslVerifypeer) && curl (.setopt .sslVerifyhost)) = ssl
  generalize curl (.setopt .httpauth) = auth
  generalize (request.login.isSome && request.pass.isSome &&
    !(curl (.setopt .username) && curl (.setopt .password))) = refused
  generalize (curl (.setopt .timeoutMs) && curl (.setopt .nosignal)) = timeout
  generalize headersAppended curl request.headers.length = appended
  generalize request.headers.isEmpty = empty
  generalize curl (.setopt .httpheader) = headers
  generalize (curl (.setopt .writefunction) && curl (.setopt .writedata)) = write
  generalize curl (.setopt .privatePointer) = pointer
  cases init
  · rfl
  cases url
  · rfl
  cases ssl
  · rfl
  cases auth
  · rfl
  cases refused
  · cases timeout
    · rfl
    cases appended
    · rfl
    cases write
    · cases empty <;> cases headers <;> rfl
    cases pointer
    · cases empty <;> cases headers <;> rfl
    rcases Bool.eq_false_or_eq_true (curl (.setopt .errorbuffer)) with buffer | buffer <;>
      rcases Bool.eq_false_or_eq_true (curl .multiAddHandle) with handle | handle <;>
      cases empty <;> cases headers <;> simp [buffer, handle]
  · rfl

theorem started_outcome (all : started curl request = true) :
    AsyncHttpClient.makeRequest curl request = .ok 0 := by
  unfold started at all
  split at all
  · rename_i status outcome
    rw [outcome, of_decide_eq_true all]
  · cases all

/-- The outcome is that of the call without its memory. -/
theorem makeRequest_spec (curl : Curl) (request : HttpRequest)
    (unused : state.connections (state.fresh + 1) = none)
    (newList : state.fresh + 2 ∉ state.headerLists) :
    (makeRequest curl request state).1 = AsyncHttpClient.makeRequest curl request ∧
      Called curl request state (makeRequest curl request state).2 := by
  rcases Bool.eq_false_or_eq_true (curl .easyInit) with available | failed
  · rw [makeRequest_eq available]
    by_cases early : (optionsSet curl request && headersAppended curl request.headers.length &&
        (request.headers.isEmpty || curl (.setopt .httpheader))) = false
    · rw [if_pos early, refuse_unowned _ unused]
      exact ⟨rfl, .refused _ available (by rw [started_eq, early]; simp) fun _ _ => rfl⟩
    · have kept : losesList curl request = false := by
        have all := Bool.eq_true_of_not_eq_false early
        simp only [Bool.and_eq_true, Bool.or_eq_true] at all
        rcases all.2 with empty | headers
        · simp [losesList, empty]
        · simp [losesList, all.1.2, headers]
      rw [if_neg early]
      by_cases stored : (curl (.setopt .writefunction) && curl (.setopt .writedata) &&
          curl (.setopt .privatePointer)) = false
      · rw [if_pos stored, refuse_owned _ unused newList kept]
        exact ⟨rfl, .refused _ available (by rw [started_eq, stored]; simp) fun _ _ => rfl⟩
      · rw [if_neg stored]
        by_cases stopped : started curl request = false
        · rw [if_pos stopped, refuse_owned _ unused newList kept]
          exact ⟨rfl, .refused _ available stopped fun easy other => Function.update_of_ne other _ _⟩
        · rw [if_neg stopped]
          have all := Bool.eq_true_of_not_eq_false stopped
          exact ⟨(started_outcome all).symm, .started available all⟩
  · have none : makeRequest curl request state =
        (.ok (-1), { state with calls := state.calls ++ [(curl, request)] }) := by
      simp [makeRequest, failed]
    rw [none]
    exact ⟨by simp [AsyncHttpClient.makeRequest, failed], .unavailable failed⟩

end Call

/-! The memory of the transfers. -/

def reported : Message → Option (Nat × Bool)
  | .done easy success => some (easy, success)
  | .other => none

/-- The memory of a handle that libcurl has. -/
structure Entry (state : State) (easy : Nat) (request : HttpRequest) (conn : ConnInfo) : Prop where
  handle : easy ∈ state.easyHandles
  address : state.privateData easy = some (easy + 1)
  connection : state.connections (easy + 1) = some conn
  requested : state.requests easy = some request
  own : conn.easy = easy
  id : conn.id = request.id
  header : conn.headerList = if request.headers.isEmpty then none else some (easy + 2)
  list : request.headers.isEmpty = false → easy + 2 ∈ state.headerLists
  response : conn.response = state.received easy

/-- The invariant, with the messages that have not been looked at. -/
structure Sound (messages : List Message) (state : State) : Prop where
  noFault : state.fault = false
  handles : ∀ easy ∈ state.easyHandles, easy < state.fresh
  lists : ∀ list ∈ state.headerLists, list < state.fresh
  different : state.easyHandles.Nodup ∧ state.headerLists.Nodup ∧ state.multi.Nodup
  entries : ∀ easy ∈ state.multi, ∃ request conn, Entry state easy request conn
  owned : ∀ address conn, state.connections address = some conn →
    conn.easy ∈ state.multi ∧ address = conn.easy + 1
  pending : ∀ easy success, Message.done easy success ∈ messages → easy ∈ state.multi
  once : ((messages.filterMap reported).map Prod.fst).Nodup
  unheard : ∀ easy, state.fresh ≤ easy → state.received easy = []
  notifier : state.notifier = state.notifier.map fun _ => state.responseQueue.length

theorem Entry.connectionOf {state : State} {easy : Nat} {request : HttpRequest} {conn : ConnInfo}
    (entry : Entry state easy request conn) : connectionOf state easy = some (easy + 1, conn) := by
  simp [HttpTransfers.connectionOf, entry.address, entry.connection]

theorem Sound.unused {messages : List Message} {state : State} (sound : Sound messages state)
    {address : Nat} (new : state.fresh ≤ address) : state.connections (address + 1) = none := by
  cases found : state.connections (address + 1) with
  | none => rfl
  | some conn =>
      obtain ⟨member, place⟩ := sound.owned _ _ found
      obtain ⟨request, other, entry⟩ := sound.entries _ member
      have old := sound.handles _ entry.handle
      omega

theorem Sound.newHandle {messages : List Message} {state : State} (sound : Sound messages state)
    {easy : Nat} (new : state.fresh ≤ easy) : easy ∉ state.multi := by
  intro member
  obtain ⟨request, conn, entry⟩ := sound.entries _ member
  exact absurd (sound.handles _ entry.handle) (Nat.not_lt.mpr new)

theorem Sound.newList {messages : List Message} {state : State} (sound : Sound messages state)
    {list : Nat} (new : state.fresh ≤ list) : list ∉ state.headerLists := fun member =>
  absurd (sound.lists _ member) (Nat.not_lt.mpr new)

theorem Sound.called {messages : List Message} {state : State} (sound : Sound messages state)
    (curl : Curl) (request : HttpRequest) :
    Called curl request state (HttpTransfers.makeRequest curl request state).2 :=
  (makeRequest_spec curl request (sound.unused (Nat.le_refl _))
    (sound.newList (Nat.le_add_right _ 2))).2

/-- What does not touch the memory of a handle. -/
theorem Entry.unchanged {state after : State} {easy : Nat} {request : HttpRequest} {conn : ConnInfo}
    (entry : Entry state easy request conn) (handle : easy ∈ after.easyHandles)
    (address : after.privateData easy = state.privateData easy)
    (connection : after.connections (easy + 1) = state.connections (easy + 1))
    (requested : after.requests easy = state.requests easy)
    (list : easy + 2 ∈ state.headerLists → easy + 2 ∈ after.headerLists)
    (received : after.received easy = state.received easy) : Entry after easy request conn where
  handle := handle
  address := address.trans entry.address
  connection := connection.trans entry.connection
  requested := requested.trans entry.requested
  own := entry.own
  id := entry.id
  header := entry.header
  list := fun filled => list (entry.list filled)
  response := entry.response.trans received.symm

theorem call_sound {messages : List Message} {state after : State} {curl : Curl} {request : HttpRequest}
    (sound : Sound messages state) (called : Called curl request state after) : Sound messages after := by
  obtain ⟨differentHandles, differentLists, differentMulti⟩ := sound.different
  have newHandle : state.fresh ∉ state.easyHandles := fun member =>
    absurd (sound.handles _ member) (Nat.lt_irrefl _)
  have newList := sound.newList (Nat.le_add_right state.fresh 2)
  have newMulti := sound.newHandle (Nat.le_refl state.fresh)
  have moreHandles : (state.easyHandles ++ [state.fresh]).Nodup :=
    List.concat_eq_append ▸ differentHandles.concat newHandle
  have moreLists : (state.headerLists ++ [state.fresh + 2]).Nodup :=
    List.concat_eq_append ▸ differentLists.concat newList
  have moreMulti : (state.multi ++ [state.fresh]).Nodup :=
    List.concat_eq_append ▸ differentMulti.concat newMulti
  cases called with
  | unavailable failed =>
      exact
        { noFault := sound.noFault
          handles := sound.handles
          lists := sound.lists
          different := sound.different
          entries := fun easy member => by
            obtain ⟨request, conn, entry⟩ := sound.entries easy member
            exact ⟨request, conn, entry.unchanged entry.handle rfl rfl rfl id rfl⟩
          owned := sound.owned
          pending := sound.pending
          once := sound.once
          unheard := sound.unheard
          notifier := sound.notifier }
  | refused privateData available failed others =>
      have lost : ∀ list ∈ (if losesList curl request then [state.fresh + 2] else []),
          list = state.fresh + 2 := by
        intro list member
        split at member
        · exact List.mem_singleton.mp member
        · cases member
      exact
        { noFault := sound.noFault
          handles := fun easy member => by
            rcases List.mem_append.mp member with old | new
            · exact Nat.lt_add_right 3 (sound.handles easy old)
            · rw [List.mem_singleton.mp new]
              exact Nat.lt_add_of_pos_right (by decide)
          lists := fun list member => by
            rcases List.mem_append.mp member with old | new
            · exact Nat.lt_add_right 3 (sound.lists list old)
            · rw [lost list new]
              exact Nat.add_lt_add_left (by decide) _
          different := ⟨moreHandles, by
            simp only [abandoned]
            split
            · exact moreLists
            · rw [List.append_nil]
              exact differentLists, differentMulti⟩
          entries := fun easy member => by
            obtain ⟨request, conn, entry⟩ := sound.entries easy member
            have old : easy ≠ state.fresh := fun same => newMulti (same ▸ member)
            exact ⟨request, conn, entry.unchanged (List.mem_append_left _ entry.handle)
              (others easy old) rfl rfl (List.mem_append_left _) rfl⟩
          owned := sound.owned
          pending := sound.pending
          once := sound.once
          unheard := fun easy new => sound.unheard easy (by
            simp only [abandoned] at new
            omega)
          notifier := sound.notifier }
  | started available all =>
      have listed : ∀ list ∈ (if request.headers.isEmpty then [] else [state.fresh + 2]),
          list = state.fresh + 2 := by
        intro list member
        split at member
        · cases member
        · exact List.mem_singleton.mp member
      exact
        { noFault := sound.noFault
          handles := fun easy member => by
            rcases List.mem_append.mp member with old | new
            · exact Nat.lt_add_right 3 (sound.handles easy old)
            · rw [List.mem_singleton.mp new]
              exact Nat.lt_add_of_pos_right (by decide)
          lists := fun list member => by
            rcases List.mem_append.mp member with old | new
            · exact Nat.lt_add_right 3 (sound.lists list old)
            · rw [listed list new]
              exact Nat.add_lt_add_left (by decide) _
          different := ⟨moreHandles, by
            simp only [added]
            split
            · rw [List.append_nil]
              exact differentLists
            · exact moreLists, moreMulti⟩
          entries := fun easy member => by
            rcases List.mem_append.mp member with old | new
            · obtain ⟨request, conn, entry⟩ := sound.entries easy old
              have other : easy ≠ state.fresh := fun same => newMulti (same ▸ old)
              have behind : easy + 1 ≠ state.fresh + 1 := fun same => other (Nat.succ.inj same)
              exact ⟨request, conn, entry.unchanged (List.mem_append_left _ entry.handle)
                (Function.update_of_ne other _ _) (Function.update_of_ne behind _ _)
                (Function.update_of_ne other _ _) (List.mem_append_left _) rfl⟩
            · rw [List.mem_singleton.mp new]
              exact ⟨request, _,
                { handle := List.mem_append_right _ List.mem_cons_self
                  address := Function.update_self _ _ _
                  connection := Function.update_self _ _ _
                  requested := Function.update_self _ _ _
                  own := rfl
                  id := rfl
                  header := rfl
                  list := fun filled => by simp [added, filled]
                  response := (sound.unheard _ (Nat.le_refl _)).symm }⟩
          owned := fun address conn found => by
            by_cases here : address = state.fresh + 1
            · subst here
              simp only [added, Function.update_self, Option.some.injEq] at found
              subst found
              exact ⟨List.mem_append_right _ List.mem_cons_self, rfl⟩
            · simp only [added, Function.update_of_ne here] at found
              obtain ⟨member, place⟩ := sound.owned address conn found
              exact ⟨List.mem_append_left _ member, place⟩
          pending := fun easy success member => List.mem_append_left _ (sound.pending easy success member)
          once := sound.once
          unheard := fun easy new => sound.unheard easy (by
            simp only [added] at new
            omega)
          notifier := sound.notifier }

/-- A ConnInfo is changed, but neither its owner nor its id or list. -/
def edited (easy : Nat) (conn : ConnInfo) (received : Nat → Bytes) (messages : List Message)
    (ends : List (Nat × Option ErrorBuffer)) (state : State) : State :=
  { state with
    connections := Function.update state.connections (easy + 1) (some conn)
    received := received
    messages := messages
    ends := ends }

theorem edited_entry {state : State} {easy : Nat} {request : HttpRequest} {conn changed : ConnInfo}
    (entry : Entry state easy request conn) (received : Nat → Bytes) (messages : List Message)
    (ends : List (Nat × Option ErrorBuffer))
    (same : changed.easy = conn.easy ∧ changed.id = conn.id ∧ changed.headerList = conn.headerList)
    (response : changed.response = received easy) :
    Entry (edited easy changed received messages ends state) easy request changed where
  handle := entry.handle
  address := entry.address
  connection := Function.update_self _ _ _
  requested := entry.requested
  own := same.1.trans entry.own
  id := same.2.1.trans entry.id
  header := same.2.2.trans entry.header
  list := entry.list
  response := response

theorem edited_sound {messages later : List Message} {state : State} {easy : Nat}
    {request : HttpRequest} {conn changed : ConnInfo} (sound : Sound messages state)
    (entry : Entry state easy request conn) (member : easy ∈ state.multi) (received : Nat → Bytes)
    (kept : List Message) (ends : List (Nat × Option ErrorBuffer))
    (same : changed.easy = conn.easy ∧ changed.id = conn.id ∧ changed.headerList = conn.headerList)
    (response : changed.response = received easy)
    (others : ∀ other, other ≠ easy → received other = state.received other)
    (pending : ∀ easy success, Message.done easy success ∈ later → easy ∈ state.multi)
    (once : ((later.filterMap reported).map Prod.fst).Nodup) :
    Sound later (edited easy changed received kept ends state) where
  noFault := sound.noFault
  handles := sound.handles
  lists := sound.lists
  different := sound.different
  entries := fun other inside => by
    by_cases here : other = easy
    · subst here
      exact ⟨request, changed, edited_entry entry received kept ends same response⟩
    · obtain ⟨otherRequest, otherConn, known⟩ := sound.entries other inside
      have behind : other + 1 ≠ easy + 1 := fun equal => here (Nat.succ.inj equal)
      exact ⟨otherRequest, otherConn, known.unchanged known.handle rfl
        (Function.update_of_ne behind _ _) rfl id (others other here)⟩
  owned := fun address found known => by
    by_cases here : address = easy + 1
    · subst here
      simp only [edited, Function.update_self, Option.some.injEq] at known
      subst known
      rw [same.1, entry.own]
      exact ⟨member, rfl⟩
    · simp only [edited, Function.update_of_ne here] at known
      exact sound.owned address found known
  pending := pending
  once := once
  unheard := fun other new => by
    have different : other ≠ easy := by
      rintro rfl
      exact absurd (sound.handles _ entry.handle) (Nat.not_lt.mpr new)
    exact (others other different).trans (sound.unheard other new)
  notifier := sound.notifier

theorem writeCb_edited {state : State} {easy : Nat} {request : HttpRequest} {conn : ConnInfo}
    (entry : Entry state easy request conn) (chunk : Bytes) :
    writeCb easy chunk state =
      edited easy { conn with response := conn.response ++ chunk }
        (Function.update state.received easy (state.received easy ++ chunk)) state.messages
        state.ends state := by
  simp [writeCb, entry.connectionOf, edited]

theorem endTransfer_edited {state : State} {easy : Nat} {request : HttpRequest} {conn : ConnInfo}
    (entry : Entry state easy request conn) (failure : Option ErrorBuffer) :
    endTransfer easy failure state =
      edited easy { conn with error := failure.getD conn.error } state.received
        (state.messages ++ [.done easy failure.isNone]) (state.ends ++ [(easy, failure)]) state := by
  simp [endTransfer, entry.connectionOf, edited]

theorem writeCb_sound {state : State} {easy : Nat} (sound : Sound state.messages state)
    (running : Running state easy) (chunk : Bytes) :
    Sound (writeCb easy chunk state).messages (writeCb easy chunk state) := by
  obtain ⟨request, conn, entry⟩ := sound.entries easy running.1
  rw [writeCb_edited entry]
  refine edited_sound sound entry running.1 _ _ _ ⟨rfl, rfl, rfl⟩ ?_ ?_ sound.pending sound.once
  · rw [Function.update_self, entry.response]
  · exact fun other different => Function.update_of_ne different _ _

theorem endTransfer_sound {state : State} {easy : Nat} (sound : Sound state.messages state)
    (running : Running state easy) (failure : Option ErrorBuffer) :
    Sound (endTransfer easy failure state).messages (endTransfer easy failure state) := by
  obtain ⟨request, conn, entry⟩ := sound.entries easy running.1
  rw [endTransfer_edited entry]
  have once : (((state.messages ++ [Message.done easy failure.isNone]).filterMap reported).map
      Prod.fst).Nodup := by
    rw [List.filterMap_append, List.map_append]
    refine List.concat_eq_append ▸ sound.once.concat ?_
    intro again
    obtain ⟨⟨other, success⟩, inside, same⟩ := List.mem_map.mp again
    obtain ⟨message, member, read⟩ := List.mem_filterMap.mp inside
    cases message with
    | other => cases read
    | done done flag =>
        cases read
        cases same
        exact running.2 _ member
  refine edited_sound sound entry running.1 _ _ _ ⟨rfl, rfl, rfl⟩ entry.response (fun _ _ => rfl) ?_ once
  intro other success member
  rcases List.mem_append.mp member with old | new
  · exact sound.pending other success old
  · cases List.mem_singleton.mp new
    exact running.1

def responseOf (conn : ConnInfo) (success : Bool) : HttpResponse :=
  if success then ⟨conn.id, true, conn.response⟩ else ⟨conn.id, false, conn.error.text⟩

/-- The handle, its list and its ConnInfo are given back, and its response is queued. -/
def closed (easy : Nat) (request : HttpRequest) (response : HttpResponse) (state : State) : State :=
  { state with
    responseQueue := state.responseQueue ++ [response]
    multi := state.multi.erase easy
    easyHandles := state.easyHandles.erase easy
    headerLists :=
      if request.headers.isEmpty then state.headerLists else state.headerLists.erase (easy + 2)
    connections := Function.update state.connections (easy + 1) none
    notifier := state.notifier.map (· + 1) }

theorem notifyResposeAvailable_eq (state : State) :
    notifyResposeAvailable state = { state with notifier := state.notifier.map (· + 1) } := by
  unfold notifyResposeAvailable
  split
  · rename_i counter
    have kept : state.notifier.map (· + 1) = state.notifier := by rw [counter, Option.map_none]
    rw [kept]
  · rename_i count counter
    rw [counter, Option.map_some]

theorem resposeNotifierEventHandler_eq {state : State} (readable : readable state = true) :
    resposeNotifierEventHandler state =
      { state with
        notifier := state.notifier.map fun _ => 0
        delivered := state.delivered ++ state.responseQueue
        responseQueue := [] } := by
  cases counter : state.notifier with
  | none => simp [HttpTransfers.readable, counter] at readable
  | some count => simp only [resposeNotifierEventHandler, counter, Option.map_some]

theorem checkMessage_closed {state : State} {easy : Nat} {request : HttpRequest} {conn : ConnInfo}
    (entry : Entry state easy request conn) (success : Bool) :
    checkMessage (.done easy success) state =
      closed easy request (responseOf conn success) state := by
  have held : state.easyHandles.contains easy = true := List.contains_iff_mem.mpr entry.handle
  cases empty : request.headers.isEmpty with
  | true =>
      have none : conn.headerList = none := by rw [entry.header, if_pos empty]
      simp [checkMessage, notifyResposeAvailable_eq, entry.connectionOf, freeConnInfo,
        entry.connection, none, closed, responseOf, empty, entry.handle]
  | false =>
      have list : conn.headerList = some (easy + 2) := by
        rw [entry.header, if_neg (by rw [empty]; decide)]
      simp [checkMessage, notifyResposeAvailable_eq, entry.connectionOf, freeConnInfo, freeList,
        entry.connection, list, closed, responseOf, empty, entry.handle, entry.list empty]

theorem closed_sound {messages : List Message} {state : State} {easy : Nat} {success : Bool}
    {request : HttpRequest} {conn : ConnInfo} (sound : Sound (.done easy success :: messages) state)
    (entry : Entry state easy request conn) (response : HttpResponse) :
    Sound messages (closed easy request response state) := by
  obtain ⟨differentHandles, differentLists, differentMulti⟩ := sound.different
  have once : easy ∉ (messages.filterMap reported).map Prod.fst ∧
      ((messages.filterMap reported).map Prod.fst).Nodup := List.nodup_cons.mp sound.once
  have fewer : (closed easy request response state).headerLists.Sublist state.headerLists := by
    simp only [closed]
    split
    · exact List.Sublist.refl _
    · exact List.erase_sublist
  exact
    { noFault := sound.noFault
      handles := fun other member => sound.handles other (List.mem_of_mem_erase member)
      lists := fun list member => sound.lists list (fewer.subset member)
      different := ⟨differentHandles.erase easy, differentLists.sublist fewer, differentMulti.erase easy⟩
      entries := fun other member => by
        have different : other ≠ easy := by
          rintro rfl
          exact absurd member differentMulti.not_mem_erase
        have behind : other + 1 ≠ easy + 1 := fun equal => different (Nat.succ.inj equal)
        obtain ⟨otherRequest, otherConn, known⟩ := sound.entries other (List.mem_of_mem_erase member)
        refine ⟨otherRequest, otherConn, known.unchanged
          ((List.mem_erase_of_ne different).mpr known.handle) rfl
          (Function.update_of_ne behind _ _) rfl ?_ rfl⟩
        intro inside
        simp only [closed]
        split
        · exact inside
        · exact (List.mem_erase_of_ne (fun equal => different (Nat.add_right_cancel equal))).mpr inside
      owned := fun address found known => by
        by_cases here : address = easy + 1
        · subst here
          simp only [closed, Function.update_self] at known
          cases known
        · simp only [closed, Function.update_of_ne here] at known
          obtain ⟨member, place⟩ := sound.owned address found known
          have different : found.easy ≠ easy := fun same => here (same ▸ place)
          exact ⟨(List.mem_erase_of_ne different).mpr member, place⟩
      pending := fun other flag member => by
        have different : other ≠ easy := by
          rintro rfl
          exact once.1 (List.mem_map.mpr
            ⟨(other, flag), List.mem_filterMap.mpr ⟨_, member, rfl⟩, rfl⟩)
        exact (List.mem_erase_of_ne different).mpr
          (sound.pending other flag (List.mem_cons_of_mem _ member))
      once := once.2
      unheard := sound.unheard
      notifier := by
        rw [closed, sound.notifier]
        simp only [Option.map_map, List.length_append, List.length_singleton]
        rfl }

theorem checkMessage_sound {messages : List Message} {message : Message} {state : State}
    (sound : Sound (message :: messages) state) : Sound messages (checkMessage message state) := by
  cases message with
  | other =>
      exact
        { sound with
          pending := fun easy success member => sound.pending easy success (List.mem_cons_of_mem _ member)
          once := sound.once }
  | done easy success =>
      obtain ⟨request, conn, entry⟩ := sound.entries easy (sound.pending easy success List.mem_cons_self)
      rw [checkMessage_closed entry]
      exact closed_sound sound entry _

theorem checkMessages_sound (messages : List Message) {state : State} (sound : Sound messages state) :
    Sound [] (checkMessages messages state) := by
  induction messages generalizing state with
  | nil => exact sound
  | cons message messages ih => exact ih (checkMessage_sound sound)

/-- The messages and the queue are no part of the memory. -/
theorem Sound.requeued {messages later : List Message} {state : State} (sound : Sound messages state)
    (queue delivered : List HttpResponse) :
    Sound messages
      { state with
        messages := later
        responseQueue := queue
        notifier := state.notifier.map fun _ => queue.length
        delivered := delivered } where
  noFault := sound.noFault
  handles := sound.handles
  lists := sound.lists
  different := sound.different
  entries := fun easy member => by
    obtain ⟨request, conn, entry⟩ := sound.entries easy member
    exact ⟨request, conn, entry.unchanged entry.handle rfl rfl rfl id rfl⟩
  owned := sound.owned
  pending := sound.pending
  once := sound.once
  unheard := sound.unheard
  notifier := by rw [Option.map_map]; rfl

theorem Sound.relabelled {messages : List Message} {state : State} (sound : Sound messages state)
    (later : List Message) : Sound messages { state with messages := later } := by
  have requeued : Sound messages
      { state with
        messages := later, notifier := state.notifier.map fun _ => state.responseQueue.length } :=
    sound.requeued state.responseQueue state.delivered
  rwa [← sound.notifier] at requeued

theorem checkMessage_messages (message : Message) (state : State) :
    (checkMessage message state).messages = state.messages := by
  cases message with
  | other => rfl
  | done easy success =>
      simp only [checkMessage, notifyResposeAvailable_eq]
      cases connectionOf state easy with
      | none => rfl
      | some found =>
          simp only [freeConnInfo]
          split
          · rfl
          · split <;> rfl

theorem checkMessages_messages (messages : List Message) (state : State) :
    (checkMessages messages state).messages = state.messages := by
  induction messages generalizing state with
  | nil => rfl
  | cons message messages ih => rw [checkMessages, ih, checkMessage_messages]

theorem call_messages {state after : State} {curl : Curl} {request : HttpRequest}
    (called : Called curl request state after) : after.messages = state.messages := by
  cases called <;> rfl

theorem sound_step {state after : State} {event : Event} (sound : Sound state.messages state)
    (promised : Promised state event) (stepped : step state event = some after) :
    Sound after.messages after := by
  cases event with
  | request curl request =>
      cases stepped
      have called := sound.called curl request
      rw [call_messages called]
      exact call_sound sound called
  | write easy chunk =>
      cases stepped
      exact writeCb_sound sound promised.1 chunk
  | finish easy failure =>
      cases stepped
      exact endTransfer_sound sound promised failure
  | message =>
      cases stepped
      have quiet : (state.messages ++ [Message.other]).filterMap reported =
          state.messages.filterMap reported := by
        rw [List.filterMap_append]
        exact List.append_nil _
      have again := sound.relabelled (state.messages ++ [.other])
      refine { again with pending := ?_, once := ?_ }
      · intro easy success member
        rcases List.mem_append.mp member with old | new
        · exact sound.pending easy success old
        · cases List.mem_singleton.mp new
      · rw [quiet]
        exact sound.once
  | action =>
      cases stepped
      rw [checkMultiInfo, checkMessages_messages]
      exact checkMessages_sound _ (sound.relabelled [])
  | notified =>
      rw [step] at stepped
      split at stepped
      · rename_i readable
        cases stepped
        rw [resposeNotifierEventHandler_eq readable]
        exact sound.requeued [] (state.delivered ++ state.responseQueue)
      · cases stepped

theorem sound_start (eventfd link : Bool) :
    Sound (initResposeNotifier eventfd link {}).messages (initResposeNotifier eventfd link {}) := by
  have empty : initResposeNotifier eventfd link {} =
      { notifier := (initResposeNotifier eventfd link {}).notifier,
        linked := (initResposeNotifier eventfd link {}).linked } := by
    cases eventfd <;> rfl
  rw [empty]
  exact
    { noFault := rfl
      handles := by simp
      lists := by simp
      different := by simp
      entries := by simp
      owned := by simp
      pending := by simp
      once := by simp
      unheard := fun _ _ => rfl
      notifier := by cases eventfd <;> rfl }

section Runs

variable {eventfd link : Bool}

theorem sound_reached {state : State} (reached : (system eventfd link).Reached Promised state) :
    Sound state.messages state :=
  LabelledRuns.reached_invariant (system eventfd link) Promised
    (fun state => Sound state.messages state) (sound_start eventfd link)
    (fun _ _ _ => sound_step) reached

end Runs

/-! What is lost. -/

def listed (requests : Nat → Option HttpRequest) (easy : Nat) : Bool :=
  (requests easy).any fun request => !request.headers.isEmpty

/-- Every allocation belongs to a handle that libcurl has or to a call that lost it. -/
structure Accounted (state : State) : Prop where
  handles : state.easyHandles.length =
    state.multi.length + state.calls.countP fun call => losesHandle call.1 call.2
  lists : state.headerLists.length =
    state.multi.countP (listed state.requests) + state.calls.countP fun call => losesList call.1 call.2

theorem listed_entry {state : State} {easy : Nat} {request : HttpRequest} {conn : ConnInfo}
    (entry : Entry state easy request conn) : listed state.requests easy = !request.headers.isEmpty := by
  simp [listed, entry.requested]

theorem call_accounted {messages : List Message} {state after : State} {curl : Curl}
    {request : HttpRequest} (sound : Sound messages state) (accounted : Accounted state)
    (called : Called curl request state after) : Accounted after := by
  obtain ⟨handles, lists⟩ := accounted
  cases called with
  | unavailable failed =>
      constructor
      · simp [handles, losesHandle, failed, List.countP_append]
      · simpa [listed, losesList, failed, List.countP_append] using lists
  | refused privateData available failed others =>
      constructor
      · simp [abandoned, handles, losesHandle, available, failed, List.countP_append, Nat.add_assoc]
      · cases lost : losesList curl request <;>
          simp [abandoned, lists, lost, List.countP_append, Nat.add_assoc]
  | started available all =>
      have kept : losesList curl request = false := by
        have parts := all
        rw [started_eq] at parts
        simp only [Bool.and_eq_true, Bool.or_eq_true] at parts
        rcases parts.1.1.2.2 with empty | headers
        · simp [losesList, empty]
        · simp [losesList, parts.1.1.2.1.2, headers]
      have others : state.multi.countP (listed (added curl request state).requests) =
          state.multi.countP (listed state.requests) := by
        refine List.countP_congr fun easy member => ?_
        have different : easy ≠ state.fresh := fun same =>
          sound.newHandle (Nat.le_refl state.fresh) (same ▸ member)
        simp [listed, added, Function.update_of_ne different]
      have last : listed (added curl request state).requests state.fresh = !request.headers.isEmpty := by
        simp [listed, added]
      constructor
      · simp [added, handles, losesHandle, all, List.countP_append, Nat.add_right_comm]
      · have multi : (added curl request state).multi = state.multi ++ [state.fresh] := rfl
        rw [multi, List.countP_append, others, List.countP_singleton, last]
        cases empty : request.headers.isEmpty <;>
          simp [added, lists, kept, empty, List.countP_append, Nat.add_right_comm]

theorem edited_accounted {state : State} (accounted : Accounted state) (easy : Nat) (conn : ConnInfo)
    (received : Nat → Bytes) (messages : List Message) (ends : List (Nat × Option ErrorBuffer)) :
    Accounted (edited easy conn received messages ends state) :=
  ⟨accounted.handles, accounted.lists⟩

theorem closed_accounted {state : State} {easy : Nat} {request : HttpRequest} {conn : ConnInfo}
    (accounted : Accounted state) (entry : Entry state easy request conn) (member : easy ∈ state.multi)
    (response : HttpResponse) : Accounted (closed easy request response state) := by
  obtain ⟨handles, lists⟩ := accounted
  have some : 0 < state.multi.length := List.length_pos_of_mem member
  have counted : state.multi.countP (listed state.requests) =
      (easy :: state.multi.erase easy).countP (listed state.requests) :=
    (List.perm_cons_erase member).countP_eq _
  rw [List.countP_cons, listed_entry entry] at counted
  constructor
  · simp only [closed, List.length_erase_of_mem entry.handle, List.length_erase_of_mem member, handles]
    omega
  · simp only [closed]
    cases empty : request.headers.isEmpty with
    | true =>
        simp only [empty, Bool.not_true, Bool.false_eq_true, if_false, Nat.add_zero] at counted
        rw [if_pos rfl, lists, counted]
    | false =>
        simp only [empty, Bool.not_false, if_true] at counted
        rw [if_neg (by decide), List.length_erase_of_mem (entry.list empty), lists, counted]
        omega

theorem checkMessages_accounted (messages : List Message) {state : State}
    (sound : Sound messages state) (accounted : Accounted state) :
    Accounted (checkMessages messages state) := by
  induction messages generalizing state with
  | nil => exact accounted
  | cons message messages ih =>
      refine ih (checkMessage_sound sound) ?_
      cases message with
      | other => exact accounted
      | done easy success =>
          have member := sound.pending easy success List.mem_cons_self
          obtain ⟨request, conn, entry⟩ := sound.entries easy member
          rw [checkMessage_closed entry]
          exact closed_accounted accounted entry member _

theorem accounted_step {state after : State} {event : Event} (sound : Sound state.messages state)
    (accounted : Accounted state) (promised : Promised state event)
    (stepped : step state event = some after) : Accounted after := by
  cases event with
  | request curl request =>
      cases stepped
      exact call_accounted sound accounted (sound.called curl request)
  | write easy chunk =>
      cases stepped
      obtain ⟨request, conn, entry⟩ := sound.entries easy promised.1.1
      rw [writeCb_edited entry]
      exact edited_accounted accounted _ _ _ _ _
  | finish easy failure =>
      cases stepped
      obtain ⟨request, conn, entry⟩ := sound.entries easy promised.1
      rw [endTransfer_edited entry]
      exact edited_accounted accounted _ _ _ _ _
  | message =>
      cases stepped
      exact ⟨accounted.handles, accounted.lists⟩
  | action =>
      cases stepped
      exact checkMessages_accounted _ (sound.relabelled []) ⟨accounted.handles, accounted.lists⟩
  | notified =>
      rw [step] at stepped
      split at stepped
      · rename_i readable
        cases stepped
        rw [resposeNotifierEventHandler_eq readable]
        exact ⟨accounted.handles, accounted.lists⟩
      · cases stepped

/-! What the handler is given. -/

/-- A transfer that ended, as its request and libcurl's side of it say. -/
def answer (requests : Nat → Option HttpRequest) (received : Nat → Bytes)
    (ended : Nat × Option ErrorBuffer) : Option HttpResponse :=
  (requests ended.1).map fun request =>
    (match ended.2 with
      | none => TransferResult.ok (received ended.1)
      | some error => .failed error).response request.id

def flag (ended : Nat × Option ErrorBuffer) : Nat × Bool := (ended.1, ended.2.isNone)

/-- The ends are answered one after the other, those of the messages not yet. -/
structure Answered (messages : List Message) (processed pending : List (Nat × Option ErrorBuffer))
    (state : State) : Prop where
  ends : state.ends = processed ++ pending
  waiting : messages.filterMap reported = pending.map flag
  answers : (state.delivered ++ state.responseQueue).map some =
    processed.map (answer state.requests state.received)
  gone : ∀ ended ∈ processed, ended.1 < state.fresh ∧ ended.1 ∉ state.multi
  once : (processed.map Prod.fst).Nodup
  errors : ∀ ended ∈ pending, ∀ error, ended.2 = some error → ∀ conn,
    state.connections (ended.1 + 1) = some conn → conn.error = error

theorem Answered.pending_multi {messages : List Message}
    {processed pending : List (Nat × Option ErrorBuffer)} {state : State}
    (answered : Answered messages processed pending state) (sound : Sound messages state)
    {ended : Nat × Option ErrorBuffer} (member : ended ∈ pending) : ended.1 ∈ state.multi := by
  have shown : flag ended ∈ messages.filterMap reported := by
    rw [answered.waiting]
    exact List.mem_map_of_mem member
  obtain ⟨message, inside, read⟩ := List.mem_filterMap.mp shown
  cases message with
  | other => cases read
  | done easy success =>
      cases read
      exact sound.pending _ _ inside

/-- What leaves the answered transfers alone. -/
theorem answers_unchanged {requests later : Nat → Option HttpRequest} {received heard : Nat → Bytes}
    {processed : List (Nat × Option ErrorBuffer)}
    (same : ∀ ended ∈ processed, later ended.1 = requests ended.1 ∧ heard ended.1 = received ended.1) :
    processed.map (answer later heard) = processed.map (answer requests received) := by
  refine List.map_congr_left fun ended member => ?_
  simp only [answer, (same ended member).1, (same ended member).2]

theorem call_answered {messages : List Message} {processed pending : List (Nat × Option ErrorBuffer)}
    {state after : State} {curl : Curl} {request : HttpRequest} (sound : Sound messages state)
    (answered : Answered messages processed pending state) (called : Called curl request state after) :
    Answered messages processed pending after := by
  cases called with
  | unavailable failed =>
      exact ⟨answered.ends, answered.waiting, answered.answers, answered.gone, answered.once,
        answered.errors⟩
  | refused privateData available failed others =>
      exact ⟨answered.ends, answered.waiting, answered.answers,
        fun ended member =>
          ⟨Nat.lt_add_right 3 (answered.gone ended member).1, (answered.gone ended member).2⟩,
        answered.once, answered.errors⟩
  | started available all =>
      have old : ∀ ended ∈ processed, ended.1 ≠ state.fresh := fun ended member =>
        Nat.ne_of_lt (answered.gone ended member).1
      refine ⟨answered.ends, answered.waiting, ?_, ?_, answered.once, ?_⟩
      · exact answered.answers.trans (answers_unchanged fun ended member =>
          ⟨Function.update_of_ne (old ended member) _ _, rfl⟩).symm
      · intro ended member
        refine ⟨Nat.lt_add_right 3 (answered.gone ended member).1, ?_⟩
        intro again
        rcases List.mem_append.mp again with inside | last
        · exact (answered.gone ended member).2 inside
        · exact old ended member (List.mem_singleton.mp last)
      · intro ended member error failed conn found
        have different : ended.1 ≠ state.fresh := fun same =>
          sound.newHandle (Nat.le_refl state.fresh) (same ▸ answered.pending_multi sound member)
        have behind : ended.1 + 1 ≠ state.fresh + 1 := fun same => different (Nat.succ.inj same)
        simp only [added, Function.update_of_ne behind] at found
        exact answered.errors ended member error failed conn found

theorem writeCb_answered {processed pending : List (Nat × Option ErrorBuffer)} {state : State}
    {easy : Nat} (sound : Sound state.messages state) (running : Running state easy)
    (answered : Answered state.messages processed pending state) (chunk : Bytes) :
    Answered state.messages processed pending (writeCb easy chunk state) := by
  obtain ⟨request, conn, entry⟩ := sound.entries easy running.1
  rw [writeCb_edited entry]
  refine ⟨answered.ends, answered.waiting, ?_, answered.gone, answered.once, ?_⟩
  · have other : ∀ ended ∈ processed, ended.1 ≠ easy := fun ended member same =>
      (answered.gone ended member).2 (same ▸ running.1)
    exact answered.answers.trans (answers_unchanged fun ended member =>
      ⟨rfl, Function.update_of_ne (other ended member) _ _⟩).symm
  · intro ended member error failed changed found
    by_cases here : ended.1 = easy
    · have own : state.connections (ended.1 + 1) = some conn := by rw [here, entry.connection]
      simp only [edited, here, Function.update_self, Option.some.injEq] at found
      rw [← found]
      exact answered.errors ended member error failed conn own
    · have behind : ended.1 + 1 ≠ easy + 1 := fun same => here (Nat.succ.inj same)
      simp only [edited, Function.update_of_ne behind] at found
      exact answered.errors ended member error failed changed found

theorem endTransfer_answered {processed pending : List (Nat × Option ErrorBuffer)} {state : State}
    {easy : Nat} (sound : Sound state.messages state) (running : Running state easy)
    (answered : Answered state.messages processed pending state) (failure : Option ErrorBuffer) :
    Answered (endTransfer easy failure state).messages processed (pending ++ [(easy, failure)])
      (endTransfer easy failure state) := by
  obtain ⟨request, conn, entry⟩ := sound.entries easy running.1
  rw [endTransfer_edited entry]
  refine ⟨?_, ?_, answered.answers, answered.gone, answered.once, ?_⟩
  · simp only [edited, answered.ends, List.append_assoc]
  · simp only [edited, List.filterMap_append, answered.waiting, List.map_append]
    rfl
  · intro ended member error failed changed found
    by_cases here : ended.1 = easy
    · rcases List.mem_append.mp member with old | last
      · -- an end of this handle would be among the messages
        have shown : flag ended ∈ state.messages.filterMap reported := by
          rw [answered.waiting]
          exact List.mem_map_of_mem old
        obtain ⟨message, inside, read⟩ := List.mem_filterMap.mp shown
        cases message with
        | other => cases read
        | done done success =>
            cases read
            exact absurd (here ▸ inside) (running.2 _)
      · cases List.mem_singleton.mp last
        simp only [edited, Function.update_self, Option.some.injEq] at found
        rw [← found]
        have written : failure = some error := failed
        rw [written, Option.getD_some]
    · have behind : ended.1 + 1 ≠ easy + 1 := fun same => here (Nat.succ.inj same)
      simp only [edited, Function.update_of_ne behind] at found
      rcases List.mem_append.mp member with old | last
      · exact answered.errors ended old error failed changed found
      · exact absurd (congrArg Prod.fst (List.mem_singleton.mp last)) here

theorem responseOf_answer {state : State} {easy : Nat} {request : HttpRequest} {conn : ConnInfo}
    (entry : Entry state easy request conn) (failure : Option ErrorBuffer)
    (error : ∀ text, failure = some text → conn.error = text) :
    some (responseOf conn failure.isNone) =
      answer state.requests state.received (easy, failure) := by
  cases failure with
  | none => simp [responseOf, answer, entry.requested, entry.id, entry.response, TransferResult.response]
  | some text =>
      simp [responseOf, answer, entry.requested, entry.id, error text rfl, TransferResult.response]

theorem closed_answered {messages : List Message} {processed rest : List (Nat × Option ErrorBuffer)}
    {ended : Nat × Option ErrorBuffer} {state : State} {easy : Nat} {success : Bool}
    {request : HttpRequest} {conn : ConnInfo} (sound : Sound (.done easy success :: messages) state)
    (entry : Entry state easy request conn)
    (answered : Answered (.done easy success :: messages) processed (ended :: rest) state)
    (first : flag ended = (easy, success)) (others : rest.map flag = messages.filterMap reported) :
    Answered messages (processed ++ [ended]) rest
      (closed easy request (responseOf conn success) state) := by
  obtain ⟨handle, failure⟩ := ended
  cases first
  have member := sound.pending handle failure.isNone List.mem_cons_self
  have response := responseOf_answer entry failure fun text failed =>
    answered.errors _ List.mem_cons_self text failed conn entry.connection
  have new : handle ∉ processed.map Prod.fst := by
    intro again
    obtain ⟨old, inside, same⟩ := List.mem_map.mp again
    exact (answered.gone old inside).2 (same ▸ member)
  refine ⟨?_, others.symm, ?_, ?_, ?_, ?_⟩
  · simp only [closed, answered.ends, List.append_assoc, List.singleton_append]
  · simp only [closed, ← List.append_assoc]
    rw [List.map_append, answered.answers, List.map_append]
    exact congrArg _ (congrArg (fun last => [last]) response)
  · intro old inside
    rcases List.mem_append.mp inside with before | last
    · exact ⟨(answered.gone old before).1, fun again =>
        (answered.gone old before).2 (List.mem_of_mem_erase again)⟩
    · cases List.mem_singleton.mp last
      exact ⟨sound.handles _ entry.handle, sound.different.2.2.not_mem_erase⟩
  · rw [List.map_append]
    exact List.concat_eq_append ▸ answered.once.concat new
  · intro later inside error failed found known
    refine answered.errors later (List.mem_cons_of_mem _ inside) error failed found ?_
    by_cases here : later.1 + 1 = handle + 1
    · simp only [closed, here, Function.update_self] at known
      cases known
    · simpa only [closed, Function.update_of_ne here] using known

theorem checkMessages_answered (messages : List Message)
    {processed pending : List (Nat × Option ErrorBuffer)} {state : State}
    (sound : Sound messages state) (answered : Answered messages processed pending state) :
    Answered [] (processed ++ pending) [] (checkMessages messages state) := by
  induction messages generalizing state processed pending with
  | nil =>
      have none : pending = [] := List.map_eq_nil_iff.mp answered.waiting.symm
      subst none
      rwa [List.append_nil]
  | cons message messages ih =>
      cases message with
      | other =>
          exact ih (checkMessage_sound sound)
            ⟨answered.ends, answered.waiting, answered.answers, answered.gone, answered.once,
              answered.errors⟩
      | done easy success =>
          have member := sound.pending easy success List.mem_cons_self
          obtain ⟨request, conn, entry⟩ := sound.entries easy member
          -- the first end that is not answered is the one of this message
          have shown : (easy, success) :: messages.filterMap reported = pending.map flag :=
            answered.waiting
          obtain ⟨ended, rest, shape, first, others⟩ := List.map_eq_cons_iff.mp shown.symm
          subst shape
          have next : Answered messages (processed ++ [ended]) rest
              (checkMessage (.done easy success) state) := by
            rw [checkMessage_closed entry]
            exact closed_answered sound entry answered first others
          have result := ih (checkMessage_sound sound) next
          rwa [List.append_assoc] at result

theorem answered_step {processed pending : List (Nat × Option ErrorBuffer)} {state after : State}
    {event : Event} (sound : Sound state.messages state)
    (answered : Answered state.messages processed pending state) (promised : Promised state event)
    (stepped : step state event = some after) :
    ∃ processed pending, Answered after.messages processed pending after := by
  cases event with
  | request curl request =>
      cases stepped
      have called := sound.called curl request
      exact ⟨processed, pending, call_messages called ▸ call_answered sound answered called⟩
  | write easy chunk =>
      cases stepped
      obtain ⟨request, conn, entry⟩ := sound.entries easy promised.1.1
      have same : (writeCb easy chunk state).messages = state.messages := by
        rw [writeCb_edited entry]
        rfl
      exact ⟨processed, pending, same ▸ writeCb_answered sound promised.1 answered chunk⟩
  | finish easy failure =>
      cases stepped
      exact ⟨processed, _, endTransfer_answered sound promised answered failure⟩
  | message =>
      cases stepped
      refine ⟨processed, pending, answered.ends, ?_, answered.answers, answered.gone, answered.once,
        answered.errors⟩
      rw [List.filterMap_append, answered.waiting]
      exact List.append_nil _
  | action =>
      cases stepped
      rw [checkMultiInfo, checkMessages_messages]
      have forgotten : Answered state.messages processed pending { state with messages := [] } :=
        ⟨answered.ends, answered.waiting, answered.answers, answered.gone, answered.once,
          answered.errors⟩
      exact ⟨_, _, checkMessages_answered _ (sound.relabelled []) forgotten⟩
  | notified =>
      rw [step] at stepped
      split at stepped
      · rename_i readable
        cases stepped
        rw [resposeNotifierEventHandler_eq readable]
        refine ⟨processed, pending, answered.ends, answered.waiting, ?_, answered.gone, answered.once,
          answered.errors⟩
        rw [List.append_nil]
        exact answered.answers
      · cases stepped

/-! The descriptor of the notifier. -/

/-- What init_respose_notifier left stays so, and without a watched descriptor the
handler is given nothing. -/
structure Watched (eventfd link : Bool) (state : State) : Prop where
  counted : state.notifier.isSome = eventfd
  linked : state.linked = (eventfd && link)
  idle : (eventfd && link) = false → state.delivered = []

theorem Watched.unchanged {eventfd link : Bool} {state after : State}
    (watched : Watched eventfd link state)
    (notifier : after.notifier.isSome = state.notifier.isSome)
    (linked : after.linked = state.linked) (delivered : after.delivered = state.delivered) :
    Watched eventfd link after where
  counted := notifier.trans watched.counted
  linked := linked.trans watched.linked
  idle := fun unwatched => delivered.trans (watched.idle unwatched)

theorem watched_start (eventfd link : Bool) : Watched eventfd link (initResposeNotifier eventfd link {}) := by
  cases eventfd with
  | false => exact ⟨rfl, rfl, fun _ => rfl⟩
  | true => exact ⟨rfl, rfl, fun _ => rfl⟩

theorem call_watched {eventfd link : Bool} {state after : State} {curl : Curl} {request : HttpRequest}
    (watched : Watched eventfd link state) (called : Called curl request state after) :
    Watched eventfd link after := by
  cases called <;> exact watched.unchanged rfl rfl rfl

theorem checkMessages_watched (messages : List Message) {eventfd link : Bool} {state : State}
    (sound : Sound messages state) (watched : Watched eventfd link state) :
    Watched eventfd link (checkMessages messages state) := by
  induction messages generalizing state with
  | nil => exact watched
  | cons message messages ih =>
      refine ih (checkMessage_sound sound) ?_
      cases message with
      | other => exact watched
      | done easy success =>
          obtain ⟨request, conn, entry⟩ :=
            sound.entries easy (sound.pending easy success List.mem_cons_self)
          rw [checkMessage_closed entry]
          exact watched.unchanged (Option.isSome_map ..) rfl rfl

theorem readable_watched {eventfd link : Bool} {state : State} (watched : Watched eventfd link state)
    (readable : readable state = true) : (eventfd && link) = true :=
  watched.linked.symm.trans (Bool.and_eq_true_iff.mp readable).1

theorem watched_step {eventfd link : Bool} {state after : State} {event : Event}
    (sound : Sound state.messages state) (watched : Watched eventfd link state)
    (promised : Promised state event) (stepped : step state event = some after) :
    Watched eventfd link after := by
  cases event with
  | request curl request =>
      cases stepped
      exact call_watched watched (sound.called curl request)
  | write easy chunk =>
      cases stepped
      obtain ⟨request, conn, entry⟩ := sound.entries easy promised.1.1
      rw [writeCb_edited entry]
      exact watched.unchanged rfl rfl rfl
  | finish easy failure =>
      cases stepped
      obtain ⟨request, conn, entry⟩ := sound.entries easy promised.1
      rw [endTransfer_edited entry]
      exact watched.unchanged rfl rfl rfl
  | message =>
      cases stepped
      exact watched.unchanged rfl rfl rfl
  | action =>
      cases stepped
      exact checkMessages_watched _ (sound.relabelled []) (watched.unchanged rfl rfl rfl)
  | notified =>
      rw [step] at stepped
      split at stepped
      · rename_i readable
        cases stepped
        have both := readable_watched watched readable
        rw [resposeNotifierEventHandler_eq readable]
        refine ⟨(Option.isSome_map ..).trans watched.counted, watched.linked, ?_⟩
        intro unwatched
        rw [both] at unwatched
        cases unwatched
      · cases stepped

section Runs

variable {eventfd link : Bool} {state : State}

theorem accounted_reached (reached : (system eventfd link).Reached Promised state) :
    Accounted state := by
  refine LabelledRuns.reached_invariant_given (system eventfd link) Promised
    (fun state => Sound state.messages state) Accounted (fun _ => sound_reached) ?_
    (fun _ _ _ => accounted_step) reached
  cases eventfd <;> exact ⟨rfl, rfl⟩

theorem answered_reached (reached : (system eventfd link).Reached Promised state) :
    ∃ processed pending, Answered state.messages processed pending state := by
  refine LabelledRuns.reached_invariant_given (system eventfd link) Promised
    (fun state => Sound state.messages state)
    (fun state => ∃ processed pending, Answered state.messages processed pending state)
    (fun _ => sound_reached) ⟨[], [], ?_⟩ ?_ reached
  · cases eventfd <;> exact ⟨rfl, rfl, rfl, by simp, by simp, by simp⟩
  · rintro before event after sound ⟨processed, pending, answered⟩ promised stepped
    exact answered_step sound answered promised stepped

theorem watched_reached (reached : (system eventfd link).Reached Promised state) :
    Watched eventfd link state :=
  LabelledRuns.reached_invariant_given (system eventfd link) Promised
    (fun state => Sound state.messages state) (Watched eventfd link) (fun _ => sound_reached)
    (watched_start eventfd link) (fun _ _ _ => watched_step) reached

/-- The counter, and with it whether epoll reports the descriptor. -/
theorem notifier_reached (reached : (system eventfd link).Reached Promised state) :
    state.notifier = if eventfd then some state.responseQueue.length else none := by
  have watched := watched_reached reached
  rw [(sound_reached reached).notifier]
  cases counter : state.notifier with
  | none =>
      have missing : eventfd = false := by rw [← watched.counted, counter]; rfl
      rw [missing]
      rfl
  | some count =>
      have there : eventfd = true := by rw [← watched.counted, counter]; rfl
      rw [there]
      rfl

end Runs

/-- No run uses memory that was freed. A ConnInfo lives as long as libcurl has its
handle; of the handles and the header lists, those of failed calls stay behind. -/
theorem transfers_memory {eventfd link : Bool} {state : State}
    (reached : (system eventfd link).Reached Promised state) :
    state.fault = false ∧
      (∀ address, (state.connections address).isSome ↔
        ∃ easy ∈ state.multi, state.privateData easy = some address) ∧
      state.easyHandles.length =
        state.multi.length + state.calls.countP (fun call => losesHandle call.1 call.2) ∧
      state.headerLists.length =
        state.multi.countP (listed state.requests) +
          state.calls.countP (fun call => losesList call.1 call.2) := by
  have sound := sound_reached reached
  have accounted := accounted_reached reached
  refine ⟨sound.noFault, ?_, accounted.handles, accounted.lists⟩
  intro address
  constructor
  · intro present
    obtain ⟨conn, found⟩ := Option.isSome_iff_exists.mp present
    obtain ⟨member, place⟩ := sound.owned address conn found
    obtain ⟨request, other, entry⟩ := sound.entries _ member
    exact ⟨conn.easy, member, place ▸ entry.address⟩
  · rintro ⟨easy, member, pointed⟩
    obtain ⟨request, conn, entry⟩ := sound.entries easy member
    have same : address = easy + 1 := Option.some.inj (pointed.symm.trans entry.address)
    rw [same, entry.connection]
    rfl

def lookup (id : UInt32) : HttpRequest := { id := id, url := [1], headers := [[2]] }

/-- Of three calls one starts a transfer, one fails behind the header list and one fails in
curl_multi_add_handle; then the transfer ends. -/
def twoFailures : List Event :=
  [.request (fun _ => true) (lookup 7), .request (fun call => call ≠ .setopt .httpheader) (lookup 8),
    .request (fun call => call ≠ .multiAddHandle) (lookup 9), .write 0 [10, 11], .finish 0 none, .action]

theorem transfers_memory_failures : ∃ state, (system true true).Reached Promised state ∧
    state.easyHandles = [3, 6] ∧ state.headerLists = [5] ∧ state.fault = false ∧
      (∀ address, (state.connections address).isSome ↔
        ∃ easy ∈ state.multi, state.privateData easy = some address) ∧
      state.easyHandles.length =
        state.multi.length + state.calls.countP (fun call => losesHandle call.1 call.2) ∧
      state.headerLists.length =
        state.multi.countP (listed state.requests) +
          state.calls.countP (fun call => losesList call.1 call.2) := by
  obtain ⟨state, reached, shown⟩ := LabelledRuns.run_when_shows (system true true) Promised twoFailures
    (fun state => state.easyHandles = [3, 6] ∧ state.headerLists = [5]) (by decide)
  obtain ⟨handles, lists⟩ := of_decide_eq_true shown
  exact ⟨state, reached, handles, lists, transfers_memory reached⟩

/-- Every transfer that ended is answered once and in the order of the ends, with what
libcurl delivered for its own request; only the ends that check_multi_info has not
read wait for it. The notifier counts what is queued, so it is handed over; without a
watched descriptor it stays queued for ever. -/
theorem ends_answered {eventfd link : Bool} {state : State}
    (reached : (system eventfd link).Reached Promised state) :
    (state.ends.map Prod.fst).Nodup ∧
      (state.delivered ++ state.responseQueue).map some =
        (state.ends.take (state.delivered.length + state.responseQueue.length)).map
          (answer state.requests state.received) ∧
      state.ends.length =
        state.delivered.length + state.responseQueue.length +
          (state.messages.filterMap reported).length ∧
      state.notifier = (if eventfd then some state.responseQueue.length else none) ∧
      (readable state = true ↔ (eventfd && link) = true ∧ state.responseQueue ≠ []) ∧
      ((eventfd && link) = false → state.delivered = []) := by
  have sound := sound_reached reached
  obtain ⟨processed, pending, answered⟩ := answered_reached reached
  have count : processed.length = state.delivered.length + state.responseQueue.length := by
    have lengths := congrArg List.length answered.answers
    simpa using lengths.symm
  have waiting : (state.messages.filterMap reported).length = pending.length := by
    rw [answered.waiting, List.length_map]
  have watched := watched_reached reached
  have counter := notifier_reached reached
  refine ⟨?_, ?_, ?_, counter, ?_, watched.idle⟩
  · have names : (pending.map flag).map Prod.fst = pending.map Prod.fst := by
      rw [List.map_map]
      rfl
    have different := sound.once
    rw [answered.waiting, names] at different
    rw [answered.ends, List.map_append, List.nodup_append]
    refine ⟨answered.once, different, ?_⟩
    rintro easy before other behind rfl
    obtain ⟨old, inside, rfl⟩ := List.mem_map.mp before
    obtain ⟨ended, member, same⟩ := List.mem_map.mp behind
    exact (answered.gone old inside).2 (same ▸ answered.pending_multi sound member)
  · rw [answered.answers, answered.ends, ← count, List.take_left]
  · rw [answered.ends, List.length_append, count, waiting]
  · constructor
    · intro readable
      have both := readable_watched watched readable
      refine ⟨both, fun empty => ?_⟩
      rw [HttpTransfers.readable, counter, (Bool.and_eq_true_iff.mp both).1, empty] at readable
      exact absurd (Bool.and_eq_true_iff.mp readable).2 (by decide)
    · rintro ⟨both, filled⟩
      rw [readable, counter, watched.linked, both, (Bool.and_eq_true_iff.mp both).1]
      exact decide_eq_true (List.length_pos_of_ne_nil filled)

def timedOut : ErrorBuffer := ⟨[84], by decide, by decide⟩

/-- The second of two transfers ends first, and with an error. -/
def twoTransfers : List Event :=
  [.request (fun _ => true) (lookup 7), .request (fun _ => true) (lookup 8), .write 0 [10],
    .finish 3 (some timedOut), .message, .action, .write 0 [11], .finish 0 none, .notified, .action,
    .notified]

theorem ends_answered_two : ∃ state, (system true true).Reached Promised state ∧
    state.delivered = [⟨8, false, [84]⟩, ⟨7, true, [10, 11]⟩] ∧
      (state.ends.map Prod.fst).Nodup ∧
      (state.delivered ++ state.responseQueue).map some =
        (state.ends.take (state.delivered.length + state.responseQueue.length)).map
          (answer state.requests state.received) ∧
      state.ends.length =
        state.delivered.length + state.responseQueue.length +
          (state.messages.filterMap reported).length ∧
      state.notifier = some state.responseQueue.length ∧
      (readable state = true ↔ true = true ∧ state.responseQueue ≠ []) ∧
      (true = false → state.delivered = []) := by
  obtain ⟨state, reached, shown⟩ := LabelledRuns.run_when_shows (system true true) Promised
    twoTransfers (fun state => state.delivered = [⟨8, false, [84]⟩, ⟨7, true, [10, 11]⟩]) (by decide)
  exact ⟨state, reached, of_decide_eq_true shown, ends_answered reached⟩

end LnpResolver.HttpTransfers
