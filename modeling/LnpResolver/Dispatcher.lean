import LnpResolver.LabelledRuns
import Mathlib.Data.List.Nodup
import Mathlib.Logic.Function.Basic

/-!
dispatcher/Dispatcher.cpp and dispatcher/EventHandler.cpp, with the calls of the
handlers in transport/Transport.cpp, dispatcher/LoopTerminator.cpp and
drivers/modules/AsyncHttpClient.cpp that change what is linked. `interest` is the
kernel's side of the epoll descriptor; the owner and the number of a link are not
part of it in the program, they only say which call of link an event belongs to.
A step of the loop takes one event of the batch; what its handler does with the
descriptors comes as steps of its own, as does what other threads do.

EventHandler() registers with an open epoll descriptor, since Dispatcher() throws
without one, so the tests for `epoll_fd < 0` are never taken here.
-/

namespace LnpResolver.Dispatcher

def epollIn : UInt32 := 0x001
def epollOut : UInt32 := 0x004
def epollErr : UInt32 := 0x008
def epollHup : UInt32 := 0x010

def epollMaxEvents : Nat := 2048

structure EventHandler where
  id : Nat
  /-- The descriptors that a member of the handler keeps: the bound sockets, or
  timer_fd and respose_notifier_fd, or event_fd. -/
  inputs : List Int
  /-- The sockets of libcurl that have a SockInfo. -/
  sockets : List Int
  eventsMap : Int → Option UInt32

def EventHandler.findEvents (handler : EventHandler) (fd : Int) : UInt32 :=
  (handler.eventsMap fd).getD 0

def EventHandler.isCanHandle (handler : EventHandler) (fd : Int) (events : UInt32) : Bool :=
  handler.findEvents fd &&& events != 0

def EventHandler.addEvents (fd : Int) (events : UInt32) (handler : EventHandler) : EventHandler :=
  { handler with eventsMap := Function.update handler.eventsMap fd (some events) }

def EventHandler.removeEvents (fd : Int) (handler : EventHandler) : EventHandler :=
  { handler with eventsMap := Function.update handler.eventsMap fd none }

structure Link where
  owner : Nat
  events : UInt32
  number : Nat
  deriving DecidableEq, Repr

/-- An entry of the array that epoll_wait fills, for the link of that number. -/
structure Report where
  fd : Int
  events : UInt32
  number : Nat
  deriving DecidableEq, Repr

/-- One round of the inner loop: the handler that the descriptor was linked by, as
long as that link exists, and those whose handle_event was called. -/
structure Turn where
  report : Report
  owner : Option Nat
  receivers : List Nat
  deriving DecidableEq, Repr

structure State where
  handlers : List EventHandler
  interest : Int → Option Link
  links : Nat
  batch : List Report
  stop : Bool
  reported : List Report
  turns : List Turn

def State.handler (state : State) (id : Nat) : Option EventHandler :=
  state.handlers.find? fun handler => handler.id = id

def State.onHandler (state : State) (id : Nat) (change : EventHandler → EventHandler) : State :=
  { state with handlers := state.handlers.map fun handler =>
      if handler.id = id then change handler else handler }

/-! EventHandler.cpp. `accepted` is the kernel's word on a call that is in order:
EPOLL_CTL_ADD also fails for a descriptor it already has, EPOLL_CTL_MOD for one it
does not have. -/

def link (accepted : Bool) (id : Nat) (fd : Int) (events : UInt32) (state : State) : State :=
  if accepted ∧ state.interest fd = none then
    { state.onHandler id (EventHandler.addEvents fd events) with
      interest := Function.update state.interest fd (some ⟨id, events, state.links⟩)
      links := state.links + 1 }
  else state

def modifyLink (accepted : Bool) (id : Nat) (fd : Int) (events : UInt32) (state : State) : State :=
  match (state.handler id).bind (fun handler => handler.eventsMap fd) with
  | none => link accepted id fd events state
  | some _ =>
      match state.interest fd with
      | none => state
      | some there =>
          if accepted then
            { state.onHandler id (EventHandler.addEvents fd events) with
              interest := Function.update state.interest fd (some { there with events := events }) }
          else state

-- the result of EPOLL_CTL_DEL is only logged
def unlink (id : Nat) (fd : Int) (state : State) : State :=
  { state.onHandler id (EventHandler.removeEvents fd) with
    interest := Function.update state.interest fd none }

def registerHandler (id : Nat) (state : State) : State :=
  { state with handlers := state.handlers ++ [⟨id, [], [], fun _ => none⟩] }

/-- ~EventHandler(): unlink_all_events and unregister_handler. -/
def destroyHandler (handler : EventHandler) (state : State) : State :=
  { state with
    interest := fun fd => if (handler.eventsMap fd).isSome then none else state.interest fd
    handlers := state.handlers.filter fun other => other.id ≠ handler.id }

/-! The callers. init_sock, init_timer, init_respose_notifier and init_event link a
descriptor for input. -/

def initInput (accepted : Bool) (id : Nat) (fd : Int) (state : State) : State :=
  link accepted id fd epollIn
    (state.onHandler id fun handler => { handler with inputs := fd :: handler.inputs })

inductive CurlPoll where
  | none | input | output | inout | remove
  deriving DecidableEq, Repr

def actionEvents : CurlPoll → UInt32
  | .input => epollErr ||| epollIn
  | .output => epollErr ||| epollOut
  | .inout => epollErr ||| (epollOut ||| epollIn)
  | _ => epollErr

/-- `sockFd` is the descriptor in the SockInfo, 0 in a new one. -/
def setSock (accepted : Bool) (id : Nat) (sockFd fd : Int) (action : CurlPoll) (state : State) :
    State :=
  if sockFd ≠ 0 then modifyLink accepted id sockFd (actionEvents action) state
  else link accepted id fd (actionEvents action) state

def addSock (accepted : Bool) (id : Nat) (fd : Int) (action : CurlPoll) (state : State) : State :=
  (setSock accepted id 0 fd action state).onHandler id fun handler =>
    { handler with sockets := fd :: handler.sockets }

def remSock (id : Nat) (fd : Int) (state : State) : State :=
  let unlinked := if fd ≠ 0 then unlink id fd state else state
  unlinked.onHandler id fun handler =>
    { handler with sockets := handler.sockets.filter fun other => other ≠ fd }

def socketCb (accepted : Bool) (handler : EventHandler) (fd : Int) (what : CurlPoll)
    (state : State) : State :=
  match what with
  | .none => state
  | .remove => if fd ∈ handler.sockets then remSock handler.id fd state else state
  | action =>
      if fd ∈ handler.sockets then setSock accepted handler.id fd fd action state
      else addSock accepted handler.id fd action state

/-! The kernel and the loop. -/

-- the kernel takes a closed descriptor out of every interest list
def closed (fd : Int) (state : State) : State :=
  { state with interest := Function.update state.interest fd none }

/-- What epoll_wait may write for a descriptor of the interest list. -/
def reportable (interest : Int → Option Link) (report : Report) : Bool :=
  match interest report.fd with
  | none => false
  | some there =>
      there.number = report.number ∧ report.events ≠ 0 ∧
        report.events &&& ~~~(there.events ||| epollErr ||| epollHup) = 0

def State.owner (state : State) (report : Report) : Option Nat :=
  match state.interest report.fd with
  | none => none
  | some there => if there.number = report.number then some there.owner else none

def State.receiver (state : State) (report : Report) : Option EventHandler :=
  state.handlers.find? fun handler => handler.isCanHandle report.fd report.events

/-- The body of the inner loop; `stops` is what a handler leaves in its `stop`. -/
def takeEvent (stops : Bool) (report : Report) (rest : List Report) (state : State) : State :=
  { state with
    batch := rest
    stop := (state.receiver report).isSome && stops
    turns := state.turns ++ [⟨report, state.owner report,
      (state.receiver report).toList.map EventHandler.id⟩] }

inductive Event where
  | construct (id : Nat)
  | destroy (id : Nat)
  | initInput (id : Nat) (fd : Int) (accepted : Bool)
  | socketCb (id : Nat) (fd : Int) (what : CurlPoll) (accepted : Bool)
  /-- libcurl closes a socket that it has no SockInfo for any more. -/
  | closeSocket (id : Nat) (fd : Int)
  | epollWait (events : List Report)
  | loopRound (stops : Bool)
  deriving DecidableEq, Repr

/-- Whether the descriptor is linked by a handler other than the one that uses it. -/
def State.foreign (state : State) (id : Nat) (fd : Int) : Bool :=
  (state.interest fd).any fun there => there.owner ≠ id

-- A descriptor is linked, changed and closed by the handler that created it only.
def step (state : State) : Event → Option State
  | .construct id =>
      match state.handler id with
      | none => some (registerHandler id state)
      | some _ => none
  | .destroy id => (state.handler id).map fun handler => destroyHandler handler state
  | .initInput id fd accepted =>
      match state.handler id with
      | none => none
      | some _ => if state.foreign id fd then none else some (initInput accepted id fd state)
  | .socketCb id fd what accepted =>
      match state.handler id with
      | none => none
      | some handler =>
          if state.foreign id fd then none else some (socketCb accepted handler fd what state)
  | .closeSocket id fd =>
      match state.handler id with
      | none => none
      | some handler =>
          if state.foreign id fd ∨ fd ∈ handler.inputs ∨ fd ∈ handler.sockets then none
          else some (closed fd state)
  | .epollWait events =>
      if state.stop = false ∧ state.batch = [] ∧ events.length ≤ epollMaxEvents ∧
          events.all (reportable state.interest) then
        some { state with batch := events, reported := state.reported ++ events }
      else none
  | .loopRound stops =>
      match state.batch with
      | [] => none
      | report :: rest =>
          if state.stop then some { state with batch := [] }
          else some (takeEvent stops report rest state)

def initial : State :=
  { handlers := [], interest := fun _ => none, links := 0, batch := [], stop := false,
    reported := [], turns := [] }

def system : LabelledRuns.System State Event := ⟨initial, step⟩

/-! What one step can do. -/

theorem handler_found {state : State} {id : Nat} {handler : EventHandler}
    (found : state.handler id = some handler) : handler ∈ state.handlers ∧ handler.id = id :=
  ⟨List.mem_of_find?_eq_some found, by simpa using List.find?_some found⟩

theorem handler_missing {state : State} {id : Nat} (missing : state.handler id = none) :
    id ∉ state.handlers.map EventHandler.id := by
  intro known
  obtain ⟨handler, member, same⟩ := List.mem_map.mp known
  exact absurd (decide_eq_true same) (List.find?_eq_none.mp missing handler member)

inductive Stepped (state : State) : Event → State → Prop where
  | construct (id : Nat) (fresh : id ∉ state.handlers.map EventHandler.id) :
      Stepped state (.construct id) (registerHandler id state)
  | destroy (handler : EventHandler) (member : handler ∈ state.handlers) :
      Stepped state (.destroy handler.id) (destroyHandler handler state)
  | initInput (handler : EventHandler) (fd : Int) (accepted : Bool)
      (member : handler ∈ state.handlers) :
      Stepped state (.initInput handler.id fd accepted) (initInput accepted handler.id fd state)
  | socketCb (handler : EventHandler) (fd : Int) (what : CurlPoll) (accepted : Bool)
      (member : handler ∈ state.handlers) (mine : state.foreign handler.id fd = false) :
      Stepped state (.socketCb handler.id fd what accepted) (socketCb accepted handler fd what state)
  | closeSocket (handler : EventHandler) (fd : Int) (member : handler ∈ state.handlers)
      (mine : state.foreign handler.id fd = false)
      (free : fd ∉ handler.inputs ∧ fd ∉ handler.sockets) :
      Stepped state (.closeSocket handler.id fd) (closed fd state)
  | epollWait (events : List Report) (empty : state.batch = []) :
      Stepped state (.epollWait events)
        { state with batch := events, reported := state.reported ++ events }
  | quit (stops : Bool) (stopped : state.stop = true) :
      Stepped state (.loopRound stops) { state with batch := [] }
  | round (stops : Bool) (report : Report) (rest : List Report)
      (pending : state.batch = report :: rest) :
      Stepped state (.loopRound stops) (takeEvent stops report rest state)

theorem step_stepped {state after : State} {event : Event}
    (stepped : step state event = some after) : Stepped state event after := by
  cases event with
  | construct id =>
      cases found : state.handler id with
      | some handler => simp [step, found] at stepped
      | none =>
          simp only [step, found, Option.some.injEq] at stepped
          subst stepped
          exact .construct id (handler_missing found)
  | destroy id =>
      cases found : state.handler id with
      | none => simp [step, found] at stepped
      | some handler =>
          obtain ⟨member, rfl⟩ := handler_found found
          simp only [step, found, Option.map_some, Option.some.injEq] at stepped
          subst stepped
          exact .destroy handler member
  | initInput id fd accepted =>
      cases found : state.handler id with
      | none => simp [step, found] at stepped
      | some handler =>
          obtain ⟨member, rfl⟩ := handler_found found
          simp only [step, found, Option.ite_none_left_eq_some, Option.some.injEq] at stepped
          obtain ⟨_, rfl⟩ := stepped
          exact .initInput handler fd accepted member
  | socketCb id fd what accepted =>
      cases found : state.handler id with
      | none => simp [step, found] at stepped
      | some handler =>
          obtain ⟨member, rfl⟩ := handler_found found
          simp only [step, found, Option.ite_none_left_eq_some, Option.some.injEq] at stepped
          obtain ⟨mine, rfl⟩ := stepped
          exact .socketCb handler fd what accepted member (by simpa using mine)
  | closeSocket id fd =>
      cases found : state.handler id with
      | none => simp [step, found] at stepped
      | some handler =>
          obtain ⟨member, rfl⟩ := handler_found found
          simp only [step, found, Option.ite_none_left_eq_some, Option.some.injEq, not_or] at stepped
          obtain ⟨⟨mine, free⟩, rfl⟩ := stepped
          exact .closeSocket handler fd member (by simpa using mine) free
  | epollWait events =>
      simp only [step, Option.ite_none_right_eq_some, Option.some.injEq] at stepped
      obtain ⟨guard, rfl⟩ := stepped
      exact .epollWait events guard.2.1
  | loopRound stops =>
      cases pending : state.batch with
      | nil => simp [step, pending] at stepped
      | cons report rest =>
          simp only [step, pending] at stepped
          split at stepped <;> cases stepped
          · exact .quit stops (by assumption)
          · exact .round stops report rest pending

end LnpResolver.Dispatcher
