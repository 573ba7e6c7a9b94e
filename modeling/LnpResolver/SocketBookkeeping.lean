import Mathlib.Data.List.Induction
import LnpResolver.Dispatcher

/-!
The sockets of libcurl in AsyncHttpClient: SockInfo, events_map and the interest
list of the kernel after a sequence of socket callbacks. libcurl keeps the pointer
to a SockInfo for each socket and forgets it with the removal. In a SockInfo the
descriptor 0 stands for a socket that has not been linked, so the descriptor 0
itself is linked again when it should be changed, and not unlinked at all.
-/

namespace LnpResolver.SocketBookkeeping

open Dispatcher

structure Callback where
  fd : Int
  what : CurlPoll
  valid : 0 ≤ fd
  asked : what ≠ .none

/-- socket_cb of the client, with a kernel that refuses no call that is in order. -/
def callback (id : Nat) (state : State) (call : Callback) : State :=
  match state.handler id with
  | none => state
  | some handler => socketCb true handler call.fd call.what state

def run (id : Nat) (start : State) (calls : List Callback) : State :=
  calls.foldl (callback id) start

/-- The last callback on a descriptor. -/
def lastOn (calls : List Callback) (fd : Int) : Option CurlPoll :=
  (calls.reverse.find? fun call => call.fd = fd).map Callback.what

/-- What should be registered after it. -/
def expected : Option CurlPoll → Option UInt32
  | none | some .remove | some .none => none
  | some action => some (actionEvents action)

def interestMask (state : State) (fd : Int) : Option UInt32 := (state.interest fd).map Link.events

def eventsMask (id : Nat) (state : State) (fd : Int) : Option UInt32 :=
  (state.handler id).bind fun handler => handler.eventsMap fd

/-- The kernel and the handler have what the last callbacks have asked for. -/
def Agrees (id : Nat) (state : State) (calls : List Callback) : Prop :=
  ∀ call ∈ calls, interestMask state call.fd = expected (lastOn calls call.fd) ∧
    eventsMask id state call.fd = expected (lastOn calls call.fd)

/-- The client has no SockInfo yet, and nobody has linked the sockets. -/
def Fresh (id : Nat) (start : State) (calls : List Callback) : Prop :=
  ∃ handler, start.handler id = some handler ∧ handler.sockets = [] ∧
    ∀ call ∈ calls, start.interest call.fd = none ∧ handler.eventsMap call.fd = none

/-- Descriptor 0, once it is in use, is asked for the same action again and again. -/
def Steady (calls : List Callback) : Prop :=
  ∀ before call action, before ++ [call] <+: calls → call.fd = 0 →
    lastOn before 0 = some action → action ≠ .remove → call.what = action

theorem lastOn_append (calls : List Callback) (call : Callback) (fd : Int) :
    lastOn (calls ++ [call]) fd = if call.fd = fd then some call.what else lastOn calls fd := by
  by_cases same : call.fd = fd <;> simp [lastOn, same]

theorem run_append (id : Nat) (start : State) (calls : List Callback) (call : Callback) :
    run id start (calls ++ [call]) = callback id (run id start calls) call := by
  simp [run]

/-! What the calls of EventHandler do to the handler of the client. -/

theorem handler_onHandler {state : State} {id : Nat} {handler : EventHandler}
    (found : state.handler id = some handler) (change : EventHandler → EventHandler)
    (keeps : ∀ handler, (change handler).id = handler.id) :
    (state.onHandler id change).handler id = some (change handler) := by
  unfold State.handler at found
  unfold State.handler State.onHandler
  have unmoved : ∀ handler : EventHandler,
      decide ((if handler.id = id then change handler else handler).id = id) =
        decide (handler.id = id) := by
    intro handler
    split <;> simp [keeps]
  have named : handler.id = id := by simpa using List.find?_some found
  rw [List.find?_map]
  simp only [Function.comp_def, unmoved, found, Option.map_some, if_pos named]

section Client

variable {id : Nat} {state : State} {handler : EventHandler}
  (found : state.handler id = some handler) (fd : Int) (events : UInt32)

include found

theorem link_free (free : state.interest fd = none) :
    (link true id fd events state).handler id = some (handler.addEvents fd events) ∧
      (link true id fd events state).interest =
        Function.update state.interest fd (some ⟨id, events, state.links⟩) := by
  rw [link, if_pos ⟨rfl, free⟩]
  exact ⟨handler_onHandler found (EventHandler.addEvents fd events) fun _ => rfl, rfl⟩

omit found in
theorem link_taken (taken : state.interest fd ≠ none) : link true id fd events state = state :=
  if_neg fun accepted => taken accepted.2

theorem modifyLink_linked {old : UInt32} (mapped : handler.eventsMap fd = some old)
    {there : Link} (linked : state.interest fd = some there) :
    (modifyLink true id fd events state).handler id = some (handler.addEvents fd events) ∧
      (modifyLink true id fd events state).interest =
        Function.update state.interest fd (some { there with events := events }) := by
  simp only [modifyLink, found, Option.bind_some, mapped, linked, if_true, and_true]
  exact handler_onHandler found (EventHandler.addEvents fd events) fun _ => rfl

theorem unlink_linked :
    (unlink id fd state).handler id = some (handler.removeEvents fd) ∧
      (unlink id fd state).interest = Function.update state.interest fd none := by
  exact ⟨handler_onHandler found (EventHandler.removeEvents fd) fun _ => rfl, rfl⟩

end Client

/-! The record of one descriptor, in all three layers. -/

structure Entry (handler : EventHandler) (interest : Int → Option Link) (fd : Int)
    (last : Option CurlPoll) : Prop where
  known : fd ∈ handler.sockets ↔ expected last ≠ none
  events : handler.eventsMap fd = expected last
  mask : (interest fd).map Link.events = expected last

/-- A change that concerns one descriptor only. -/
structure Elsewhere (fd : Int) (handler after : EventHandler)
    (interest interestAfter : Int → Option Link) : Prop where
  known : ∀ other, other ≠ fd → (other ∈ after.sockets ↔ other ∈ handler.sockets)
  events : ∀ other, other ≠ fd → after.eventsMap other = handler.eventsMap other
  mask : ∀ other, other ≠ fd → interestAfter other = interest other

theorem Entry.elsewhere {fd : Int} {handler after : EventHandler}
    {interest interestAfter : Int → Option Link}
    (same : Elsewhere fd handler after interest interestAfter) {other : Int} (different : other ≠ fd)
    {last : Option CurlPoll} (entry : Entry handler interest other last) :
    Entry after interestAfter other last where
  known := (same.known other different).trans entry.known
  events := (same.events other different).trans entry.events
  mask := by rw [same.mask other different, entry.mask]

/-- Whether a callback on a descriptor is carried out. -/
def Carried (fd : Int) (last : Option CurlPoll) (what : CurlPoll) : Prop :=
  fd ≠ 0 ∨ expected last = none ∨ expected (some what) = expected last

section Callbacks

variable {id : Nat} {state : State} {handler : EventHandler}
  (found : state.handler id = some handler) {fd : Int} {last : Option CurlPoll}
  (entry : Entry handler state.interest fd last)

include found entry

/-- The outcome of a callback: the record of its descriptor is as asked, the others stay. -/
def Booked (id : Nat) (state after : State) (handler : EventHandler) (fd : Int) (what : CurlPoll) :
    Prop :=
  ∃ changed, after.handler id = some changed ∧
    Elsewhere fd handler changed state.interest after.interest ∧
    Entry changed after.interest fd (some what)

omit found entry in
theorem booked_unchanged (found : state.handler id = some handler) {what : CurlPoll}
    (entry : Entry handler state.interest fd (some what)) :
    Booked id state state handler fd what :=
  ⟨handler, found, ⟨fun _ _ => Iff.rfl, fun _ _ => rfl, fun _ _ => rfl⟩, entry⟩

theorem addSock_booked {action : CurlPoll} (isAction : expected (some action) = some (actionEvents action))
    (unknown : fd ∉ handler.sockets) :
    Booked id state (addSock true id fd action state) handler fd action := by
  have none : expected last = none := by
    by_contra other
    exact unknown (entry.known.mpr other)
  have free : state.interest fd = .none := by simpa [none] using entry.mask
  obtain ⟨linked, interest⟩ := link_free found fd (actionEvents action) free
  refine ⟨{ handler.addEvents fd (actionEvents action) with sockets := fd :: handler.sockets },
    handler_onHandler linked (fun handler => { handler with sockets := fd :: handler.sockets })
      fun _ => rfl, ?_, ?_⟩
  · have after : (addSock true id fd action state).interest = _ := interest
    rw [after]
    refine ⟨?_, ?_, ?_⟩
    · intro other different
      simp [different]
    · intro other different
      exact Function.update_of_ne different _ _
    · intro other different
      exact Function.update_of_ne different _ _
  · have after : (addSock true id fd action state).interest = _ := interest
    rw [after]
    refine ⟨by simp [isAction], ?_, ?_⟩
    · rw [isAction]
      exact Function.update_self _ _ _
    · simp [isAction]

theorem setSock_booked {action : CurlPoll} (isAction : expected (some action) = some (actionEvents action))
    (known : fd ∈ handler.sockets) (carried : Carried fd last action) :
    Booked id state (setSock true id fd fd action state) handler fd action := by
  obtain ⟨mask, registered⟩ := Option.ne_none_iff_exists'.mp (entry.known.mp known)
  have mapped : handler.eventsMap fd = some mask := entry.events.trans registered
  obtain ⟨there, linked, -⟩ := Option.map_eq_some_iff.mp (entry.mask.trans registered)
  by_cases zero : fd = 0
  · -- the link that is already there is refused, and asked for the same
    have taken : state.interest fd ≠ none := by simp [linked]
    have same : expected (some action) = expected last := by
      rcases carried with nonzero | unregistered | same
      · exact absurd zero nonzero
      · rw [registered] at unregistered
        cases unregistered
      · exact same
    rw [setSock, if_neg (not_not.mpr zero), link_taken fd (actionEvents action) taken]
    apply booked_unchanged found
    exact ⟨by rw [same]; exact entry.known, by rw [same]; exact entry.events,
      by rw [same]; exact entry.mask⟩
  · rw [setSock, if_pos zero]
    obtain ⟨modified, interest⟩ := modifyLink_linked found fd (actionEvents action) mapped linked
    refine ⟨_, modified, ?_, ?_⟩
    · rw [interest]
      exact ⟨fun _ _ => Iff.rfl, fun _ different => Function.update_of_ne different _ _,
        fun _ different => Function.update_of_ne different _ _⟩
    · rw [interest]
      refine ⟨by simpa [isAction, EventHandler.addEvents] using known, ?_, by simp [isAction]⟩
      rw [isAction]
      exact Function.update_self _ _ _

omit entry in
theorem remSock_booked (nonzero : fd ≠ 0) :
    Booked id state (remSock id fd state) handler fd .remove := by
  obtain ⟨unlinked, interest⟩ := unlink_linked found fd
  have whole : remSock id fd state = (unlink id fd state).onHandler id fun handler =>
      { handler with sockets := handler.sockets.filter fun other => other ≠ fd } := by
    simp only [remSock, if_pos nonzero]
  rw [whole]
  refine ⟨{ handler.removeEvents fd with
      sockets := handler.sockets.filter fun other => other ≠ fd },
    handler_onHandler unlinked (fun handler => { handler with
      sockets := handler.sockets.filter fun other => other ≠ fd }) fun _ => rfl, ?_, ?_⟩
  · refine ⟨?_, ?_, ?_⟩
    · intro other different
      simp [different]
    · intro other different
      exact Function.update_of_ne different _ _
    · intro other different
      exact Function.update_of_ne different _ _
  · refine ⟨by simp [expected], ?_, ?_⟩
    · exact Function.update_self _ _ _
    · have gone : (unlink id fd state).interest fd = none := by
        rw [interest]
        exact Function.update_self _ _ _
      simp [State.onHandler, gone, expected]

end Callbacks

theorem callback_eq {id : Nat} {state : State} {handler : EventHandler}
    (found : state.handler id = some handler) (call : Callback) :
    callback id state call = socketCb true handler call.fd call.what state := by
  rw [callback, found]

theorem callback_booked {id : Nat} {state : State} {handler : EventHandler}
    (found : state.handler id = some handler) (call : Callback) (last : Option CurlPoll)
    (entry : Entry handler state.interest call.fd last) (carried : Carried call.fd last call.what) :
    Booked id state (callback id state call) handler call.fd call.what := by
  obtain ⟨-, rfl⟩ := handler_found found
  rw [callback_eq found]
  obtain ⟨fd, what, valid, asked⟩ := call
  cases what with
  | none => exact absurd rfl asked
  | remove =>
      by_cases known : fd ∈ handler.sockets
      · simp only [socketCb, if_pos known]
        apply remSock_booked found
        rcases carried with nonzero | unregistered | removed
        · exact nonzero
        · exact absurd unregistered (entry.known.mp known)
        · exact absurd removed.symm (entry.known.mp known)
      · simp only [socketCb, if_neg known]
        have none : expected last = expected (some .remove) := by
          by_contra other
          exact known (entry.known.mpr other)
        apply booked_unchanged found
        exact ⟨by rw [← none]; exact entry.known, by rw [← none]; exact entry.events,
          by rw [← none]; exact entry.mask⟩
  | input | output | inout =>
      by_cases known : fd ∈ handler.sockets
      · simp only [socketCb, if_pos known]
        exact setSock_booked found entry rfl known carried
      · simp only [socketCb, if_neg known]
        exact addSock_booked found entry rfl known

/-- A callback that is not carried out leaves the kernel with the old mask. -/
theorem callback_refused {id : Nat} {state : State} {handler : EventHandler}
    (found : state.handler id = some handler) (call : Callback) (last : Option CurlPoll)
    (entry : Entry handler state.interest call.fd last)
    (refused : ¬ Carried call.fd last call.what) :
    (callback id state call).interest call.fd = state.interest call.fd := by
  obtain ⟨-, rfl⟩ := handler_found found
  rw [callback_eq found]
  obtain ⟨fd, what, valid, asked⟩ := call
  simp only [Carried, not_or, not_not] at refused entry ⊢
  obtain ⟨rfl, registered, -⟩ := refused
  have known : 0 ∈ handler.sockets := entry.known.mpr registered
  have taken : state.interest 0 ≠ none := by
    intro free
    exact registered (by rw [← entry.mask, free]; rfl)
  cases what with
  | none => exact absurd rfl asked
  | remove => simp [socketCb, if_pos known, remSock, State.onHandler]
  | input | output | inout =>
      simp only [socketCb, if_pos known, setSock, ne_eq, not_true_eq_false, if_false]
      rw [link_taken 0 _ taken]

/-! Sequences of callbacks. -/

/-- The records of all sockets in a scope. -/
def Ledger (id : Nat) (state : State) (scope calls : List Callback) : Prop :=
  ∃ handler, state.handler id = some handler ∧
    ∀ call ∈ scope, Entry handler state.interest call.fd (lastOn calls call.fd)

theorem ledger_start {id : Nat} {start : State} {scope : List Callback}
    (fresh : Fresh id start scope) : Ledger id start scope [] := by
  obtain ⟨handler, found, unknown, free⟩ := fresh
  refine ⟨handler, found, ?_⟩
  intro call member
  obtain ⟨unlinked, unmapped⟩ := free call member
  exact ⟨by simp [unknown, lastOn, expected], unmapped, by rw [unlinked]; rfl⟩

theorem ledger_step {id : Nat} {state : State} {scope calls : List Callback}
    (ledger : Ledger id state scope calls) {call : Callback} (member : call ∈ scope)
    (carried : Carried call.fd (lastOn calls call.fd) call.what) :
    Ledger id (callback id state call) scope (calls ++ [call]) := by
  obtain ⟨handler, found, entries⟩ := ledger
  obtain ⟨changed, kept, elsewhere, entry⟩ :=
    callback_booked found call _ (entries call member) carried
  refine ⟨changed, kept, ?_⟩
  intro other known
  rw [lastOn_append]
  by_cases same : call.fd = other.fd
  · rw [if_pos same, ← same]
    exact entry
  · rw [if_neg same]
    exact (entries other known).elsewhere elsewhere (Ne.symm same)

theorem ledger_agrees {id : Nat} {state : State} {scope calls : List Callback}
    (ledger : Ledger id state scope calls) (within : calls ⊆ scope) : Agrees id state calls := by
  obtain ⟨handler, found, entries⟩ := ledger
  intro call member
  have entry := entries call (within member)
  refine ⟨entry.mask, ?_⟩
  rw [eventsMask, found]
  exact entry.events

def AllCarried (calls : List Callback) : Prop :=
  ∀ before call, before ++ [call] <+: calls →
    Carried call.fd (lastOn before call.fd) call.what

theorem allCarried_append (calls : List Callback) (call : Callback) :
    AllCarried (calls ++ [call]) ↔
      AllCarried calls ∧ Carried call.fd (lastOn calls call.fd) call.what := by
  constructor
  · intro all
    refine ⟨?_, all calls call (List.prefix_refl _)⟩
    intro before next earlier
    exact all before next (earlier.trans (List.prefix_append _ _))
  · rintro ⟨all, carried⟩ before next earlier
    rcases List.prefix_concat_iff.mp earlier with whole | inside
    · obtain ⟨rfl, same⟩ := List.append_inj' whole rfl
      cases same
      exact carried
    · exact all before next inside

theorem run_ledger {id : Nat} {start : State} {scope : List Callback}
    (fresh : Fresh id start scope) (calls : List Callback) (within : calls ⊆ scope)
    (carried : AllCarried calls) : Ledger id (run id start calls) scope calls := by
  induction calls using List.reverseRecOn with
  | nil => exact ledger_start fresh
  | append_singleton calls call ih =>
      obtain ⟨earlier, last⟩ := (allCarried_append calls call).mp carried
      have before := ih (fun _ member => within (List.mem_append_left _ member)) earlier
      rw [run_append]
      exact ledger_step before (within (by simp)) last

theorem expected_action {action : CurlPoll} (asked : action ≠ .none) (kept : action ≠ .remove) :
    expected (some action) = some (actionEvents action) := by
  cases action with
  | none => exact absurd rfl asked
  | remove => exact absurd rfl kept
  | input | output | inout => rfl

theorem expected_injective {first second : CurlPoll} (firstAsked : first ≠ .none)
    (secondAsked : second ≠ .none) (same : expected (some first) = expected (some second)) :
    first = second := by
  cases first <;> cases second <;> first | rfl | contradiction

theorem lastOn_asked {calls : List Callback} {fd : Int} {what : CurlPoll}
    (last : lastOn calls fd = some what) : what ≠ .none := by
  obtain ⟨call, -, rfl⟩ := Option.map_eq_some_iff.mp last
  exact call.asked

theorem steady_iff (calls : List Callback) : Steady calls ↔ AllCarried calls := by
  constructor
  · intro steady before call earlier
    by_cases zero : call.fd = 0
    · right
      cases last : lastOn before call.fd with
      | none => exact Or.inl rfl
      | some action =>
          by_cases removed : action = .remove
          · subst removed
            exact Or.inl rfl
          · rw [zero] at last
            rw [steady before call action earlier zero last removed]
            exact Or.inr rfl
    · exact Or.inl zero
  · intro carried before call action earlier zero last kept
    have asked := lastOn_asked last
    rcases carried before call earlier with nonzero | unregistered | same
    · exact absurd zero nonzero
    · rw [zero, last, expected_action asked kept] at unregistered
      cases unregistered
    · rw [zero, last] at same
      exact expected_injective call.asked asked same

/-- After every callback the three layers agree, exactly if descriptor 0 is never
changed or removed once it is linked. -/
theorem bookkeeping_iff (id : Nat) (start : State) (calls : List Callback)
    (fresh : Fresh id start calls) :
    (∀ before, before <+: calls → Agrees id (run id start before) before) ↔ Steady calls := by
  rw [steady_iff]
  constructor
  · intro agree
    -- by induction on the prefix: the first callback that is refused shows at once
    have each : ∀ before, before <+: calls → AllCarried before := by
      intro before
      induction before using List.reverseRecOn with
      | nil =>
          intro _ earlier call started
          simp at started
      | append_singleton before call ih =>
          intro started
          have inside : before <+: calls := (List.prefix_append _ _).trans started
          have carried := ih inside
          refine (allCarried_append before call).mpr ⟨carried, ?_⟩
          obtain ⟨handler, found, entries⟩ := run_ledger fresh before inside.subset carried
          have member : call ∈ calls := started.subset (by simp)
          by_contra refused
          have kept := callback_refused found call _ (entries call member) refused
          have shown := (agree _ started call (by simp)).1
          rw [run_append, interestMask, kept, (entries call member).mask, lastOn_append,
            if_pos rfl] at shown
          exact refused (Or.inr (Or.inr shown.symm))
    exact each calls (List.prefix_refl _)
  · intro carried before inside
    have part : AllCarried before :=
      fun earlier call started => carried earlier call (started.trans inside)
    exact ledger_agrees (run_ledger fresh before inside.subset part) inside.subset

/-! A client on its own, with the sockets 5 and 0. -/

def client : State := registerHandler 1 initial

def call (fd : Nat) (what : CurlPoll) (asked : what ≠ .none) : Callback :=
  ⟨fd, what, Int.natCast_nonneg fd, asked⟩

theorem client_fresh (calls : List Callback) : Fresh 1 client calls :=
  ⟨⟨1, [], [], fun _ => none⟩, rfl, rfl, fun _ _ => ⟨rfl, rfl⟩⟩

/-- Descriptor 5 comes, is changed and goes, while descriptor 0 is only read from. -/
def twoSockets : List Callback :=
  [call 5 .output (by decide), call 0 .input (by decide), call 5 .input (by decide),
    call 0 .input (by decide), call 5 .remove (by decide)]

theorem two_sockets_read_zero {last : Callback} (member : last ∈ twoSockets) (zero : last.fd = 0) :
    last.what = .input := by
  simp only [twoSockets, List.mem_cons, List.not_mem_nil, or_false] at member
  rcases member with rfl | rfl | rfl | rfl | rfl
  · exact absurd zero (by decide)
  · rfl
  · exact absurd zero (by decide)
  · rfl
  · exact absurd zero (by decide)

theorem transfer_booked : Agrees 1 (run 1 client twoSockets) twoSockets := by
  apply (bookkeeping_iff 1 client _ (client_fresh _)).mpr _ _ (List.prefix_refl _)
  intro before last action started zero earlier kept
  obtain ⟨first, found, rfl⟩ := Option.map_eq_some_iff.mp earlier
  have inside : first ∈ before := List.mem_reverse.mp (List.mem_of_find?_eq_some found)
  have own : first.fd = 0 := by simpa using List.find?_some found
  have member := started.subset (List.mem_append_right before (List.mem_singleton_self last))
  rw [two_sockets_read_zero member zero,
    two_sockets_read_zero (started.subset (List.mem_append_left _ inside)) own]

/-- Descriptor 0 stays registered when libcurl removes it. -/
theorem removed_zero_stays_registered :
    ¬ Agrees 1 (run 1 client [call 0 .input (by decide), call 0 .remove (by decide)])
      [call 0 .input (by decide), call 0 .remove (by decide)] := by
  intro agrees
  have mask := (agrees (call 0 .input (by decide)) (by simp)).1
  have registered : interestMask
      (run 1 client [call 0 .input (by decide), call 0 .remove (by decide)]) 0 = some 9 := by
    rfl
  have removed : expected (lastOn [call 0 .input (by decide), call 0 .remove (by decide)] 0) =
      none := by
    rfl
  exact absurd (registered.symm.trans (mask.trans removed)) (by decide)

end LnpResolver.SocketBookkeeping
