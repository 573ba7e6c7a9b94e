import LnpResolver.Dispatcher

/-!
Who gets an event of the loop. The events_map of every handler is the kernel's
interest list cut down to the links of that handler, so the first handler that can
handle an event is the owner of the link that the descriptor has now. That is the
owner the event was reported for unless the link was replaced within the batch, and
the owner sees the event only if the mask shares a bit with the one it linked:
is_can_handle knows nothing of EPOLLERR and EPOLLHUP, which the kernel adds.
-/

namespace LnpResolver.EventDelivery

open Dispatcher

/-! Handlers under a change of one of them. -/

theorem mem_onHandler {state : State} {id : Nat} {change : EventHandler → EventHandler}
    {handler : EventHandler} (member : handler ∈ (state.onHandler id change).handlers) :
    (∃ before ∈ state.handlers, before.id = id ∧ handler = change before) ∨
      handler ∈ state.handlers ∧ handler.id ≠ id := by
  obtain ⟨before, known, same⟩ := List.mem_map.mp member
  by_cases mine : before.id = id
  · exact .inl ⟨before, known, mine, by simp_all⟩
  · simp only [mine, ↓reduceIte] at same
    exact .inr (same ▸ ⟨known, mine⟩)

theorem ids_onHandler (state : State) (id : Nat) {change : EventHandler → EventHandler}
    (keeps : ∀ handler, (change handler).id = handler.id) :
    (state.onHandler id change).handlers.map EventHandler.id =
      state.handlers.map EventHandler.id := by
  simp only [State.onHandler, List.map_map]
  apply List.map_congr_left
  intro handler _
  simp only [Function.comp_apply]
  split
  · exact keeps handler
  · rfl

/-! The handlers' maps against the interest list. -/

/-- The mask that the kernel holds for a descriptor and a handler. -/
def registered (interest : Int → Option Link) (id : Nat) (fd : Int) : Option UInt32 :=
  (interest fd).bind fun there => if there.owner = id then some there.events else none

structure Consistent (state : State) : Prop where
  ids : (state.handlers.map EventHandler.id).Nodup
  mapped : ∀ handler ∈ state.handlers, ∀ fd,
    handler.eventsMap fd = registered state.interest handler.id fd
  owned : ∀ fd there, state.interest fd = some there →
    there.owner ∈ state.handlers.map EventHandler.id

theorem Consistent.unique {state : State} (consistent : Consistent state)
    {first second : EventHandler} (one : first ∈ state.handlers) (two : second ∈ state.handlers)
    (same : first.id = second.id) : first = second :=
  List.inj_on_of_nodup_map consistent.ids one two same

theorem registered_own {interest : Int → Option Link} {id : Nat} {fd : Int} {slot : Option Link}
    (mine : ∀ there, slot = some there → there.owner = id) (other : Int) :
    registered (Function.update interest fd slot) id other =
      Function.update (registered interest id) fd (slot.map Link.events) other := by
  by_cases here : other = fd
  · subst here
    rw [registered, Function.update_self, Function.update_self]
    cases slot with
    | none => rfl
    | some there => simp [mine there rfl]
  · rw [registered, Function.update_of_ne here, Function.update_of_ne here, registered]

-- neither the link that goes nor the one that comes is the stranger's
theorem registered_stranger {interest : Int → Option Link} {id stranger : Nat} {fd : Int}
    {slot : Option Link} (different : stranger ≠ id)
    (before : ∀ there, interest fd = some there → there.owner = id)
    (mine : ∀ there, slot = some there → there.owner = id) (other : Int) :
    registered (Function.update interest fd slot) stranger other =
      registered interest stranger other := by
  have unowned : ∀ link : Option Link, (∀ there, link = some there → there.owner = id) →
      (link.bind fun there => if there.owner = stranger then some there.events else none) =
        none := by
    intro link owner
    cases link with
    | none => rfl
    | some there => simp [owner there rfl, Ne.symm different]
  by_cases here : other = fd
  · subst here
    rw [registered, registered, Function.update_self, unowned _ mine, unowned _ before]
  · rw [registered, Function.update_of_ne here, registered]

/-- A change of the handlers and of the interest list that agree on one descriptor
of one handler. -/
theorem consistent_changed {state after : State} (id : Nat) (fd : Int) (slot : Option Link)
    (change : EventHandler → EventHandler) (consistent : Consistent state)
    (handlers : after.handlers = (state.onHandler id change).handlers)
    (interest : after.interest = Function.update state.interest fd slot)
    (sameId : ∀ handler, (change handler).id = handler.id)
    (sameMap : ∀ handler, (change handler).eventsMap =
      Function.update handler.eventsMap fd (slot.map Link.events))
    (mine : ∀ there, slot = some there → there.owner = id ∧ id ∈ state.handlers.map EventHandler.id)
    (before : ∀ there, state.interest fd = some there → there.owner = id) : Consistent after := by
  have ids : after.handlers.map EventHandler.id = state.handlers.map EventHandler.id := by
    rw [handlers]
    exact ids_onHandler state id sameId
  have owner : ∀ there, slot = some there → there.owner = id := fun there same => (mine there same).1
  constructor
  · rw [ids]
    exact consistent.ids
  · intro handler member other
    rw [handlers] at member
    rw [interest]
    rcases mem_onHandler member with ⟨old, known, same, rfl⟩ | ⟨known, stranger⟩
    · rw [sameMap, sameId, same, registered_own owner, ← same,
        ← funext (consistent.mapped old known)]
    · rw [registered_stranger stranger before owner]
      exact consistent.mapped handler known other
  · intro other there held
    rw [interest] at held
    rw [ids]
    by_cases here : other = fd
    · rw [here, Function.update_self] at held
      obtain ⟨same, known⟩ := mine there held
      exact same ▸ known
    · rw [Function.update_of_ne here] at held
      exact consistent.owned other there held

theorem consistent_onHandler {state : State} {id : Nat} {change : EventHandler → EventHandler}
    (consistent : Consistent state) (sameId : ∀ handler, (change handler).id = handler.id)
    (sameMap : ∀ handler, (change handler).eventsMap = handler.eventsMap) :
    Consistent (state.onHandler id change) := by
  constructor
  · rw [ids_onHandler state id sameId]
    exact consistent.ids
  · intro handler member fd
    rcases mem_onHandler member with ⟨old, known, _, rfl⟩ | ⟨known, _⟩
    · rw [sameMap, sameId]
      exact consistent.mapped old known fd
    · exact consistent.mapped handler known fd
  · intro fd there held
    rw [ids_onHandler state id sameId]
    exact consistent.owned fd there held

theorem link_consistent {state : State} (accepted : Bool) {id : Nat} (fd : Int) (events : UInt32)
    (consistent : Consistent state) (known : id ∈ state.handlers.map EventHandler.id) :
    Consistent (link accepted id fd events state) := by
  unfold link
  split
  · rename_i added
    refine consistent_changed id fd (some ⟨id, events, state.links⟩)
      (EventHandler.addEvents fd events) consistent rfl rfl ?_ ?_ ?_ ?_
    · exact fun handler => rfl
    · exact fun handler => rfl
    · rintro there ⟨⟩
      exact ⟨rfl, known⟩
    · intro there held
      rw [added.2] at held
      cases held
  · exact consistent

theorem modify_link_consistent {state : State} (accepted : Bool) {id : Nat} (fd : Int)
    (events : UInt32) (consistent : Consistent state)
    (known : id ∈ state.handlers.map EventHandler.id) :
    Consistent (modifyLink accepted id fd events state) := by
  unfold modifyLink
  split
  · exact link_consistent accepted fd events consistent known
  · rename_i mapped
    split
    · exact consistent
    · rename_i there held
      split
      · -- the descriptor is in the map of this handler, so the link is its own
        have own : there.owner = id := by
          obtain ⟨handler, found, entry⟩ := Option.bind_eq_some_iff.mp mapped
          obtain ⟨member, same⟩ := handler_found found
          rw [consistent.mapped handler member, registered, held] at entry
          by_contra other
          simp [same, other] at entry
        refine consistent_changed id fd (some { there with events := events })
          (EventHandler.addEvents fd events) consistent rfl rfl ?_ ?_ ?_ ?_
        · exact fun handler => rfl
        · exact fun handler => rfl
        · rintro link ⟨⟩
          exact ⟨own, known⟩
        · intro link same
          rw [held] at same
          cases same
          exact own
      · exact consistent

theorem owner_of_not_foreign {state : State} {id : Nat} {fd : Int}
    (mine : state.foreign id fd = false) :
    ∀ there, state.interest fd = some there → there.owner = id := by
  intro there held
  simpa [State.foreign, held] using mine

theorem unlink_consistent {state : State} {id : Nat} {fd : Int} (consistent : Consistent state)
    (mine : state.foreign id fd = false) : Consistent (unlink id fd state) := by
  refine consistent_changed id fd none (EventHandler.removeEvents fd) consistent rfl rfl ?_ ?_ ?_ ?_
  · exact fun handler => rfl
  · exact fun handler => rfl
  · intro there same
    cases same
  · exact owner_of_not_foreign mine

theorem register_consistent {state : State} {id : Nat} (consistent : Consistent state)
    (fresh : id ∉ state.handlers.map EventHandler.id) : Consistent (registerHandler id state) := by
  constructor
  · simp only [registerHandler, List.map_append, List.map_cons, List.map_nil]
    exact List.Nodup.append consistent.ids (List.nodup_singleton id) (by simpa using fresh)
  · intro handler member fd
    rcases List.mem_append.mp member with known | new
    · exact consistent.mapped handler known fd
    · have same : handler = ⟨id, [], [], fun _ => none⟩ := by simpa using new
      subst same
      cases held : state.interest fd with
      | none => simp [registerHandler, registered, held]
      | some there =>
          have other : there.owner ≠ id := by
            intro owner
            exact fresh (owner ▸ consistent.owned fd there held)
          simp [registerHandler, registered, held, other]
  · intro fd there held
    simp only [registerHandler, List.map_append, List.mem_append]
    exact .inl (consistent.owned fd there held)

theorem destroy_consistent {state : State} {gone : EventHandler} (consistent : Consistent state)
    (member : gone ∈ state.handlers) : Consistent (destroyHandler gone state) := by
  -- what the map of the destroyed handler has is what the kernel holds for it
  have left : ∀ fd there, (destroyHandler gone state).interest fd = some there →
      state.interest fd = some there ∧ there.owner ≠ gone.id := by
    intro fd there held
    simp only [destroyHandler, consistent.mapped gone member, registered] at held
    split at held
    · cases held
    · rename_i unowned
      refine ⟨held, fun owner => unowned ?_⟩
      simp [held, owner]
  constructor
  · exact List.Nodup.sublist (List.Sublist.map _ List.filter_sublist) consistent.ids
  · intro handler kept fd
    obtain ⟨known, other⟩ := List.mem_filter.mp kept
    have stranger : handler.id ≠ gone.id := of_decide_eq_true other
    rw [consistent.mapped handler known fd]
    simp only [destroyHandler, consistent.mapped gone member, registered]
    cases held : state.interest fd with
    | none => simp
    | some there =>
        by_cases owner : there.owner = gone.id
        · simp [owner, Ne.symm stranger]
        · simp [owner]
  · intro fd there held
    obtain ⟨before, other⟩ := left fd there held
    obtain ⟨handler, known, same⟩ := List.mem_map.mp (consistent.owned fd there before)
    exact List.mem_map.mpr ⟨handler, List.mem_filter.mpr ⟨known, decide_eq_true (same ▸ other)⟩, same⟩

/-! The callers of link and unlink. -/

theorem init_input_consistent {state : State} (accepted : Bool) {id : Nat} (fd : Int)
    (consistent : Consistent state) (known : id ∈ state.handlers.map EventHandler.id) :
    Consistent (initInput accepted id fd state) := by
  apply link_consistent accepted fd epollIn
  · exact consistent_onHandler consistent (fun _ => rfl) (fun _ => rfl)
  · rw [ids_onHandler]
    · exact known
    · exact fun _ => rfl

theorem set_sock_consistent {state : State} (accepted : Bool) {id : Nat} (sockFd fd : Int)
    (action : CurlPoll) (consistent : Consistent state)
    (known : id ∈ state.handlers.map EventHandler.id) :
    Consistent (setSock accepted id sockFd fd action state) := by
  unfold setSock
  split
  · exact modify_link_consistent accepted sockFd _ consistent known
  · exact link_consistent accepted fd _ consistent known

theorem rem_sock_consistent {state : State} {id : Nat} {fd : Int} (consistent : Consistent state)
    (mine : state.foreign id fd = false) : Consistent (remSock id fd state) := by
  unfold remSock
  refine consistent_onHandler ?_ (fun _ => rfl) (fun _ => rfl)
  split
  · exact unlink_consistent consistent mine
  · exact consistent

theorem socket_cb_consistent {state : State} (accepted : Bool) {handler : EventHandler} {fd : Int}
    (what : CurlPoll) (consistent : Consistent state) (member : handler ∈ state.handlers)
    (mine : state.foreign handler.id fd = false) :
    Consistent (socketCb accepted handler fd what state) := by
  have known : handler.id ∈ state.handlers.map EventHandler.id := List.mem_map_of_mem member
  have watched : ∀ action, Consistent (if fd ∈ handler.sockets then
      setSock accepted handler.id fd fd action state
      else addSock accepted handler.id fd action state) := by
    intro action
    split
    · exact set_sock_consistent accepted fd fd action consistent known
    · exact consistent_onHandler (set_sock_consistent accepted 0 fd action consistent known)
        (fun _ => rfl) (fun _ => rfl)
  cases what with
  | none => exact consistent
  | input | output | inout => exact watched _
  | remove =>
      simp only [socketCb]
      split
      · exact rem_sock_consistent consistent mine
      · exact consistent

/-! What is linked is kept by a member or has a SockInfo, descriptor 0 apart:
rem_sock frees the SockInfo of that one without unlinking it. -/

def Covered (handler : EventHandler) (fd : Int) : Prop :=
  fd = 0 ∨ fd ∈ handler.inputs ∨ fd ∈ handler.sockets

/-- Every linked descriptor is covered, or excused while a call is under way. -/
def Kept (excused : Nat → Int → Prop) (state : State) : Prop :=
  ∀ handler ∈ state.handlers, ∀ fd, (handler.eventsMap fd).isSome →
    Covered handler fd ∨ excused handler.id fd

def nowhere : Nat → Int → Prop := fun _ _ => False

theorem added_kept {state : State} {excused : Nat → Int → Prop} {id : Nat} {fd : Int}
    (events : UInt32) (kept : Kept excused state)
    (covers : ∀ handler ∈ state.handlers, handler.id = id → Covered handler fd ∨ excused id fd) :
    Kept excused (state.onHandler id (EventHandler.addEvents fd events)) := by
  intro handler member other linked
  rcases mem_onHandler member with ⟨before, known, mine, rfl⟩ | ⟨known, _⟩
  · by_cases here : other = fd
    · subst here
      exact mine ▸ covers before known mine
    · simp only [EventHandler.addEvents, Function.update_of_ne here] at linked
      exact kept before known other linked
  · exact kept handler known other linked

theorem link_kept {state : State} {excused : Nat → Int → Prop} (accepted : Bool) {id : Nat}
    {fd : Int} (events : UInt32) (kept : Kept excused state)
    (covers : ∀ handler ∈ state.handlers, handler.id = id → Covered handler fd ∨ excused id fd) :
    Kept excused (link accepted id fd events state) := by
  unfold link
  split
  · exact added_kept events kept covers
  · exact kept

theorem modify_link_kept {state : State} {excused : Nat → Int → Prop} (accepted : Bool) {id : Nat}
    {fd : Int} (events : UInt32) (kept : Kept excused state)
    (covers : ∀ handler ∈ state.handlers, handler.id = id → Covered handler fd ∨ excused id fd) :
    Kept excused (modifyLink accepted id fd events state) := by
  unfold modifyLink
  split
  · exact link_kept accepted events kept covers
  · split
    · exact kept
    · split
      · exact added_kept events kept covers
      · exact kept

theorem init_input_kept {state : State} (accepted : Bool) (id : Nat) (fd : Int)
    (kept : Kept nowhere state) : Kept nowhere (initInput accepted id fd state) := by
  apply link_kept accepted epollIn
  · intro handler member other linked
    rcases mem_onHandler member with ⟨before, known, _, rfl⟩ | ⟨known, _⟩
    · rcases kept before known other linked with (zero | input | socket) | none
      · exact .inl (.inl zero)
      · exact .inl (.inr (.inl (List.mem_cons_of_mem fd input)))
      · exact .inl (.inr (.inr socket))
      · exact none.elim
    · exact kept handler known other linked
  · intro handler member mine
    rcases mem_onHandler member with ⟨before, _, _, rfl⟩ | ⟨_, stranger⟩
    · exact .inl (.inr (.inl List.mem_cons_self))
    · exact absurd mine stranger

theorem add_sock_kept {state : State} (accepted : Bool) (id : Nat) (fd : Int) (action : CurlPoll)
    (kept : Kept nowhere state) : Kept nowhere (addSock accepted id fd action state) := by
  -- between link and the assignment of the SockInfo the descriptor is excused
  have linked : Kept (fun owner other => owner = id ∧ other = fd)
      (setSock accepted id 0 fd action state) := by
    apply link_kept accepted (actionEvents action)
    · intro handler member other present
      exact (kept handler member other present).imp_right False.elim
    · exact fun _ _ _ => .inr ⟨rfl, rfl⟩
  intro handler member other present
  rcases mem_onHandler member with ⟨before, known, _, rfl⟩ | ⟨known, stranger⟩
  · rcases linked before known other present with (zero | input | socket) | ⟨_, rfl⟩
    · exact .inl (.inl zero)
    · exact .inl (.inr (.inl input))
    · exact .inl (.inr (.inr (List.mem_cons_of_mem fd socket)))
    · exact .inl (.inr (.inr List.mem_cons_self))
  · exact (linked handler known other present).imp_right fun mine => absurd mine.1 stranger

theorem rem_sock_kept {state : State} (id : Nat) (fd : Int) (kept : Kept nowhere state) :
    Kept nowhere (remSock id fd state) := by
  have unlinked : ∀ handler ∈ (if fd ≠ 0 then unlink id fd state else state).handlers, ∀ other,
      (handler.eventsMap other).isSome →
        Covered handler other ∧ (handler.id = id → other = fd → fd = 0) := by
    intro handler member other present
    split at member
    · rcases mem_onHandler member with ⟨before, known, _, rfl⟩ | ⟨known, stranger⟩
      · by_cases here : other = fd
        · simp [EventHandler.removeEvents, here] at present
        · simp only [EventHandler.removeEvents, Function.update_of_ne here] at present
          exact ⟨(kept before known other present).resolve_right fun never => never,
            fun _ same => absurd same here⟩
      · exact ⟨(kept handler known other present).resolve_right fun never => never,
          fun mine => absurd mine stranger⟩
    · rename_i zero
      exact ⟨(kept handler member other present).resolve_right fun never => never,
        fun _ _ => not_not.mp zero⟩
  intro handler member other present
  rcases mem_onHandler member with ⟨before, known, mine, rfl⟩ | ⟨known, _⟩
  · obtain ⟨zero | input | socket, removed⟩ := unlinked before known other present
    · exact .inl (.inl zero)
    · exact .inl (.inr (.inl input))
    · by_cases here : other = fd
      · exact .inl (.inl (here.trans (removed mine here)))
      · exact .inl (.inr (.inr (List.mem_filter.mpr ⟨socket, decide_eq_true here⟩)))
  · exact .inl (unlinked handler known other present).1

theorem socket_cb_kept {state : State} (accepted : Bool) {handler : EventHandler} (fd : Int)
    (what : CurlPoll) (consistent : Consistent state) (member : handler ∈ state.handlers)
    (kept : Kept nowhere state) : Kept nowhere (socketCb accepted handler fd what state) := by
  have watched : ∀ action, Kept nowhere (if fd ∈ handler.sockets then
      setSock accepted handler.id fd fd action state
      else addSock accepted handler.id fd action state) := by
    intro action
    split
    · rename_i assigned
      have covers : ∀ other ∈ state.handlers, other.id = handler.id →
          Covered other fd ∨ nowhere handler.id fd := by
        intro other known same
        exact .inl (.inr (.inr (consistent.unique known member same ▸ assigned)))
      unfold setSock
      split
      · exact modify_link_kept accepted _ kept covers
      · exact link_kept accepted _ kept covers
    · exact add_sock_kept accepted handler.id fd action kept
  cases what with
  | none => exact kept
  | input | output | inout => exact watched _
  | remove =>
      simp only [socketCb]
      split
      · exact rem_sock_kept handler.id fd kept
      · exact kept

/-! One round of the loop. -/

theorem can_handle_iff {state : State} (consistent : Consistent state) {handler : EventHandler}
    (member : handler ∈ state.handlers) (report : Report) :
    handler.isCanHandle report.fd report.events = true ↔
      ∃ there, state.interest report.fd = some there ∧ there.owner = handler.id ∧
        there.events &&& report.events ≠ 0 := by
  rw [EventHandler.isCanHandle, EventHandler.findEvents, consistent.mapped handler member, registered]
  cases state.interest report.fd with
  | none => simp
  | some there =>
      by_cases owner : there.owner = handler.id
      · simp [owner]
      · simp [owner]

theorem receiver_unlinked {state : State} (consistent : Consistent state) {report : Report}
    (gone : state.interest report.fd = none) : state.receiver report = none := by
  apply List.find?_eq_none.mpr
  intro handler member handles
  obtain ⟨there, held, _⟩ := (can_handle_iff consistent member report).mp handles
  rw [gone] at held
  cases held

theorem receiver_linked {state : State} (consistent : Consistent state) {report : Report}
    {there : Link} (held : state.interest report.fd = some there) :
    (state.receiver report).map EventHandler.id =
      if there.events &&& report.events ≠ 0 then some there.owner else none := by
  cases found : state.receiver report with
  | none =>
      obtain ⟨handler, member, owner⟩ := List.mem_map.mp (consistent.owned report.fd there held)
      rw [if_neg, Option.map_none]
      intro shared
      apply List.find?_eq_none.mp found handler member
      exact (can_handle_iff consistent member report).mpr ⟨there, held, owner.symm, shared⟩
  | some handler =>
      have handles := List.find?_some found
      have member := List.mem_of_find?_eq_some found
      obtain ⟨link, same, owner, shared⟩ := (can_handle_iff consistent member report).mp handles
      rw [held] at same
      cases same
      rw [if_pos shared, Option.map_some, owner]

/-- The mask of the event shares a bit with the mask that is linked now exactly if
the link is still the one that the event was reported for. -/
def Timely (state : State) (report : Report) : Prop :=
  ∀ there ∈ state.interest report.fd,
    there.number = report.number ↔ there.events &&& report.events ≠ 0

instance (state : State) (report : Report) : Decidable (Timely state report) :=
  inferInstanceAs (Decidable (∀ there ∈ state.interest report.fd,
    there.number = report.number ↔ there.events &&& report.events ≠ 0))

/-- The handlers that the round calls are the owner and nobody else. -/
def Turn.Right (turn : Turn) : Prop := turn.receivers = turn.owner.toList

instance (turn : Turn) : Decidable (Turn.Right turn) :=
  inferInstanceAs (Decidable (turn.receivers = turn.owner.toList))

theorem round_right_iff {state : State} (consistent : Consistent state) (report : Report) :
    Turn.Right ⟨report, state.owner report, (state.receiver report).toList.map EventHandler.id⟩ ↔
      Timely state report := by
  have called : (state.receiver report).toList.map EventHandler.id =
      ((state.receiver report).map EventHandler.id).toList := by
    cases state.receiver report <;> rfl
  rw [Turn.Right, called, Timely, State.owner]
  cases held : state.interest report.fd with
  | none => simp [receiver_unlinked consistent held]
  | some there =>
      rw [receiver_linked consistent held]
      by_cases same : there.number = report.number
      · by_cases shared : there.events &&& report.events = 0
        · simp [same, shared]
        · simp [same, shared]
      · by_cases shared : there.events &&& report.events = 0
        · simp [same, shared]
        · simp [same, shared]

/-! Whole runs. -/

structure Sound (state : State) : Prop where
  consistent : Consistent state
  kept : Kept nowhere state

/-- The events whose turn has come reached their owners, in the order in which they
were reported, and none was dropped. -/
structure Delivered (state : State) : Prop where
  right : ∀ turn ∈ state.turns, Turn.Right turn
  complete : state.reported = state.turns.map Turn.report ++ state.batch

/-- The steps at which the loop does what it is for: each round comes before the
loop is stopped and with a timely event, and descriptor 0 is not closed while it is
linked. -/
def Orderly (state : State) : Event → Prop
  | .loopRound _ => state.stop = false ∧ ∀ report ∈ state.batch.head?, Timely state report
  | .closeSocket _ fd => fd = 0 → state.interest fd = none
  | _ => True

instance (state : State) : (event : Event) → Decidable (Orderly state event)
  | .loopRound _ => inferInstanceAs (Decidable (state.stop = false ∧
      ∀ report ∈ state.batch.head?, Timely state report))
  | .closeSocket _ fd => inferInstanceAs (Decidable (fd = 0 → state.interest fd = none))
  | .construct _ => .isTrue trivial
  | .destroy _ => .isTrue trivial
  | .initInput _ _ _ => .isTrue trivial
  | .socketCb _ _ _ _ => .isTrue trivial
  | .epollWait _ => .isTrue trivial

theorem sound_of_parts {state after : State} (sound : Sound state)
    (handlers : after.handlers = state.handlers) (interest : after.interest = state.interest) :
    Sound after := by
  constructor
  · constructor
    · rw [handlers]
      exact sound.consistent.ids
    · rw [handlers, interest]
      exact sound.consistent.mapped
    · rw [handlers, interest]
      exact sound.consistent.owned
  · unfold Kept
    rw [handlers]
    exact sound.kept

/-- Closing a descriptor changes nothing: one that is still linked by its handler is
covered, and only descriptor 0 is covered by nothing else. -/
theorem close_unlinked {state : State} {handler : EventHandler} {fd : Int} (sound : Sound state)
    (member : handler ∈ state.handlers) (mine : state.foreign handler.id fd = false)
    (free : fd ∉ handler.inputs ∧ fd ∉ handler.sockets)
    (orderly : fd = 0 → state.interest fd = none) : state.interest fd = none := by
  cases held : state.interest fd with
  | none => rfl
  | some there =>
      have owner := owner_of_not_foreign mine there held
      have linked : (handler.eventsMap fd).isSome := by
        rw [sound.consistent.mapped handler member, registered, held]
        simp [owner]
      rcases sound.kept handler member fd linked with (zero | input | socket) | never
      · rw [orderly zero] at held
        cases held
      · exact absurd input free.1
      · exact absurd socket free.2
      · exact never.elim

theorem sound_step {state after : State} {event : Event} (stepped : Stepped state event after)
    (sound : Sound state) (orderly : Orderly state event) : Sound after := by
  cases stepped with
  | construct id fresh =>
      refine ⟨register_consistent sound.consistent fresh, fun handler member fd linked => ?_⟩
      rcases List.mem_append.mp member with known | new
      · exact sound.kept handler known fd linked
      · have same : handler = ⟨id, [], [], fun _ => none⟩ := by simpa using new
        simp [same] at linked
  | destroy gone member =>
      refine ⟨destroy_consistent sound.consistent member, fun handler left => ?_⟩
      exact sound.kept handler (List.mem_filter.mp left).1
  | initInput handler fd accepted member =>
      have known : handler.id ∈ state.handlers.map EventHandler.id := List.mem_map_of_mem member
      exact ⟨init_input_consistent accepted fd sound.consistent known,
        init_input_kept accepted handler.id fd sound.kept⟩
  | socketCb handler fd what accepted member mine =>
      exact ⟨socket_cb_consistent accepted what sound.consistent member mine,
        socket_cb_kept accepted fd what sound.consistent member sound.kept⟩
  | closeSocket handler fd member mine free =>
      have gone := close_unlinked sound member mine free orderly
      have same : (closed fd state).interest = state.interest :=
        Function.update_eq_self_iff.mpr gone.symm
      exact sound_of_parts sound rfl same
  | epollWait | quit | round => exact sound_of_parts sound rfl rfl

/-- What the loop has seen and done. -/
def history (state : State) : List Report × List Turn × List Report :=
  (state.reported, state.turns, state.batch)

theorem link_history (accepted : Bool) (id : Nat) (fd : Int) (events : UInt32) (state : State) :
    history (link accepted id fd events state) = history state := by
  unfold link
  split <;> rfl

theorem modify_link_history (accepted : Bool) (id : Nat) (fd : Int) (events : UInt32)
    (state : State) : history (modifyLink accepted id fd events state) = history state := by
  unfold modifyLink
  split
  · exact link_history accepted id fd events state
  · split
    · rfl
    · split <;> rfl

theorem set_sock_history (accepted : Bool) (id : Nat) (sockFd fd : Int) (action : CurlPoll)
    (state : State) : history (setSock accepted id sockFd fd action state) = history state := by
  unfold setSock
  split
  · exact modify_link_history accepted id sockFd _ state
  · exact link_history accepted id fd _ state

theorem socket_cb_history (accepted : Bool) (handler : EventHandler) (fd : Int) (what : CurlPoll)
    (state : State) : history (socketCb accepted handler fd what state) = history state := by
  have watched : ∀ action, history (if fd ∈ handler.sockets then
      setSock accepted handler.id fd fd action state
      else addSock accepted handler.id fd action state) = history state := by
    intro action
    split
    · exact set_sock_history accepted handler.id fd fd action state
    · exact set_sock_history accepted handler.id 0 fd action state
  cases what with
  | none => rfl
  | input | output | inout => exact watched _
  | remove =>
      simp only [socketCb]
      split
      · unfold remSock
        split <;> rfl
      · rfl

theorem delivered_of_history {state after : State} (delivered : Delivered state)
    (same : history after = history state) : Delivered after := by
  obtain ⟨reported, turns, batch⟩ : after.reported = state.reported ∧
      after.turns = state.turns ∧ after.batch = state.batch := by
    simpa [history] using same
  constructor
  · rw [turns]
    exact delivered.right
  · rw [reported, turns, batch]
    exact delivered.complete

theorem delivered_step {state after : State} {event : Event} (stepped : Stepped state event after)
    (sound : Sound state) (delivered : Delivered state) (orderly : Orderly state event) :
    Delivered after := by
  cases stepped with
  | construct | destroy | closeSocket => exact delivered_of_history delivered rfl
  | initInput handler fd accepted =>
      exact delivered_of_history delivered (link_history accepted handler.id fd epollIn _)
  | socketCb handler fd what accepted =>
      exact delivered_of_history delivered (socket_cb_history accepted handler fd what state)
  | epollWait events empty =>
      have complete := delivered.complete
      rw [empty, List.append_nil] at complete
      exact ⟨delivered.right, congrArg (· ++ events) complete⟩
  | quit stops stopped =>
      rw [orderly.1] at stopped
      cases stopped
  | round stops report rest pending =>
      constructor
      · intro turn member
        rcases List.mem_append.mp member with earlier | now
        · exact delivered.right turn earlier
        · have timely := orderly.2 report (by rw [pending]; rfl)
          rw [List.mem_singleton.mp now]
          exact (round_right_iff sound.consistent report).mpr timely
      · rw [takeEvent, delivered.complete, pending]
        simp

theorem sound_reached {state : State} (reached : system.Reached Orderly state) : Sound state := by
  apply LabelledRuns.reached_invariant system Orderly Sound _ _ reached
  · refine ⟨⟨List.nodup_nil, ?_, ?_⟩, ?_⟩
    · exact fun _ member => absurd member List.not_mem_nil
    · exact fun _ _ held => absurd held (Option.some_ne_none _).symm
    · exact fun _ member => absurd member List.not_mem_nil
  · exact fun _ _ _ sound orderly stepped => sound_step (step_stepped stepped) sound orderly

/-- In every run whose steps are orderly, the loop has called handle_event on exactly
the owner of each event whose turn has come, on nobody for a link that was gone by
then, and still holds all the others. -/
theorem events_reach_owner (state : State) (reached : system.Reached Orderly state) :
    Delivered state := by
  apply LabelledRuns.reached_invariant_given system Orderly Sound Delivered
    (fun _ => sound_reached) _ _ reached
  · exact ⟨fun _ member => absurd member List.not_mem_nil, rfl⟩
  · intro before event after sound delivered orderly stepped
    exact delivered_step (step_stepped stepped) sound delivered orderly

/-- Transport with one socket, an http client with its timer and a socket of
libcurl; a batch with an event for each, in which the transfer ends with the timer. -/
def transferEnds : List Event :=
  [.construct 0, .initInput 0 5 true, .construct 1, .initInput 1 6 true,
    .socketCb 1 7 .input true,
    .epollWait [⟨5, epollIn, 0⟩, ⟨6, epollIn, 1⟩, ⟨7, epollErr, 2⟩],
    .loopRound false, .loopRound false, .socketCb 1 7 .remove true, .closeSocket 1 7,
    .loopRound false]

theorem events_reach_owner_transfer_ends : ∃ state, system.Reached Orderly state ∧
    state.turns = [⟨⟨5, epollIn, 0⟩, some 0, [0]⟩, ⟨⟨6, epollIn, 1⟩, some 1, [1]⟩,
      ⟨⟨7, epollErr, 2⟩, none, []⟩] ∧ Delivered state := by
  obtain ⟨state, reached, shown⟩ := LabelledRuns.run_when_shows system Orderly transferEnds
    (fun state => state.turns = [⟨⟨5, epollIn, 0⟩, some 0, [0]⟩, ⟨⟨6, epollIn, 1⟩, some 1, [1]⟩,
      ⟨⟨7, epollErr, 2⟩, none, []⟩]) (by decide)
  exact ⟨state, reached, of_decide_eq_true shown, events_reach_owner state reached⟩

/-- A socket error on the descriptor of Transport, which is linked with EPOLLIN, is
reported as EPOLLERR alone. -/
def socketError : List Event :=
  [.construct 0, .initInput 0 5 true, .epollWait [⟨5, epollErr, 0⟩], .loopRound false]

theorem socket_error_reaches_nobody :
    ¬ ∀ state, system.Reachable state → Delivered state := by
  intro every
  obtain ⟨state, reached, shown⟩ := LabelledRuns.run_when_shows system (fun _ _ => True) socketError
    (fun state => state.turns = [⟨⟨5, epollErr, 0⟩, some 0, []⟩]) (by decide)
  have taken : state.turns = [⟨⟨5, epollErr, 0⟩, some 0, []⟩] := of_decide_eq_true shown
  have right := (every state reached).right ⟨⟨5, epollErr, 0⟩, some 0, []⟩
    (taken ▸ List.mem_singleton_self _)
  cases right

end LnpResolver.EventDelivery
