import LnpResolver.CacheWriter

/-!
The queue between the resolver and the database writer: no entry waits without a
wake-up on its way, and no entry is lost or written twice as long as every
update_cache succeeds. Of the database part only the program point it leads to
matters here.
-/

namespace LnpResolver.CacheQueue

open Resolver (CacheEntry)
open CacheWriter

/-- The entry that run has taken from the queue and not finished with. -/
def current : Pc → List CacheEntry
  | .clearing entry => entry.toList
  | .unlocking entry => entry.toList
  | .updating entry => [entry]
  | _ => []

def Outside (pc : Pc) : Prop := current pc = [] ∧ ∀ entry, pc ≠ .clearing entry

theorem after_check_outside (db : Database) : Outside (afterCheck db).1 := by
  unfold afterCheck
  cases db.dbErr <;> exact ⟨rfl, fun _ same => by cases same⟩

theorem start_outside (attempt : Attempt) (db : Database) : Outside (start attempt db).1 := by
  unfold start
  cases connectDb attempt db with
  | none => exact ⟨rfl, fun _ same => by cases same⟩
  | some made => cases connects : made.connected <;> simp [connects, Outside, current]

theorem reconnect_outside (attempt : Attempt) (db : Database) : Outside (reconnect attempt db).1 := by
  unfold reconnect
  cases connectDb attempt db with
  | none => exact ⟨rfl, fun _ same => by cases same⟩
  | some made => exact after_check_outside _

theorem check_outside (transaction : Option Thrown) (attempt : Attempt) (db : Database) :
    Outside (check transaction attempt db).1 := by
  unfold check
  split
  · exact reconnect_outside attempt db
  · split
    · exact ⟨rfl, fun _ same => by cases same⟩
    · split
      · exact after_check_outside _
      · split
        · exact reconnect_outside attempt _
        · exact ⟨rfl, fun _ same => by cases same⟩

/-! No lost wake-up. -/

/-- An entry in the queue has its wake-up: set, or on its way from a sync call.
While the flag is about to be cleared the queue is empty and stays so. -/
structure Announced (state : State) : Prop where
  flagged : state.q ≠ [] → state.signalling = 0 → state.qRun = true
  cleared : ∀ entry, state.pc = .clearing entry → state.q = []

theorem announced_aside {state : State} (pc : Pc) (db : Database) (outside : ∀ entry, pc ≠ .clearing entry)
    (announced : Announced state) : Announced { state with pc := pc, db := db } :=
  ⟨announced.flagged, fun entry here => absurd here (outside entry)⟩

theorem announced_step {state after : State} {event : Event} (stepped : Stepped state event after)
    (announced : Announced state) : Announced after := by
  cases stepped with
  | connect attempt => exact announced_aside _ _ (start_outside attempt _).2 announced
  | check transaction attempt =>
      exact announced_aside _ _ (check_outside transaction attempt _).2 announced
  | wake | timeout | leave | examine | serve | slept | unlockIdle | unlockEntry =>
      exact ⟨announced.flagged, fun _ here => by cases here⟩
  | lockEmpty _ empty => exact ⟨fun filled => absurd empty filled, fun _ _ => empty⟩
  | lockLast => exact ⟨fun filled => absurd rfl filled, fun _ _ => rfl⟩
  | lockMore entry rest _ more =>
      refine ⟨fun _ quiet => announced.flagged ?_ quiet, fun _ here => by cases here⟩
      rw [more]
      exact List.cons_ne_nil _ _
  | clearFlag entry here =>
      -- the queue was empty when it was locked, and no sync has pushed since
      refine ⟨fun filled => absurd (announced.cleared entry here) filled, fun _ there => by cases there⟩
  | update entry transaction exec =>
      cases updateCache transaction exec state.db <;>
        exact ⟨announced.flagged, fun _ here => by cases here⟩
  | push entry unlocked =>
      refine ⟨fun _ quiet => absurd quiet (Nat.succ_ne_zero _), fun other here => ?_⟩
      have point : state.pc = .clearing other := here
      simp [point, queueLocked] at unlocked
  | signal => exact ⟨fun _ _ => rfl, announced.cleared⟩
  | requestStop => exact ⟨announced.flagged, announced.cleared⟩
  | signalStop => exact ⟨fun _ _ => rfl, announced.cleared⟩
  | finishStop =>
      unfold disconnect
      split
      · exact ⟨announced.flagged, announced.cleared⟩
      · split
        · exact ⟨announced.flagged, fun _ here => by cases here⟩
        · exact ⟨announced.flagged, announced.cleared⟩

theorem announced_reachable {state : State} (reachable : system.Reachable state) : Announced state :=
  LabelledRuns.reached_invariant system _ Announced
    ⟨fun filled => absurd rfl filled, fun _ here => by cases here⟩
    (fun _ _ _ announced _ stepped => announced_step (step_stepped stepped) announced) reachable

/-- Once every sync call has returned, a non-empty queue has its flag set, and
the writer does not block on it. -/
theorem filled_queue_wakes (state : State) (reachable : system.Reachable state)
    (filled : state.q ≠ []) (returned : state.signalling = 0) :
    state.qRun = true ∧ (state.pc = .waiting →
      system.step state .wake = some { state with pc := .woken true } ∧
        system.step state .timeout = none) := by
  have flag := (announced_reachable reachable).flagged filled returned
  constructor
  · exact flag
  · intro here
    simp [system, step, here, flag]

def firstEntry : CacheEntry := ⟨1, [49], [50], [], []⟩
def secondEntry : CacheEntry := ⟨1, [51], [52], [], []⟩

def firstInHand : List Event :=
  [.connect {}, .push firstEntry, .signal, .wake, .readStop, .lockQueue, .clearFlag, .unlockQueue]

theorem filled_queue_wakes_second : ∃ state, system.Reachable state ∧ state.q = [secondEntry] ∧
    state.signalling = 0 ∧ state.pc = .waiting ∧ state.qRun = true ∧
    system.step state .timeout = none := by
  obtain ⟨state, reached, shown⟩ := LabelledRuns.run_when_shows system (fun _ _ => True)
    (firstInHand ++ [.push secondEntry, .update none none, .signal])
    (fun state => state.q = [secondEntry] ∧ state.signalling = 0 ∧ state.pc = .waiting) (by decide)
  obtain ⟨queue, returned, here⟩ := of_decide_eq_true shown
  have wakes := filled_queue_wakes state reached (by rw [queue]; simp) returned
  exact ⟨state, reached, queue, returned, here, wakes.1, (wakes.2 here).2⟩

/-! Conservation of entries. -/

/-- Every entry handed to sync is written, in hand or queued, in the order in
which it came. -/
def Conserved (state : State) : Prop :=
  state.pushed = state.written ++ (current state.pc ++ state.q)

def UpdateSucceeds (state : State) : Event → Prop
  | .update transaction exec => transaction = none ∧ exec = none ∧
      (deref state.db.heap state.db.c).any Connection.registered = true
  | _ => True

theorem conserved_aside {state : State} (pc : Pc) (db : Database) (before : current state.pc = [])
    (after : current pc = []) (conserved : Conserved state) :
    Conserved { state with pc := pc, db := db } := by
  simpa only [Conserved, before, after] using conserved

theorem update_written {state : State} {transaction exec : Option Thrown}
    (succeeds : UpdateSucceeds state (.update transaction exec)) :
    updateCache transaction exec state.db = .written := by
  obtain ⟨rfl, rfl, registered⟩ := succeeds
  obtain ⟨connection, found, known⟩ := (Option.any_eq_true _ _).mp registered
  simp [updateCache, found, known]

def Ended (state : State) : Prop :=
  state.stopped = true → state.pc = .returned ∨ state.pc = .undefined

theorem ended_step {state after : State} {event : Event} (stepped : Stepped state event after)
    (ended : Ended state) : Ended after := by
  cases stepped with
  | connect _ here | check _ _ here | wake here | timeout here | examine _ here | serve here
  | slept here | unlockIdle here | lockEmpty here | lockLast _ here | lockMore _ _ here
  | clearFlag _ here | unlockEntry _ here =>
      intro finished
      simpa [here] using ended finished
  | update entry transaction exec here =>
      intro finished
      have still : state.stopped = true := by
        cases answer : updateCache transaction exec state.db <;> simpa [answer, finishUpdate] using finished
      simpa [here] using ended still
  | leave => exact fun _ => Or.inl rfl
  | push | signal | requestStop | signalStop => exact ended
  | finishStop finished =>
      unfold disconnect
      split
      · exact ended
      · split
        · exact fun _ => Or.inr rfl
        · exact ended

theorem ended_reached {allowed : State → Event → Prop} {state : State}
    (reached : system.Reached allowed state) : Ended state :=
  LabelledRuns.reached_invariant system allowed Ended (fun finished => by cases finished)
    (fun _ _ _ ended _ stepped => ended_step (step_stepped stepped) ended) reached

theorem conserved_step {state after : State} {event : Event} (stepped : Stepped state event after)
    (succeeds : UpdateSucceeds state event) (ended : Ended state) (conserved : Conserved state) :
    Conserved after := by
  have whole := conserved
  unfold Conserved at whole
  cases stepped with
  | connect attempt here =>
      exact conserved_aside _ _ (by rw [here]; rfl) (start_outside attempt _).1 conserved
  | check transaction attempt here =>
      exact conserved_aside _ _ (by rw [here]; rfl) (check_outside transaction attempt _).1 conserved
  | wake here | timeout here | examine _ here | serve here | slept here | unlockIdle here
  | lockEmpty here =>
      exact conserved_aside _ _ (by rw [here]; rfl) rfl conserved
  | leave _ here =>
      simpa only [Conserved, here, current] using whole
  | lockLast entry here last =>
      simp only [here, last, current] at whole
      simpa [Conserved, current] using whole
  | lockMore entry rest here more =>
      simp only [here, more, current] at whole
      simpa [Conserved, current] using whole
  | clearFlag entry here | unlockEntry entry here =>
      simp only [here, current] at whole
      simpa [Conserved, current] using whole
  | update entry transaction exec here =>
      simp only [here, current] at whole
      rw [update_written succeeds]
      simpa [Conserved, finishUpdate, current] using whole
  | push entry =>
      simp only [Conserved, whole, List.append_assoc]
  | signal | requestStop | signalStop => exact conserved
  | finishStop finished =>
      have outside : current state.pc = [] := by
        rcases ended finished with here | here <;> rw [here] <;> rfl
      -- the writer has left its loop, so it has no entry in hand that could get lost
      unfold disconnect
      split
      · exact conserved
      · split
        · rw [outside] at whole
          exact whole
        · exact conserved

/-- As long as no write fails, the entries pushed so far are those written,
followed by the one in hand, followed by the queue. -/
theorem entries_conserved (state : State) (reached : system.Reached UpdateSucceeds state) :
    state.pushed = state.written ++ (current state.pc ++ state.q) :=
  LabelledRuns.reached_invariant_given system UpdateSucceeds Ended Conserved
    (fun _ earlier => ended_reached earlier) rfl
    (fun _ _ _ ended conserved succeeds stepped =>
      conserved_step (step_stepped stepped) succeeds ended conserved) reached

instance (state : State) : (event : Event) → Decidable (UpdateSucceeds state event)
  | .update _ _ => inferInstanceAs (Decidable (_ ∧ _))
  | .connect _ | .wake | .timeout | .readStop | .check _ _ | .slept | .lockQueue | .clearFlag
  | .unlockQueue | .push _ | .signal | .requestStop | .signalStop | .finishStop => isTrue trivial

theorem entries_conserved_two : ∃ state, system.Reached UpdateSucceeds state ∧
    state.written = [firstEntry] ∧ state.q = [secondEntry] ∧
    state.pushed = state.written ++ (current state.pc ++ state.q) := by
  obtain ⟨state, reached, shown⟩ := LabelledRuns.run_when_shows system UpdateSucceeds
    (firstInHand ++ [.push secondEntry, .update none none])
    (fun state => state.written = [firstEntry] ∧ state.q = [secondEntry]) (by decide)
  obtain ⟨written, queue⟩ := of_decide_eq_true shown
  exact ⟨state, reached, written, queue, entries_conserved state reached⟩

/-- The connection breaks during the write: the entry is gone. -/
theorem failed_write_loses_entry : ∃ state, system.Reachable state ∧
    state.pushed = [firstEntry] ∧ state.written = [] ∧ current state.pc = [] ∧ state.q = [] ∧
    state.pushed ≠ state.written ++ (current state.pc ++ state.q) := by
  obtain ⟨state, reached, shown⟩ := LabelledRuns.run_when_shows system (fun _ _ => True)
    (firstInHand ++ [.update none (some .brokenConnection)])
    (fun state => state.pushed = [firstEntry] ∧ state.written = [] ∧ current state.pc = [] ∧
      state.q = []) (by decide)
  obtain ⟨pushed, written, hand, queue⟩ := of_decide_eq_true shown
  exact ⟨state, reached, pushed, written, hand, queue, by rw [pushed, written, hand, queue]; simp⟩

end LnpResolver.CacheQueue
