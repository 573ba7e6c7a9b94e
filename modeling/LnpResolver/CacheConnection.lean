import LnpResolver.CacheWriter

/-!
The connection pointer of the database writer. `c` may be null, live or
dangling, and a live connection may lack its prepared statement; run trusts
`db_err` alone. Two answers of libpqxx break that trust: broken_connection from a
connection that was already constructed, and a successful check on a connection
whose preparation failed.
-/

namespace LnpResolver.CacheConnection

open CacheWriter

/-- `c` is null or designates an object that has not been deleted. -/
def NotDangling (db : Database) : Prop := db.c = none ∨ (deref db.heap db.c).isSome = true

def Ready (db : Database) : Prop := (deref db.heap db.c).any Connection.prepared = true

/-- Once the object exists, neither is_open nor prepare_queries reports a broken
connection. -/
def Clean (attempt : Attempt) : Prop :=
  attempt.construct = none → attempt.isOpen ≠ .error .brokenConnection ∧
    (attempt.isOpen = .ok true → attempt.setVariable ≠ some .brokenConnection ∧
      (attempt.setVariable = none → attempt.prepareNow ≠ some .brokenConnection))

/-- A check succeeds only on a connection whose preparation has completed. -/
def CheckHonest (db : Database) (transaction : Option Thrown) : Prop :=
  transaction = none → ∀ connection ∈ deref db.heap db.c, connection.prepared = true

def Faultless (state : State) : Event → Prop
  | .connect attempt => Clean attempt
  | .check transaction attempt => Clean attempt ∧ CheckHonest state.db transaction
  | _ => True

/-- The try block of _connect_db ended without a connection, with an object that
lacks its statement, or with a prepared one. -/
inductive Tried (heap : List Connection) : Option Nat × List Connection × Except Thrown Int → Prop where
  | unmade (thrown : Thrown) : Tried heap (none, heap, .error thrown)
  | closed : Tried heap (some heap.length, heap ++ [{ registered := false }], .ok 0)
  | unprepared (registered : Bool) (thrown : Thrown) (unbroken : thrown ≠ .brokenConnection) :
      Tried heap (some heap.length, heap ++ [{ registered := registered }], .error thrown)
  | prepared : Tried heap
      (some heap.length, heap ++ [{ registered := true, prepared := true }], .ok 1)

theorem clean_tried (attempt : Attempt) (clean : Clean attempt) (heap : List Connection) :
    Tried heap (tryConnect attempt heap) := by
  unfold tryConnect
  cases made : attempt.construct with
  | some thrown => exact .unmade thrown
  | none =>
      obtain ⟨opens, prepares⟩ := clean made
      cases isOpen : attempt.isOpen with
      | error thrown => exact .unprepared false thrown fun broken => opens (broken ▸ isOpen)
      | ok answer =>
          cases answer with
          | false => exact .closed
          | true =>
              obtain ⟨sets, prepares⟩ := prepares isOpen
              cases setting : attempt.setVariable with
              | some thrown => exact .unprepared false thrown fun broken => sets (broken ▸ setting)
              | none =>
                  cases statement : attempt.prepareNow with
                  | some thrown =>
                      exact .unprepared true thrown fun broken =>
                        prepares setting (broken ▸ statement)
                  | none => exact .prepared

inductive Connected (before after : Database) : Prop where
  | made (err : after.dbErr = before.dbErr) (result : after.connectResult = some 1)
      (ready : Ready after)
  | unmade (err : after.dbErr = before.dbErr) (result : after.connectResult = some 0)
      (safe : NotDangling after)

theorem clean_connected {attempt : Attempt} (clean : Clean attempt) {before after : Database}
    (returned : connectDb attempt before = some after) : Connected before after := by
  have tried := clean_tried attempt clean before.heap
  unfold connectDb at returned
  generalize tryConnect attempt before.heap = outcome at tried returned
  cases tried with
  | unmade thrown =>
      cases thrown <;> cases returned <;> exact .unmade rfl rfl (Or.inl rfl)
  | closed =>
      cases returned
      exact .unmade rfl rfl (Or.inr (by simp [deref]))
  | unprepared registered thrown unbroken =>
      cases thrown <;> cases returned
      · exact absurd rfl unbroken
      all_goals exact .unmade rfl rfl (Or.inr (by simp [deref]))
  | prepared =>
      cases returned
      exact .made rfl rfl (by simp [Ready, deref])

def serving : Pc → Bool
  | .processing | .clearing _ | .unlocking _ | .updating _ => true
  | _ => false

def running : Pc → Bool
  | .starting | .terminated | .undefined => false
  | _ => true

/-- `db_err` tells the truth about the connection while run goes on. -/
structure Trustworthy (pc : Pc) (db : Database) : Prop where
  safe : db.connectResult = some 0 → NotDangling db
  pointer : running pc = true → NotDangling db
  healthy : running pc = true → db.dbErr = false → Ready db
  serves : serving pc = true → db.dbErr = false

theorem ready_not_dangling {db : Database} (ready : Ready db) : NotDangling db := by
  obtain ⟨connection, found, _⟩ := (Option.any_eq_true _ _).mp ready
  exact Or.inr (by rw [found]; rfl)

theorem after_check_trustworthy {db : Database} (safe : NotDangling db)
    (healthy : db.dbErr = false → Ready db) :
    Trustworthy (afterCheck db).1 (afterCheck db).2 := by
  unfold afterCheck
  cases err : db.dbErr with
  | true => exact ⟨fun _ => safe, fun _ => safe, fun _ fine => by simp [err] at fine, nofun⟩
  | false => exact ⟨fun _ => safe, fun _ => safe, fun _ _ => healthy err, fun _ => err⟩

theorem start_trustworthy {attempt : Attempt} (clean : Clean attempt) {pc : Pc} {db : Database}
    (before : Trustworthy pc db) : Trustworthy (start attempt db).1 (start attempt db).2 := by
  unfold start
  cases returned : connectDb attempt db with
  | none => exact ⟨before.safe, nofun, nofun, nofun⟩
  | some after =>
      cases clean_connected clean returned with
      | made err result ready =>
          have safe := ready_not_dangling ready
          simp only [Database.connected, result]
          exact ⟨fun _ => safe, fun _ => safe, fun _ _ => ready, nofun⟩
      | unmade err result safe =>
          simp only [Database.connected, result]
          exact ⟨fun _ => safe, fun _ => safe, nofun, nofun⟩

theorem reconnect_trustworthy {attempt : Attempt} (clean : Clean attempt) {db : Database}
    (failing : db.dbErr = true) (safe : db.connectResult = some 0 → NotDangling db) :
    Trustworthy (reconnect attempt db).1 (reconnect attempt db).2 := by
  unfold reconnect
  cases returned : connectDb attempt db with
  | none => exact ⟨safe, nofun, nofun, nofun⟩
  | some after =>
      cases clean_connected clean returned with
      | made err result ready =>
          simp only [Database.connected, result]
          exact after_check_trustworthy (ready_not_dangling ready) (fun _ => ready)
      | unmade err result notDangling =>
          simp only [Database.connected, result]
          exact after_check_trustworthy notDangling
            (fun fine => by simp [err, failing] at fine)

theorem check_trustworthy {transaction : Option Thrown} {attempt : Attempt} (clean : Clean attempt)
    {db : Database} (honest : CheckHonest db transaction) (before : Trustworthy .checking db) :
    Trustworthy (check transaction attempt db).1 (check transaction attempt db).2 := by
  unfold check
  split
  · rename_i null
    -- a null pointer is only left behind by a failed reconnect, which keeps db_err
    have failing : db.dbErr = true := by
      cases err : db.dbErr with
      | true => rfl
      | false =>
          have ready := before.healthy rfl err
          simp [Ready, null, deref] at ready
    exact reconnect_trustworthy clean failing before.safe
  · split
    · exact ⟨before.safe, nofun, nofun, nofun⟩
    · rename_i connection found
      split
      · have ready : Ready db := by
          rw [Ready, found]
          exact honest rfl connection found
        exact after_check_trustworthy (before.pointer rfl) (fun _ => ready)
      · split
        · exact reconnect_trustworthy clean rfl nofun
        · exact ⟨before.safe, nofun, nofun, nofun⟩

theorem trustworthy_moved {pc next : Pc} {db : Database} (before : Trustworthy pc db)
    (active : running pc = true) (serves : serving next = true → db.dbErr = false) :
    Trustworthy next db :=
  ⟨before.safe, fun _ => before.pointer active, fun _ => before.healthy active, serves⟩

theorem trustworthy_step {state after : State} {event : Event} (stepped : Stepped state event after)
    (faultless : Faultless state event) (before : Trustworthy state.pc state.db) :
    Trustworthy after.pc after.db := by
  cases stepped with
  | connect attempt => exact start_trustworthy faultless before
  | check transaction attempt here =>
      exact check_trustworthy faultless.1 faultless.2 (here ▸ before)
  | wake here | timeout here | leave _ here | examine _ here | slept here | unlockIdle here =>
      exact trustworthy_moved before (by rw [here]; rfl) nofun
  | serve here healthy => exact trustworthy_moved before (by rw [here]; rfl) (fun _ => healthy)
  | lockEmpty here | lockLast _ here | lockMore _ _ here | clearFlag _ here | unlockEntry _ here =>
      exact trustworthy_moved before (by rw [here]; rfl) (fun _ => before.serves (by rw [here]; rfl))
  | update entry transaction exec here =>
      have active : running state.pc = true := by rw [here]; rfl
      cases updateCache transaction exec state.db with
      | written => exact trustworthy_moved before active nofun
      -- db_err is set, so nothing is promised of the statement any more
      | failed => exact ⟨before.safe, fun _ => before.pointer active, nofun, nofun⟩
      | threw | undefined => exact trustworthy_moved before active nofun
  | push | signal | requestStop | signalStop => exact before
  | finishStop =>
      unfold disconnect
      split
      · exact before
      · split
        · exact ⟨before.safe, nofun, nofun, nofun⟩
        · exact before

theorem trustworthy_reached {state : State} (reached : system.Reached Faultless state) :
    Trustworthy state.pc state.db :=
  LabelledRuns.reached_invariant system Faultless (fun state => Trustworthy state.pc state.db)
    ⟨nofun, nofun, nofun, nofun⟩
    (fun _ _ _ before faultless stepped => trustworthy_step (step_stepped stepped) faultless before)
    reached

/-- In every faultless run update_cache finds a live, prepared connection, and a
_connect_db that returns 0 leaves no dangling pointer. -/
theorem connection_trusted (state : State) (reached : system.Reached Faultless state) :
    (∀ entry, state.pc = .updating entry → Ready state.db) ∧
      (state.db.connectResult = some 0 → NotDangling state.db) := by
  have trusted := trustworthy_reached reached
  constructor
  · intro entry here
    have served : serving state.pc = true := by rw [here]; rfl
    exact trusted.healthy (by rw [here]; rfl) (trusted.serves served)
  · exact trusted.safe

instance (attempt : Attempt) : Decidable (Clean attempt) := inferInstanceAs (Decidable (_ → _))

instance (db : Database) (transaction : Option Thrown) : Decidable (CheckHonest db transaction) :=
  inferInstanceAs (Decidable (_ → ∀ connection ∈ _, _))

instance (state : State) : (event : Event) → Decidable (Faultless state event)
  | .connect attempt => inferInstanceAs (Decidable (Clean attempt))
  | .check _ _ => inferInstanceAs (Decidable (_ ∧ _))
  | .wake | .timeout | .readStop | .slept | .lockQueue | .clearFlag | .unlockQueue | .update _ _
  | .push _ | .signal | .requestStop | .signalStop | .finishStop => isTrue trivial

instance (db : Database) : Decidable (NotDangling db) := inferInstanceAs (Decidable (_ ∨ _))
instance (db : Database) : Decidable (Ready db) := inferInstanceAs (Decidable (_ = _))

def someEntry : Resolver.CacheEntry := ⟨1, [49], [50], [], []⟩

/-- The connection is lost, the first reconnect fails in the constructor, the
second one succeeds, and the entry queued meanwhile is written. -/
def outage : List Event :=
  [.connect {}, .timeout, .readStop,
    .check (some .brokenConnection) { construct := some .brokenConnection }, .slept,
    .push someEntry, .signal, .wake, .readStop, .check none {}, .lockQueue, .clearFlag, .unlockQueue]

theorem connection_trusted_outage : ∃ state, system.Reached Faultless state ∧
    state.pc = .updating someEntry ∧ Ready state.db := by
  obtain ⟨state, reached, shown⟩ := LabelledRuns.run_when_shows system Faultless outage
    (fun state => state.pc = .updating someEntry) (by decide)
  have here := of_decide_eq_true shown
  exact ⟨state, reached, here, (connection_trusted state reached).1 someEntry here⟩

/-- A connection that breaks while its statement is prepared stays behind as a
dangling pointer. -/
def danglingRun : List Event :=
  [.connect {}, .timeout, .readStop,
    .check (some .brokenConnection) { prepareNow := some .brokenConnection }]

/-- One whose preparation fails otherwise passes the next check and is used. -/
def unpreparedRun : List Event :=
  [.connect {}, .timeout, .readStop,
    .check (some .brokenConnection) { setVariable := some .otherPqxx }, .slept,
    .push someEntry, .signal, .wake, .readStop, .check none {}, .lockQueue, .clearFlag, .unlockQueue]

theorem connection_not_trusted :
    (∃ state, system.Reachable state ∧ state.db.connectResult = some 0 ∧ ¬ NotDangling state.db) ∧
    ∃ state, system.Reachable state ∧ state.pc = .updating someEntry ∧ ¬ Ready state.db := by
  constructor
  · obtain ⟨state, reached, shown⟩ := LabelledRuns.run_when_shows system (fun _ _ => True) danglingRun
      (fun state => state.db.connectResult = some 0 ∧ ¬ NotDangling state.db) (by decide)
    exact ⟨state, reached, of_decide_eq_true shown⟩
  · obtain ⟨state, reached, shown⟩ :=
      LabelledRuns.run_when_shows system (fun _ _ => True) unpreparedRun
        (fun state => state.pc = .updating someEntry ∧ ¬ Ready state.db) (by decide)
    exact ⟨state, reached, of_decide_eq_true shown⟩

end LnpResolver.CacheConnection
