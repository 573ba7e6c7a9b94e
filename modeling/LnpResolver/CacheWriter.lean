import LnpResolver.Resolver

/-!
The database writer of cache.cpp. `pc` is the point the writer thread has
reached in _cache::run; the threads that call sync and the one that calls
on_stop interleave with it at every point. Each critical section is one step,
except that run clears q_run while it holds q_m: that section is three steps,
and no sync can push in between.

A connection object is a cell of `heap` and `c` is an address or null. A
deleted cell stays, so a dangling pointer can be told from a live one; using
null or a deleted object ends in `undefined`. The answers of libpqxx come with
the events. `connectResult`, `pushed` and `written` are history variables.
-/

namespace LnpResolver.CacheWriter

open Resolver

/-- The exceptions the catch clauses tell apart; all but `other` are pqxx_exceptions. -/
inductive Thrown where
  | brokenConnection | undefinedFunction | otherPqxx | other
  deriving DecidableEq, Repr

def Thrown.isPqxx : Thrown → Bool
  | .other => false
  | _ => true

structure Connection where
  /-- The statement has been registered with `prepare`. -/
  registered : Bool := false
  /-- prepare_queries has returned. -/
  prepared : Bool := false
  deleted : Bool := false
  deriving DecidableEq, Repr

/-- What the database answers during one _connect_db; `none` is success. -/
structure Attempt where
  construct : Option Thrown := none
  isOpen : Except Thrown Bool := .ok true
  setVariable : Option Thrown := none
  prepareNow : Option Thrown := none

inductive Pc where
  | starting
  | waiting
  | woken (qrun : Bool)
  | checking
  | sleeping
  | processing
  | clearing (entry : Option CacheEntry)
  | unlocking (entry : Option CacheEntry)
  | updating (entry : CacheEntry)
  | returned
  | terminated
  | undefined
  deriving DecidableEq, Repr

inductive Stopper where
  | idle | requested | waiting
  deriving DecidableEq, Repr

structure Database where
  dbErr : Bool := false
  c : Option Nat := none
  heap : List Connection := []
  connectResult : Option Int := none
  deriving DecidableEq, Repr

structure State where
  pc : Pc := .starting
  db : Database := {}
  q : List CacheEntry := []
  qRun : Bool := false
  gotostop : Bool := false
  stopped : Bool := false
  stopper : Stopper := .idle
  /-- sync calls between their push and their q_run.set(true) -/
  signalling : Nat := 0
  pushed : List CacheEntry := []
  written : List CacheEntry := []
  deriving DecidableEq, Repr

/-- The object behind a pointer, unless it is null or deleted. -/
def deref (heap : List Connection) : Option Nat → Option Connection
  | none => none
  | some address =>
      match heap[address]? with
      | some connection => if connection.deleted then none else some connection
      | none => none

def deleteAt (heap : List Connection) : Option Nat → List Connection
  | none => heap
  | some address => heap.modify address fun connection => { connection with deleted := true }

def tryConnect (attempt : Attempt) (heap : List Connection) :
    Option Nat × List Connection × Except Thrown Int :=
  match attempt.construct with
  | some thrown => (none, heap, .error thrown)
  | none =>
      let c := some heap.length
      match attempt.isOpen with
      | .error thrown => (c, heap ++ [{}], .error thrown)
      | .ok false => (c, heap ++ [{}], .ok 0)
      | .ok true =>
          match attempt.setVariable with
          | some thrown => (c, heap ++ [{}], .error thrown)
          | none =>
              match attempt.prepareNow with
              | some thrown => (c, heap ++ [{ registered := true }], .error thrown)
              | none => (c, heap ++ [{ registered := true, prepared := true }], .ok 1)

/-- _connect_db with its catch clauses; `none` when it throws std::runtime_error.
The clause for a broken connection deletes the object and then publishes the
pointer to it. -/
def connectDb (attempt : Attempt) (db : Database) : Option Database :=
  match tryConnect attempt db.heap with
  | (c, heap, .ok ret) => some { db with c := c, heap := heap, connectResult := some ret }
  | (c, heap, .error .brokenConnection) =>
      some { db with c := c, heap := deleteAt heap c, connectResult := some 0 }
  | (_, _, .error .undefinedFunction) => none
  | (c, heap, .error _) => some { db with c := c, heap := heap, connectResult := some 0 }

def Database.connected (db : Database) : Bool := db.connectResult != some 0

def start (attempt : Attempt) (db : Database) : Pc × Database :=
  match connectDb attempt db with
  | some db => (if db.connected then .waiting else .terminated, db)
  | none => (.terminated, db)

def afterCheck (db : Database) : Pc × Database :=
  (if db.dbErr then .sleeping else .processing, db)

def reconnect (attempt : Attempt) (db : Database) : Pc × Database :=
  match connectDb attempt db with
  | some db => afterCheck (if db.connected then { db with dbErr := false } else db)
  | none => (.terminated, db)

/-- The handler of a failed check deletes the connection before it reconnects. -/
def dropConnection (db : Database) : Database :=
  { db with dbErr := true, heap := deleteAt db.heap db.c, connectResult := none }

def check (transaction : Option Thrown) (attempt : Attempt) (db : Database) : Pc × Database :=
  match db.c with
  | none => reconnect attempt db
  | some _ =>
      match deref db.heap db.c with
      | none => (.undefined, db)
      | some _ =>
          match transaction with
          | none => afterCheck { db with dbErr := false }
          | some thrown =>
              if thrown.isPqxx then reconnect attempt (dropConnection db) else (.terminated, db)

def readStop (qrun : Bool) (state : State) : State :=
  if state.gotostop then { state with pc := .returned, stopped := true }
  else if state.db.dbErr || !qrun then { state with pc := .checking }
  else { state with pc := (afterCheck state.db).1 }

def lockQueue (state : State) : State :=
  match state.q with
  | [] => { state with pc := .clearing none }
  | [entry] => { state with q := [], pc := .clearing (some entry) }
  | entry :: rest => { state with q := rest, pc := .unlocking (some entry) }

inductive UpdateResult where
  | written | failed | threw | undefined
  deriving DecidableEq, Repr

def UpdateResult.ofThrown (thrown : Thrown) : UpdateResult :=
  if thrown.isPqxx then .failed else .threw

/-- `transaction` is the answer to the transaction and `exec` to the statement. -/
def updateCache (transaction exec : Option Thrown) (db : Database) : UpdateResult :=
  match deref db.heap db.c with
  | none => .undefined
  | some connection =>
      match transaction with
      | some thrown => .ofThrown thrown
      | none =>
          -- prepared(...).exists() only knows what this object has registered
          if connection.registered then
            match exec with
            | none => .written
            | some thrown => .ofThrown thrown
          else .failed

/-- The end of the loop body: the entry is deleted whatever update_cache said. -/
def finishUpdate (entry : CacheEntry) (state : State) : UpdateResult → State
  | .written => { state with pc := .waiting, written := state.written ++ [entry] }
  | .failed => { state with pc := .waiting, db := { state.db with dbErr := true } }
  | .threw => { state with pc := .terminated }
  | .undefined => { state with pc := .undefined }

def disconnect (state : State) : State :=
  match state.db.c with
  | none => { state with stopper := .idle }
  | some _ =>
      match deref state.db.heap state.db.c with
      | none => { state with pc := .undefined }
      | some _ => { state with stopper := .idle }

inductive Event where
  | connect (attempt : Attempt)
  | wake
  | timeout
  | readStop
  | check (transaction : Option Thrown) (attempt : Attempt)
  | slept
  | lockQueue
  | clearFlag
  | unlockQueue
  | update (transaction exec : Option Thrown)
  | push (entry : CacheEntry)
  | signal
  | requestStop
  | signalStop
  | finishStop

def queueLocked : Pc → Bool
  | .clearing _ => true
  | .unlocking _ => true
  | _ => false

def step (state : State) : Event → Option State
  | .connect attempt =>
      if state.pc = .starting then
        let result := start attempt state.db
        some { state with pc := result.1, db := result.2 }
      else none
  -- wait_for_to comes back at once when the flag is set, else only by its timeout
  | .wake =>
      if state.pc = .waiting ∧ state.qRun = true then some { state with pc := .woken true } else none
  | .timeout =>
      if state.pc = .waiting ∧ state.qRun = false then some { state with pc := .woken false } else none
  | .readStop =>
      match state.pc with
      | .woken qrun => some (readStop qrun state)
      | _ => none
  | .check transaction attempt =>
      if state.pc = .checking then
        let result := check transaction attempt state.db
        some { state with pc := result.1, db := result.2 }
      else none
  | .slept => if state.pc = .sleeping then some { state with pc := .waiting } else none
  | .lockQueue => if state.pc = .processing then some (lockQueue state) else none
  | .clearFlag =>
      match state.pc with
      | .clearing entry => some { state with qRun := false, pc := .unlocking entry }
      | _ => none
  | .unlockQueue =>
      match state.pc with
      | .unlocking none => some { state with pc := .waiting }
      | .unlocking (some entry) => some { state with pc := .updating entry }
      | _ => none
  | .update transaction exec =>
      match state.pc with
      | .updating entry => some (finishUpdate entry state (updateCache transaction exec state.db))
      | _ => none
  -- sync blocks on q_m while run is inside its queue section
  | .push entry =>
      if queueLocked state.pc then none
      else some { state with
        q := state.q ++ [entry], pushed := state.pushed ++ [entry], signalling := state.signalling + 1 }
  | .signal =>
      if state.signalling = 0 then none
      else some { state with qRun := true, signalling := state.signalling - 1 }
  | .requestStop =>
      if state.stopper = .idle then some { state with gotostop := true, stopper := .requested } else none
  | .signalStop =>
      if state.stopper = .requested then some { state with qRun := true, stopper := .waiting } else none
  | .finishStop =>
      if state.stopper = .waiting ∧ state.stopped = true then some (disconnect state) else none

def system : LabelledRuns.System State Event where
  initial := {}
  step := step

inductive Stepped (state : State) : Event → State → Prop where
  | connect (attempt : Attempt) (here : state.pc = .starting) :
      Stepped state (.connect attempt)
        { state with pc := (start attempt state.db).1, db := (start attempt state.db).2 }
  | wake (here : state.pc = .waiting) (flag : state.qRun = true) :
      Stepped state .wake { state with pc := .woken true }
  | timeout (here : state.pc = .waiting) (flag : state.qRun = false) :
      Stepped state .timeout { state with pc := .woken false }
  | leave (qrun : Bool) (here : state.pc = .woken qrun) (stop : state.gotostop = true) :
      Stepped state .readStop { state with pc := .returned, stopped := true }
  | examine (qrun : Bool) (here : state.pc = .woken qrun) :
      Stepped state .readStop { state with pc := .checking }
  | serve (here : state.pc = .woken true) (healthy : state.db.dbErr = false) :
      Stepped state .readStop { state with pc := .processing }
  | check (transaction : Option Thrown) (attempt : Attempt) (here : state.pc = .checking) :
      Stepped state (.check transaction attempt)
        { state with
          pc := (check transaction attempt state.db).1
          db := (check transaction attempt state.db).2 }
  | slept (here : state.pc = .sleeping) : Stepped state .slept { state with pc := .waiting }
  | lockEmpty (here : state.pc = .processing) (empty : state.q = []) :
      Stepped state .lockQueue { state with pc := .clearing none }
  | lockLast (entry : CacheEntry) (here : state.pc = .processing) (last : state.q = [entry]) :
      Stepped state .lockQueue { state with q := [], pc := .clearing (some entry) }
  | lockMore (entry : CacheEntry) (rest : List CacheEntry) (here : state.pc = .processing)
      (more : state.q = entry :: rest) (left : rest ≠ []) :
      Stepped state .lockQueue { state with q := rest, pc := .unlocking (some entry) }
  | clearFlag (entry : Option CacheEntry) (here : state.pc = .clearing entry) :
      Stepped state .clearFlag { state with qRun := false, pc := .unlocking entry }
  | unlockIdle (here : state.pc = .unlocking none) :
      Stepped state .unlockQueue { state with pc := .waiting }
  | unlockEntry (entry : CacheEntry) (here : state.pc = .unlocking (some entry)) :
      Stepped state .unlockQueue { state with pc := .updating entry }
  | update (entry : CacheEntry) (transaction exec : Option Thrown)
      (here : state.pc = .updating entry) :
      Stepped state (.update transaction exec)
        (finishUpdate entry state (updateCache transaction exec state.db))
  | push (entry : CacheEntry) (unlocked : queueLocked state.pc = false) :
      Stepped state (.push entry)
        { state with
          q := state.q ++ [entry], pushed := state.pushed ++ [entry]
          signalling := state.signalling + 1 }
  | signal (pending : state.signalling ≠ 0) :
      Stepped state .signal { state with qRun := true, signalling := state.signalling - 1 }
  | requestStop : Stepped state .requestStop { state with gotostop := true, stopper := .requested }
  | signalStop : Stepped state .signalStop { state with qRun := true, stopper := .waiting }
  | finishStop (finished : state.stopped = true) : Stepped state .finishStop (disconnect state)

theorem read_stop_stepped (state : State) (qrun : Bool) (here : state.pc = .woken qrun) :
    Stepped state .readStop (readStop qrun state) := by
  unfold readStop
  by_cases stop : state.gotostop = true
  · rw [if_pos stop]
    exact .leave qrun here stop
  · rw [if_neg stop]
    cases healthy : state.db.dbErr with
    | true => exact .examine qrun here
    | false =>
        cases qrun with
        | false => exact .examine false here
        | true => simpa [afterCheck, healthy] using Stepped.serve here healthy

theorem lock_queue_stepped (state : State) (here : state.pc = .processing) :
    Stepped state .lockQueue (lockQueue state) := by
  unfold lockQueue
  split
  · exact .lockEmpty here (by assumption)
  · exact .lockLast _ here (by assumption)
  · rename_i entry rest several more
    exact .lockMore entry rest here more several

theorem step_stepped {state after : State} {event : Event} (stepped : step state event = some after) :
    Stepped state event after := by
  cases event with
  | connect attempt =>
      simp only [step] at stepped
      split at stepped <;> cases stepped
      exact .connect attempt (by assumption)
  | wake =>
      simp only [step] at stepped
      split at stepped <;> cases stepped
      rename_i guard
      exact .wake guard.1 guard.2
  | timeout =>
      simp only [step] at stepped
      split at stepped <;> cases stepped
      rename_i guard
      exact .timeout guard.1 guard.2
  | readStop =>
      simp only [step] at stepped
      split at stepped <;> cases stepped
      exact read_stop_stepped state _ (by assumption)
  | check transaction attempt =>
      simp only [step] at stepped
      split at stepped <;> cases stepped
      exact .check transaction attempt (by assumption)
  | slept =>
      simp only [step] at stepped
      split at stepped <;> cases stepped
      exact .slept (by assumption)
  | lockQueue =>
      simp only [step] at stepped
      split at stepped <;> cases stepped
      exact lock_queue_stepped state (by assumption)
  | clearFlag =>
      simp only [step] at stepped
      split at stepped <;> cases stepped
      exact .clearFlag _ (by assumption)
  | unlockQueue =>
      simp only [step] at stepped
      split at stepped <;> cases stepped
      · exact .unlockIdle (by assumption)
      · exact .unlockEntry _ (by assumption)
  | update transaction exec =>
      simp only [step] at stepped
      split at stepped <;> cases stepped
      exact .update _ transaction exec (by assumption)
  | push entry =>
      simp only [step] at stepped
      split at stepped <;> cases stepped
      rename_i unlocked
      exact .push entry (by simpa using unlocked)
  | signal =>
      simp only [step] at stepped
      split at stepped <;> cases stepped
      exact .signal (by assumption)
  | requestStop =>
      simp only [step] at stepped
      split at stepped <;> cases stepped
      exact .requestStop
  | signalStop =>
      simp only [step] at stepped
      split at stepped <;> cases stepped
      exact .signalStop
  | finishStop =>
      simp only [step] at stepped
      split at stepped <;> cases stepped
      rename_i guard
      exact .finishStop guard.2

end LnpResolver.CacheWriter
