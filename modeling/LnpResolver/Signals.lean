import LnpResolver.LockPrograms

/-!
The locks of the process, for the dispatcher thread (main) and the thread of the
database writer, and what sig_handler locks on top of them. Every region of the
source that holds a mutex has a name; a call or a handler is the list of regions
it enters along one path, with the branches it takes written as assumptions on
shared flags. signal() masks nothing but the signal being handled, so a handler
may start between any two operations of either thread and of another handler.
-/

namespace LnpResolver.Signals

open LockPrograms

inductive Thread where
  | dispatcher | cacheWriter
  deriving DecidableEq, Repr

inductive Signal where
  | hup | term | int
  deriving DecidableEq, Repr

inductive Singleton where
  | resolver | prometheus | transport | cache | dispatcher
  deriving DecidableEq, Repr

inductive Region where
  /-- singleton<T>::instance() -/
  | instanceOf (object : Singleton)
  /-- Resolver::resolve, parse_response and the swap in configure -/
  | resolve | parseResponse | swapDrivers
  /-- PrometheusExporter::driver_*_increment and driver_init_metrics -/
  | metric
  /-- CSipClient::getInstance, the start of its thread, and reply.processed -/
  | getSipClient | startSipClient | sipReply
  /-- q_m in _cache::sync and _cache::run -/
  | pushEntry | popEntry
  /-- the conditions q_run and stopped of _cache -/
  | setQueueFlag | waitQueueFlag | setStopped | waitStopped
  /-- thread::stop and set_name; is_stopped, start and the end of _start -/
  | stopThread | setName | isStopped | startThread | endThread
  deriving DecidableEq, Repr

inductive Mutex where
  | instance_ (object : Singleton)
  | mDriversMutex | prometheusMutex | sMutex | sipThreadStopped | processed
  | qM | qRun | stopped | mTd | threadStopped
  deriving DecidableEq, Repr

def mutexOf : Region → Mutex
  | .instanceOf object => .instance_ object
  | .resolve | .parseResponse | .swapDrivers => .mDriversMutex
  | .metric => .prometheusMutex
  | .getSipClient => .sMutex
  | .startSipClient => .sipThreadStopped
  | .sipReply => .processed
  | .pushEntry | .popEntry => .qM
  | .setQueueFlag | .waitQueueFlag => .qRun
  | .setStopped | .waitStopped => .stopped
  | .stopThread | .setName => .mTd
  | .isStopped | .startThread | .endThread => .threadStopped

inductive Flag where
  | created (object : Singleton)
  | sipCreated
  | booted
  | launched
  | stopped
  | threadStopped
  deriving DecidableEq, Repr

abbrev Code := List (Op Region Flag)

def locked (region : Region) (inner : Code) : Code := .enter region :: (inner ++ [.leave region])

def dispatcherInstance (fresh : Bool) : Code :=
  locked (.instanceOf .dispatcher) <|
    if fresh then [.assume (.created .dispatcher) false, .assign (.created .dispatcher) true]
    else [.assume (.created .dispatcher) true]

/-- The resolver and the transport are event handlers, and the constructor of
an event handler registers itself with the dispatcher. -/
def constructor (object : Singleton) (freshDispatcher : Bool) : Code :=
  match object with
  | .resolver | .transport => dispatcherInstance freshDispatcher
  | _ => []

def instanceCode (object : Singleton) (fresh freshDispatcher : Bool) : Code :=
  locked (.instanceOf object) <|
    if fresh then .assume (.created object) false ::
      (constructor object freshDispatcher ++ [.assign (.created object) true])
    else [.assume (.created object) true]

def existing (object : Singleton) : Code := instanceCode object false false

def metricCode (fresh : Bool) : Code :=
  instanceCode .prometheus fresh false ++ locked .metric []

/-- sInstance is read before the mutex is taken. -/
def getSipClientCode (fresh : Bool) : Code :=
  if fresh then .assume .sipCreated false ::
    locked .getSipClient (.assign .sipCreated true :: locked .startSipClient [])
  else [.assume .sipCreated true]

/-- One row of the configuration query: which driver it makes. -/
inductive Row where
  | sip (freshClient freshExporter : Bool)
  | other (freshExporter : Bool)
  | unsupported
  deriving DecidableEq, Repr

def rowCode : Row → Code
  | .sip freshClient freshExporter => getSipClientCode freshClient ++ metricCode freshExporter
  | .other freshExporter => metricCode freshExporter
  | .unsupported => []

def configureCode (rows : List Row) (loaded : Bool) : Code :=
  rows.flatMap rowCode ++ if loaded then locked .swapDrivers [] else []

/-! sig_handler -/

structure StopChoice where
  freshCache : Bool
  alreadyStopped : Bool
  freshDispatcher : Bool
  deriving DecidableEq, Repr

inductive Path where
  | hup (freshResolver freshDispatcher : Bool) (rows : List Row) (loaded : Bool)
  | term (choice : StopChoice)
  | int (choice : StopChoice)
  deriving DecidableEq, Repr

def onStopCode : Code :=
  locked .setQueueFlag [] ++ locked .waitStopped [.await .waitStopped .stopped]

def stopCode (choice : StopChoice) : Code :=
  instanceCode .cache choice.freshCache false ++
    locked .stopThread
      (locked .isStopped [.assume .threadStopped choice.alreadyStopped] ++
        if choice.alreadyStopped then [] else onStopCode) ++
    dispatcherInstance choice.freshDispatcher

def signalOf : Path → Signal
  | .hup _ _ _ _ => .hup
  | .term _ => .term
  | .int _ => .int

def sigHandler : Path → Code
  | .hup freshResolver freshDispatcher rows loaded =>
      instanceCode .resolver freshResolver freshDispatcher ++ configureCode rows loaded
  | .term choice | .int choice => stopCode choice

/-! The two threads -/

inductive RequestPath where
  | unanswered | rejected | refused
  | failed (sip : Bool)
  | issued
  | done (sip tagged : Bool)
  deriving DecidableEq, Repr

inductive ResponsePath where
  | notFound | refused | failed
  | done (tagged : Bool)
  deriving DecidableEq, Repr

inductive Call where
  | main (fresh : Singleton → Bool) (rows : List Row)
  | request (path : RequestPath)
  | response (path : ResponsePath)
  | setName
  | waitQueue
  | takeEntry (last : Bool)
  | leaveLoop

def reply : Code := existing .transport

def syncCode (tagged : Bool) : Code :=
  if tagged then existing .cache ++ locked .pushEntry [] ++ locked .setQueueFlag [] else []

def sipCode (sip : Bool) : Code :=
  if sip then getSipClientCode false ++ locked .sipReply [] else []

def requestCode : RequestPath → Code
  | .unanswered => []
  | .rejected => reply
  | .refused => reply ++ locked .resolve [] ++ reply
  | .failed sip =>
      reply ++ locked .resolve (metricCode false ++ sipCode sip ++ metricCode false) ++ reply
  | .issued => reply ++ locked .resolve (metricCode false)
  | .done sip tagged => reply ++ locked .resolve
      (metricCode false ++ sipCode sip ++ metricCode false ++ syncCode tagged ++ reply)

def responseCode : ResponsePath → Code
  | .notFound => []
  | .refused => locked .parseResponse [] ++ reply
  | .failed => locked .parseResponse (metricCode false) ++ reply
  | .done tagged => locked .parseResponse (metricCode false ++ syncCode tagged ++ reply)

-- The statements of main in their order: the writer starts last, just before the event loop.
def mainCode (fresh : Singleton → Bool) (rows : List Row) : Code :=
  instanceCode .prometheus (fresh .prometheus) false ++
    instanceCode .resolver (fresh .resolver) (fresh .dispatcher) ++ configureCode rows true ++
    instanceCode .transport (fresh .transport) false ++ existing .resolver ++
    instanceCode .cache (fresh .cache) false ++
    locked .startThread [.assign .threadStopped false] ++ [.assign .launched true] ++
    dispatcherInstance false ++ dispatcherInstance false

def caller : Call → Thread
  | .main _ _ | .request _ | .response _ => .dispatcher
  | _ => .cacheWriter

def body : Call → Code
  | .main fresh rows => .assume .booted false :: (mainCode fresh rows ++ [.assign .booted true])
  | .request path => .assume .booted true :: requestCode path
  | .response path => .assume .booted true :: responseCode path
  | .setName => .assume .launched true :: locked .setName []
  | .waitQueue => .assume .launched true :: .assume .stopped false :: locked .waitQueueFlag []
  | .takeEntry last => .assume .launched true :: .assume .stopped false ::
      locked .popEntry (if last then locked .setQueueFlag [] else [])
  | .leaveLoop => .assume .launched true :: .assume .stopped false ::
      (locked .setStopped [.assign .stopped true] ++ locked .endThread [.assign .threadStopped true])

def process : Program Thread Signal Call Path Region Mutex Flag where
  threads := [.dispatcher, .cacheWriter]
  mutexOf := mutexOf
  caller := caller
  body := body
  signalOf := signalOf
  handler := sigHandler
  -- thread::thread() starts with _stopped(true), everything else is false or not created
  flags := fun flag => decide (flag = .threadStopped)

/-! What a handler may lock, and where it must not start. -/

def needs : Signal → List Region
  | .hup => [.instanceOf .resolver, .instanceOf .dispatcher, .instanceOf .prometheus, .getSipClient,
      .startSipClient, .metric, .swapDrivers]
  | .term | .int => [.instanceOf .cache, .stopThread, .isStopped, .setQueueFlag, .waitStopped,
      .instanceOf .dispatcher]

/-- The regions that share a mutex with the handler of the signal. -/
def contended : Signal → List Region
  | .hup => [.resolve, .parseResponse, .swapDrivers, .metric, .instanceOf .resolver,
      .instanceOf .prometheus, .instanceOf .dispatcher, .getSipClient, .startSipClient]
  | .term | .int => [.stopThread, .setName, .isStopped, .startThread, .endThread, .setQueueFlag,
      .waitQueueFlag, .setStopped, .waitStopped, .instanceOf .cache, .instanceOf .dispatcher]

-- Two regions conflict through their mutex, not their name: setName blocks stopThread.
theorem needs_contended (signal : Signal) (region other : Region) (needed : region ∈ needs signal)
    (shared : mutexOf other = mutexOf region) : other ∈ contended signal := by
  revert region
  cases other with
  | instanceOf object => cases object <;> cases signal <;> decide
  | _ => cases signal <;> decide

section Reload

variable (freshResolver freshDispatcher loaded : Bool) (row : Row)

theorem resolver_needs :
    ∀ region ∈ entered (instanceCode .resolver freshResolver freshDispatcher), region ∈ needs .hup := by
  revert freshResolver freshDispatcher
  decide

theorem row_needs : ∀ region ∈ entered (rowCode row), region ∈ needs .hup := by
  cases row with
  | sip freshClient freshExporter => revert freshClient freshExporter; decide
  | other freshExporter => revert freshExporter; decide
  | unsupported => decide

theorem swap_needs :
    ∀ region ∈ entered (if loaded then locked .swapDrivers [] else []), region ∈ needs .hup := by
  revert loaded
  decide

theorem resolver_locked :
    trace process [] (instanceCode .resolver freshResolver freshDispatcher) = some [] := by
  revert freshResolver freshDispatcher
  decide

theorem row_locked : trace process [] (rowCode row) = some [] := by
  cases row with
  | sip freshClient freshExporter => revert freshClient freshExporter; decide
  | other freshExporter => revert freshExporter; decide
  | unsupported => decide

theorem swap_locked : trace process [] (if loaded then locked .swapDrivers [] else []) = some [] := by
  revert loaded
  decide

theorem row_plain : plain .stopped (rowCode row) = true := by
  cases row with
  | sip freshClient freshExporter => revert freshClient freshExporter; decide
  | other freshExporter => revert freshExporter; decide
  | unsupported => decide

end Reload

theorem handler_needs (path : Path) :
    ∀ region ∈ entered (sigHandler path), region ∈ needs (signalOf path) := by
  cases path with
  | hup freshResolver freshDispatcher rows loaded =>
      intro region member
      simp only [sigHandler, configureCode, entered_append, List.mem_append] at member
      rcases member with resolver | row | swap
      · exact resolver_needs freshResolver freshDispatcher region resolver
      · obtain ⟨row, _, here⟩ := entered_flat_map row
        exact row_needs row region here
      · exact swap_needs loaded region swap
  | term choice | int choice =>
      obtain ⟨freshCache, alreadyStopped, freshDispatcher⟩ := choice
      revert freshCache alreadyStopped freshDispatcher
      decide

theorem handler_locked (path : Path) : (trace process [] (sigHandler path)).isSome = true := by
  cases path with
  | hup freshResolver freshDispatcher rows loaded =>
      -- each row gives back what it locks, so any number of them can follow each other
      simp only [sigHandler, configureCode, trace_append, resolver_locked,
        trace_flat_map process rowCode rows fun row _ => row_locked row, Option.bind_some,
        swap_locked, Option.isSome_some]
  | term choice | int choice =>
      obtain ⟨freshCache, alreadyStopped, freshDispatcher⟩ := choice
      revert freshCache alreadyStopped freshDispatcher
      decide

theorem configure_plain (rows : List Row) (loaded : Bool) :
    plain .stopped (configureCode rows loaded) = true := by
  rw [configureCode, plain_append, plain_flat_map row_plain rows]
  cases loaded <;> rfl

theorem instance_plain (object : Singleton) (fresh freshDispatcher : Bool) :
    plain .stopped (instanceCode object fresh freshDispatcher) = true := by
  cases object <;> revert fresh freshDispatcher <;> decide

theorem main_plain (fresh : Singleton → Bool) (rows : List Row) :
    plain .stopped (body (.main fresh rows)) = true := by
  rw [body, ← List.singleton_append]
  simp only [mainCode, existing, plain_append, instance_plain, configure_plain, Bool.true_and]
  decide

theorem request_plain (path : RequestPath) : plain .stopped (body (.request path)) = true := by
  cases path with
  | unanswered | rejected | refused | issued => decide
  | failed sip => revert sip; decide
  | done sip tagged => revert sip tagged; decide

theorem response_plain (path : ResponsePath) : plain .stopped (body (.response path)) = true := by
  cases path with
  | notFound | refused | failed => decide
  | done tagged => revert tagged; decide

/-- The flag of the condition `stopped` is set by the writer and never cleared. -/
theorem stopped_latched : Latched process .stopped where
  bodies := by
    intro call
    cases call with
    | main fresh rows => exact main_plain fresh rows
    | request path => exact request_plain path
    | response path => exact response_plain path
    | setName | waitQueue | leaveLoop => decide
    | takeEntry last => revert last; decide
  handlers := by
    intro path
    cases path with
    | hup freshResolver freshDispatcher rows loaded =>
        change plain .stopped
          (instanceCode .resolver freshResolver freshDispatcher ++ configureCode rows loaded) = true
        rw [plain_append, instance_plain, configure_plain, Bool.and_self]
    | term choice | int choice =>
        obtain ⟨freshCache, alreadyStopped, freshDispatcher⟩ := choice
        revert freshCache alreadyStopped freshDispatcher
        decide

theorem row_never_waits (row : Row) : (rowCode row).any (Op.waitsOn .stopped) = false := by
  cases row with
  | sip freshClient freshExporter => revert freshClient freshExporter; decide
  | other freshExporter => revert freshExporter; decide
  | unsupported => decide

theorem hup_never_waits (freshResolver freshDispatcher : Bool) (rows : List Row) (loaded : Bool) :
    (sigHandler (.hup freshResolver freshDispatcher rows loaded)).any (Op.waitsOn .stopped) = false := by
  have resolver : (instanceCode .resolver freshResolver freshDispatcher).any
      (Op.waitsOn .stopped) = false := by
    revert freshResolver freshDispatcher
    decide
  have swap : (if loaded then locked .swapDrivers [] else []).any (Op.waitsOn .stopped) = false := by
    revert loaded
    decide
  rw [sigHandler, configureCode, List.any_append, List.any_append, List.any_flatMap, resolver, swap]
  simp [row_never_waits]

/-- A signal is taken outside the regions that share a mutex with its handler,
and a stop signal reaches the writer thread only when it has left its loop. -/
def Uncontended (state : State Thread Signal Region Flag) : Event Thread Call Path → Prop
  | .deliver thread path =>
      (∀ frame ∈ state.frames thread, ∀ region ∈ frame.held, region ∉ contended (signalOf path)) ∧
        (thread = .cacheWriter → signalOf path ≠ .hup → state.flags .stopped = true)
  | _ => True

theorem uncontended_clear (state : State Thread Signal Region Flag) (thread : Thread) (path : Path)
    (uncontended : Uncontended state (.deliver thread path)) : Clear process state thread path := by
  intro region member
  have needed := handler_needs path region member
  simp only [clearOf, List.all_eq_true, decide_eq_true_eq]
  intro frame inside held holds shared
  exact uncontended.1 frame inside held holds (needs_contended _ region held needed shared)

theorem uncontended_ready (state : State Thread Signal Region Flag) (path : Path)
    (uncontended : Uncontended state (.deliver .cacheWriter path))
    (waits : (process.handler path).any (Op.waitsOn .stopped) = true) :
    state.flags .stopped = true := by
  cases path with
  | hup freshResolver freshDispatcher rows loaded =>
      have never := hup_never_waits freshResolver freshDispatcher rows loaded
      exact absurd (never.symm.trans waits) (by decide)
  | term choice | int choice => exact uncontended.2 rfl (by simp [signalOf])

/-- In every run with uncontended signals no handler locks a mutex its own
thread holds, and the writer thread never waits for itself to stop. -/
theorem handlers_never_self_deadlock (state : State Thread Signal Region Flag)
    (reached : (system process).Reached Uncontended state) :
    (∀ thread, selfBlocked process (state.frames thread) = false) ∧
      waitsFor state.flags .stopped (state.frames .cacheWriter) = false :=
  ⟨reached_not_blocked process handler_locked uncontended_clear reached,
    reached_not_waiting process stopped_latched uncontended_ready reached⟩

instance (state : State Thread Signal Region Flag) :
    (event : Event Thread Call Path) → Decidable (Uncontended state event)
  | .deliver _ _ => inferInstanceAs (Decidable (_ ∧ _))
  | .run _ => isTrue trivial
  | .call _ => isTrue trivial
  | .finish _ => isTrue trivial

def started : Call := .main (fun _ => true) [.other false]

def runs (thread : Thread) (count : Nat) : List (Event Thread Call Path) :=
  List.replicate count (.run thread)

/-- main up to the event loop. -/
def boot : List (Event Thread Call Path) := .call started :: runs .dispatcher (body started).length

def reload : Path := .hup false false [.other false] true

def handlerRuns (state : State Thread Signal Region Flag) (thread : Thread) : Bool :=
  (state.frames thread).any fun frame => frame.signal.isSome

/-- A reload between two requests, taken up to the swap of the driver map. -/
theorem handlers_never_self_deadlock_reload : ∃ state, (system process).Reached Uncontended state ∧
    handlerRuns state .dispatcher = true ∧
    (∀ thread, selfBlocked process (state.frames thread) = false) ∧
    waitsFor state.flags .stopped (state.frames .cacheWriter) = false := by
  obtain ⟨state, reached, shown⟩ := LabelledRuns.run_when_shows (system process) Uncontended
    (boot ++ [.deliver .dispatcher reload] ++ runs .dispatcher 8)
    (fun state => handlerRuns state .dispatcher) (by decide +kernel)
  exact ⟨state, reached, shown, handlers_never_self_deadlock state reached⟩

/-- SIGHUP while a request is resolved, and SIGTERM on the writer thread. -/
theorem handlers_self_deadlock :
    (∃ state, (system process).Reachable state ∧
      selfBlocked process (state.frames .dispatcher) = true) ∧
    ∃ state, (system process).Reachable state ∧
      waitsFor state.flags .stopped (state.frames .cacheWriter) = true := by
  constructor
  · exact LabelledRuns.run_when_shows (system process) (fun _ _ => True)
      (boot ++ [.call (.request .issued)] ++ runs .dispatcher 5 ++ [.deliver .dispatcher reload] ++
        runs .dispatcher 8)
      (fun state => selfBlocked process (state.frames .dispatcher)) (by decide +kernel)
  · exact LabelledRuns.run_when_shows (system process) (fun _ _ => True)
      (boot ++ [.deliver .cacheWriter (.term ⟨false, false, false⟩)] ++ runs .cacheWriter 10)
      (fun state => waitsFor state.flags .stopped (state.frames .cacheWriter)) (by decide +kernel)

end LnpResolver.Signals
