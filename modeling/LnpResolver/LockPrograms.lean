import Mathlib.Logic.Function.Basic
import LnpResolver.LabelledRuns

/-!
Threads that lock non-recursive mutexes and are interrupted by signal handlers.
A path through a piece of code is a list of operations; branches are separate
paths, told apart by what they assume about shared flags. A handler runs as a
new frame on the stack of the interrupted thread, and the frames below it keep
what they hold. `reached_not_blocked` is the rule for handlers: if no path locks
one mutex twice and a signal is taken only where its handler is clear of what
the thread holds, then no handler ever waits for its own thread.
-/

namespace LockPrograms

inductive Op (Section Flag : Type) where
  | enter (region : Section)
  | leave (region : Section)
  | assume (flag : Flag) (value : Bool)
  | assign (flag : Flag) (value : Bool)
  /-- pthread_cond_wait in a loop: the region is left while the flag is false -/
  | await (region : Section) (flag : Flag)
  /-- the second half of an `await` that had to wait -/
  | resume (region : Section) (flag : Flag)
  deriving DecidableEq, Repr

structure Frame (Signal Section Flag : Type) where
  signal : Option Signal
  held : List Section := []
  code : List (Op Section Flag) := []
  deriving DecidableEq, Repr

/-- The code of a process: which regions share a mutex, what each thread may
call at its bottom frame, and the paths of its signal handlers. -/
structure Program (Thread Signal Call Path Section Mutex Flag : Type) where
  threads : List Thread
  mutexOf : Section → Mutex
  caller : Call → Thread
  body : Call → List (Op Section Flag)
  signalOf : Path → Signal
  handler : Path → List (Op Section Flag)
  flags : Flag → Bool

structure State (Thread Signal Section Flag : Type) where
  frames : Thread → List (Frame Signal Section Flag)
  flags : Flag → Bool

inductive Event (Thread Call Path : Type) where
  | run (thread : Thread)
  | call (call : Call)
  | deliver (thread : Thread) (path : Path)
  | finish (thread : Thread)

variable {Thread Signal Call Path Section Mutex Flag : Type}

/-- No frame of the stack holds the mutex of the region. -/
def clearOf [DecidableEq Mutex] (program : Program Thread Signal Call Path Section Mutex Flag)
    (stack : List (Frame Signal Section Flag)) (region : Section) : Bool :=
  stack.all fun frame => frame.held.all fun held =>
    decide (program.mutexOf held ≠ program.mutexOf region)

section Semantics

variable [DecidableEq Thread] [DecidableEq Signal] [DecidableEq Section] [DecidableEq Mutex]
  [DecidableEq Flag] (program : Program Thread Signal Call Path Section Mutex Flag)

def free (state : State Thread Signal Section Flag) (region : Section) : Bool :=
  program.threads.all fun thread => clearOf program (state.frames thread) region

/-- One operation of a frame, given which regions are free. -/
def execute (isFree : Section → Bool) (flags : Flag → Bool) (frame : Frame Signal Section Flag) :
    Option (Frame Signal Section Flag × (Flag → Bool)) :=
  match frame.code with
  | [] => none
  | .enter region :: rest =>
      if isFree region then
        some ({ frame with held := region :: frame.held, code := rest }, flags)
      else none
  | .leave region :: rest =>
      some ({ frame with held := frame.held.erase region, code := rest }, flags)
  | .assume flag value :: rest =>
      if flags flag = value then some ({ frame with code := rest }, flags) else none
  | .assign flag value :: rest =>
      some ({ frame with code := rest }, Function.update flags flag value)
  | .await region flag :: rest =>
      if flags flag then some ({ frame with code := rest }, flags)
      else some ({ frame with
        held := frame.held.erase region, code := .resume region flag :: rest }, flags)
  | .resume region flag :: rest =>
      if flags flag && isFree region then
        some ({ frame with held := region :: frame.held, code := rest }, flags)
      else none

def State.replace (state : State Thread Signal Section Flag) (thread : Thread)
    (stack : List (Frame Signal Section Flag)) : State Thread Signal Section Flag :=
  { state with frames := Function.update state.frames thread stack }

/-- A signal is blocked while its own handler runs, as signal(2) arranges. -/
def handling (stack : List (Frame Signal Section Flag)) (signal : Signal) : Bool :=
  stack.any fun frame => decide (frame.signal = some signal)

def step (state : State Thread Signal Section Flag) :
    Event Thread Call Path → Option (State Thread Signal Section Flag)
  | .run thread =>
      match state.frames thread with
      | [] => none
      | frame :: below =>
          match execute (free program state) state.flags frame with
          | none => none
          | some (frame, flags) => some { state.replace thread (frame :: below) with flags := flags }
  | .call call =>
      -- only a bottom frame that has run to its end, with no handler on top of it
      match state.frames (program.caller call) with
      | [⟨none, held, []⟩] =>
          some (state.replace (program.caller call) [⟨none, held, program.body call⟩])
      | _ => none
  | .deliver thread path =>
      if handling (state.frames thread) (program.signalOf path) then none
      else some (state.replace thread
        (⟨some (program.signalOf path), [], program.handler path⟩ :: state.frames thread))
  | .finish thread =>
      match state.frames thread with
      | ⟨some _, _, []⟩ :: below => some (state.replace thread below)
      | _ => none

def system : LabelledRuns.System (State Thread Signal Section Flag) (Event Thread Call Path) where
  initial := { frames := fun _ => [{ signal := none }], flags := program.flags }
  step := step program

end Semantics

/-- The region whose mutex the next operation locks. -/
def Frame.wants (frame : Frame Signal Section Flag) : Option Section :=
  match frame.code with
  | .enter region :: _ => some region
  | .resume region _ :: _ => some region
  | _ => none

/-- A handler is about to lock a mutex that its own thread holds. -/
def selfBlocked [DecidableEq Mutex] (program : Program Thread Signal Call Path Section Mutex Flag) :
    List (Frame Signal Section Flag) → Bool
  | [] => false
  | frame :: below =>
      frame.signal.isSome &&
        frame.wants.any fun region => !clearOf program (frame :: below) region

/-- A handler waits for the flag. -/
def waitsFor [DecidableEq Flag] (flags : Flag → Bool) (flag : Flag) : List (Frame Signal Section Flag) → Bool
  | [] => false
  | frame :: _ =>
      frame.signal.isSome &&
        match frame.code with
        | .await _ other :: _ => decide (other = flag) && !flags flag
        | .resume _ other :: _ => decide (other = flag)
        | _ => false

/-! What a path does to the regions held by its own frame. -/

section Paths

variable [DecidableEq Section] [DecidableEq Mutex]
  (program : Program Thread Signal Call Path Section Mutex Flag)

/-- The regions held at the end of a path, or `none` if it would lock a mutex
that it holds already. -/
def trace : List Section → List (Op Section Flag) → Option (List Section)
  | held, [] => some held
  | held, .enter region :: rest | held, .resume region _ :: rest =>
      if held.all fun other => decide (program.mutexOf other ≠ program.mutexOf region) then
        trace (region :: held) rest
      else none
  | held, .leave region :: rest => trace (held.erase region) rest
  | held, .assume _ _ :: rest | held, .assign _ _ :: rest => trace held rest
  -- a wait gives up the region entered last
  | [], .await _ _ :: _ => none
  | inner :: held, .await region _ :: rest =>
      if inner = region ∧ held.all fun other => decide (program.mutexOf other ≠ program.mutexOf region)
      then trace (inner :: held) rest
      else none

theorem trace_append (first second : List (Op Section Flag)) (held : List Section) :
    trace program held (first ++ second) =
      (trace program held first).bind fun middle => trace program middle second := by
  induction first generalizing held with
  | nil => rfl
  | cons op rest ih =>
      cases op with
      | enter region | resume region =>
          simp only [List.cons_append, trace]
          split
          · exact ih _
          · rfl
      | leave | assume | assign => exact ih _
      | await region flag =>
          cases held with
          | nil => rfl
          | cons inner held =>
              simp only [List.cons_append, trace]
              split
              · exact ih _
              · rfl

theorem trace_flat_map {Item : Type} (code : Item → List (Op Section Flag)) (items : List Item)
    (balanced : ∀ item ∈ items, trace program [] (code item) = some []) :
    trace program [] (items.flatMap code) = some [] := by
  induction items with
  | nil => rfl
  | cons item rest ih =>
      rw [List.flatMap_cons, trace_append, balanced item List.mem_cons_self]
      exact ih fun other member => balanced other (List.mem_cons_of_mem item member)

end Paths

/-- The regions a path may lock. -/
def entered : List (Op Section Flag) → List Section
  | [] => []
  | .enter region :: rest | .resume region _ :: rest | .await region _ :: rest =>
      region :: entered rest
  | .leave _ :: rest | .assume _ _ :: rest | .assign _ _ :: rest => entered rest

@[simp] theorem entered_append (first second : List (Op Section Flag)) :
    entered (first ++ second) = entered first ++ entered second := by
  induction first with
  | nil => rfl
  | cons op rest ih => cases op <;> simp [entered, ih]

theorem entered_flat_map {Item : Type} {code : Item → List (Op Section Flag)} {items : List Item}
    {region : Section} (member : region ∈ entered (items.flatMap code)) :
    ∃ item ∈ items, region ∈ entered (code item) := by
  induction items with
  | nil => cases member
  | cons item rest ih =>
      rw [List.flatMap_cons, entered_append] at member
      rcases List.mem_append.mp member with first | later
      · exact ⟨item, List.mem_cons_self, first⟩
      · obtain ⟨other, inside, here⟩ := ih later
        exact ⟨other, List.mem_cons_of_mem item inside, here⟩

theorem wants_entered {frame : Frame Signal Section Flag} {region : Section}
    (wants : frame.wants = some region) : region ∈ entered frame.code := by
  unfold Frame.wants at wants
  split at wants <;> cases wants <;> simp [*, entered]

section Soundness

variable [DecidableEq Section] [DecidableEq Mutex]

/-- The handler frame locks nothing twice, and nothing the frames below hold. -/
structure Undeterred (program : Program Thread Signal Call Path Section Mutex Flag)
    (frame : Frame Signal Section Flag) (below : List (Frame Signal Section Flag)) : Prop where
  own : (trace program frame.held frame.code).isSome = true
  others : ∀ region ∈ entered frame.code, clearOf program below region = true

def Sound (program : Program Thread Signal Call Path Section Mutex Flag) :
    List (Frame Signal Section Flag) → Prop
  | [] => True
  | frame :: below => (frame.signal.isSome = true → Undeterred program frame below) ∧ Sound program below

variable {program : Program Thread Signal Call Path Section Mutex Flag}

/-- The next lock of an undeterred frame is clear of its own regions. -/
theorem wants_clear {frame : Frame Signal Section Flag} {region : Section}
    (own : (trace program frame.held frame.code).isSome = true) (wants : frame.wants = some region) :
    (frame.held.all fun held => decide (program.mutexOf held ≠ program.mutexOf region)) = true := by
  unfold Frame.wants at wants
  split at wants
  · rename_i next rest code
    cases wants
    rw [code, trace] at own
    split at own
    · assumption
    · cases own
  · rename_i next flag rest code
    cases wants
    rw [code, trace] at own
    split at own
    · assumption
    · cases own
  · cases wants

-- The frame on top is the only one that runs, so it is the only one that can block.
theorem sound_not_blocked {stack : List (Frame Signal Section Flag)} (sound : Sound program stack) :
    selfBlocked program stack = false := by
  cases stack with
  | nil => rfl
  | cons frame below =>
      cases handler : frame.signal.isSome with
      | false => simp [selfBlocked, handler]
      | true =>
          obtain ⟨own, others⟩ := sound.1 handler
          cases wants : frame.wants with
          | none => simp [selfBlocked, wants]
          | some region =>
              have whole : clearOf program (frame :: below) region = true :=
                Bool.and_eq_true_iff.mpr
                  ⟨wants_clear own wants, others region (wants_entered wants)⟩
              simp [selfBlocked, wants, whole]

theorem execute_signal {isFree : Section → Bool} [DecidableEq Flag] {flags after : Flag → Bool}
    {frame next : Frame Signal Section Flag}
    (executed : execute isFree flags frame = some (next, after)) : next.signal = frame.signal := by
  unfold execute at executed
  repeat' split at executed
  all_goals cases executed
  all_goals rfl

theorem execute_undeterred {isFree : Section → Bool} [DecidableEq Flag] {flags after : Flag → Bool}
    {frame next : Frame Signal Section Flag} {below : List (Frame Signal Section Flag)}
    (executed : execute isFree flags frame = some (next, after))
    (undeterred : Undeterred program frame below) : Undeterred program next below := by
  obtain ⟨signal, held, code⟩ := frame
  obtain ⟨own, others⟩ := undeterred
  cases code with
  | nil => cases executed
  | cons op rest =>
      cases op with
      | enter region =>
          simp only [execute] at executed
          split at executed <;> cases executed
          simp only [trace] at own
          split at own
          · exact ⟨own, fun other member => others other (List.mem_cons_of_mem region member)⟩
          · cases own
      | leave region =>
          cases executed
          exact ⟨own, others⟩
      | assume flag value =>
          simp only [execute] at executed
          split at executed <;> cases executed
          exact ⟨own, others⟩
      | assign flag value =>
          cases executed
          exact ⟨own, others⟩
      | await region flag =>
          cases held with
          | nil => cases own
          | cons inner held =>
              simp only [trace] at own
              split at own
              · rename_i innermost
                obtain ⟨rfl, clear⟩ := innermost
                simp only [execute] at executed
                split at executed <;> cases executed
                · exact ⟨own, fun other member => others other (List.mem_cons_of_mem inner member)⟩
                · -- the region given up is one the rest of the path has not locked
                  refine ⟨?_, others⟩
                  simpa only [List.erase_cons_head, trace, clear, if_true] using own
              · cases own
      | resume region flag =>
          simp only [execute] at executed
          split at executed <;> cases executed
          simp only [trace] at own
          split at own
          · exact ⟨own, fun other member => others other (List.mem_cons_of_mem region member)⟩
          · cases own

end Soundness

section Runs

variable [DecidableEq Thread] [DecidableEq Signal] [DecidableEq Section] [DecidableEq Mutex]
  [DecidableEq Flag] (program : Program Thread Signal Call Path Section Mutex Flag)

/-- The handler of the path locks nothing that the thread holds now. -/
def Clear (state : State Thread Signal Section Flag) (thread : Thread) (path : Path) : Prop :=
  ∀ region ∈ entered (program.handler path), clearOf program (state.frames thread) region = true

omit [DecidableEq Signal] [DecidableEq Section] [DecidableEq Flag] in
theorem replace_at {holds : List (Frame Signal Section Flag) → Prop}
    {state : State Thread Signal Section Flag} {thread other : Thread}
    {stack : List (Frame Signal Section Flag)} (before : holds (state.frames other))
    (new : other = thread → holds stack) : holds ((state.replace thread stack).frames other) := by
  by_cases same : other = thread
  · simpa [State.replace, same] using new same
  · simpa [State.replace, same] using before

omit [DecidableEq Signal] [DecidableEq Section] [DecidableEq Flag] in
theorem replace_frames {holds : List (Frame Signal Section Flag) → Prop}
    {state : State Thread Signal Section Flag} {thread : Thread}
    {stack : List (Frame Signal Section Flag)} (before : ∀ other, holds (state.frames other))
    (new : holds stack) (other : Thread) : holds ((state.replace thread stack).frames other) :=
  replace_at (before other) fun _ => new

/-- One step, by what happens to the stack of the thread it concerns. -/
inductive Stepped (state : State Thread Signal Section Flag) :
    Event Thread Call Path → State Thread Signal Section Flag → Prop where
  | run (thread : Thread) (frame next : Frame Signal Section Flag)
      (below : List (Frame Signal Section Flag)) (flags : Flag → Bool)
      (top : state.frames thread = frame :: below)
      (executed : execute (free program state) state.flags frame = some (next, flags)) :
      Stepped state (.run thread) { state.replace thread (next :: below) with flags := flags }
  | call (call : Call) (held : List Section)
      (bottom : state.frames (program.caller call) = [⟨none, held, []⟩]) :
      Stepped state (.call call)
        (state.replace (program.caller call) [⟨none, held, program.body call⟩])
  | deliver (thread : Thread) (path : Path) :
      Stepped state (.deliver thread path) (state.replace thread
        (⟨some (program.signalOf path), [], program.handler path⟩ :: state.frames thread))
  | finish (thread : Thread) (frame : Frame Signal Section Flag)
      (below : List (Frame Signal Section Flag)) (top : state.frames thread = frame :: below) :
      Stepped state (.finish thread) (state.replace thread below)

theorem step_stepped {state after : State Thread Signal Section Flag} {event : Event Thread Call Path}
    (stepped : step program state event = some after) : Stepped program state event after := by
  cases event with
  | run thread =>
      simp only [step] at stepped
      cases top : state.frames thread with
      | nil => simp [top] at stepped
      | cons frame below =>
          cases executed : execute (free program state) state.flags frame with
          | none => simp [top, executed] at stepped
          | some result =>
              simp only [top, executed, Option.some.injEq] at stepped
              subst stepped
              exact .run thread frame result.1 below result.2 top executed
  | call call =>
      simp only [step] at stepped
      split at stepped <;> cases stepped
      exact .call call _ (by assumption)
  | deliver thread path =>
      simp only [step] at stepped
      split at stepped <;> cases stepped
      exact .deliver thread path
  | finish thread =>
      simp only [step] at stepped
      split at stepped <;> cases stepped
      exact .finish thread _ _ (by assumption)

omit [DecidableEq Signal] in
theorem sound_step (locked : ∀ path, (trace program [] (program.handler path)).isSome = true)
    {state after : State Thread Signal Section Flag} {event : Event Thread Call Path}
    (stepped : Stepped program state event after)
    (clear : ∀ thread path, event = .deliver thread path → Clear program state thread path)
    (sound : ∀ thread, Sound program (state.frames thread)) :
    ∀ thread, Sound program (after.frames thread) := by
  cases stepped with
  | run thread frame next below flags top executed =>
      have before : Sound program (frame :: below) := top ▸ sound thread
      refine replace_frames sound ⟨fun handler => ?_, before.2⟩
      rw [execute_signal executed] at handler
      exact execute_undeterred executed (before.1 handler)
  | call call held bottom => exact replace_frames sound ⟨nofun, trivial⟩
  | deliver thread path =>
      refine replace_frames sound ⟨fun _ => ⟨locked path, ?_⟩, sound thread⟩
      exact clear thread path rfl
  | finish thread frame below top =>
      have before : Sound program (frame :: below) := top ▸ sound thread
      exact replace_frames sound before.2

/-- Handlers that are clear of their thread when they start never wait for it. -/
theorem reached_not_blocked (locked : ∀ path, (trace program [] (program.handler path)).isSome = true)
    {allowed : State Thread Signal Section Flag → Event Thread Call Path → Prop}
    (clear : ∀ state thread path, allowed state (.deliver thread path) →
      Clear program state thread path)
    {state : State Thread Signal Section Flag} (reached : (system program).Reached allowed state)
    (thread : Thread) : selfBlocked program (state.frames thread) = false := by
  have sound := LabelledRuns.reached_invariant (system program) allowed
    (fun state => ∀ thread, Sound program (state.frames thread)) (fun _ => ⟨nofun, trivial⟩)
    (fun before event after sound permitted stepped =>
      sound_step program locked (step_stepped program stepped)
        (fun thread path same => clear before thread path (same ▸ permitted)) sound) reached
  exact sound_not_blocked (sound thread)

end Runs

/-! Waiting for a flag that one thread has to set itself. -/

def Op.waitsOn [DecidableEq Flag] (flag : Flag) : Op Section Flag → Bool
  | .await _ other | .resume _ other => decide (other = flag)
  | _ => false

/-- Nothing in the code clears the flag. -/
def Keeps (flag : Flag) (code : List (Op Section Flag)) : Prop := .assign flag false ∉ code

/-- A path as it is written: it does not clear the flag, and it does not start
in the middle of a wait for it. -/
def plain [DecidableEq Flag] (flag : Flag) (code : List (Op Section Flag)) : Bool :=
  code.all fun
    | .assign other value => decide (other ≠ flag) || value
    | .resume _ other => decide (other ≠ flag)
    | _ => true

section Plain

variable [DecidableEq Flag] {flag : Flag}

@[simp] theorem plain_append (first second : List (Op Section Flag)) :
    plain flag (first ++ second) = (plain flag first && plain flag second) :=
  List.all_append

theorem plain_flat_map {Item : Type} {code : Item → List (Op Section Flag)}
    (keeps : ∀ item, plain flag (code item) = true) (items : List Item) :
    plain flag (items.flatMap code) = true := by
  induction items with
  | nil => rfl
  | cons item rest ih => rw [List.flatMap_cons, plain_append, keeps item, ih, Bool.and_self]

theorem plain_keeps {code : List (Op Section Flag)} (known : plain flag code = true) :
    Keeps flag code := by
  intro member
  have fine := List.all_eq_true.mp known _ member
  simp at fine

theorem plain_unresumed {code : List (Op Section Flag)} (known : plain flag code = true)
    (region : Section) : .resume region flag ∉ code := by
  intro member
  have fine := List.all_eq_true.mp known _ member
  simp at fine

end Plain

def StackKeeps (flag : Flag) (stack : List (Frame Signal Section Flag)) : Prop :=
  ∀ frame ∈ stack, Keeps flag frame.code

section Waiting

variable [DecidableEq Section] [DecidableEq Flag]

theorem execute_ops {isFree : Section → Bool} {flags after : Flag → Bool}
    {frame next : Frame Signal Section Flag}
    (executed : execute isFree flags frame = some (next, after)) (op : Op Section Flag)
    (member : op ∈ next.code) : op ∈ frame.code ∨
      ∃ region flag, op = .resume region flag ∧ .await region flag ∈ frame.code ∧
        flags flag = false := by
  obtain ⟨signal, held, code⟩ := frame
  cases code with
  | nil => cases executed
  | cons first rest =>
      cases first with
      | leave | assign =>
          cases executed
          exact Or.inl (List.mem_cons_of_mem _ member)
      | enter | assume | resume =>
          simp only [execute] at executed
          split at executed <;> cases executed
          exact Or.inl (List.mem_cons_of_mem _ member)
      | await region flag =>
          simp only [execute] at executed
          split at executed <;> cases executed
          · exact Or.inl (List.mem_cons_of_mem _ member)
          · rename_i unset
            rcases List.mem_cons.mp member with rfl | later
            · exact Or.inr ⟨region, flag, rfl, List.mem_cons_self, by simpa using unset⟩
            · exact Or.inl (List.mem_cons_of_mem _ later)

theorem execute_keeps {isFree : Section → Bool} {flags after : Flag → Bool} {flag : Flag}
    {frame next : Frame Signal Section Flag}
    (executed : execute isFree flags frame = some (next, after)) (keeps : Keeps flag frame.code)
    (set : flags flag = true) : after flag = true := by
  obtain ⟨signal, held, code⟩ := frame
  cases code with
  | nil => cases executed
  | cons first rest =>
      cases first with
      | assign other value =>
          cases executed
          by_cases same : flag = other
          · subst same
            cases value with
            | true => simp
            | false => exact absurd List.mem_cons_self keeps
          · simpa [same] using set
      | leave =>
          cases executed
          exact set
      | enter | assume | await | resume =>
          simp only [execute] at executed
          split at executed <;> cases executed <;> exact set

/-- A handler frame that could wait for the flag finds it set. -/
structure Informed (flags : Flag → Bool) (flag : Flag) (frame : Frame Signal Section Flag) : Prop where
  unresumed : ∀ region, .resume region flag ∉ frame.code
  set : ∀ op ∈ frame.code, op.waitsOn flag = true → flags flag = true

def InformedStack (flags : Flag → Bool) (flag : Flag) (stack : List (Frame Signal Section Flag)) : Prop :=
  ∀ frame ∈ stack, frame.signal.isSome = true → Informed flags flag frame

omit [DecidableEq Section] in
theorem informed_not_waiting {flags : Flag → Bool} {flag : Flag}
    {stack : List (Frame Signal Section Flag)} (informed : InformedStack flags flag stack) :
    waitsFor flags flag stack = false := by
  cases stack with
  | nil => rfl
  | cons frame below =>
      cases handler : frame.signal.isSome with
      | false => simp [waitsFor, handler]
      | true =>
          obtain ⟨unresumed, set⟩ := informed frame List.mem_cons_self handler
          cases code : frame.code with
          | nil => simp [waitsFor, code]
          | cons op rest =>
              have member : op ∈ frame.code := code ▸ List.mem_cons_self
              cases op with
              | enter | leave | assume | assign => simp [waitsFor, code]
              | await region other =>
                  by_cases same : other = flag
                  · subst same
                    have known := set _ member (by simp [Op.waitsOn])
                    simp [waitsFor, code, known]
                  · simp [waitsFor, code, same]
              | resume region other =>
                  by_cases same : other = flag
                  · subst same
                    exact absurd member (unresumed region)
                  · simp [waitsFor, code, same]

theorem execute_informed {isFree : Section → Bool} {flags after : Flag → Bool} {flag : Flag}
    {frame next : Frame Signal Section Flag}
    (executed : execute isFree flags frame = some (next, after)) (keeps : Keeps flag frame.code)
    (informed : Informed flags flag frame) : Informed after flag next := by
  have waited : ∀ region, .await region flag ∈ frame.code → flags flag = true :=
    fun region member => informed.set _ member (by simp [Op.waitsOn])
  constructor
  · intro region member
    rcases execute_ops executed _ member with old | ⟨_, _, same, awaited, unset⟩
    · exact informed.unresumed region old
    · cases same
      simp [waited region awaited] at unset
  · intro op member waits
    apply execute_keeps executed keeps
    rcases execute_ops executed op member with old | ⟨region, other, rfl, awaited, _⟩
    · exact informed.set op old waits
    · have same : other = flag := by simpa [Op.waitsOn] using waits
      exact waited region (same ▸ awaited)

end Waiting

section WaitingRuns

variable [DecidableEq Thread] [DecidableEq Signal] [DecidableEq Section] [DecidableEq Mutex]
  [DecidableEq Flag] (program : Program Thread Signal Call Path Section Mutex Flag)

/-- Once set, the flag stays set. -/
structure Latched (flag : Flag) : Prop where
  bodies : ∀ call, plain flag (program.body call) = true
  handlers : ∀ path, plain flag (program.handler path) = true

structure Attentive (waiter : Thread) (flag : Flag) (state : State Thread Signal Section Flag) : Prop where
  keeps : ∀ thread, StackKeeps flag (state.frames thread)
  informed : InformedStack state.flags flag (state.frames waiter)

omit [DecidableEq Thread] [DecidableEq Signal] [DecidableEq Section] [DecidableEq Mutex] in
theorem informed_later {flags after : Flag → Bool} {flag : Flag}
    {stack : List (Frame Signal Section Flag)} (informed : InformedStack flags flag stack)
    (later : flags flag = true → after flag = true) : InformedStack after flag stack := by
  intro frame member handler
  obtain ⟨unresumed, set⟩ := informed frame member handler
  exact ⟨unresumed, fun op inside waits => later (set op inside waits)⟩

omit [DecidableEq Signal] in
theorem attentive_step {flag : Flag} {waiter : Thread} (latched : Latched program flag)
    {state after : State Thread Signal Section Flag} {event : Event Thread Call Path}
    (stepped : Stepped program state event after)
    (ready : ∀ path, event = .deliver waiter path →
      (program.handler path).any (Op.waitsOn flag) = true → state.flags flag = true)
    (attentive : Attentive waiter flag state) : Attentive waiter flag after := by
  obtain ⟨keeps, informed⟩ := attentive
  cases stepped with
  | run thread frame next below flags top executed =>
      have inside : frame ∈ state.frames thread := top ▸ List.mem_cons_self
      -- any thread may set the flag here, and none clears it
      have later := execute_keeps executed (keeps thread frame inside)
      refine ⟨replace_frames keeps ?_, ?_⟩
      · intro other member
        rcases List.mem_cons.mp member with rfl | deeper
        · intro cleared
          rcases execute_ops executed _ cleared with old | ⟨_, _, same, _⟩
          · exact keeps thread frame inside old
          · cases same
        · exact keeps thread other (top ▸ List.mem_cons_of_mem frame deeper)
      · refine replace_at (informed_later informed later) fun same => ?_
        subst same
        intro other member handler
        rcases List.mem_cons.mp member with rfl | deeper
        · rw [execute_signal executed] at handler
          exact execute_informed executed (keeps waiter frame inside) (informed frame inside handler)
        · exact informed_later informed later other (top ▸ List.mem_cons_of_mem frame deeper) handler
  | call call held bottom =>
      refine ⟨replace_frames keeps fun frame member => ?_, ?_⟩
      · rw [List.mem_singleton.mp member]
        exact plain_keeps (latched.bodies call)
      · refine replace_at informed fun _ frame member handler => ?_
        rw [List.mem_singleton.mp member] at handler
        cases handler
  | deliver thread path =>
      refine ⟨replace_frames keeps fun frame member => ?_, ?_⟩
      · rcases List.mem_cons.mp member with rfl | deeper
        · exact plain_keeps (latched.handlers path)
        · exact keeps thread frame deeper
      · refine replace_at informed fun same frame member handler => ?_
        subst same
        rcases List.mem_cons.mp member with rfl | deeper
        · exact ⟨plain_unresumed (latched.handlers path), fun op inside waits =>
            ready path rfl (List.any_eq_true.mpr ⟨op, inside, waits⟩)⟩
        · exact informed frame deeper handler
  | finish thread frame below top =>
      have deeper : ∀ other ∈ below, other ∈ state.frames thread :=
        fun other member => top ▸ List.mem_cons_of_mem frame member
      constructor
      · exact replace_frames keeps fun other member => keeps thread other (deeper other member)
      · refine replace_at informed fun same other member => ?_
        subst same
        exact informed other (deeper other member)

/-- A thread whose handlers start only when the flag is set never waits for it. -/
theorem reached_not_waiting {flag : Flag} {waiter : Thread} (latched : Latched program flag)
    {allowed : State Thread Signal Section Flag → Event Thread Call Path → Prop}
    (ready : ∀ state path, allowed state (.deliver waiter path) →
      (program.handler path).any (Op.waitsOn flag) = true → state.flags flag = true)
    {state : State Thread Signal Section Flag} (reached : (system program).Reached allowed state) :
    waitsFor state.flags flag (state.frames waiter) = false := by
  have start : Attentive waiter flag (system program).initial := by
    constructor
    · intro _ frame member
      rw [List.mem_singleton.mp member]
      exact List.not_mem_nil
    · intro frame member handler
      rw [List.mem_singleton.mp member] at handler
      cases handler
  have attentive := LabelledRuns.reached_invariant (system program) allowed (Attentive waiter flag)
    start (fun before event after attentive permitted stepped =>
      attentive_step program latched (step_stepped program stepped)
        (fun path same => ready before path (same ▸ permitted)) attentive) reached
  exact informed_not_waiting attentive.informed

end WaitingRuns

end LockPrograms
