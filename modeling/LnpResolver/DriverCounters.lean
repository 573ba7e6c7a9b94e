import LnpResolver.PendingTable

/-!
The request counters of the drivers. An issued request is counted once on its
way in and once, as failed or finished, on its way out; in between it should sit
in the pending table. `Counted` says when one event keeps that balance, on the
state before it.
-/

namespace LnpResolver.DriverCounters

open PackedBytes Transport RequestWire DriverInterface AsyncHttpClient ReplyWire Resolver
  ResolverSteps PendingTable

variable {D : Type} [CDriver D]

abbrev Table (D : Type) := AList (fun _ : UInt32 => Waiting D)

/-- The pending entries whose request was issued by the driver with this name and id. -/
def waitingOf (table : Table D) (key : String × Int) : Nat :=
  table.entries.countP fun entry => label entry.2.issuer = key

def Balanced (metrics : Metrics) (table : Table D) : Prop :=
  ∀ key, metrics.requestsCount key =
    metrics.requestsFailed key + metrics.requestsFinished key + waitingOf table key

theorem bump_apply (counter : String × Int → Nat) (driver : D) (key : String × Int) :
    bump counter driver key = counter key + if label driver = key then 1 else 0 := by
  by_cases same : label driver = key
  · subst same
    simp [bump]
  · rw [bump, Function.update_of_ne (Ne.symm same), if_neg same, Nat.add_zero]

theorem waiting_insert (table : Table D) (id : UInt32) (waiting : Waiting D)
    (free : table.lookup id = none) (key : String × Int) :
    waitingOf (table.insert id waiting) key =
      waitingOf table key + if label waiting.issuer = key then 1 else 0 := by
  rw [waitingOf, AList.entries_insert_of_notMem (AList.lookup_eq_none.mp free), List.countP_cons,
    waitingOf]
  simp only [decide_eq_true_eq]

theorem waiting_erase (table : Table D) (id : UInt32) (waiting : Waiting D)
    (found : table.lookup id = some waiting) (key : String × Int) :
    waitingOf table key =
      waitingOf (table.erase id) key + if label waiting.issuer = key then 1 else 0 := by
  have present : id ∈ table.entries.keys := AList.lookup_isSome.mp (by rw [found]; rfl)
  -- kerase removes the first entry with the key, and lookup returns that one
  obtain ⟨other, before, behind, outside, split, erased⟩ := List.exists_of_kerase present
  have same : other = waiting := by
    have first : table.lookup id = some other :=
      AList.mem_lookup_iff.mpr (by rw [split]; simp)
    exact Option.some.inj (first.symm.trans found)
  subst same
  have entries : (table.erase id).entries = before ++ behind := erased
  simp only [waitingOf, split, entries, List.countP_append, List.countP_cons, decide_eq_true_eq]
  omega

/-- One request of the driver leaves, as failed or as finished. -/
structure Settles (driver : D) (before after : Metrics) : Prop where
  count : after.requestsCount = before.requestsCount
  out : ∀ key, after.requestsFailed key + after.requestsFinished key =
    before.requestsFailed key + before.requestsFinished key + if label driver = key then 1 else 0

theorem failed_settles (driver : D) (metrics : Metrics) :
    Settles driver metrics (requestsFailedIncrement driver metrics) where
  count := rfl
  out := fun key => by
    simp only [requestsFailedIncrement, bump_apply]
    omega

theorem finished_settles (driver : D) (metrics : Metrics) :
    Settles driver metrics (requestsFinishedIncrement driver metrics) where
  count := rfl
  out := fun key => by
    simp only [requestsFinishedIncrement, bump_apply]
    omega

section Balance

variable {metrics after : Metrics} {table : Table D} {driver : D}

theorem balanced_at_once (settles : Settles driver (requestsCountIncrement driver metrics) after)
    (balanced : Balanced metrics table) : Balanced after table := by
  intro key
  have before := balanced key
  have out := settles.out key
  rw [settles.count]
  simp only [requestsCountIncrement, bump_apply] at out ⊢
  omega

theorem balanced_stored {id : UInt32} (request : ResolverRequest) (free : table.lookup id = none)
    (balanced : Balanced metrics table) :
    Balanced (requestsCountIncrement driver metrics) (emplace table id ⟨request, driver⟩) := by
  intro key
  have before := balanced key
  rw [emplace_absent _ _ _ free, waiting_insert _ _ _ free]
  simp only [requestsCountIncrement, bump_apply]
  omega

theorem balanced_answered {id : UInt32} {waiting : Waiting D}
    (found : table.lookup id = some waiting) (same : label driver = label waiting.issuer)
    (settles : Settles driver metrics after) (balanced : Balanced metrics table) :
    Balanced after (table.erase id) := by
  intro key
  have before := balanced key
  have out := settles.out key
  rw [waiting_erase table id waiting found, ← same] at before
  rw [settles.count]
  omega

end Balance

/-! Drivers are filed under their own unique id, and a request goes to the
driver filed under its database id. -/

structure Keyed (state : State D) : Prop where
  map : ∀ id driver, state.driversMap.lookup id = some driver → CDriver.getUniqueId driver = id
  issuers : ∀ id waiting, state.waitingRequests.lookup id = some waiting →
    CDriver.getUniqueId waiting.issuer = waiting.request.dbId

theorem load_rows_keyed (rows : List (Row D)) (before after : Database D)
    (keyed : ∀ id driver, before.lookup id = some driver → CDriver.getUniqueId driver = id)
    (loaded : loadRows before rows = some after) :
    ∀ id driver, after.lookup id = some driver → CDriver.getUniqueId driver = id := by
  induction rows generalizing before with
  | nil =>
      cases loaded
      exact keyed
  | cons row rest ih =>
      cases row with
      | driver new =>
          refine ih _ ?_ loaded
          intro id driver found
          by_cases same : id = CDriver.getUniqueId new
          · subst same
            cases old : before.lookup (CDriver.getUniqueId new) with
            | some entry =>
                rw [emplace_present _ _ _ old] at found
                exact keyed _ driver found
            | none =>
                rw [emplace_absent _ _ _ old, AList.lookup_insert] at found
                rw [Option.some.inj found]
          · rw [emplace_lookup_other _ _ _ _ same] at found
            exact keyed id driver found
      | unsupported => exact ih before keyed loaded
      | threw => cases loaded

theorem keyed_step {state after : State D} {event : Event D} (stepped : Stepped state event after)
    (keyed : Keyed state) : Keyed after := by
  cases stepped with
  | datagram recv world _ received =>
      obtain ⟨_, _, map, _⟩ := received_frame received
      refine ⟨map ▸ keyed.map, ?_⟩
      cases received_pends received with
      | nothing table => exact table ▸ keyed.issuers
      | stored driver _ _ _ issues _ table | started driver _ _ _ issues _ table =>
          intro id waiting found
          rcases filed_lookup (table ▸ found) with old | ⟨_, _, rfl⟩
          · exact keyed.issuers id waiting old
          · exact keyed.map _ driver (issued_serves issues).1
  | transferDone => exact ⟨keyed.map, keyed.issuers⟩
  | response queued rest front _ answered =>
      obtain ⟨_, _, _, map⟩ := answered_frame answered
      refine ⟨map ▸ keyed.map, ?_⟩
      intro id waiting found
      rw [answered_table answered] at found
      exact keyed.issuers id waiting (erase_lookup found).2
  | configure load =>
      unfold configure
      cases loaded : loadResolveDrivers load with
      | none => exact keyed
      | some map =>
          refine ⟨?_, keyed.issuers⟩
          cases load with
          | failed => cases loaded
          | rows rows => exact load_rows_keyed rows ∅ map (by simp) loaded

theorem keyed_reached {allowed : State D → Event D → Prop} {state : State D}
    (reached : (system D).Reached allowed state) : Keyed state :=
  LabelledRuns.reached_invariant (system D) allowed Keyed ⟨by simp [system], by simp [system]⟩
    (fun _ _ _ keyed _ stepped => keyed_step (step_stepped stepped) keyed) reached

/-! When one event keeps the balance. -/

def throws (curl : Curl) (http : HttpRequest) : Bool :=
  match makeRequest curl http with
  | .error _ => true
  | .ok _ => false

/-- make_request throws exactly when the table has the id already: then the
request fails and is not stored, otherwise it is stored and does not fail. -/
def IssueCounted (state : State D) (recv : RecvData) (world : World) :
    Option (D × HttpRequest) → Prop
  | none => True
  | some (_, http) =>
      throws world.curl http = (state.waitingRequests.lookup (admitted state recv).id).isSome

/-- The driver now filed under the database id of the waiting request has its
kind and the name of the driver that issued it. -/
def AnswerCounted (state : State D) : List (Queued D) → Prop
  | [] => True
  | queued :: _ => ∀ waiting ∈ state.waitingRequests.lookup queued.response.id,
      ∃ driver ∈ state.driversMap.lookup waiting.request.dbId,
        CDriver.getDriverType driver = waiting.request.type ∧
          CDriver.getName driver = CDriver.getName waiting.issuer

def Counted (state : State D) : Event D → Prop
  | .datagram recv world => IssueCounted state recv world (issued state recv world)
  | .response => AnswerCounted state state.responseQueue
  | _ => True

theorem balanced_received {state after : State D} {recv : RecvData} {world : World}
    (received : Received state recv world after) (counted : Counted state (.datagram recv world))
    (balanced : Balanced state.metrics state.waitingRequests) :
    Balanced after.metrics after.waitingRequests := by
  cases received with
  | rejected | refused => exact balanced
  | threw _ driver => exact balanced_at_once (failed_settles driver _) balanced
  | done _ driver => exact balanced_at_once (finished_settles driver _) balanced
  | dispatchThrew wellFormed driver serves http resolved what failed =>
      have issues := issued_http state recv world driver http wellFormed serves resolved
      have present : IssueCounted state recv world (some (driver, http)) := issues ▸ counted
      simp only [IssueCounted, throws, failed] at present
      obtain ⟨old, found⟩ := Option.isSome_iff_exists.mp present.symm
      -- counted and failed; the table keeps the entry that was there
      simp only [emplace_present _ _ _ found]
      exact balanced_at_once (failed_settles driver _) balanced
  | dispatchFailed wellFormed driver serves http resolved status started
  | dispatched wellFormed driver serves http resolved started =>
      have issues := issued_http state recv world driver http wellFormed serves resolved
      have absent : IssueCounted state recv world (some (driver, http)) := issues ▸ counted
      simp only [IssueCounted, throws, started] at absent
      have free := Option.isNone_iff_eq_none.mp (Option.isSome_eq_false_iff.mp absent.symm)
      exact balanced_stored _ free balanced

theorem balanced_answer {state after : State D} {queued : Queued D}
    (answered : Answered state queued after) (keyed : Keyed state)
    (counted : ∀ waiting ∈ state.waitingRequests.lookup queued.response.id,
      ∃ driver ∈ state.driversMap.lookup waiting.request.dbId,
        CDriver.getDriverType driver = waiting.request.type ∧
          CDriver.getName driver = CDriver.getName waiting.issuer)
    (balanced : Balanced state.metrics state.waitingRequests) :
    Balanced after.metrics after.waitingRequests := by
  -- the driver that is looked up now is counted under the label of the issuer
  have sameLabel : ∀ waiting driver,
      state.waitingRequests.lookup queued.response.id = some waiting →
      Serves state.driversMap waiting.request driver → label driver = label waiting.issuer := by
    intro waiting driver found serves
    obtain ⟨other, present, _, name⟩ := counted waiting found
    have equal : driver = other := Option.some.inj (serves.1.symm.trans present)
    have filed := keyed.map _ driver serves.1
    exact Prod.ext (equal ▸ name) (filed.trans (keyed.issuers _ waiting found).symm)
  cases answered with
  | notFound => exact balanced
  | refused waiting found absent =>
      obtain ⟨driver, present, kind, _⟩ := counted waiting found
      exact absurd kind (absent driver present)
  | failed waiting found driver serves | threw waiting found driver serves =>
      exact balanced_answered found (sameLabel waiting driver found serves)
        (failed_settles driver _) balanced
  | parsed waiting found driver serves =>
      exact balanced_answered found (sameLabel waiting driver found serves)
        (finished_settles driver _) balanced

theorem balanced_step {state after : State D} {event : Event D} (stepped : Stepped state event after)
    (counted : Counted state event) (keyed : Keyed state)
    (balanced : Balanced state.metrics state.waitingRequests) :
    Balanced after.metrics after.waitingRequests := by
  cases stepped with
  | datagram recv world _ received => exact balanced_received received counted balanced
  | transferDone => exact balanced
  | response queued rest front _ answered =>
      simp only [Counted, front] at counted
      exact balanced_answer answered ⟨keyed.map, keyed.issuers⟩ counted balanced
  | configure load =>
      obtain ⟨map, swapped⟩ := configure_swaps load state
      rw [swapped]
      exact balanced

/-- In every run of counted events each driver's requests are failed, finished
or waiting. -/
theorem requests_conserved (state : State D) (reached : (system D).Reached Counted state)
    (key : String × Int) :
    state.metrics.requestsCount key = state.metrics.requestsFailed key +
      state.metrics.requestsFinished key + waitingOf state.waitingRequests key :=
  LabelledRuns.reached_invariant_given (system D) Counted Keyed
    (fun state => Balanced state.metrics state.waitingRequests)
    (fun _ earlier => keyed_reached earlier) (fun _ => rfl)
    (fun _ _ _ keyed balanced counted stepped =>
      balanced_step (step_stepped stepped) counted keyed balanced) reached key

section OneProvider

open JsonItems Drivers

attribute [local instance] thinqJson

instance (state : State D) (recv : RecvData) (world : World) :
    (issues : Option (D × HttpRequest)) → Decidable (IssueCounted state recv world issues)
  | none => isTrue trivial
  | some (_, _) => inferInstanceAs (Decidable (_ = _))

instance (state : State D) : (queue : List (Queued D)) → Decidable (AnswerCounted state queue)
  | [] => isTrue trivial
  | _ :: _ => inferInstanceAs (Decidable (∀ waiting ∈ _, ∃ driver ∈ _, _ ∧ _))

instance (state : State D) : (event : Event D) → Decidable (Counted state event)
  | .datagram recv world => inferInstanceAs (Decidable (IssueCounted state recv world _))
  | .transferDone _ _ => isTrue trivial
  | .response => inferInstanceAs (Decidable (AnswerCounted state state.responseQueue))
  | .configure _ => isTrue trivial

def thinqKey : String × Int := ("REST/ThinQ", 1)

theorem requests_conserved_two_clients : ∃ state, (system Driver).Reached Counted state ∧
    state.metrics.requestsCount thinqKey = 2 ∧
    state.metrics.requestsCount thinqKey = state.metrics.requestsFailed thinqKey +
      state.metrics.requestsFinished thinqKey + waitingOf state.waitingRequests thinqKey := by
  obtain ⟨state, reached, shown⟩ := LabelledRuns.run_when_shows (system Driver) Counted
    [.configure (.rows [.driver thinq]), ask firstClient 7 "1", ask secondClient 8 "2",
      .transferDone 1 (.ok thinqReply), .response]
    (fun state => state.metrics.requestsCount thinqKey = 2) (by decide +kernel)
  exact ⟨state, reached, of_decide_eq_true shown, requests_conserved state reached thinqKey⟩

/-- The second request under a waiting id is counted but never stored. -/
theorem repeated_id_unbalances : ∃ state, (system Driver).Reachable state ∧
    state.metrics.requestsCount thinqKey = 2 ∧
    state.metrics.requestsCount thinqKey ≠ state.metrics.requestsFailed thinqKey +
      state.metrics.requestsFinished thinqKey + waitingOf state.waitingRequests thinqKey := by
  obtain ⟨state, reached, shown⟩ := LabelledRuns.run_when_shows (system Driver) (fun _ _ => True)
    [.configure (.rows [.driver thinq]), ask firstClient 7 "1", ask secondClient 7 "2"]
    (fun state => state.metrics.requestsCount thinqKey = 2 ∧
      state.metrics.requestsCount thinqKey ≠ state.metrics.requestsFailed thinqKey +
        state.metrics.requestsFinished thinqKey + waitingOf state.waitingRequests thinqKey)
    (by decide +kernel)
  exact ⟨state, reached, of_decide_eq_true shown⟩

end OneProvider

end LnpResolver.DriverCounters
