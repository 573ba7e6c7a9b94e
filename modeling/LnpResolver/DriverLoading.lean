import LnpResolver.DriverTypes
import LnpResolver.ResolverSteps

/-!
Resolver::loadResolveDrivers and Resolver::configure on the rows of the database.
The new map is built beside the one in use and swapped in at the end, so a call
that throws anywhere leaves the old one. What does survive a failed call are the
static members of the configuration classes.
-/

namespace LnpResolver.DriverLoading

open PackedBytes RequestWire JsonItems Drivers DriverConfig DriverTypes ResolverSteps
open Resolver (Database Load emplace)

/-- Connection and query: an exception, or a table whose rows share its columns. -/
inductive Query where
  | failed (thrown : Thrown)
  | table (columns : List String) (rows : List (String → Option Bytes))

def dbResult (columns : List String) (rows : List (String → Option Bytes)) : List RawConfig :=
  rows.map (RawConfig.mk columns)

theorem dbResult_columns (columns : List String) (rows : List (String → Option Bytes)) :
    ∀ data ∈ dbResult columns rows, data.columns = columns := by
  intro data member
  obtain ⟨row, -, rfl⟩ := List.mem_map.mp member
  rfl

structure Process where
  statics : Statics := {}
  mDriversMap : Database Driver := ∅

section Loading

variable [Pqxx] [CJson] (env : Environment)

def loadRows : List RawConfig → Database Driver → Statics →
    EStateM.Result Thrown Statics (Database Driver)
  | [], dbMap, statics => .ok dbMap statics
  | data :: rest, dbMap, statics =>
      match instantiate env data statics with
      | .ok (some drv) statics => loadRows rest (emplace dbMap drv.uniqueId drv) statics
      -- a row that is not supported leaves a warning
      | .ok none statics => loadRows rest dbMap statics
      | .error thrown statics => .error thrown statics

def tryLoad (query : Query) (statics : Statics) :
    EStateM.Result Thrown Statics (Database Driver) :=
  match query with
  | .failed thrown => .error thrown statics
  | .table columns rows => loadRows env (dbResult columns rows) ∅ statics

/-- The three catch clauses around it; each of them leaves `rv` false. -/
def loadResolveDrivers (query : Query) (statics : Statics) :
    EStateM.Result Thrown Statics (Option (Database Driver)) :=
  match tryLoad env query statics with
  | .ok dbMap statics => .ok (some dbMap) statics
  | .error (.pqxx _) statics => .ok none statics
  | .error (.cfgError _ _) statics => .ok none statics
  | .error (.other _) statics => .ok none statics

def configure (query : Query) (process : Process) : EStateM.Result Thrown Process Bool :=
  match loadResolveDrivers env query process.statics with
  | .ok (some dbMap) statics => .ok true ⟨statics, dbMap⟩
  | .ok none statics => .ok false { process with statics := statics }
  | .error thrown statics => .error thrown { process with statics := statics }

/-- The driver of a row under a format, if the row is supported. -/
def supportedDriver (sConfigType : ECfgFormat) (data : RawConfig) : Option Driver :=
  match typeValue data with
  | .error _ => none
  | .ok value =>
      match newDriver env sConfigType data (lookUp env.pastTable value sConfigType).driverId with
      | .ok driver => driver
      | .error _ => none

def firstDriver (sConfigType : ECfgFormat) (rows : List RawConfig) (id : Int) : Option Driver :=
  (rows.filterMap (supportedDriver env sConfigType)).find? fun driver => driver.uniqueId = id

omit [Pqxx] [CJson] in
theorem detected_again (columns : List String) (sConfigType : ECfgFormat) :
    detected columns (detected columns sConfigType) = detected columns sConfigType := by
  by_cases unset : sConfigType.rank ≤ ECfgFormat.invalid.rank
  · simp only [detected, unset, if_true, ite_self]
  · simp only [detected, unset, if_false]

/-- The static members a call leaves behind, whether it returns or throws. -/
def staticsAfter {ε α : Type} : EStateM.Result ε Statics α → Statics
  | .ok _ statics => statics
  | .error _ statics => statics

omit [Pqxx] [CJson] in
theorem getInstance_keeps_format (statics : Statics) :
    (staticsAfter (getInstance env statics)).sConfigType = statics.sConfigType := by
  unfold getInstance
  repeat' split
  all_goals rfl

theorem instantiate_format (data : RawConfig) (statics : Statics) :
    (staticsAfter (instantiate env data statics)).sConfigType =
      detected data.columns statics.sConfigType := by
  unfold instantiate
  cases typed : typeValue data with
  | error thrown =>
      simp only [getID, typed]
      rfl
  | ok value =>
      simp only [getID_ok env data statics value typed]
      split
      · rfl
      · split
        · have kept := getInstance_keeps_format env
            { statics with sConfigType := detected data.columns statics.sConfigType }
          generalize getInstance env _ = fetched at kept ⊢
          cases fetched <;> exact kept
        · rfl

/-- A row that yields a driver or is skipped does so by its type and format alone. -/
theorem instantiate_ok (data : RawConfig) (statics after : Statics) (driver : Option Driver)
    (returned : instantiate env data statics = .ok driver after) :
    driver = supportedDriver env (detected data.columns statics.sConfigType) data ∧
      after.sConfigType = detected data.columns statics.sConfigType := by
  have format := instantiate_format env data statics
  rw [returned] at format
  refine ⟨?_, format⟩
  unfold instantiate at returned
  cases typed : typeValue data with
  | error thrown =>
      simp only [getID, typed] at returned
      cases returned
  | ok value =>
      simp only [getID_ok env data statics value typed] at returned
      simp only [supportedDriver, typed]
      cases made : newDriver env (detected data.columns statics.sConfigType) data
          (lookUp env.pastTable value (detected data.columns statics.sConfigType)).driverId with
      | error thrown =>
          simp only [made] at returned
          cases returned
      | ok created =>
          simp only [made] at returned
          repeat' split at returned
          all_goals cases returned
          all_goals rfl

theorem loadRows_lookup (columns : List String) (rows : List RawConfig)
    (shared : ∀ data ∈ rows, data.columns = columns) (dbMap after : Database Driver)
    (statics last : Statics) (loaded : loadRows env rows dbMap statics = .ok after last) (id : Int) :
    after.lookup id = (dbMap.lookup id).or
      (firstDriver env (detected columns statics.sConfigType) rows id) := by
  induction rows generalizing dbMap statics with
  | nil =>
      cases loaded
      simp [firstDriver]
  | cons data rest ih =>
      rw [loadRows] at loaded
      obtain ⟨here, later⟩ := List.forall_mem_cons.mp shared
      cases returned : instantiate env data statics with
      | error thrown middle =>
          simp only [returned] at loaded
          cases loaded
      | ok driver middle =>
          obtain ⟨driverIs, format⟩ := instantiate_ok env data statics middle driver returned
          rw [here] at driverIs format
          -- the later rows see the format this one was read in
          have stable : detected columns middle.sConfigType =
              detected columns statics.sConfigType := by rw [format, detected_again]
          cases driver with
          | none =>
              simp only [returned] at loaded
              rw [ih later _ _ loaded, stable]
              simp [firstDriver, ← driverIs]
          | some drv =>
              simp only [returned] at loaded
              rw [ih later _ _ loaded, stable, emplace_lookup, Option.or_assoc]
              congr 1
              by_cases same : drv.uniqueId = id <;> simp [firstDriver, ← driverIs, same]

/-- A reload is all or nothing: it returns true with the map of the first supported
rows, or false with the map as it was; nothing is thrown. -/
theorem configure_atomic (query : Query) (process : Process) :
    ∃ rv after, configure env query process = .ok rv after ∧
      ((rv = true ∧ ∃ columns rows, query = .table columns rows ∧
          ∀ id, after.mDriversMap.lookup id =
            firstDriver env (detected columns process.statics.sConfigType)
              (dbResult columns rows) id) ∨
        (rv = false ∧ after.mDriversMap = process.mDriversMap)) := by
  cases loaded : tryLoad env query process.statics with
  | ok dbMap statics =>
      refine ⟨true, ⟨statics, dbMap⟩, by simp only [configure, loadResolveDrivers, loaded], Or.inl ?_⟩
      cases query with
      | failed thrown => cases loaded
      | table columns rows =>
          refine ⟨rfl, columns, rows, rfl, ?_⟩
          intro id
          have built := loadRows_lookup env columns _ (dbResult_columns columns rows) ∅ dbMap _
            statics loaded id
          rwa [AList.lookup_empty, Option.none_or] at built
  | error thrown statics =>
      refine ⟨false, { process with statics := statics }, ?_, Or.inr ⟨rfl, rfl⟩⟩
      cases thrown <;> simp only [configure, loadResolveDrivers, loaded]

/-! The resolver's transition system takes the rows of a reload as they come out
of CDriver::instantiate; this is where they come from. -/

def instantiated : List RawConfig → Statics → List (Resolver.Row Driver)
  | [], _ => []
  | data :: rest, statics =>
      match instantiate env data statics with
      | .ok (some drv) statics => .driver drv :: instantiated rest statics
      | .ok none statics => .unsupported :: instantiated rest statics
      | .error _ _ => [.threw]

def loadOf (query : Query) (statics : Statics) : Load Driver :=
  match query with
  | .failed _ => .failed
  | .table columns rows => .rows (instantiated env (dbResult columns rows) statics)

def loadedMap {ε σ α : Type} : EStateM.Result ε σ α → Option α
  | .ok value _ => some value
  | .error _ _ => none

theorem loadRows_instantiated (rows : List RawConfig) (dbMap : Database Driver)
    (statics : Statics) :
    Resolver.loadRows dbMap (instantiated env rows statics) =
      loadedMap (loadRows env rows dbMap statics) := by
  induction rows generalizing dbMap statics with
  | nil => rfl
  | cons data rest ih =>
      rw [instantiated, loadRows]
      cases instantiate env data statics with
      | error thrown middle => rfl
      | ok driver middle =>
          cases driver with
          | none => exact ih dbMap middle
          | some drv => exact ih _ middle

/-- `Resolver.configure` on these rows is what `configure` does to the driver map. -/
theorem configure_refines (query : Query) (process : Process) (state : Resolver.State Driver)
    (same : state.driversMap = process.mDriversMap) :
    ∃ after, configure env query process =
        .ok (Resolver.configure (loadOf env query process.statics) state).1 after ∧
      (Resolver.configure (loadOf env query process.statics) state).2.driversMap =
        after.mDriversMap := by
  have maps : Resolver.loadResolveDrivers (loadOf env query process.statics) =
      loadedMap (tryLoad env query process.statics) := by
    cases query with
    | failed thrown => rfl
    | table columns rows => exact loadRows_instantiated env _ ∅ _
  rw [Resolver.configure, maps]
  cases loaded : tryLoad env query process.statics with
  | ok dbMap statics =>
      exact ⟨⟨statics, dbMap⟩, by simp only [configure, loadResolveDrivers, loaded, loadedMap], rfl⟩
  | error thrown statics =>
      refine ⟨{ process with statics := statics }, ?_, same⟩
      cases thrown <;> simp only [configure, loadResolveDrivers, loaded, loadedMap]

/-! A reload against the calls before it. Two processes can differ in the format
they have detected and in whether they have a SIP client. -/

structure Call where
  env : Environment
  query : Query

def callAfter (process : Process) (call : Call) : Process :=
  match configure call.env call.query process with
  | .ok _ after => after
  | .error _ after => after

def history (calls : List Call) : Process := calls.foldl callAfter {}

def reload (query : Query) (process : Process) : Option (Database Driver) :=
  match configure env query process with
  | .ok true after => some after.mDriversMap
  | _ => none

/-- The format of the rows that a call reads, if it is one. -/
def Call.format (call : Call) : ECfgFormat :=
  match call.query with
  | .failed _ => .invalid
  | .table columns rows => if rows.isEmpty then .invalid else detectFormat columns

end Loading

/-! A process that has read a JSON table, and a table of separate columns. -/

attribute [local instance] postgres noJson

end LnpResolver.DriverLoading
