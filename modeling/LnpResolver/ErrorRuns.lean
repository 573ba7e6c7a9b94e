import LnpResolver.ErrorFormats

/-!
Runs of loading and resolving, and what errors they construct. A load goes through
the rows of its table until one of them throws. A driver may answer while its map is
in use and after it has been replaced, so any driver answers here at any time.
-/

namespace LnpResolver.ErrorRuns

open PackedBytes RequestWire DriverInterface JsonItems Drivers PrintfFormats Tracing DriverConfig
open DriverTypes DriverLoading ErrorConstructions DriverErrors ErrorFormats

inductive Operation where
  | configure (call : Call)
  | resolve (asprintf : Bytes → Bytes) (driver : Driver) (sip : Bytes → SipOutcome)
      (request : ResolverRequest)
  | parse (asprintf : Bytes → Bytes) (driver : Driver) (data : Bytes)

section Runs

variable [Pqxx] [CJson]

/-- CDriver::instantiate; getID and the SIP client construct none of these errors. -/
def instantiateConstructs (env : Environment) (data : RawConfig) (statics : Statics) :
    List Construction :=
  match getID env data statics with
  | .ok identified statics =>
      (newDriverTraced env statics.sConfigType data identified.driverId).events
  | .error _ _ => []

def loadConstructs (env : Environment) : List RawConfig → Statics → List Construction
  | [], _ => []
  | data :: rest, statics =>
      instantiateConstructs env data statics ++
        match instantiate env data statics with
        | .ok _ statics => loadConstructs env rest statics
        | .error _ _ => []

def Operation.constructs (process : Process) : Operation → List Construction
  | .configure call =>
      match call.query with
      | .failed _ => []
      | .table columns rows => loadConstructs call.env (dbResult columns rows) process.statics
  | .resolve asprintf driver sip request => (resolveTraced asprintf driver sip request).events
  | .parse asprintf driver data => (parseTraced asprintf driver data).events

def Operation.after (process : Process) : Operation → Process
  | .configure call => callAfter process call
  | .resolve _ _ _ _ | .parse _ _ _ => process

/-- Everything constructed in a run, in order. -/
def constructs : Process → List Operation → List Construction
  | _, [] => []
  | process, operation :: rest =>
      operation.constructs process ++ constructs (operation.after process) rest

/-! Where a run goes wrong is decided row by row, on the state before the row. -/

def SafeInstance (env : Environment) (data : RawConfig) (statics : Statics) : Prop :=
  match getID env data statics with
  | .ok identified statics =>
      identified.driverId = .mhashCsv → SafeRow env statics.sConfigType data
  | .error _ _ => True

def SafeLoad (env : Environment) : List RawConfig → Statics → Prop
  | [], _ => True
  | data :: rest, statics =>
      SafeInstance env data statics ∧
        match instantiate env data statics with
        | .ok _ statics => SafeLoad env rest statics
        | .error _ _ => True

def Operation.Safe (process : Process) : Operation → Prop
  | .configure call =>
      match call.query with
      | .failed _ => True
      | .table columns rows => SafeLoad call.env (dbResult columns rows) process.statics
  | .resolve _ _ _ _ | .parse _ _ _ => True

def SafeRun : Process → List Operation → Prop
  | _, [] => True
  | process, operation :: rest =>
      operation.Safe process ∧ SafeRun (operation.after process) rest

variable (plainColumn : 37 ∉ Pqxx.argumentError "parameters")

include plainColumn

theorem instantiate_sound_iff (env : Environment) (data : RawConfig) (statics : Statics) :
    (∀ construction ∈ instantiateConstructs env data statics, Sound construction) ↔
      SafeInstance env data statics := by
  unfold instantiateConstructs SafeInstance
  cases getID env data statics with
  | ok identified statics => exact records_newDriver_iff env plainColumn _ data _
  | error thrown statics => exact iff_of_true nofun trivial

theorem load_sound_iff (env : Environment) (rows : List RawConfig) (statics : Statics) :
    (∀ construction ∈ loadConstructs env rows statics, Sound construction) ↔
      SafeLoad env rows statics := by
  induction rows generalizing statics with
  | nil => exact iff_of_true nofun trivial
  | cons data rest ih =>
      rw [loadConstructs, SafeLoad, List.forall_mem_append,
        instantiate_sound_iff plainColumn env data statics]
      apply and_congr_right'
      cases instantiate env data statics with
      | ok driver statics => exact ih statics
      | error thrown statics => exact iff_of_true nofun trivial

theorem operation_sound_iff (process : Process) (operation : Operation) :
    (∀ construction ∈ operation.constructs process, Sound construction) ↔
      operation.Safe process := by
  cases operation with
  | configure call =>
      obtain ⟨env, query⟩ := call
      cases query with
      | failed thrown => exact iff_of_true nofun trivial
      | table columns rows => exact load_sound_iff plainColumn env _ _
  | resolve asprintf driver sip request =>
      exact iff_of_true (answers_resolve asprintf driver sip request).records trivial
  | parse asprintf driver data =>
      exact iff_of_true (answers_parse asprintf driver data).records trivial

theorem run_sound_iff (process : Process) (operations : List Operation) :
    (∀ construction ∈ constructs process operations, Sound construction) ↔
      SafeRun process operations := by
  induction operations generalizing process with
  | nil => exact iff_of_true nofun trivial
  | cons operation rest ih =>
      rw [constructs, SafeRun, List.forall_mem_append, operation_sound_iff plainColumn, ih]

omit plainColumn in
/-- In a run from the start of the process every error is constructed with a fitting
format, and no text changes when it is wrapped once more, exactly when every load
keeps away from files that cannot be opened and have a percent sign in their path, and
from files whose first refused line has all columns. -/
theorem constructs_sound_iff (plainColumn : 37 ∉ Pqxx.argumentError "parameters")
    (operations : List Operation) :
    (∀ construction ∈ constructs {} operations, Sound construction) ↔ SafeRun {} operations :=
  run_sound_iff plainColumn {} operations

end Runs

/-! A table with one CSV driver. -/

def csvColumns : List String :=
  ["database_type", "o_id", "o_name", "o_csv_file", "o_thinq_token"]

def csvRow (path name : String) : Option Bytes :=
  if name = "database_type" then some (bytesOf "Lnp::DatabaseCsv")
  else if name = "o_csv_file" then some (bytesOf path)
  else some (bytesOf "1")

def csvTable (path : String) : Query := .table csvColumns [csvRow path]

/-- Every file has one line, with an empty number and an empty tag. -/
def shortRow : Environment := { quiet with files := fun _ => some (bytesOf ",,0901234455") }

attribute [local instance] postgres noJson

theorem missingFile_safe :
    SafeLoad quiet (dbResult csvColumns [csvRow "/etc/lnp/numbers.csv"]) {} := by
  have read : getID quiet ⟨csvColumns, csvRow "/etc/lnp/numbers.csv"⟩ {} =
      .ok { driverId := .mhashCsv, dereferenced := some 2 }
        { sConfigType := .separateColumnV1 } := by
    rfl
  constructor
  · rw [SafeInstance, read]
    intro _ cfg path _ named
    have known : mhashCsvFilePath quiet .separateColumnV1
        ⟨csvColumns, csvRow "/etc/lnp/numbers.csv"⟩ cfg.label =
          .ok (bytesOf "/etc/lnp/numbers.csv") := by
      rfl
    rw [known] at named
    cases named
    change 37 ∉ bytesOf "/etc/lnp/numbers.csv"
    decide
  · split <;> trivial

theorem constructs_sound_missing_file :
    (constructs {} [.configure ⟨quiet, csvTable "/etc/lnp/numbers.csv"⟩]).length = 2 ∧
      ∀ construction ∈ constructs {} [.configure ⟨quiet, csvTable "/etc/lnp/numbers.csv"⟩],
        Sound construction :=
  ⟨by decide +kernel,
    (constructs_sound_iff (by decide) _).mpr ⟨missingFile_safe, trivial⟩⟩

theorem percentPath_constructs :
    constructs {} [.configure ⟨quiet, csvTable "/etc/lnp/100%s.csv"⟩] =
      [{ errorClass := .csvClient
         fmt := bytesOf "could not open file: %s"
         args := [.str (bytesOf "/etc/lnp/100%s.csv")] },
       { errorClass := .driverCfg
         fmt := bytesOf "could not open file: /etc/lnp/100%s.csv"
         rewraps := true }] := by
  decide +kernel

theorem shortRow_constructs :
    constructs {} [.configure ⟨shortRow, csvTable "/etc/lnp/numbers.csv"⟩] =
      [{ errorClass := .csvClient
         fmt := bytesOf "required at least %zu valid fields in the line %zu"
         args := [.int 3, .size 1] },
       { errorClass := .driverCfg
         fmt := bytesOf "required at least 3 valid fields in the line 1"
         rewraps := true }] := by
  decide +kernel

/-- The path is taken for a format, which asks for an argument that is not there; and
the other message passes an int for %zu. -/
theorem constructs_not_sound :
    (∃ construction ∈ constructs {} [.configure ⟨quiet, csvTable "/etc/lnp/100%s.csv"⟩],
      construction.rewraps = true ∧ construction.args = [] ∧
        ¬ Conforms construction.fmt construction.args) ∧
    (∃ construction ∈ constructs {} [.configure ⟨shortRow, csvTable "/etc/lnp/numbers.csv"⟩],
      construction.rewraps = false ∧ ¬ Conforms construction.fmt construction.args) ∧
    ¬ ∀ operations, ∀ construction ∈ constructs {} operations, Sound construction := by
  have path : ¬ Conforms (bytesOf "could not open file: /etc/lnp/100%s.csv") [] := by decide
  rw [percentPath_constructs, shortRow_constructs]
  have second : ∀ {first last : Construction}, last ∈ [first, last] :=
    List.mem_cons_of_mem _ List.mem_cons_self
  refine ⟨⟨_, second, rfl, rfl, path⟩, ⟨_, List.mem_cons_self, rfl, by decide⟩, ?_⟩
  intro sound
  have constructed := sound [.configure ⟨quiet, csvTable "/etc/lnp/100%s.csv"⟩]
  rw [percentPath_constructs] at constructed
  exact path (constructed _ second).conforms

end LnpResolver.ErrorRuns
