import Mathlib.Data.List.Find
import LnpResolver.Drivers
import LnpResolver.Throwing

/-!
drivers/modules/CsvClient.cpp: the file of the MHASH/CSV driver is read once, line
by line and field by field, into the hash the driver searches. Both loops are
getline loops, so a line has as many fields as it has pieces between commas,
except that an empty last piece is not a field for the loader.
-/

namespace LnpResolver.CsvClient

open PackedBytes RequestWire JsonItems DriverInterface Drivers TextStreams

abbrev Hash := AList (fun _ : Bytes => SRow)

def newline : UInt8 := 10
def comma : UInt8 := 44

-- ECCsvFields_t: the columns number, tag and routing number
def csvFieldNumber : UInt8 := 0
def csvFieldMaxValue : UInt8 := 3

def unexpectedFormat (field lineCnt : Nat) : Bytes :=
  bytesOf "unexpected format field " ++ decimal field ++ bytesOf " at line " ++ decimal lineCnt

def requiredAtLeast (fieldsNumber : UInt8) (lineCnt : Nat) : Bytes :=
  bytesOf "required at least " ++ decimal fieldsNumber.toNat ++
    bytesOf " valid fields in the line " ++ decimal lineCnt

/-- The loop over the columns of one line: `fieldsLeft` of them from column `idx` on. -/
def readFields (delimiter : UInt8) (lineCnt : Nat) : Nat → Nat → Bytes → Except Bytes (List Bytes)
  | 0, _, _ => .ok []
  | fieldsLeft + 1, idx, lineStream =>
      match getline delimiter lineStream with
      | none => .error (unexpectedFormat (idx + 1) lineCnt)
      | some (csvField, lineStream) => do
          let csvFields ← readFields delimiter lineCnt fieldsLeft (idx + 1) lineStream
          return csvField :: csvFields

def validityCnt (csvFields : List Bytes) : Nat := csvFields.countP fun field => !field.isEmpty

def loadLine (primaryIdx fieldsNumber delimiter : UInt8) (lineCnt : Nat) (line : Bytes)
    (hash : Hash) : Except Bytes Hash :=
  if line.isEmpty then .ok hash
  else do
    let csvFields ← readFields delimiter lineCnt fieldsNumber.toNat 0 line
    let requiredFieldsCnt := fieldsNumber.toNat - 1
    if validityCnt csvFields < requiredFieldsCnt then
      throw (requiredAtLeast fieldsNumber lineCnt)
    else
      let key := csvFields.getD primaryIdx.toNat []
      match hash.lookup key with
      | some _ => return hash
      | none => return hash.insert key ⟨lineCnt, csvFields⟩

def loadLines (primaryIdx fieldsNumber delimiter : UInt8) :
    Nat → List Bytes → Hash → Except Bytes Hash
  | _, [], hash => .ok hash
  | lineCnt, line :: lines, hash => do
      let hash ← loadLine primaryIdx fieldsNumber delimiter (lineCnt + 1) line hash
      loadLines primaryIdx fieldsNumber delimiter (lineCnt + 1) lines hash

/-- `file` is what opening `fileName` gives: the content, or nothing. -/
def loadCsvFile (fileName file : Option Bytes) (primaryIdx fieldsNumber : UInt8)
    (delimiter : UInt8 := comma) : Except Bytes Hash :=
  match fileName with
  | none => .error (bytesOf "not specified the path to CSV file")
  | some path =>
      if fieldsNumber = 0 then .error (bytesOf "invalid value for CSV values in the row")
      else
        match file with
        | none => .error (bytesOf "could not open file: " ++ path)
        | some content =>
            loadLines primaryIdx fieldsNumber delimiter 0 (tokens newline content) ∅

/-! What one line does: a line is loadable when the loop finds all columns and at
most one of them is empty. -/

def Loadable (fieldsNumber : Nat) (delimiter : UInt8) (line : Bytes) : Prop :=
  fieldsNumber ≤ (tokens delimiter line).length ∧
    fieldsNumber - 1 ≤ validityCnt ((tokens delimiter line).take fieldsNumber)

theorem readFields_ok_iff (delimiter : UInt8) (lineCnt fieldsLeft idx : Nat) (lineStream : Bytes)
    (csvFields : List Bytes) :
    readFields delimiter lineCnt fieldsLeft idx lineStream = .ok csvFields ↔
      fieldsLeft ≤ (tokens delimiter lineStream).length ∧
        csvFields = (tokens delimiter lineStream).take fieldsLeft := by
  induction fieldsLeft generalizing idx lineStream csvFields with
  | zero => simp [readFields, eq_comm]
  | succ fieldsLeft ih =>
      cases read : getline delimiter lineStream with
      | none =>
          rw [(getline_none_iff _ _).mp read, tokens_nil]
          simp [readFields, getline]
      | some result =>
          obtain ⟨csvField, rest⟩ := result
          rw [readFields, read, tokens_getline _ _ _ _ read]
          simp only [Throwing.bind_ok_iff, Throwing.pure_ok_iff, ih, List.length_cons,
            List.take_succ_cons, Nat.add_le_add_iff_right]
          constructor
          · rintro ⟨columns, ⟨enough, rfl⟩, rfl⟩
            exact ⟨enough, rfl⟩
          · rintro ⟨enough, rfl⟩
            exact ⟨_, ⟨enough, rfl⟩, rfl⟩

theorem loadLine_empty (primaryIdx fieldsNumber delimiter : UInt8) (lineCnt : Nat) (hash : Hash) :
    loadLine primaryIdx fieldsNumber delimiter lineCnt [] hash = .ok hash := rfl

/-- The row a line contributes, and the key it is stored under. -/
def rowOf (fieldsNumber delimiter : UInt8) (lineCnt : Nat) (line : Bytes) : SRow :=
  ⟨lineCnt, (tokens delimiter line).take fieldsNumber.toNat⟩

def keyOf (primaryIdx fieldsNumber delimiter : UInt8) (line : Bytes) : Bytes :=
  ((tokens delimiter line).take fieldsNumber.toNat).getD primaryIdx.toNat []

theorem loadLine_ok_iff (primaryIdx fieldsNumber delimiter : UInt8) (lineCnt : Nat) (line : Bytes)
    (hash after : Hash) (filled : line ≠ []) :
    loadLine primaryIdx fieldsNumber delimiter lineCnt line hash = .ok after ↔
      Loadable fieldsNumber.toNat delimiter line ∧
        after = match hash.lookup (keyOf primaryIdx fieldsNumber delimiter line) with
          | some _ => hash
          | none => hash.insert (keyOf primaryIdx fieldsNumber delimiter line)
              (rowOf fieldsNumber delimiter lineCnt line) := by
  simp only [loadLine, List.isEmpty_iff, filled, if_false, Throwing.bind_ok_iff,
    readFields_ok_iff]
  constructor
  · rintro ⟨csvFields, ⟨enough, rfl⟩, stored⟩
    split at stored
    · cases stored
    · rename_i valid
      refine ⟨⟨enough, Nat.le_of_not_lt valid⟩, ?_⟩
      simp only [keyOf, rowOf]
      split at stored <;> simp_all [pure, Except.pure]
  · rintro ⟨⟨enough, valid⟩, rfl⟩
    refine ⟨_, ⟨enough, rfl⟩, ?_⟩
    rw [if_neg (Nat.not_lt.mpr valid)]
    simp only [keyOf, rowOf]
    split <;> rfl

/-- The first line stored under a key keeps its row. -/
theorem lookup_loadLine (primaryIdx fieldsNumber delimiter : UInt8) (lineCnt : Nat) (line : Bytes)
    (hash after : Hash) (filled : line ≠ [])
    (loaded : loadLine primaryIdx fieldsNumber delimiter lineCnt line hash = .ok after)
    (number : Bytes) :
    after.lookup number = (hash.lookup number).or
      (if keyOf primaryIdx fieldsNumber delimiter line = number
        then some (rowOf fieldsNumber delimiter lineCnt line) else none) := by
  obtain ⟨-, rfl⟩ := (loadLine_ok_iff _ _ _ _ _ _ _ filled).mp loaded
  by_cases same : keyOf primaryIdx fieldsNumber delimiter line = number
  · subst same
    cases known : hash.lookup (keyOf primaryIdx fieldsNumber delimiter line) with
    | some row => simp [known]
    | none => simp
  · rw [if_neg same, Option.or_none]
    split
    · rfl
    · exact AList.lookup_insert_ne (Ne.symm same)

/-! What a file does, by induction on its lines. -/

theorem loadLines_cons_iff (primaryIdx fieldsNumber delimiter : UInt8) (lineCnt : Nat)
    (line : Bytes) (lines : List Bytes) (hash after : Hash) :
    loadLines primaryIdx fieldsNumber delimiter lineCnt (line :: lines) hash = .ok after ↔
      ∃ middle, loadLine primaryIdx fieldsNumber delimiter (lineCnt + 1) line hash = .ok middle ∧
        loadLines primaryIdx fieldsNumber delimiter (lineCnt + 1) lines middle = .ok after := by
  rw [loadLines, Throwing.bind_ok_iff]

theorem loadLines_succeeds_iff (primaryIdx fieldsNumber delimiter : UInt8) (lineCnt : Nat)
    (lines : List Bytes) (hash : Hash) :
    (∃ after, loadLines primaryIdx fieldsNumber delimiter lineCnt lines hash = .ok after) ↔
      ∀ line ∈ lines, line ≠ [] → Loadable fieldsNumber.toNat delimiter line := by
  induction lines generalizing lineCnt hash with
  | nil => simp [loadLines]
  | cons line lines ih =>
      simp only [loadLines_cons_iff, List.forall_mem_cons]
      constructor
      · rintro ⟨after, middle, first, rest⟩
        refine ⟨fun filled => ?_, (ih _ middle).mp ⟨after, rest⟩⟩
        exact ((loadLine_ok_iff _ _ _ _ _ _ _ filled).mp first).1
      · rintro ⟨first, rest⟩
        by_cases filled : line = []
        · obtain ⟨after, loaded⟩ := (ih (lineCnt + 1) hash).mpr rest
          exact ⟨after, hash, by rw [filled, loadLine_empty], loaded⟩
        · have stored := (loadLine_ok_iff primaryIdx fieldsNumber delimiter (lineCnt + 1) line hash
            _ filled).mpr ⟨first filled, rfl⟩
          obtain ⟨after, loaded⟩ := (ih (lineCnt + 1) _).mpr rest
          exact ⟨after, _, stored, loaded⟩

/-- The lines that are not empty, with their numbers. -/
def numbered (lineCnt : Nat) (lines : List Bytes) : List (Bytes × Nat) :=
  (lines.zipIdx (lineCnt + 1)).filter fun line => !line.1.isEmpty

theorem numbered_cons (lineCnt : Nat) (line : Bytes) (lines : List Bytes) :
    numbered lineCnt (line :: lines) =
      if line = [] then numbered (lineCnt + 1) lines
      else (line, lineCnt + 1) :: numbered (lineCnt + 1) lines := by
  cases line <;> simp [numbered, List.zipIdx_cons]

theorem lookup_loadLines (primaryIdx fieldsNumber delimiter : UInt8) (lineCnt : Nat)
    (lines : List Bytes) (hash after : Hash)
    (loaded : loadLines primaryIdx fieldsNumber delimiter lineCnt lines hash = .ok after)
    (number : Bytes) :
    after.lookup number = (hash.lookup number).or
      (((numbered lineCnt lines).find? fun line =>
          keyOf primaryIdx fieldsNumber delimiter line.1 = number).map fun line =>
        rowOf fieldsNumber delimiter line.2 line.1) := by
  induction lines generalizing lineCnt hash with
  | nil =>
      cases loaded
      simp [numbered]
  | cons line lines ih =>
      obtain ⟨middle, first, rest⟩ := (loadLines_cons_iff _ _ _ _ _ _ _ _).mp loaded
      rw [ih _ _ rest, numbered_cons]
      by_cases filled : line = []
      · rw [filled, loadLine_empty] at first
        cases first
        rw [if_pos filled]
      · rw [lookup_loadLine _ _ _ _ _ _ _ filled first, if_neg filled, List.find?_cons, Option.or_assoc]
        by_cases same : keyOf primaryIdx fieldsNumber delimiter line = number
        · simp [same]
        · simp [same]

/-! The rule the loader states, on the pieces between commas: the three columns
are there and at most one of them is empty. -/

def fieldsOf (line : Bytes) : List Bytes := line.splitOn comma

def linesOf (content : Bytes) : List (Bytes × Nat) := numbered 0 (content.splitOn newline)

def WellFormed (line : Bytes) : Prop :=
  3 ≤ (fieldsOf line).length ∧ 2 ≤ validityCnt ((fieldsOf line).take 3)

instance (line : Bytes) : Decidable (WellFormed line) := inferInstanceAs (Decidable (_ ∧ _))

def EndsInEmptyField (line : Bytes) : Prop := ∃ number tag, fieldsOf line = [number, tag, []]

/-- Success is decided by the rule, and the hash has the first row of each number. -/
structure CsvGrammar (content : Bytes) (outcome : Except Bytes Hash) : Prop where
  accepted : (∃ hash, outcome = .ok hash) ↔ ∀ line ∈ linesOf content, WellFormed line.1
  rows : ∀ hash, outcome = .ok hash → ∀ number, hash.lookup number =
    ((linesOf content).find? fun line => (fieldsOf line.1).head? = some number).map fun line =>
      ⟨line.2, (fieldsOf line.1).take 3⟩

-- getline sees a fourth column behind an empty third one, but not the end of the line
theorem loadable_iff (line : Bytes) :
    Loadable 3 comma line ↔ WellFormed line ∧ ¬ EndsInEmptyField line := by
  simp only [Loadable, WellFormed, EndsInEmptyField, tokens_eq_trimmed, fieldsOf]
  generalize line.splitOn comma = pieces
  rcases trimmed_cases pieces with ⟨same, filled⟩ | more
  · rw [same]
    constructor
    · rintro valid
      refine ⟨valid, ?_⟩
      rintro ⟨number, tag, rfl⟩
      exact filled rfl
    · rintro ⟨valid, -⟩
      exact valid
  · have size : pieces.length = (trimmed pieces).length + 1 := by
      conv_lhs => rw [more, List.length_append, List.length_singleton]
    constructor
    · rintro ⟨enough, valid⟩
      rw [trimmed_take 3 pieces enough] at valid
      refine ⟨⟨by omega, valid⟩, ?_⟩
      rintro ⟨number, tag, rfl⟩
      rw [List.length_cons, List.length_cons, List.length_singleton] at size
      omega
    · rintro ⟨⟨columns, valid⟩, unended⟩
      have enough : 3 ≤ (trimmed pieces).length := by
        by_contra short
        have two : (trimmed pieces).length = 2 := by omega
        obtain ⟨number, tag, fields⟩ := List.length_eq_two.mp two
        exact unended ⟨number, tag, by rw [more, fields]; rfl⟩
      exact ⟨enough, by rwa [trimmed_take 3 pieces enough]⟩

theorem numbered_trimmed (lineCnt : Nat) (lines : List Bytes) :
    numbered lineCnt (trimmed lines) = numbered lineCnt lines := by
  rcases trimmed_cases lines with ⟨same, -⟩ | more
  · rw [same]
  · nth_rewrite 2 [more]
    simp [numbered, List.zipIdx_append]

theorem numbered_tokens (content : Bytes) :
    numbered 0 (tokens newline content) = linesOf content := by
  rw [tokens_eq_trimmed, numbered_trimmed, linesOf]

theorem forall_numbered (lineCnt : Nat) (lines : List Bytes) (P : Bytes → Prop) :
    (∀ line ∈ numbered lineCnt lines, P line.1) ↔ ∀ line ∈ lines, line ≠ [] → P line := by
  induction lines generalizing lineCnt with
  | nil => simp [numbered]
  | cons line lines ih =>
      rw [numbered_cons, List.forall_mem_cons]
      by_cases filled : line = []
      · rw [if_pos filled, ih]
        simp [filled]
      · rw [if_neg filled, List.forall_mem_cons, ih]
        simp [filled]

/-- The loader succeeds exactly when every line is well formed and none ends in an
empty third field. -/
theorem load_succeeds_iff (path content : Bytes) :
    (∃ hash, loadCsvFile (some path) (some content) csvFieldNumber csvFieldMaxValue = .ok hash) ↔
      ∀ line ∈ linesOf content, WellFormed line.1 ∧ ¬ EndsInEmptyField line.1 := by
  have lines := loadLines_succeeds_iff csvFieldNumber csvFieldMaxValue comma 0
    (tokens newline content) ∅
  rw [← forall_numbered 0, numbered_tokens] at lines
  simp only [← loadable_iff]
  exact lines

theorem load_rows (path content : Bytes) (hash : Hash)
    (loaded : loadCsvFile (some path) (some content) csvFieldNumber csvFieldMaxValue = .ok hash)
    (number : Bytes) :
    hash.lookup number =
      ((linesOf content).find? fun line => (fieldsOf line.1).head? = some number).map fun line =>
        ⟨line.2, (fieldsOf line.1).take 3⟩ := by
  have valid := (load_succeeds_iff path content).mp ⟨hash, loaded⟩
  have stored := lookup_loadLines csvFieldNumber csvFieldMaxValue comma 0 _ ∅ hash loaded number
  rw [numbered_tokens, AList.lookup_empty, Option.none_or] at stored
  -- on a loaded line the tokens and the pieces have the same first three members
  have columns : ∀ line ∈ linesOf content,
      (tokens comma line.1).take 3 = (fieldsOf line.1).take 3 := by
    intro line member
    have enough := ((loadable_iff line.1).mpr (valid line member)).1
    rw [tokens_eq_trimmed] at enough ⊢
    exact trimmed_take 3 _ enough
  have keys : ∀ line ∈ linesOf content,
      decide (keyOf csvFieldNumber csvFieldMaxValue comma line.1 = number) =
        decide ((fieldsOf line.1).head? = some number) := by
    intro line member
    have three := (valid line member).1.1
    rw [keyOf, show csvFieldMaxValue.toNat = 3 from rfl, columns line member]
    cases fields : fieldsOf line.1 with
    | nil => rw [fields] at three; cases three
    | cons first rest => simp [csvFieldNumber]
  rw [stored, List.find?_congr keys]
  cases found : (linesOf content).find? fun line => (fieldsOf line.1).head? = some number with
  | none => rfl
  | some line =>
      have member := List.mem_of_find?_eq_some found
      simp only [Option.map_some, rowOf, show csvFieldMaxValue.toNat = 3 from rfl,
        columns line member]

theorem csv_grammar_iff (path content : Bytes) :
    CsvGrammar content
        (loadCsvFile (some path) (some content) csvFieldNumber csvFieldMaxValue) ↔
      (∃ line ∈ linesOf content, ¬ WellFormed line.1) ∨
        ∀ line ∈ linesOf content, ¬ EndsInEmptyField line.1 := by
  constructor
  · rintro ⟨accepted, -⟩
    rw [load_succeeds_iff] at accepted
    by_cases formed : ∀ line ∈ linesOf content, WellFormed line.1
    · right
      intro line member
      exact (accepted.mpr formed line member).2
    · left
      simpa using formed
  · intro condition
    refine ⟨?_, load_rows path content⟩
    rw [load_succeeds_iff]
    constructor
    · intro valid line member
      exact (valid line member).1
    · intro formed line member
      rcases condition with ⟨other, present, malformed⟩ | unended
      · exact absurd (formed other present) malformed
      · exact ⟨formed line member, unended line member⟩

/-- One row with its routing number left empty. -/
theorem csv_grammar_fails_at_empty_routing_number :
    ¬ CsvGrammar (bytesOf "123,tag,\n")
      (loadCsvFile (some (bytesOf "/lnp.csv")) (some (bytesOf "123,tag,\n"))
        csvFieldNumber csvFieldMaxValue) := by
  rintro ⟨accepted, -⟩
  obtain ⟨hash, loaded⟩ := accepted.mpr (by decide)
  have throws : loadCsvFile (some (bytesOf "/lnp.csv")) (some (bytesOf "123,tag,\n"))
      csvFieldNumber csvFieldMaxValue = .error (unexpectedFormat 3 1) := by
    rfl
  rw [throws] at loaded
  cases loaded

/-! The lookup beside a scan of the file: the first line with the number in its first
field answers with its third and second one. -/

def scan (content number : Bytes) : Option (Bytes × Bytes) :=
  ((linesOf content).find? fun line => (fieldsOf line.1).head? = some number).map fun line =>
    ((fieldsOf line.1).getD 2 [], (fieldsOf line.1).getD 1 [])

/-- A number without a line is its own routing number. -/
def scanAnswer (content number : Bytes) : Bytes × Bytes := (scan content number).getD (number, [])

def Answers (resolution : Resolution) (answer : Bytes × Bytes) : Prop :=
  ∃ result, resolution = .done result ∧
    (result.localRoutingNumber, result.localRoutingTag) = answer

-- the hash is asked for a C string
theorem perform_eq_scan (path content : Bytes) (driver : CMhashCsvDriver)
    (loaded : loadCsvFile (some path) (some content) csvFieldNumber csvFieldMaxValue =
      .ok driver.hash) (number : Bytes) :
    (driver.perform number).map (fun row => (row.field.getD 2 [], row.field.getD 1 [])) =
      scan content (cString number) := by
  rw [CMhashCsvDriver.perform, load_rows path content _ loaded, Option.map_map, scan]
  congr 1
  funext line
  simp [List.getD_eq_getElem?_getD, List.getElem?_take_of_lt]

theorem resolve_answers_iff (path content : Bytes) (driver : CMhashCsvDriver)
    (loaded : loadCsvFile (some path) (some content) csvFieldNumber csvFieldMaxValue =
      .ok driver.hash) (request : ResolverRequest) (fresh : request.result.localRoutingTag = [])
    (answer : Bytes × Bytes) :
    Answers (driver.resolve request) answer ↔
      (scan content (cString request.data)).getD (request.data, []) = answer := by
  rw [← perform_eq_scan path content driver loaded, CMhashCsvDriver.resolve]
  cases found : driver.perform request.data with
  | none => simp [Answers, fresh]
  | some row => simp [Answers]

theorem lookup_scans_iff (path content : Bytes) (driver : CMhashCsvDriver)
    (loaded : loadCsvFile (some path) (some content) csvFieldNumber csvFieldMaxValue =
      .ok driver.hash) (recv : Transport.RecvData) (serial : Nat) (request : ResolverRequest)
    (parsed : RequestWire.parse recv { serial := serial } = .ok () request) :
    Answers (driver.resolve request) (scanAnswer content request.data) ↔
      0 ∉ request.data ∨ (scan content (cString request.data)).getD (request.data, []) =
        scanAnswer content request.data := by
  have fresh : request.result.localRoutingTag = [] := by
    rw [parse_accepted recv _ request parsed]
    rfl
  rw [resolve_answers_iff path content driver loaded request fresh]
  constructor
  · intro same
    exact Or.inr same
  · rintro (noNul | same)
    · rw [cString_eq_self noNul, scanAnswer]
    · exact same

/-- The file and the datagram of the two runs below. -/
def sampleFile : Bytes := bytesOf "123,tag,999\n"

def sampleRequest (number : Bytes) : Transport.RecvData :=
  encoded 5 default 7 1 .tagged number

theorem sample_loads (path : Bytes) : ∃ driver : CMhashCsvDriver,
    loadCsvFile (some path) (some sampleFile) csvFieldNumber csvFieldMaxValue =
      .ok driver.hash :=
  ⟨⟨1, _⟩, rfl⟩

theorem lookup_scans_listed_number : ∃ (driver : CMhashCsvDriver) (request : ResolverRequest),
    loadCsvFile (some (bytesOf "/lnp.csv")) (some sampleFile) csvFieldNumber csvFieldMaxValue =
      .ok driver.hash ∧
    RequestWire.parse (sampleRequest (bytesOf "123")) {} = .ok () request ∧
    Answers (driver.resolve request) (bytesOf "999", bytesOf "tag") := by
  obtain ⟨driver, loaded⟩ := sample_loads (bytesOf "/lnp.csv")
  have parsed := parse_encode 5 default 7 1 .tagged (bytesOf "123")
    ⟨by decide, by decide⟩ {}
  refine ⟨driver, _, loaded, parsed, ?_⟩
  exact (lookup_scans_iff _ _ driver loaded _ 0 _ parsed).mpr (Or.inl (by decide))

/-- A number with a NUL byte behind 123 is answered as if it were 123. -/
theorem number_with_nul_answered_by_its_front :
    ∃ (driver : CMhashCsvDriver) (request : ResolverRequest),
      loadCsvFile (some (bytesOf "/lnp.csv")) (some sampleFile) csvFieldNumber csvFieldMaxValue =
        .ok driver.hash ∧
      RequestWire.parse (sampleRequest (bytesOf "123" ++ [0, 52])) {} = .ok () request ∧
      Answers (driver.resolve request) (bytesOf "999", bytesOf "tag") ∧
      ¬ Answers (driver.resolve request) (scanAnswer sampleFile request.data) := by
  obtain ⟨driver, loaded⟩ := sample_loads (bytesOf "/lnp.csv")
  have parsed := parse_encode 5 default 7 1 .tagged (bytesOf "123" ++ [0, 52])
    ⟨by decide, by decide⟩ {}
  refine ⟨driver, _, loaded, parsed, ?_, ?_⟩
  · exact (resolve_answers_iff _ _ driver loaded _ rfl _).mpr (by decide)
  · intro answers
    exact absurd ((resolve_answers_iff _ _ driver loaded _ rfl _).mp answers) (by decide)

end LnpResolver.CsvClient
