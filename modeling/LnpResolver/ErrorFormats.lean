import LnpResolver.DriverErrors

/-!
Error texts as formats. Every construction of an error in a run of loading and
resolving passes a format with the right arguments, and no text changes when it is
wrapped once more, as long as a load keeps away from two places: a CSV file that
cannot be opened and has a percent sign in its path, and a CSV line with all its
columns but too few of them filled, whose message passes an int for %zu.
-/

namespace LnpResolver.ErrorFormats

open PackedBytes RequestWire JsonItems DriverInterface Drivers TextStreams PrintfFormats Tracing
open Throwing CsvClient DriverConfig DriverLoading ErrorConstructions ExceptionTexts DriverErrors

/-- The conversions of the format match the arguments in number and width, and the
text of a caught exception comes out unchanged, whatever asprintf leaves elsewhere. -/
structure Sound (construction : Construction) : Prop where
  conforms : Conforms construction.fmt construction.args
  unchanged : construction.rewraps = true →
    ∀ asprintf, construction.what asprintf = construction.fmt

theorem sound_plain (errorClass : ErrorClass) {fmt : Bytes} (rewraps : Bool)
    (plain : 37 ∉ fmt) : Sound { errorClass, fmt, rewraps } :=
  ⟨conforms_plain plain, fun _ asprintf => what_plain asprintf plain⟩

theorem sound_rewrapped_iff (errorClass : ErrorClass) (what : Bytes) :
    Sound { errorClass, fmt := what, rewraps := true } ↔ 37 ∉ what := by
  constructor
  · intro sound
    apply (render_self_iff what).mp
    -- an asprintf that leaves something else shows that the text is determined
    have same := sound.unchanged rfl fun _ => 0 :: what
    rw [Construction.what] at same
    cases printed : render what [] with
    | some text =>
        rw [printed] at same
        exact congrArg some same
    | none =>
        rw [printed] at same
        exact absurd same (List.cons_ne_self 0 what)
  · exact sound_plain errorClass true

theorem sound_formatted (errorClass : ErrorClass) {fmt : Bytes} {args : List Arg}
    (conforms : Conforms fmt args) : Sound { errorClass, fmt, args } :=
  ⟨conforms, nofun⟩

/-! The CSV file. -/

/-- A line that is read and refused. -/
def Bad (fieldsNumber : Nat) (delimiter : UInt8) (line : Bytes) : Prop :=
  line ≠ [] ∧ ¬ Loadable fieldsNumber delimiter line

instance (fieldsNumber : Nat) (delimiter : UInt8) (line : Bytes) :
    Decidable (Bad fieldsNumber delimiter line) :=
  inferInstanceAs (Decidable (_ ∧ ¬ (_ ∧ _)))

/-- The first line that is refused lacks a column. -/
def FirstBadIsShort (fieldsNumber : Nat) (delimiter : UInt8) (lines : List Bytes) : Prop :=
  ∀ line, lines.find? (Bad fieldsNumber delimiter) = some line →
    (tokens delimiter line).length < fieldsNumber

section Csv

variable (asprintf : Bytes → Bytes)

theorem records_csvError_iff {α : Type} (fmt : String) (args : List Arg) :
    Records Sound (csvError asprintf fmt args : Traced Construction Bytes α) ↔
      Conforms (bytesOf fmt) args := by
  rw [csvError, throwFormatted, throwConstructed, records_throwing_iff]
  exact ⟨Sound.conforms, sound_formatted .csvClient⟩

theorem records_readFields (delimiter : UInt8) (lineCnt fieldsLeft idx : Nat) (lineStream : Bytes) :
    Records Sound (readFieldsTraced asprintf delimiter lineCnt fieldsLeft idx lineStream) := by
  induction fieldsLeft generalizing idx lineStream with
  | zero => exact records_pure _
  | succ fieldsLeft ih =>
      rw [readFieldsTraced]
      split
      · rw [records_csvError_iff, unexpectedFormat_pieces, conforms_text (by decide),
          conforms_spec, conforms_text (by decide), conforms_spec, conforms_nil]
        exact ⟨rfl, rfl, rfl⟩
      · rw [records_bind_iff]
        exact ⟨ih _ _, fun _ _ => records_pure _⟩

/-- The number of columns is an int where the format has %zu. -/
theorem requiredAtLeast_not_conforms (fieldsNumber : UInt8) (lineCnt : Nat) :
    ¬ Conforms (bytesOf "required at least %zu valid fields in the line %zu")
      [.int fieldsNumber.toNat, .size lineCnt] := by
  rw [requiredAtLeast_pieces, conforms_text (by decide), conforms_spec]
  rintro ⟨width, -⟩
  cases width

theorem records_loadLine_iff (primaryIdx fieldsNumber delimiter : UInt8) (lineCnt : Nat)
    (line : Bytes) (hash : Hash) :
    Records Sound (loadLineTraced asprintf primaryIdx fieldsNumber delimiter lineCnt line hash) ↔
      (Bad fieldsNumber.toNat delimiter line →
        (tokens delimiter line).length < fieldsNumber.toNat) := by
  rw [loadLineTraced]
  split
  · rename_i empty
    refine iff_of_true (records_pure _) fun bad => ?_
    exact absurd (List.isEmpty_iff.mp empty) bad.1
  · rename_i filled
    rw [records_bind_iff, readFieldsTraced_outcome]
    constructor
    · rintro ⟨-, later⟩ ⟨-, refused⟩
      apply Nat.lt_of_not_le
      intro enough
      have read := (readFields_ok_iff delimiter lineCnt fieldsNumber.toNat 0 line _).mpr
        ⟨enough, rfl⟩
      have few : validityCnt ((tokens delimiter line).take fieldsNumber.toNat) <
          fieldsNumber.toNat - 1 := Nat.lt_of_not_le fun valid => refused ⟨enough, valid⟩
      have recorded := later _ read
      rw [if_pos few, records_csvError_iff] at recorded
      exact requiredAtLeast_not_conforms _ _ recorded
    · intro short
      refine ⟨records_readFields asprintf _ _ _ _ _, ?_⟩
      intro csvFields read
      obtain ⟨enough, rfl⟩ := (readFields_ok_iff _ _ _ _ _ _).mp read
      have valid : ¬ validityCnt ((tokens delimiter line).take fieldsNumber.toNat) <
          fieldsNumber.toNat - 1 := by
        intro few
        have nonempty : line ≠ [] := fun none => filled (List.isEmpty_iff.mpr none)
        have lacks := short ⟨nonempty, fun loadable => Nat.not_le.mpr few loadable.2⟩
        exact Nat.not_le.mpr lacks enough
      rw [if_neg valid]
      dsimp only
      split <;> exact records_pure _

/-- A line that is not refused leaves a hash to the next one. -/
theorem loadLine_of_not_bad (primaryIdx fieldsNumber delimiter : UInt8) (lineCnt : Nat)
    (line : Bytes) (hash : Hash) (good : ¬ Bad fieldsNumber.toNat delimiter line) :
    ∃ after, loadLine primaryIdx fieldsNumber delimiter lineCnt line hash = .ok after := by
  by_cases filled : line = []
  · exact ⟨hash, by rw [filled, loadLine_empty]⟩
  · have loadable : Loadable fieldsNumber.toNat delimiter line :=
      by_contra fun refused => good ⟨filled, refused⟩
    exact ⟨_, (loadLine_ok_iff _ _ _ _ _ _ _ filled).mpr ⟨loadable, rfl⟩⟩

theorem loadLine_not_bad (primaryIdx fieldsNumber delimiter : UInt8) (lineCnt : Nat)
    (line : Bytes) (hash after : Hash)
    (loaded : loadLine primaryIdx fieldsNumber delimiter lineCnt line hash = .ok after) :
    ¬ Bad fieldsNumber.toNat delimiter line :=
  fun bad => bad.2 ((loadLine_ok_iff _ _ _ _ _ _ _ bad.1).mp loaded).1

theorem records_loadLines_iff (primaryIdx fieldsNumber delimiter : UInt8) (lineCnt : Nat)
    (lines : List Bytes) (hash : Hash) :
    Records Sound
        (loadLinesTraced asprintf primaryIdx fieldsNumber delimiter lineCnt lines hash) ↔
      FirstBadIsShort fieldsNumber.toNat delimiter lines := by
  induction lines generalizing lineCnt hash with
  | nil => exact iff_of_true (records_pure _) nofun
  | cons line lines ih =>
      rw [loadLinesTraced, records_bind_iff, records_loadLine_iff, loadLineTraced_outcome]
      by_cases bad : Bad fieldsNumber.toNat delimiter line
      · have first : (line :: lines).find? (Bad fieldsNumber.toNat delimiter) = some line := by
          simp [bad]
        constructor
        · rintro ⟨short, -⟩ other found
          rw [first] at found
          cases found
          exact short bad
        · intro short
          refine ⟨fun _ => short line first, ?_⟩
          intro after loaded
          exact absurd bad (loadLine_not_bad _ _ _ _ _ _ _ loaded)
      · have skipped : (line :: lines).find? (Bad fieldsNumber.toNat delimiter) =
            lines.find? (Bad fieldsNumber.toNat delimiter) := by
          simp [bad]
        rw [FirstBadIsShort, skipped]
        constructor
        · rintro ⟨-, later⟩
          obtain ⟨after, loaded⟩ := loadLine_of_not_bad primaryIdx fieldsNumber delimiter
            (lineCnt + 1) line hash bad
          exact (ih _ after).mp (later after loaded)
        · intro short
          exact ⟨fun refused => absurd refused bad, fun after _ => (ih _ after).mpr short⟩

end Csv

/-- The file of a CSV driver, if it can be opened. -/
def SafeFile (path : Bytes) : Option Bytes → Prop
  | none => 37 ∉ path
  | some content => FirstBadIsShort csvFieldMaxValue.toNat comma (tokens newline content)

section Configuration

variable (env : Environment)

theorem records_rethrowing_iff {α : Type} (label : Bytes) (block : Traced Construction Bytes α) :
    Records Sound (rethrowingTraced env label block) ↔
      Records Sound block ∧ Plainly block.outcome := by
  rw [rethrowingTraced, records_catching_iff]
  simp only [throwRewrapped, throwConstructed, records_throwing_iff, sound_rewrapped_iff, Throws]

/-- The file is loaded, or its error is wrapped once more. -/
theorem records_loadCsvFile_iff (label path : Bytes) (file : Option Bytes) :
    Records Sound (rethrowingTraced env label
        (loadCsvFileTraced env.asprintf (some path) file csvFieldNumber csvFieldMaxValue)) ↔
      SafeFile path file := by
  rw [records_rethrowing_iff, loadCsvFileTraced_outcome]
  have fields : csvFieldMaxValue ≠ 0 := by decide
  cases file with
  | none =>
      have opened : Conforms (bytesOf "could not open file: %s") [.str path] := by
        rw [couldNotOpen_pieces, conforms_text (by decide), conforms_spec, conforms_nil]
        exact ⟨rfl, rfl⟩
      have front : 37 ∉ bytesOf "could not open file: " := by decide
      simp only [loadCsvFileTraced, loadCsvFile, fields, if_false, records_csvError_iff, opened,
        true_and, SafeFile]
      constructor
      · intro plain marked
        exact plain _ rfl (List.mem_append_right _ marked)
      · intro plain
        apply throws_error
        rw [List.mem_append, not_or]
        exact ⟨front, plain⟩
  | some content =>
      simp only [loadCsvFileTraced, loadCsvFile, fields, if_false, records_loadLines_iff, SafeFile]
      exact and_iff_left (loadLines_plainly _ _ _ _ _ _)

/-! The configurations. The blocks under a catch clause throw plain texts only. -/

theorem keeps_cfgError {ε α : Type} {throws : ε → Prop} {thrown : Bytes → ε} {fmt : String}
    (plain : 37 ∉ bytesOf fmt) (safe : throws (thrown (bytesOf fmt))) :
    Keeps Sound throws (cfgError env thrown fmt : Traced Construction ε α) := by
  rw [cfgError, throwFormatted, throwConstructed, what_plain _ plain]
  exact keeps_throwing (sound_plain .driverCfg false plain) safe

theorem keeps_filled {ε : Type} {throws : ε → Prop} {thrown : Bytes → ε} {fmt : String}
    (plain : 37 ∉ bytesOf fmt) (safe : throws (thrown (bytesOf fmt))) (value : Bytes) :
    Keeps Sound throws (filledTraced (cfgError env thrown fmt) value) := by
  unfold filledTraced
  split
  · exact keeps_cfgError env plain safe
  · exact keeps_pure value

/-- A value is read and refused when it is empty, whatever is done with it. -/
theorem keeps_read {ε α : Type} {throws : ε → Prop} {thrown : Bytes → ε} {fmt : String}
    {action : Except ε Bytes} {next : Bytes → Traced Construction ε α}
    (reads : Throws throws action) (plain : 37 ∉ bytesOf fmt)
    (safe : throws (thrown (bytesOf fmt))) (rest : ∀ value, Keeps Sound throws (next value)) :
    Keeps Sound throws (do next (← filledTraced (cfgError env thrown fmt) (← attempt action))) :=
  keeps_bind (keeps_attempt reads) fun value => keeps_bind (keeps_filled env plain safe value) rest

theorem keeps_member {α : Type} {fmt key : String} {next : Bytes → Traced Construction Bytes α}
    (jData : Json) (known : 37 ∉ bytesOf key) (plain : 37 ∉ bytesOf fmt)
    (rest : ∀ value, Keeps Sound (37 ∉ ·) (next value)) :
    Keeps Sound (37 ∉ ·)
      (do next (← filledTraced (cfgError env id fmt) (← attempt (memberText key jData)))) :=
  keeps_read env (memberText_plainly jData known) plain plain rest

theorem records_rethrowing {α : Type} (label : Bytes) {block : Traced Construction Bytes α}
    (keeps : Keeps Sound (37 ∉ ·) block) : Records Sound (rethrowingTraced env label block) :=
  (records_rethrowing_iff env label block).mpr ⟨keeps.records, keeps.exceptions⟩

/-- Outside of a try block any exception may be thrown. -/
abbrev Constructs {α : Type} (block : Traced Construction Thrown α) : Prop :=
  Keeps Sound (fun _ => True) block

theorem constructs_attempt {α : Type} (action : Except Thrown α) : Constructs (attempt action) :=
  keeps_attempt fun _ _ => trivial

theorem constructs_rethrowing {α : Type} (label : Bytes) {block : Traced Construction Bytes α}
    (keeps : Keeps Sound (37 ∉ ·) block) : Constructs (rethrowingTraced env label block) :=
  ⟨records_rethrowing env label keeps, fun _ _ => trivial⟩

variable [Pqxx] [CJson] (plainColumn : 37 ∉ Pqxx.argumentError "parameters")
  (sConfigType : ECfgFormat) (data : RawConfig)

omit [CJson] in
theorem constructs_driverCfg : Constructs (driverCfgTraced env sConfigType data) := by
  apply keeps_bind (constructs_attempt _)
  intro uniqId
  split
  · exact keeps_cfgError env (by decide) trivial
  · apply keeps_bind (constructs_attempt _)
    intro label
    split
    · exact keeps_cfgError env (by decide) trivial
    · exact keeps_pure _

include plainColumn

/-- The parameters are read and parsed, whatever is done with the document. -/
theorem keeps_jData {α : Type} {next : Json → Traced Construction Bytes α}
    (rest : ∀ jData, Keeps Sound (37 ∉ ·) (next jData)) :
    Keeps Sound (37 ∉ ·) (do next (← attempt (jsonxx (← attempt (parameters data))))) :=
  keeps_bind (keeps_attempt (parameters_plainly plainColumn data)) fun text =>
    keeps_bind (keeps_attempt (jsonxx_plainly text)) rest

theorem constructs_sip : Constructs (sipDriverCfgTraced env sConfigType data) := by
  apply keeps_bind (constructs_driverCfg env sConfigType data)
  rintro ⟨uniqId, label⟩
  dsimp only
  split
  · apply constructs_rethrowing
    exact keeps_jData plainColumn data fun jData =>
      keeps_member env jData (by decide) (by decide) fun host =>
      keeps_bind (keeps_attempt (getJsonPort_plainly jData)) fun port =>
      keeps_bind (keeps_attempt (getJsonTimeout_plainly jData)) fun timeout => keeps_pure _
  · exact keeps_read env (fun _ _ => trivial) (by decide) trivial fun host =>
      keeps_bind (constructs_attempt _) fun port =>
      keeps_bind (constructs_attempt _) fun timeout => keeps_pure _

theorem constructs_thinq : Constructs (thinqDriverCfgTraced env sConfigType data) := by
  apply keeps_bind (constructs_driverCfg env sConfigType data)
  rintro ⟨uniqId, label⟩
  dsimp only
  split
  · apply constructs_rethrowing
    exact keeps_jData plainColumn data fun jData =>
      keeps_member env jData (by decide) (by decide) fun host =>
      keeps_member env jData (by decide) (by decide) fun userName =>
      keeps_member env jData (by decide) (by decide) fun token =>
      keeps_bind (keeps_attempt (getJsonPort_plainly jData)) fun port =>
      keeps_bind (keeps_attempt (getJsonTimeout_plainly jData)) fun timeout => keeps_pure _
  · exact keeps_read env (fun _ _ => trivial) (by decide) trivial fun host =>
      keeps_read env (fun _ _ => trivial) (by decide) trivial fun userName =>
      keeps_read env (fun _ _ => trivial) (by decide) trivial fun token =>
      keeps_bind (constructs_attempt _) fun port =>
      keeps_bind (constructs_attempt _) fun timeout => keeps_pure _

theorem constructs_alcazar : Constructs (alcazarDriverCfgTraced env sConfigType data) := by
  apply keeps_bind (constructs_driverCfg env sConfigType data)
  rintro ⟨uniqId, label⟩
  dsimp only
  split
  · apply constructs_rethrowing
    exact keeps_jData plainColumn data fun jData =>
      keeps_member env jData (by decide) (by decide) fun host =>
      keeps_member env jData (by decide) (by decide) fun key =>
      keeps_bind (keeps_attempt (getJsonPort_plainly jData)) fun port =>
      keeps_bind (keeps_attempt (getJsonTimeout_plainly jData)) fun timeout => keeps_pure _
  · exact keeps_read env (fun _ _ => trivial) (by decide) trivial fun host =>
      keeps_read env (fun _ _ => trivial) (by decide) trivial fun key =>
      keeps_bind (constructs_attempt _) fun port =>
      keeps_bind (constructs_attempt _) fun timeout => keeps_pure _

theorem constructs_bulkvs : Constructs (bulkvsDriverCfgTraced env sConfigType data) := by
  apply keeps_bind (constructs_driverCfg env sConfigType data)
  rintro ⟨uniqId, label⟩
  dsimp only
  split
  · apply constructs_rethrowing
    exact keeps_jData plainColumn data fun jData =>
      keeps_member env jData (by decide) (by decide) fun url =>
      keeps_member env jData (by decide) (by decide) fun token =>
      keeps_bind (keeps_attempt (getJsonTimeout_plainly jData)) fun timeout =>
      keeps_bind (keeps_attempt (getJsonValidateHttpsCer_plainly jData)) fun _ => keeps_pure _
  · exact keeps_pure _

theorem constructs_filePath (label : Bytes) :
    Constructs (mhashCsvFilePathTraced env sConfigType data label) := by
  unfold mhashCsvFilePathTraced
  split
  · apply constructs_rethrowing
    exact keeps_jData plainColumn data fun jData =>
      keeps_bind (keeps_attempt (memberText_plainly jData (by decide))) fun value =>
      keeps_filled env (by decide) (by decide) value
  · exact keeps_bind (constructs_attempt _) fun value =>
      keeps_filled env (by decide) trivial value

omit plainColumn [Pqxx] [CJson] in
/-- The message about a member that is not a number is well formed, and dropped. -/
theorem skipIt_conforms (type : Int) (key : Bytes) :
    Conforms (bytesOf "unexpected operators_map value type %d by key '%s'. skip it")
      [.int type, .str key] := by
  have pieces : bytesOf "unexpected operators_map value type %d by key '%s'. skip it" =
      bytesOf "unexpected operators_map value type " ++ (Kind.int.spec ++ (bytesOf " by key '" ++
        (Kind.str.spec ++ (bytesOf "'. skip it" ++ [])))) := by
    decide
  rw [pieces, conforms_text (by decide), conforms_spec, conforms_text (by decide), conforms_spec,
    conforms_text (by decide), conforms_nil]
  exact ⟨rfl, rfl, rfl⟩

omit plainColumn [Pqxx] [CJson] in
theorem keeps_parseOperators (members : List (Bytes × Json)) (operators : OperatorsMap)
    (hasDefault : Bool) :
    Keeps Sound (37 ∉ ·) (parseOperatorsTraced members operators hasDefault) := by
  fun_induction parseOperatorsTraced members operators hasDefault with
  | case1 operators => exact keeps_pure _
  | case2 operators hasDefault missing => exact keeps_attempt (throws_error (by decide))
  | case3 valueint valuedouble members operators => exact keeps_attempt (throws_error (by decide))
  | case4 valueint valuedouble members operators hasDefault first ih => exact ih
  | case5 name valueint valuedouble members operators hasDefault other entries ih => exact ih
  | case6 name item members operators hasDefault other =>
      exact keeps_bind (keeps_record (sound_formatted .driverCfg (skipIt_conforms _ _)))
        fun _ => keeps_attempt (throws_error (by decide))

omit plainColumn [Pqxx] [CJson] in
theorem keeps_operatorsMap (item : Json) : Keeps Sound (37 ∉ ·) (operatorsMapTraced item) := by
  unfold operatorsMapTraced
  split
  · exact keeps_parseOperators _ _ _
  · exact keeps_attempt (throws_error (by decide))

omit plainColumn [Pqxx] in
theorem keeps_getOperatorsMap (j : Json) :
    Keeps Sound (37 ∉ ·) (getOperatorsMapTraced env j) := by
  unfold getOperatorsMapTraced
  split
  · exact keeps_cfgError env (by decide) (by decide)
  · apply keeps_bind (keeps_attempt (getJsonString_plainly _))
    intro text
    split
    · exact keeps_cfgError env (by decide) (by decide)
    · exact keeps_operatorsMap _
  · exact keeps_operatorsMap _
  · exact keeps_cfgError env (by decide) (by decide)

theorem keeps_parsedParameters : Keeps Sound (37 ∉ ·) (parsedParametersTraced env data) := by
  apply keeps_bind (keeps_attempt (parameters_plainly plainColumn data))
  intro text
  split
  · exact keeps_cfgError env (by decide) (by decide)
  · exact keeps_pure _

theorem constructs_coureAnq : Constructs (coureAnqDriverCfgTraced env sConfigType data) := by
  apply keeps_bind (constructs_driverCfg env sConfigType data)
  rintro ⟨uniqId, label⟩
  dsimp only
  split
  · exact keeps_cfgError env (by decide) trivial
  · have text : ∀ j key, Plainly (getJsonValueByKey getJsonString j key) :=
      getJsonValueByKey_plainly getJsonString_plainly
    apply constructs_rethrowing
    exact keeps_bind (keeps_parsedParameters env plainColumn data) fun j =>
      keeps_bind (keeps_attempt (text j _)) fun baseUrl =>
      keeps_bind (keeps_attempt (text j _)) fun username =>
      keeps_bind (keeps_attempt (text j _)) fun password =>
      keeps_bind (keeps_attempt (text j _)) fun countryCode =>
      keeps_bind (keeps_attempt (getJsonValueByKey_plainly getJsonInt_plainly j _)) fun timeout =>
      keeps_bind (keeps_getOperatorsMap env j) fun operatorsMap => keeps_pure _

theorem constructs_cnam : Constructs (cnamDriverCfgTraced env sConfigType data) := by
  apply keeps_bind (constructs_driverCfg env sConfigType data)
  rintro ⟨uniqId, label⟩
  dsimp only
  split
  · exact keeps_cfgError env (by decide) trivial
  · apply constructs_rethrowing
    exact keeps_bind (keeps_parsedParameters env plainColumn data) fun j =>
      keeps_bind (keeps_attempt (getJsonValueByKey_plainly getJsonInt_plainly j _)) fun timeout =>
      keeps_bind (keeps_attempt (getJsonValueByKey_plainly getJsonString_plainly j _)) fun url =>
      keeps_bind (keeps_attempt (parseUrlTemplate_plainly _ _ url)) fun uriParts => keeps_pure _

omit plainColumn [Pqxx] [CJson] in
theorem rethrowingTraced_ok_iff {α : Type} (label : Bytes) (block : Traced Construction Bytes α)
    (value : α) :
    (rethrowingTraced env label block).outcome = .ok value ↔ block.outcome = .ok value := by
  rw [rethrowingTraced, outcome_catching]
  cases block.outcome with
  | ok result => simp
  | error what => constructor <;> intro returned <;> cases returned

omit plainColumn in
theorem filePath_ok_iff (label path : Bytes) :
    (mhashCsvFilePathTraced env sConfigType data label).outcome = .ok path ↔
      mhashCsvFilePath env sConfigType data label = .ok path := by
  rw [mhashCsvFilePathTraced, mhashCsvFilePath]
  split
  · rw [rethrowingTraced_ok_iff, rethrowing_ok_iff]
    simp (disch := decide) only [outcome_bind, liftM_eq_attempt, outcome_attempt,
      filledTraced_outcome]
    rfl
  · simp (disch := decide) only [outcome_bind, liftM_eq_attempt, outcome_attempt,
      filledTraced_outcome]
    rfl

/-- The row names a file whose loading constructs sound errors only. -/
def SafeRow : Prop :=
  ∀ cfg path, driverCfg sConfigType data = .ok cfg →
    mhashCsvFilePath env sConfigType data cfg.label = .ok path → SafeFile path (env.files path)

theorem records_mhashCsv_iff :
    Records Sound (mhashCsvDriverTraced env sConfigType data) ↔
      SafeRow env sConfigType data := by
  rw [mhashCsvDriverTraced, records_bind_iff, driverCfgTraced_outcome]
  have first := (constructs_driverCfg env sConfigType data).records
  constructor
  · rintro ⟨-, later⟩ cfg path configured named
    have read := (filePath_ok_iff env sConfigType data cfg.label path).mpr named
    have loaded := ((records_bind_iff _ _).mp (later cfg configured)).2 path read
    exact (records_loadCsvFile_iff env cfg.label path _).mp ((records_bind_iff _ _).mp loaded).1
  · intro safe
    refine ⟨first, fun cfg configured => ?_⟩
    rw [records_bind_iff]
    refine ⟨(constructs_filePath env plainColumn sConfigType data cfg.label).records, ?_⟩
    intro path read
    have named := (filePath_ok_iff env sConfigType data cfg.label path).mp read
    rw [records_bind_iff]
    exact ⟨(records_loadCsvFile_iff env cfg.label path _).mpr (safe cfg path configured named),
      fun _ _ => records_pure _⟩

/-- Drivers of the other types construct sound errors for every row. -/
theorem records_newDriver_iff (driverId : ECDriverId) :
    Records Sound (newDriverTraced env sConfigType data driverId) ↔
      (driverId = .mhashCsv → SafeRow env sConfigType data) := by
  have sound : ∀ {α : Type} {block : Traced Construction Thrown α} (wrap : α → Driver),
      Constructs block → Records Sound (block >>= fun driver => pure (some (wrap driver))) :=
    fun wrap constructs => (keeps_bind constructs fun _ => keeps_pure _).records
  by_cases csv : driverId = .mhashCsv
  · subst csv
    rw [newDriverTraced, records_bind_iff, records_mhashCsv_iff env plainColumn]
    exact ⟨fun both _ => both.1, fun safe => ⟨safe rfl, fun _ _ => records_pure _⟩⟩
  · refine iff_of_true ?_ fun same => absurd same csv
    cases driverId with
    | mhashCsv => exact absurd rfl csv
    | null => exact records_pure _
    | sip => exact sound .sip (constructs_sip env plainColumn _ data)
    | httpThinq => exact sound .thinq (constructs_thinq env plainColumn _ data)
    | httpAlcazar => exact sound .alcazar (constructs_alcazar env plainColumn _ data)
    | httpCoureanq => exact sound .coureAnq (constructs_coureAnq env plainColumn _ data)
    | cnamHttp => exact sound .cnam (constructs_cnam env plainColumn _ data)
    | httpBulkvs => exact sound .bulkvs (constructs_bulkvs env plainColumn _ data)

end Configuration

/-! The drivers. -/

section Resolving

variable (asprintf : Bytes → Bytes)

/-- What a driver constructs is sound; it may throw anything. -/
abbrev Answers {α : Type} (block : Traced Construction DriverException α) : Prop :=
  Keeps Sound (fun _ => True) block

theorem answers_error {α : Type} {fmt : String} {args : List Arg}
    (conforms : Conforms (bytesOf fmt) args) :
    Answers (driverErrorTraced asprintf fmt args : Traced Construction DriverException α) :=
  keeps_throwing (sound_formatted .driver conforms) trivial

theorem answers_plain {α : Type} {fmt : String} (plain : 37 ∉ bytesOf fmt) :
    Answers (driverErrorTraced asprintf fmt : Traced Construction DriverException α) :=
  answers_error asprintf (conforms_plain plain)

theorem answers_rewrapping {α : Type} {block : Traced Construction Bytes α}
    (keeps : Keeps Sound (37 ∉ ·) block) : Answers (rewrapping asprintf block) := by
  refine ⟨?_, fun _ _ => trivial⟩
  rw [rewrapping, records_catching_iff]
  refine ⟨keeps.records, fun what thrown => ?_⟩
  rw [throwRewrapped, throwConstructed, records_throwing_iff, sound_rewrapped_iff]
  exact keeps.exceptions what thrown

theorem answers_uncaught {α : Type} (action : Except Bytes α) : Answers (uncaught action) :=
  keeps_attempt fun _ _ => trivial

theorem answers_sipParse (data : Bytes) : Answers (sipParseTraced asprintf data) := by
  unfold sipParseTraced
  split
  · split
    · exact keeps_pure ()
    · exact answers_plain asprintf (by decide)
  · exact keeps_pure ()

theorem answers_sipResolve (driver : CSipDriver) (sip : Bytes → SipOutcome)
    (request : ResolverRequest) : Answers (sipResolveTraced asprintf driver sip request) := by
  unfold sipResolveTraced
  split
  · rename_i error _
    exact answers_rewrapping asprintf (keeps_attempt (throws_error (sipClientError_plain error)))
  · exact answers_plain asprintf (by decide)
  · exact answers_sipParse asprintf _

theorem keeps_perform (driver : CMhashCsvDriver) (number : Option Bytes) :
    Keeps Sound (37 ∉ ·) (performTraced asprintf driver number) := by
  cases number with
  | some number => exact keeps_pure _
  | none =>
      have plain : 37 ∉ bytesOf "not specified number for searching" := by decide
      constructor
      · exact (records_csvError_iff asprintf _ _).mpr (conforms_plain plain)
      · rw [performTraced, csvError_outcome asprintf (render_plain plain [])]
        exact throws_error plain

theorem answers_mhashCsvResolve (driver : CMhashCsvDriver) (request : ResolverRequest) :
    Answers (mhashCsvResolveTraced asprintf driver request) :=
  keeps_bind (answers_rewrapping asprintf (keeps_perform asprintf driver _)) fun _ => keeps_pure ()

theorem answers_parseNumber [CJson] {key : String} (plain : 37 ∉ bytesOf key) (data : Bytes) :
    Answers (parseNumberTraced asprintf key data) :=
  keeps_bind (answers_rewrapping asprintf (keeps_attempt (replyString_plainly data plain)))
    fun _ => keeps_pure ()

theorem answers_alcazarParse [CJson] (data : Bytes) :
    Answers (alcazarParseTraced asprintf data) := by
  apply answers_rewrapping
  exact keeps_bind (keeps_attempt (replyString_plainly data (by decide))) fun _ =>
    keeps_bind (keeps_attempt (replyString_plainly data (by decide))) fun _ => keeps_pure ()

theorem answers_parseElement (element : Json) :
    Answers (parseElementTraced asprintf element) := by
  apply keeps_bind (answers_uncaught _)
  intro ported
  split
  · exact keeps_pure ()
  · split
    · exact keeps_bind (answers_uncaught _) fun _ =>
        keeps_bind (answers_uncaught _) fun _ => keeps_pure ()
    · exact answers_plain asprintf (by decide)

theorem answers_coureAnqParse [CJson] (data : Bytes) :
    Answers (coureAnqParseTraced asprintf data) := by
  unfold coureAnqParseTraced
  split
  · exact answers_plain asprintf (by decide)
  · rename_i root _
    have plain := resultElement_plain root
    split
    · rename_i text refused
      exact answers_plain asprintf (plain text refused)
    · exact answers_parseElement asprintf _

theorem answers_placeholderValue (root : Json) (key : Bytes) :
    Answers (placeholderValueTraced asprintf root key) := by
  have missed : Conforms (bytesOf "missed required key '%s' in request") [.str key] := by
    rw [missedKey_pieces, conforms_text (by decide), conforms_spec, conforms_text (by decide),
      conforms_nil]
    exact ⟨rfl, rfl⟩
  have unsupported : ∀ type, Conforms (bytesOf "unsupported hash item type %d by key '%s'")
      [.int type, .str key] := by
    intro type
    rw [unsupportedItem_pieces, conforms_text (by decide), conforms_spec,
      conforms_text (by decide), conforms_spec, conforms_text (by decide), conforms_nil]
    exact ⟨rfl, rfl, rfl⟩
  unfold placeholderValueTraced
  split
  · exact answers_error asprintf missed
  · exact keeps_pure _
  · exact keeps_pure _
  · exact keeps_pure _
  · exact keeps_pure _
  · exact answers_error asprintf (unsupported _)

theorem answers_getUrl (root : Json) (uriParts : List UriPart) :
    Answers (getUrlTraced asprintf root uriParts) := by
  induction uriParts with
  | nil => exact keeps_pure _
  | cons part rest ih =>
      cases part with
      | string data => exact keeps_bind ih fun _ => keeps_pure _
      | placeholder key =>
          exact keeps_bind (answers_placeholderValue asprintf root key) fun _ =>
            keeps_bind ih fun _ => keeps_pure _

theorem answers_cnamResolve [CJson] (driver : CCnamHttpDriver) (request : ResolverRequest) :
    Answers (cnamResolveTraced asprintf driver request) := by
  unfold cnamResolveTraced
  split
  · exact answers_plain asprintf (by decide)
  · exact keeps_bind (answers_getUrl asprintf _ _) fun _ => keeps_pure ()
  · exact answers_plain asprintf (by decide)

theorem answers_cnamParse [CJson] (data : Bytes) : Answers (cnamParseTraced asprintf data) := by
  unfold cnamParseTraced
  split
  · exact answers_plain asprintf (by decide)
  · exact keeps_pure ()
  · exact answers_plain asprintf (by decide)

theorem answers_resolve [CJson] (driver : Driver) (sip : Bytes → SipOutcome)
    (request : ResolverRequest) : Answers (resolveTraced asprintf driver sip request) := by
  cases driver with
  | sip driver => exact answers_sipResolve asprintf driver sip request
  | mhashCsv driver => exact answers_mhashCsvResolve asprintf driver request
  | cnam driver => exact answers_cnamResolve asprintf driver request
  | thinq driver => exact keeps_pure ()
  | alcazar driver => exact keeps_pure ()
  | coureAnq driver => exact keeps_pure ()
  | bulkvs driver => exact keeps_pure ()

theorem answers_parse [CJson] (driver : Driver) (data : Bytes) :
    Answers (parseTraced asprintf driver data) := by
  cases driver with
  | sip driver => exact answers_sipParse asprintf data
  | thinq driver => exact answers_parseNumber asprintf (by decide) data
  | mhashCsv driver => exact keeps_pure ()
  | alcazar driver => exact answers_alcazarParse asprintf data
  | coureAnq driver => exact answers_coureAnqParse asprintf data
  | cnam driver => exact answers_cnamParse asprintf data
  | bulkvs driver => exact answers_parseNumber asprintf (by decide) data

end Resolving

end LnpResolver.ErrorFormats
