import LnpResolver.Decimals
import LnpResolver.DriverConfig

/-!
Texts of the std::exceptions that the drivers catch and throw again as errors of
their own. A text with no percent sign is printed as it is when it is taken for a
format.
-/

namespace LnpResolver.ExceptionTexts

open PackedBytes RequestWire JsonItems TextStreams Throwing Drivers CsvClient DriverConfig

/-- The exceptions thrown have texts without a percent sign. -/
abbrev Plainly {α : Type} (action : Except Bytes α) : Prop := Throws (37 ∉ ·) action

theorem eraseQuotes_plainly (value : Bytes) : Plainly (eraseQuotes value) := by
  unfold eraseQuotes
  extract_lets rest
  split
  · exact throws_error (by decide)
  · split <;> exact throws_ok _ _

theorem jsonxx_plainly [CJson] (data : Bytes) : Plainly (jsonxx data) := by
  unfold jsonxx
  split
  · exact throws_ok _ _
  · exact throws_error (by decide)

theorem jsonxxItem_plainly (root : Json) {key : String} (plain : 37 ∉ bytesOf key) :
    Plainly (jsonxxItem root key) := by
  have front : 37 ∉ bytesOf "jsonxx: not found parsing item - " := by decide
  unfold jsonxxItem
  split
  · split
    · exact throws_ok _ _
    · apply throws_error
      simp [front, plain]
  · exact throws_error (by decide)

theorem itemString_plainly (item : Json) : Plainly (itemString item) := by
  unfold itemString
  split
  · exact eraseQuotes_plainly _
  · exact throws_ok _ _

theorem memberText_plainly (jData : Json) {key : String} (plain : 37 ∉ bytesOf key) :
    Plainly (memberText key jData) :=
  throws_bind (jsonxxItem_plainly jData plain) itemString_plainly

theorem memberInteger_plainly (jData : Json) {key : String} (plain : 37 ∉ bytesOf key) :
    Plainly (memberInteger key jData) :=
  throws_bind (jsonxxItem_plainly jData plain) fun _ => throws_ok _ _

theorem getJsonPort_plainly (jData : Json) : Plainly (getJsonPort jData) :=
  throws_bind (memberInteger_plainly jData (by decide)) fun _ => throws_ok _ _

theorem getJsonTimeout_plainly (jData : Json) : Plainly (getJsonTimeout jData) :=
  throws_bind (memberInteger_plainly jData (by decide)) fun _ => throws_ok _ _

theorem getJsonValidateHttpsCer_plainly (jData : Json) :
    Plainly (getJsonValidateHttpsCer jData) :=
  throws_bind (jsonxxItem_plainly jData (by decide)) fun _ => throws_ok _ _

theorem replyString_plainly [CJson] (data : Bytes) {key : String} (plain : 37 ∉ bytesOf key) :
    Plainly (replyString data key) := by
  apply throws_bind (jsonxx_plainly data)
  intro root
  exact throws_bind (jsonxxItem_plainly root plain) itemString_plainly

theorem getJsonString_plainly (item : Json) : Plainly (getJsonString item) := by
  unfold getJsonString
  split
  · exact eraseQuotes_plainly _
  · exact throws_error (by decide)

theorem getJsonInt_plainly (item : Json) : Plainly (getJsonInt item) := by
  unfold getJsonInt
  split
  · exact throws_ok _ _
  · exact throws_error (by decide)

theorem getJsonValueByKey_plainly {α : Type} {getJsonValue : Json → Except Bytes α}
    (plain : ∀ item, Plainly (getJsonValue item)) (root : Json) (key : String) :
    Plainly (getJsonValueByKey getJsonValue root key) := by
  unfold getJsonValueByKey
  split
  · split
    · exact plain _
    · exact throws_error (by decide)
  · exact throws_error (by decide)

theorem parseUrlTemplate_plainly (placeholder : Bool) (part url : Bytes) :
    Plainly (parseUrlTemplate placeholder part url) := by
  fun_induction parseUrlTemplate placeholder part url with
  | case1 part => exact throws_ok _ _
  | case2 part => exact throws_error (by decide)
  | case3 part url ih => exact throws_bind ih fun _ => throws_ok _ _
  | case4 part url different => exact throws_error (by decide)
  | case5 part c url notOpen notClose ih => exact ih
  | case6 part url empty => exact throws_error (by decide)
  | case7 part url filled ih => exact throws_bind ih fun _ => throws_ok _ _
  | case8 part url different => exact throws_error (by decide)
  | case9 part c url notClose notOpen ih => exact ih

/-- The one text of libpqxx that is thrown again: that of a table without the column. -/
theorem parameters_plainly [Pqxx] (plain : 37 ∉ Pqxx.argumentError "parameters")
    (data : RawConfig) : Plainly (parameters data) := by
  unfold parameters field
  split
  · exact throws_ok _ _
  · rename_i thrown missing
    split at missing
    · cases missing
    · cases missing
      exact throws_error plain

theorem decimal_plain (value : Nat) : 37 ∉ decimal value := by
  intro member
  have digit := Decimals.decimal_isdigit value 37 member
  exact absurd digit (by decide)

theorem readFields_plainly (delimiter : UInt8) (lineCnt fieldsLeft idx : Nat)
    (lineStream : Bytes) : Plainly (readFields delimiter lineCnt fieldsLeft idx lineStream) := by
  induction fieldsLeft generalizing idx lineStream with
  | zero => exact throws_ok _ _
  | succ fieldsLeft ih =>
      rw [readFields]
      split
      · have constants : 37 ∉ bytesOf "unexpected format field " ∧ 37 ∉ bytesOf " at line " := by
          decide
        apply throws_error
        simp only [unexpectedFormat, List.mem_append, not_or]
        exact ⟨⟨⟨constants.1, decimal_plain _⟩, constants.2⟩, decimal_plain _⟩
      · exact throws_bind (ih _ _) fun _ => throws_ok _ _

theorem requiredAtLeast_plain (fieldsNumber : UInt8) (lineCnt : Nat) :
    37 ∉ requiredAtLeast fieldsNumber lineCnt := by
  have constants : 37 ∉ bytesOf "required at least " ∧
      37 ∉ bytesOf " valid fields in the line " := by decide
  simp only [requiredAtLeast, List.mem_append, not_or]
  exact ⟨⟨⟨constants.1, decimal_plain _⟩, constants.2⟩, decimal_plain _⟩

theorem loadLine_plainly (primaryIdx fieldsNumber delimiter : UInt8) (lineCnt : Nat)
    (line : Bytes) (hash : Hash) :
    Plainly (loadLine primaryIdx fieldsNumber delimiter lineCnt line hash) := by
  unfold loadLine
  split
  · exact throws_ok _ _
  · apply throws_bind (readFields_plainly _ _ _ _ _)
    intro csvFields
    dsimp only
    split
    · exact throws_error (requiredAtLeast_plain _ _)
    · split <;> exact throws_ok _ _

theorem loadLines_plainly (primaryIdx fieldsNumber delimiter : UInt8) (lineCnt : Nat)
    (lines : List Bytes) (hash : Hash) :
    Plainly (loadLines primaryIdx fieldsNumber delimiter lineCnt lines hash) := by
  induction lines generalizing lineCnt hash with
  | nil => exact throws_ok _ _
  | cons line lines ih => exact throws_bind (loadLine_plainly _ _ _ _ _ _) (ih _)

theorem sipClientError_plain (error : DriverInterface.CSipClientError) : 37 ∉ error.what := by
  cases error <;> decide

end LnpResolver.ExceptionTexts
