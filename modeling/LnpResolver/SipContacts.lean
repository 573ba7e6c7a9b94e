import LnpResolver.Drivers

/-!
CSipDriver::parse, on the user part of a Contact header. A user part with parameters
answers by the parameter rn. Both splits are getline loops, which do not see an empty
last piece: an equals sign behind the value goes unnoticed, and behind no value at
all it makes the value empty.
-/

namespace LnpResolver.SipContacts

open PackedBytes RequestWire DriverInterface Drivers TextStreams

def elements (contact : Bytes) : List Bytes := contact.splitOn semicolon

def rn (value : Bytes) : Bytes := bytesOf "rn=" ++ value

def CarriesRn (element : Bytes) : Prop :=
  ∃ value, value ≠ [] ∧ equalsSign ∉ value ∧ element = rn value

/-- The same with one more equals sign, and perhaps without a value. -/
def EndsRn (element : Bytes) : Prop :=
  ∃ value, equalsSign ∉ value ∧ element = rn (value ++ [equalsSign])

theorem rn_iff (element value : Bytes) :
    element = rn value ↔ element.take 3 = bytesOf "rn=" ∧ element.drop 3 = value := by
  constructor
  · rintro rfl
    exact ⟨rfl, rfl⟩
  · rintro ⟨name, rfl⟩
    rw [rn, ← name, List.take_append_drop]

instance : DecidablePred CarriesRn := fun element =>
  decidable_of_iff (element.drop 3 ≠ [] ∧ equalsSign ∉ element.drop 3 ∧
      element.take 3 = bytesOf "rn=") <| by
    simp only [CarriesRn, rn_iff]
    constructor
    · rintro ⟨filled, single, name⟩
      exact ⟨_, filled, single, name, rfl⟩
    · rintro ⟨value, filled, single, name, rfl⟩
      exact ⟨filled, single, name⟩

instance : DecidablePred EndsRn := fun element =>
  decidable_of_iff (equalsSign ∉ (element.drop 3).dropLast ∧
      (element.drop 3).getLast? = some equalsSign ∧ element.take 3 = bytesOf "rn=") <| by
    simp only [EndsRn, rn_iff]
    constructor
    · rintro ⟨single, last, name⟩
      exact ⟨_, single, name, (List.dropLast_append_getLast? _ last).symm⟩
    · rintro ⟨value, single, name, tail⟩
      rw [tail]
      exact ⟨by simpa using single, by simp, name⟩

/-- Exactly these two kinds of element are read as rn. -/
theorem rnValue_some_iff (element value : Bytes) :
    rnValue element = some value ↔ equalsSign ∉ value ∧
      ((value ≠ [] ∧ element = rn value) ∨ element = rn (value ++ [equalsSign])) := by
  have pieces : rnValue element = some value ↔
      tokens equalsSign element = [bytesOf "rn", value] := by
    unfold rnValue split
    split
    · rename_i name found read
      rw [read]
      split
      · rename_i named
        simp [named]
      · rename_i other
        simp [other]
    · rename_i other
      constructor
      · intro absurdity
        cases absurdity
      · intro read
        exact absurd read (other _ _)
  have named : equalsSign ∉ bytesOf "rn" := by decide
  -- read behind the name, the text has one token
  simp only [pieces, tokens_cons_iff, tokens_nil_iff]
  constructor
  · rintro ⟨-, ⟨-, -, none⟩ | ⟨rest, rfl, single, ⟨rfl, filled, -⟩ | ⟨behind, rfl, rfl⟩⟩⟩
    · cases none
    · exact ⟨single, Or.inl ⟨filled, rfl⟩⟩
    · exact ⟨single, Or.inr rfl⟩
  · rintro ⟨single, ⟨filled, rfl⟩ | rfl⟩
    · exact ⟨named, Or.inr ⟨value, rfl, single, Or.inl ⟨rfl, filled, trivial⟩⟩⟩
    · exact ⟨named, Or.inr ⟨value ++ [equalsSign], rfl, single, Or.inr ⟨[], rfl, rfl⟩⟩⟩

/-! The first element the driver reads, and the first one that is as it should be. -/

def firstRead (contact : Bytes) : Option Bytes :=
  (elements contact).find? fun element => CarriesRn element ∨ EndsRn element

def firstCarried (contact : Bytes) : Option Bytes :=
  (elements contact).find? fun element => CarriesRn element

theorem rnValue_isSome_iff (element : Bytes) :
    (rnValue element).isSome ↔ CarriesRn element ∨ EndsRn element := by
  simp only [Option.isSome_iff_exists, rnValue_some_iff, CarriesRn, EndsRn]
  constructor
  · rintro ⟨value, single, ⟨filled, carried⟩ | ended⟩
    · exact Or.inl ⟨value, filled, single, carried⟩
    · exact Or.inr ⟨value, single, ended⟩
  · rintro (⟨value, filled, single, carried⟩ | ⟨value, single, ended⟩)
    · exact ⟨value, single, Or.inl ⟨filled, carried⟩⟩
    · exact ⟨value, single, Or.inr ended⟩

theorem findSome_rnValue (pieces : List Bytes) :
    pieces.findSome? rnValue =
      (pieces.find? fun element => CarriesRn element ∨ EndsRn element).bind rnValue := by
  induction pieces with
  | nil => rfl
  | cons element rest ih =>
      have read := rnValue_isSome_iff element
      cases value : rnValue element with
      | none =>
          have unread : ¬ (CarriesRn element ∨ EndsRn element) := by
            rw [← read, value]
            simp
          simp [value, unread, ih]
      | some number =>
          have accepted : CarriesRn element ∨ EndsRn element := by
            rw [← read, value]
            rfl
          simp [value, accepted]

/-- What the loop over the elements of a contact finds. -/
theorem split_findSome (contact : Bytes) :
    (split contact semicolon).findSome? rnValue = (firstRead contact).bind rnValue := by
  rw [firstRead, ← findSome_rnValue, split, tokens_eq_trimmed]
  rcases trimmed_cases (elements contact) with ⟨same, -⟩ | more
  · exact congrArg (List.findSome? rnValue) same
  · -- the piece that the loop misses is empty, and no parameter
    conv_rhs => rw [more, List.findSome?_append]
    exact (Option.or_none).symm

theorem parse_ok_iff (contact : Bytes) (result after : SResult) (parameters : semicolon ∈ contact) :
    CSipDriver.parse contact result = .ok () after ↔
      ∃ element value, firstRead contact = some element ∧ rnValue element = some value ∧
        after = { result with localRoutingNumber := value, rawData := contact } := by
  rw [CSipDriver.parse, if_pos parameters, split_findSome]
  cases read : firstRead contact with
  | none => simp
  | some element =>
      cases value : rnValue element with
      | none => simp [value]
      | some number => simp [value, eq_comm]

theorem firstRead_some (contact element : Bytes) (read : firstRead contact = some element) :
    element ∈ elements contact ∧ (CarriesRn element ∨ EndsRn element) := by
  constructor
  · exact List.mem_of_find?_eq_some read
  · simpa using List.find?_some read

theorem firstCarried_of_firstRead (contact element : Bytes)
    (read : firstRead contact = some element) (carries : CarriesRn element) :
    firstCarried contact = some element := by
  obtain ⟨-, before, after, whole, unread⟩ := List.find?_eq_some_iff_append.mp read
  refine List.find?_eq_some_iff_append.mpr ⟨by simpa using carries, before, after, whole, ?_⟩
  intro other member
  have neither := unread other member
  simp only [Bool.not_eq_eq_eq_not, Bool.not_true, decide_eq_false_iff_not, not_or] at neither ⊢
  exact neither.1

theorem firstRead_isSome (contact element : Bytes) (member : element ∈ elements contact)
    (carries : CarriesRn element) : ∃ first, firstRead contact = some first := by
  apply Option.isSome_iff_exists.mp
  apply List.find?_isSome.mpr
  exact ⟨element, member, by simp [carries]⟩

structure RnExtraction (contact : Bytes) (before : SResult) (outcome : ParseOutcome) : Prop where
  whole : semicolon ∉ contact →
    ∃ after, outcome = .ok () after ∧ after.localRoutingNumber = contact
  succeeds : semicolon ∈ contact →
    ((∃ after, outcome = .ok () after) ↔ ∃ element ∈ elements contact, CarriesRn element)
  number : semicolon ∈ contact → ∀ after, outcome = .ok () after →
    after.localRoutingNumber ≠ [] ∧ firstCarried contact = some (rn after.localRoutingNumber)
  unchanged : ∀ exception after, outcome = .error exception after → after = before

theorem parse_error_unchanged (contact : Bytes) (result : SResult) (exception : DriverException)
    (after : SResult)
    (failed : CSipDriver.parse contact result = .error exception after) : after = result := by
  unfold CSipDriver.parse at failed
  repeat' split at failed
  all_goals cases failed
  rfl

/-- The driver extracts rn exactly if the first element it reads has no extra equals
sign, or the first one that should be read has the same value. -/
theorem rn_extraction_iff (contact : Bytes) (result : SResult) :
    RnExtraction contact result (CSipDriver.parse contact result) ↔
      (semicolon ∈ contact → ∀ value, firstRead contact = some (rn (value ++ [equalsSign])) →
        firstCarried contact = some (rn value)) := by
  constructor
  · intro extraction parameters value read
    have ended : equalsSign ∉ value := by
      rcases (firstRead_some _ _ read).2 with ⟨other, -, single, same⟩ | ⟨other, single, same⟩
      · rw [List.append_cancel_left same.symm] at single
        simp at single
      · rwa [List.append_cancel_right (List.append_cancel_left same.symm)] at single
    have valued : rnValue (rn (value ++ [equalsSign])) = some value :=
      (rnValue_some_iff _ _).mpr ⟨ended, Or.inr rfl⟩
    have parsed := (parse_ok_iff contact result _ parameters).mpr ⟨_, _, read, valued, rfl⟩
    exact (extraction.number parameters _ parsed).2
  · intro condition
    -- a successful parse has the number of the first element that carries one
    have carried : semicolon ∈ contact → ∀ element value, firstRead contact = some element →
        rnValue element = some value → value ≠ [] ∧ firstCarried contact = some (rn value) := by
      intro parameters element value read valued
      obtain ⟨single, ⟨filled, rfl⟩ | rfl⟩ := (rnValue_some_iff _ _).mp valued
      · have carries : CarriesRn (rn value) := ⟨value, filled, single, rfl⟩
        exact ⟨filled, firstCarried_of_firstRead contact _ read carries⟩
      · have first := condition parameters value read
        have carries : CarriesRn (rn value) := by simpa using List.find?_some first
        obtain ⟨other, filled, -, same⟩ := carries
        rw [List.append_cancel_left same]
        exact ⟨filled, by rwa [← List.append_cancel_left same]⟩
    refine ⟨?_, ?_, ?_, parse_error_unchanged contact result⟩
    · intro plain
      exact ⟨_, if_neg plain, rfl⟩
    · intro parameters
      constructor
      · rintro ⟨after, parsed⟩
        obtain ⟨element, value, read, valued, -⟩ := (parse_ok_iff _ _ _ parameters).mp parsed
        have first := (carried parameters element value read valued).2
        exact ⟨_, List.mem_of_find?_eq_some first, by simpa using List.find?_some first⟩
      · rintro ⟨element, member, carries⟩
        obtain ⟨first, read⟩ := firstRead_isSome contact element member carries
        obtain ⟨value, valued⟩ := Option.isSome_iff_exists.mp
          ((rnValue_isSome_iff first).mpr (firstRead_some contact first read).2)
        exact ⟨_, (parse_ok_iff _ _ _ parameters).mpr ⟨first, value, read, valued, rfl⟩⟩
    · intro parameters after parsed
      obtain ⟨element, value, read, valued, rfl⟩ := (parse_ok_iff _ _ _ parameters).mp parsed
      exact carried parameters element value read valued

/-- An empty rn parameter is taken for an answer. -/
theorem rn_extraction_fails_at_empty_value :
    ¬ RnExtraction (bytesOf "yeti-sip;rn==") {} (CSipDriver.parse (bytesOf "yeti-sip;rn==") {}) := by
  intro extraction
  have parsed : CSipDriver.parse (bytesOf "yeti-sip;rn==") {} =
      .ok () { rawData := bytesOf "yeti-sip;rn==" } := by
    rfl
  exact (extraction.number (by decide) _ parsed).1 rfl

end LnpResolver.SipContacts
