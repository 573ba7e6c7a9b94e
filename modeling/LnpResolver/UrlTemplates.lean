import Mathlib.Data.List.Chain
import LnpResolver.Decimals
import LnpResolver.DriverConfig

/-!
The URL template of the CNAM driver. Its parts are texts and placeholders; a
template is cut into them when the configuration is read, and put together again
for each request with the values of the request in place of the placeholders.
-/

namespace LnpResolver.UrlTemplates

open PackedBytes RequestWire Doubles JsonItems DriverInterface Drivers DriverConfig

/-! The grammar: texts without braces and names in braces. -/

def BraceFree (text : Bytes) : Prop := openBrace ∉ text ∧ closeBrace ∉ text

def partData : UriPart → Bytes
  | .string data => data
  | .placeholder key => key

def renderPart : UriPart → Bytes
  | .string data => data
  | .placeholder key => openBrace :: key ++ [closeBrace]

def render (parts : List UriPart) : Bytes := parts.flatMap renderPart

def Piece : UriPart → Prop
  | .string data => BraceFree data
  | .placeholder key => key ≠ [] ∧ BraceFree key

def IsTemplate (url : Bytes) : Prop := ∃ pieces, (∀ piece ∈ pieces, Piece piece) ∧ render pieces = url

def IsText : UriPart → Prop
  | .string _ => True
  | .placeholder _ => False

structure TemplateGrammar (url : Bytes) (outcome : Except Bytes (List UriPart)) : Prop where
  accepted : (∃ parts, outcome = .ok parts) ↔ IsTemplate url
  rejected : (∃ what, outcome = .error what) ↔ ¬ IsTemplate url
  lossless : ∀ parts, outcome = .ok parts → render parts = url
  filled : ∀ parts, outcome = .ok parts → ∀ part ∈ parts, partData part ≠ [] ∧ BraceFree (partData part)
  separated : ∀ parts, outcome = .ok parts →
    parts.IsChain fun part next => ¬ (IsText part ∧ IsText next)

theorem braceFree_append (text rest : Bytes) :
    BraceFree (text ++ rest) ↔ BraceFree text ∧ BraceFree rest := by
  simp only [BraceFree, List.mem_append, not_or]
  tauto

/-! What the scanner accepts. In the state of a placeholder the brace that opened it
is pending too. -/

def pending (placeholder : Bool) (part : Bytes) : Bytes :=
  if placeholder then openBrace :: part else part

/-- The parts found behind a pending segment. -/
structure Scanned (placeholder : Bool) (part url : Bytes) (parts : List UriPart) : Prop where
  lossless : render parts = pending placeholder part ++ url
  filled : ∀ part ∈ parts, partData part ≠ [] ∧ BraceFree (partData part)
  separated : parts.IsChain fun part next => ¬ (IsText part ∧ IsText next)
  opened : placeholder = true → ∀ first ∈ parts.head?, ¬ IsText first

theorem render_staticPart (part : Bytes) : render (staticPart part) = part := by
  unfold staticPart
  split
  · rename_i empty
    rw [List.isEmpty_iff.mp empty]
    rfl
  · simp [render, renderPart]

theorem filled_staticPart (part : Bytes) (free : BraceFree part) :
    ∀ found ∈ staticPart part, partData found ≠ [] ∧ BraceFree (partData found) := by
  unfold staticPart
  split
  · simp
  · rename_i text
    simpa [partData, free] using text

theorem separated_staticPart (part : Bytes) (parts : List UriPart)
    (separated : parts.IsChain fun part next => ¬ (IsText part ∧ IsText next))
    (opened : ∀ first ∈ parts.head?, ¬ IsText first) :
    (staticPart part ++ parts).IsChain fun part next => ¬ (IsText part ∧ IsText next) := by
  unfold staticPart
  split
  · exact separated
  · refine List.isChain_cons.mpr ⟨?_, separated⟩
    rintro next member ⟨-, text⟩
    exact opened next member text

/-! One lemma for each way the scanner ends a segment. -/

theorem scanned_end (part : Bytes) (free : BraceFree part) :
    Scanned false part [] (staticPart part) where
  lossless := by simp [render_staticPart, pending]
  filled := filled_staticPart part free
  separated := by simpa using separated_staticPart part [] .nil (by simp)
  opened := by simp

theorem scanned_open (part : Bytes) (free : BraceFree part) (url : Bytes) (parts : List UriPart)
    (rest : Scanned true [] url parts) :
    Scanned false part (openBrace :: url) (staticPart part ++ parts) where
  lossless := by
    have behind := rest.lossless
    rw [render, List.flatMap_append, ← render, ← render, render_staticPart, behind]
    rfl
  filled := by
    intro found member
    rcases List.mem_append.mp member with own | later
    · exact filled_staticPart part free found own
    · exact rest.filled found later
  separated := separated_staticPart part parts rest.separated (rest.opened rfl)
  opened := by simp

theorem scanned_close (part : Bytes) (filled : part ≠ []) (free : BraceFree part) (url : Bytes)
    (parts : List UriPart) (rest : Scanned false [] url parts) :
    Scanned true part (closeBrace :: url) (.placeholder part :: parts) where
  lossless := by
    have behind := rest.lossless
    rw [render, List.flatMap_cons, ← render, behind]
    simp [renderPart, pending]
  filled := by
    rw [List.forall_mem_cons]
    exact ⟨⟨filled, free⟩, rest.filled⟩
  separated := by
    refine List.isChain_cons.mpr ⟨?_, rest.separated⟩
    rintro next - ⟨text, -⟩
    exact text
  opened := by simp [IsText]

theorem scanned_more (placeholder : Bool) (part : Bytes) (c : UInt8) (url : Bytes)
    (parts : List UriPart) (rest : Scanned placeholder (part ++ [c]) url parts) :
    Scanned placeholder part (c :: url) parts where
  lossless := by
    rw [rest.lossless]
    cases placeholder <;> simp [pending]
  filled := rest.filled
  separated := rest.separated
  opened := rest.opened

theorem braceFree_snoc {part : Bytes} {c : UInt8} (free : BraceFree part) (unopened : c ≠ openBrace)
    (unclosed : c ≠ closeBrace) : BraceFree (part ++ [c]) := by
  rw [braceFree_append]
  exact ⟨free, by simpa [BraceFree, eq_comm] using ⟨unopened, unclosed⟩⟩

theorem parse_scanned (placeholder : Bool) (part url : Bytes) (parts : List UriPart)
    (free : BraceFree part) (parsed : parseUrlTemplate placeholder part url = .ok parts) :
    Scanned placeholder part url parts := by
  induction url generalizing placeholder part parts with
  | nil =>
      cases placeholder with
      | false =>
          cases parsed
          exact scanned_end part free
      | true => cases parsed
  | cons c url ih =>
      have empty : BraceFree [] := ⟨List.not_mem_nil, List.not_mem_nil⟩
      cases placeholder with
      | false =>
          simp only [parseUrlTemplate] at parsed
          split at parsed
          · rename_i opening
            obtain ⟨behind, scanned, whole⟩ := (Throwing.bind_ok_iff _ _ _).mp parsed
            cases whole
            rw [opening]
            exact scanned_open part free url behind (ih _ _ _ empty scanned)
          · split at parsed
            · cases parsed
            · rename_i unopened unclosed
              exact scanned_more _ _ _ _ _ (ih _ _ _ (braceFree_snoc free unopened unclosed) parsed)
      | true =>
          simp only [parseUrlTemplate] at parsed
          split at parsed
          · rename_i closing
            split at parsed
            · cases parsed
            · rename_i filled
              obtain ⟨behind, scanned, whole⟩ := (Throwing.bind_ok_iff _ _ _).mp parsed
              cases whole
              rw [closing]
              exact scanned_close part (by simpa using filled) free url behind
                (ih _ _ _ empty scanned)
          · split at parsed
            · cases parsed
            · rename_i unclosed unopened
              exact scanned_more _ _ _ _ _ (ih _ _ _ (braceFree_snoc free unopened unclosed) parsed)

/-! The other way round, every sequence of pieces is scanned to its end. -/

theorem parse_text (placeholder : Bool) (part text url : Bytes) (free : BraceFree text) :
    parseUrlTemplate placeholder part (text ++ url) =
      parseUrlTemplate placeholder (part ++ text) url := by
  induction text generalizing part with
  | nil => simp
  | cons c text ih =>
      have unopened : c ≠ openBrace := fun same => free.1 (same ▸ List.mem_cons_self)
      have unclosed : c ≠ closeBrace := fun same => free.2 (same ▸ List.mem_cons_self)
      have rest : BraceFree text :=
        ⟨fun member => free.1 (List.mem_cons_of_mem _ member),
          fun member => free.2 (List.mem_cons_of_mem _ member)⟩
      have next : parseUrlTemplate placeholder part (c :: (text ++ url)) =
          parseUrlTemplate placeholder (part ++ [c]) (text ++ url) := by
        cases placeholder <;> simp [parseUrlTemplate, unopened, unclosed]
      rw [List.cons_append, next, ih _ rest, List.append_assoc, List.singleton_append]

theorem parse_pieces (pieces : List UriPart) (part : Bytes) (valid : ∀ piece ∈ pieces, Piece piece) :
    ∃ parts, parseUrlTemplate false part (render pieces) = .ok parts := by
  induction pieces generalizing part with
  | nil => exact ⟨_, rfl⟩
  | cons piece pieces ih =>
      obtain ⟨first, rest⟩ := List.forall_mem_cons.mp valid
      rw [render, List.flatMap_cons, ← render]
      cases piece with
      | string data =>
          rw [renderPart, parse_text _ _ _ _ first]
          exact ih _ rest
      | placeholder key =>
          obtain ⟨filled, free⟩ := first
          obtain ⟨parts, scanned⟩ := ih [] rest
          refine ⟨staticPart part ++ .placeholder key :: parts, ?_⟩
          have opened : parseUrlTemplate true [] (key ++ closeBrace :: render pieces) =
              .ok (.placeholder key :: parts) := by
            rw [parse_text _ _ _ _ free, List.nil_append]
            simp [parseUrlTemplate, filled, scanned, Throwing.ok_bind, Throwing.pure_ok]
          simp [renderPart, parseUrlTemplate, opened, Throwing.ok_bind, Throwing.pure_ok]

theorem parts_of_template (url : Bytes) (parts : List UriPart) (scanned : Scanned false [] url parts) :
    IsTemplate url := by
  refine ⟨parts, ?_, by simpa [pending] using scanned.lossless⟩
  intro part member
  obtain ⟨filled, free⟩ := scanned.filled part member
  cases part with
  | string data => exact free
  | placeholder key => exact ⟨filled, free⟩

/-- The scanner accepts the grammar, keeps every byte and never splits a text. -/
theorem url_template_grammar (url : Bytes) :
    TemplateGrammar url (parseUrlTemplate false [] url) := by
  have scanned : ∀ parts, parseUrlTemplate false [] url = .ok parts → Scanned false [] url parts :=
    fun parts parsed => parse_scanned _ _ _ _ ⟨List.not_mem_nil, List.not_mem_nil⟩ parsed
  have accepted : (∃ parts, parseUrlTemplate false [] url = .ok parts) ↔ IsTemplate url := by
    constructor
    · rintro ⟨parts, parsed⟩
      exact parts_of_template url parts (scanned parts parsed)
    · rintro ⟨pieces, valid, rfl⟩
      exact parse_pieces pieces [] valid
  refine ⟨accepted, ?_, ?_, ?_, ?_⟩
  · rw [← accepted]
    cases parseUrlTemplate false [] url <;> simp
  · intro parts parsed
    simpa [pending] using (scanned parts parsed).lossless
  · intro parts parsed
    exact (scanned parts parsed).filled
  · intro parts parsed
    exact (scanned parts parsed).separated

/-! Substitution. A template is put together from the text of each placeholder's value. -/

def assemble (value : Bytes → Option Bytes) : List UriPart → Option Bytes
  | [] => some []
  | .string data :: rest => do
      let tail ← assemble value rest
      return data ++ tail
  | .placeholder key :: rest => do
      let text ← value key
      let tail ← assemble value rest
      return text ++ tail

/-- How a value is to be shown in a URL. Numbers that are no integer literals are shown
by their valueint. -/
def shown : Written → Option Bytes
  | .string text => some text
  | .bool true => some (bytesOf "1")
  | .bool false => some (bytesOf "0")
  | .integer literal => some (decimal literal)
  | .fraction numeral => some (decimal (numberValueint (ofNumeral numeral)))
  | .null | .array _ | .object _ => none

/-- How get_url shows it: integers by their valueint, strings up to a NUL byte. -/
def printed : Written → Option Bytes
  | .integer literal => some (decimal (valueint literal))
  | .string text => some (cString text)
  | value => shown value

def Unsupported : Option Written → Prop
  | none | some .null | some (.array _) | some (.object _) => True
  | _ => False

def requestUrl (parts : List UriPart) (members : List (Bytes × Written)) :
    Except DriverException Bytes :=
  getUrl (Written.object members).stored parts

theorem placeholderValue_cases (members : List (Bytes × Written)) (key : Bytes) :
    (∃ text, placeholderValue (Written.object members).stored key = .ok text ∧
      (foundUnder members key).bind printed = some text ∧ ¬ Unsupported (foundUnder members key)) ∨
    (∃ what, placeholderValue (Written.object members).stored key = .error (.error what) ∧
      (foundUnder members key).bind printed = none ∧ Unsupported (foundUnder members key)) := by
  simp only [placeholderValue, getObjectItem_stored]
  cases foundUnder members key with
  | none => simp [Unsupported]
  | some value =>
      cases value with
      | bool flag => cases flag <;> simp [Written.stored, printed, shown, Unsupported]
      | null | integer | fraction | string | array | object =>
          simp [Written.stored, printed, shown, Unsupported]

theorem requestUrl_cases (parts : List UriPart) (members : List (Bytes × Written)) :
    (∃ url, requestUrl parts members = .ok url ∧
      assemble (fun key => (foundUnder members key).bind printed) parts = some url ∧
      ∀ key, .placeholder key ∈ parts → ¬ Unsupported (foundUnder members key)) ∨
    (∃ what, requestUrl parts members = .error (.error what) ∧
      ∃ key, .placeholder key ∈ parts ∧ Unsupported (foundUnder members key)) := by
  induction parts with
  | nil => exact Or.inl ⟨[], rfl, rfl, by simp⟩
  | cons part rest ih =>
      cases part with
      | string data =>
          rcases ih with ⟨url, got, made, supported⟩ | ⟨what, raised, key, member, unsupported⟩
          · left
            refine ⟨data ++ url, ?_, by simp [assemble, made], by simpa using supported⟩
            rw [requestUrl] at got
            simp [requestUrl, getUrl, got, Throwing.ok_bind, Throwing.pure_ok]
          · right
            refine ⟨what, ?_, key, List.mem_cons_of_mem _ member, unsupported⟩
            rw [requestUrl] at raised
            simp [requestUrl, getUrl, raised]
      | placeholder key =>
          rcases placeholderValue_cases members key with
            ⟨text, value, print, known⟩ | ⟨what, failed, -, unknown⟩
          · rcases ih with ⟨url, got, made, supported⟩ | ⟨what, raised, other, member, unsupported⟩
            · left
              refine ⟨text ++ url, ?_, by simp [assemble, print, made], ?_⟩
              · rw [requestUrl] at got
                simp [requestUrl, getUrl, value, got, Throwing.ok_bind, Throwing.pure_ok]
              · intro other member
                rcases List.mem_cons.mp member with same | later
                · cases same
                  exact known
                · exact supported other later
            · right
              refine ⟨what, ?_, other, List.mem_cons_of_mem _ member, unsupported⟩
              rw [requestUrl] at raised
              simp [requestUrl, getUrl, value, raised, Throwing.ok_bind]
          · right
            refine ⟨what, ?_, key, List.mem_cons_self, unknown⟩
            simp [requestUrl, getUrl, failed, Throwing.error_bind]

/-! Two ways of showing the values give one URL only if they show each value alike,
provided that one of them never is the longer one. -/

theorem assemble_string_iff (value : Bytes → Option Bytes) (data : Bytes) (rest : List UriPart)
    (url : Bytes) : assemble value (.string data :: rest) = some url ↔
      ∃ tail, assemble value rest = some tail ∧ data ++ tail = url := by
  simp [assemble, Option.bind_eq_some_iff]

theorem assemble_placeholder_iff (value : Bytes → Option Bytes) (key : Bytes)
    (rest : List UriPart) (url : Bytes) : assemble value (.placeholder key :: rest) = some url ↔
      ∃ text tail, value key = some text ∧ assemble value rest = some tail ∧
        text ++ tail = url := by
  simp [assemble, Option.bind_eq_some_iff]

def Shorter (value other : Bytes → Option Bytes) (parts : List UriPart) : Prop :=
  ∀ key text longer, .placeholder key ∈ parts → value key = some text → other key = some longer →
    text.length ≤ longer.length

theorem Shorter.rest {value other : Bytes → Option Bytes} {part : UriPart} {rest : List UriPart}
    (shorter : Shorter value other (part :: rest)) : Shorter value other rest :=
  fun key text longer member => shorter key text longer (List.mem_cons_of_mem _ member)

theorem assemble_length_le (value other : Bytes → Option Bytes) (parts : List UriPart)
    (shorter : Shorter value other parts) (url longer : Bytes)
    (made : assemble value parts = some url) (also : assemble other parts = some longer) :
    url.length ≤ longer.length := by
  induction parts generalizing url longer with
  | nil =>
      cases made
      exact Nat.zero_le _
  | cons part rest ih =>
      cases part with
      | string data =>
          obtain ⟨tail, first, rfl⟩ := (assemble_string_iff _ _ _ _).mp made
          obtain ⟨behind, second, rfl⟩ := (assemble_string_iff _ _ _ _).mp also
          have tails := ih shorter.rest tail behind first second
          simpa using tails
      | placeholder key =>
          obtain ⟨text, tail, shows, first, rfl⟩ := (assemble_placeholder_iff _ _ _ _).mp made
          obtain ⟨full, behind, reveals, second, rfl⟩ := (assemble_placeholder_iff _ _ _ _).mp also
          have tails := ih shorter.rest tail behind first second
          have texts := shorter key text full List.mem_cons_self shows reveals
          simp only [List.length_append]
          omega

theorem assemble_agrees (value other : Bytes → Option Bytes) (parts : List UriPart)
    (shorter : Shorter value other parts) (url : Bytes)
    (made : assemble value parts = some url) (also : assemble other parts = some url) :
    ∀ key, .placeholder key ∈ parts → value key = other key := by
  induction parts generalizing url with
  | nil => simp
  | cons part rest ih =>
      cases part with
      | string data =>
          obtain ⟨tail, first, rfl⟩ := (assemble_string_iff _ _ _ _).mp made
          obtain ⟨behind, second, same⟩ := (assemble_string_iff _ _ _ _).mp also
          rw [List.append_cancel_left same] at second
          simpa using ih shorter.rest tail first second
      | placeholder key =>
          obtain ⟨text, tail, shows, first, rfl⟩ := (assemble_placeholder_iff _ _ _ _).mp made
          obtain ⟨full, behind, reveals, second, same⟩ := (assemble_placeholder_iff _ _ _ _).mp also
          have tails := assemble_length_le _ _ _ shorter.rest tail behind first second
          have texts := shorter key text full List.mem_cons_self shows reveals
          -- the lengths add up, so the texts end at the same place
          have lengths := congrArg List.length same
          simp only [List.length_append] at lengths
          obtain ⟨rfl, rfl⟩ := List.append_inj same (by omega)
          intro sought member
          rcases List.mem_cons.mp member with found | later
          · cases found
            rw [shows, reveals]
          · exact ih shorter.rest behind first second sought later

theorem assemble_congr (value other : Bytes → Option Bytes) (parts : List UriPart)
    (same : ∀ key, .placeholder key ∈ parts → value key = other key) :
    assemble value parts = assemble other parts := by
  induction parts with
  | nil => rfl
  | cons part rest ih =>
      have tail := ih fun key member => same key (List.mem_cons_of_mem _ member)
      cases part with
      | string data => simp only [assemble, tail]
      | placeholder key => simp only [assemble, tail, same key List.mem_cons_self]

/-! The URL of a request. -/

/-- Under each key of the template cJSON finds the member of that name. -/
def Named (parts : List UriPart) (members : List (Bytes × Written)) : Prop :=
  ∀ key, .placeholder key ∈ parts → UnderOwnName members key

/-- The request lacks a value that the template asks for. -/
def Lacking (parts : List UriPart) (value : Bytes → Option Written) : Prop :=
  ∃ key, .placeholder key ∈ parts ∧ Unsupported (value key)

structure Substitution (parts : List UriPart) (members : List (Bytes × Written)) : Prop where
  outcome : (∃ url, requestUrl parts members = .ok url ∧
      assemble (fun key => (valueUnder members key).bind shown) parts = some url ∧
      Named parts members) ∨
    ∃ what, requestUrl parts members = .error (.error what)
  raises : (∃ what, requestUrl parts members = .error (.error what)) ↔
    Lacking parts (valueUnder members)
  determined : Named parts members → ∀ others, Named parts others →
    (∀ key, .placeholder key ∈ parts → valueUnder others key = valueUnder members key) →
    requestUrl parts others = requestUrl parts members

/-- An integer that an int can hold, or a string without a NUL byte. -/
def Shows : Option Written → Prop
  | some (.integer literal) => intMin ≤ literal ∧ literal ≤ intMax
  | some (.string text) => 0 ∉ text
  | _ => True

theorem printed_shorter (members : List (Bytes × Written)) (parts : List UriPart) :
    Shorter (fun key => (valueUnder members key).bind printed)
      (fun key => (valueUnder members key).bind shown) parts := by
  intro key text longer _ prints shows
  cases found : valueUnder members key with
  | none => simp [found] at prints
  | some value =>
      simp only [found, Option.bind_some] at prints shows
      cases value with
      | integer literal =>
          cases prints
          cases shows
          exact Decimals.decimal_valueint_length literal
      | string content =>
          cases prints
          cases shows
          exact (List.takeWhile_prefix _).length_le
      | null | bool | fraction | array | object =>
          cases prints.symm.trans shows
          exact Nat.le_refl _

theorem printed_eq_shown_iff (value : Option Written) :
    value.bind printed = value.bind shown ↔ Shows value := by
  cases value with
  | none => simp [Shows]
  | some value =>
      cases value with
      | integer literal => simpa [printed, shown, Shows] using Decimals.decimal_valueint_iff literal
      | string text => simpa [printed, shown, Shows] using cString_eq_self_iff text
      | null | bool | fraction | array | object => simp [printed, Shows]

theorem requestUrl_raises_iff (parts : List UriPart) (members : List (Bytes × Written)) :
    (∃ what, requestUrl parts members = .error (.error what)) ↔
      Lacking parts (foundUnder members) := by
  rcases requestUrl_cases parts members with ⟨url, got, -, supported⟩ | ⟨what, raised, unsupported⟩
  · constructor
    · rintro ⟨what, raised⟩
      rw [got] at raised
      cases raised
    · rintro ⟨key, member, unsupported⟩
      exact absurd unsupported (supported key member)
  · exact ⟨fun _ => unsupported, fun _ => ⟨what, raised⟩⟩

theorem requestUrl_determined (parts : List UriPart) (members others : List (Bytes × Written))
    (same : ∀ key, .placeholder key ∈ parts → foundUnder others key = foundUnder members key) :
    requestUrl parts others = requestUrl parts members := by
  induction parts with
  | nil => rfl
  | cons part rest ih =>
      have tail := ih fun key member => same key (List.mem_cons_of_mem _ member)
      unfold requestUrl at tail ⊢
      cases part with
      | string data => simp only [getUrl, tail]
      | placeholder key =>
          have value : placeholderValue (Written.object others).stored key =
              placeholderValue (Written.object members).stored key := by
            simp only [placeholderValue, getObjectItem_stored, same key List.mem_cons_self]
          simp only [getUrl, tail, value]

theorem named_determined (parts : List UriPart) (members others : List (Bytes × Written))
    (named : Named parts members) (alike : Named parts others)
    (same : ∀ key, .placeholder key ∈ parts → valueUnder others key = valueUnder members key) :
    requestUrl parts others = requestUrl parts members := by
  apply requestUrl_determined
  intro key member
  calc foundUnder others key
      = valueUnder others key := alike key member
    _ = valueUnder members key := same key member
    _ = foundUnder members key := (named key member).symm

theorem lacking_named {parts : List UriPart} {members : List (Bytes × Written)}
    (named : Named parts members) :
    Lacking parts (foundUnder members) ↔ Lacking parts (valueUnder members) := by
  apply exists_congr
  intro key
  apply and_congr_right
  intro member
  rw [named key member]

theorem assemble_named {parts : List UriPart} {members : List (Bytes × Written)}
    (named : Named parts members) :
    assemble (fun key => (foundUnder members key).bind printed) parts =
      assemble (fun key => (valueUnder members key).bind printed) parts := by
  apply assemble_congr
  intro key member
  exact congrArg (fun value => Option.bind value printed) (named key member)

/-- A URL shows the values of the request exactly if each stands under its own name and
none of them is an integer too large for an int or a string with a NUL byte. -/
theorem substitution_iff (parts : List UriPart) (members : List (Bytes × Written)) :
    Substitution parts members ↔
      (Lacking parts (valueUnder members) ∧ Lacking parts (foundUnder members)) ∨
      ∀ key, .placeholder key ∈ parts →
        UnderOwnName members key ∧ Shows (valueUnder members key) := by
  constructor
  · rintro ⟨⟨url, got, made, named⟩ | raised, raises, -⟩
    · right
      intro key member
      refine ⟨named key member, ?_⟩
      rcases requestUrl_cases parts members with ⟨other, gives, prints, -⟩ | ⟨what, failed, -⟩
      · cases got.symm.trans gives
        rw [assemble_named named] at prints
        have same := assemble_agrees _ _ parts (printed_shorter members parts) url prints made
          key member
        exact (printed_eq_shown_iff _).mp same
      · rw [got] at failed
        cases failed
    · exact Or.inl ⟨raises.mp raised, (requestUrl_raises_iff parts members).mp raised⟩
  · rintro (⟨lacking, missed⟩ | shows)
    · have raised := (requestUrl_raises_iff parts members).mpr missed
      exact ⟨Or.inr raised, ⟨fun _ => lacking, fun _ => raised⟩,
        fun named others => named_determined parts members others named⟩
    · have named : Named parts members := fun key member => (shows key member).1
      refine ⟨?_, (requestUrl_raises_iff parts members).trans (lacking_named named),
        fun _ others => named_determined parts members others named⟩
      rcases requestUrl_cases parts members with ⟨url, got, prints, -⟩ | ⟨what, raised, -⟩
      · left
        refine ⟨url, got, ?_, named⟩
        rw [← prints, assemble_named named]
        apply assemble_congr
        intro key member
        exact ((printed_eq_shown_iff _).mpr (shows key member).2).symm
      · exact Or.inr ⟨what, raised⟩

/-- A phone number that is written as a number is replaced by 2147483647. -/
theorem substitution_fails_at_phone_number :
    ¬ Substitution [.string (bytesOf "http://cnam/?n="), .placeholder (bytesOf "number")]
      [(bytesOf "number", .integer 12025550123)] := by
  rintro ⟨⟨url, got, made, -⟩ | ⟨what, raised⟩, -⟩
  · have asked : url = bytesOf "http://cnam/?n=2147483647" := Except.ok.inj got.symm
    have wanted : url = bytesOf "http://cnam/?n=12025550123" := Option.some.inj made.symm
    exact absurd (asked.symm.trans wanted) (by decide)
  · cases raised

end LnpResolver.UrlTemplates
