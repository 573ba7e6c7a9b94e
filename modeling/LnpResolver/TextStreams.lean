import Mathlib.Data.List.TakeWhile
import LnpResolver.PackedBytes

/-!
std::getline on a string stream. A call takes everything up to the delimiter and
drops the delimiter; it fails on a stream with nothing left, so a text that ends
with a delimiter has no empty last token. The tokens of a text are its pieces
between delimiters, less an empty last one.
-/

namespace TextStreams

open PackedBytes

theorem span_front {accepts : UInt8 → Bool} {front rest : Bytes}
    (inside : ∀ byte ∈ front, accepts byte = true)
    (stops : ∀ byte ∈ rest.head?, accepts byte = false) :
    (front ++ rest).dropWhile accepts = rest ∧ (front ++ rest).takeWhile accepts = front := by
  rw [List.dropWhile_append_of_pos inside, List.takeWhile_append_of_pos inside]
  cases rest with
  | nil => simp
  | cons byte rest =>
      have refused : accepts byte = false := stops byte rfl
      simp [refused]

theorem span_until {delimiter : UInt8} {front rest : Bytes} (outside : delimiter ∉ front)
    (stops : ∀ byte ∈ rest.head?, byte = delimiter) :
    (front ++ rest).takeWhile (· ≠ delimiter) = front ∧
      (front ++ rest).dropWhile (· ≠ delimiter) = rest := by
  have inside : ∀ byte ∈ front, decide (byte ≠ delimiter) = true := by
    intro byte member
    exact decide_eq_true fun same => outside (same ▸ member)
  have ends : ∀ byte ∈ rest.head?, decide (byte ≠ delimiter) = false := by
    intro byte first
    simpa using stops byte first
  exact ⟨(span_front inside ends).2, (span_front inside ends).1⟩

def getline (delimiter : UInt8) : Bytes → Option (Bytes × Bytes)
  | [] => none
  | stream => some (stream.takeWhile (· ≠ delimiter), (stream.dropWhile (· ≠ delimiter)).drop 1)

/-- `while (getline(stream, token, delimiter))` with a bound on its iterations. -/
def tokensWithin (delimiter : UInt8) : Nat → Bytes → List Bytes
  | 0, _ => []
  | fuel + 1, stream =>
      match getline delimiter stream with
      | none => []
      | some (token, rest) => token :: tokensWithin delimiter fuel rest

/-- Each call consumes a byte, so the length of the text bounds the loop. -/
def tokens (delimiter : UInt8) (text : Bytes) : List Bytes :=
  tokensWithin delimiter text.length text

theorem getline_none_iff (delimiter : UInt8) (stream : Bytes) :
    getline delimiter stream = none ↔ stream = [] := by
  cases stream <;> simp [getline]

theorem getline_consumes (delimiter : UInt8) (stream token rest : Bytes)
    (read : getline delimiter stream = some (token, rest)) : rest.length < stream.length := by
  cases stream with
  | nil => cases read
  | cons byte stream =>
      simp only [getline, Option.some.injEq, Prod.mk.injEq] at read
      obtain ⟨-, rfl⟩ := read
      have shorter := (List.dropWhile_sublist (· ≠ delimiter) (l := byte :: stream)).length_le
      simp only [List.length_drop, List.length_cons] at shorter ⊢
      omega

/-- What a successful call read: a last token, or a token and its delimiter. -/
theorem getline_cases (delimiter : UInt8) (stream token rest : Bytes)
    (read : getline delimiter stream = some (token, rest)) :
    delimiter ∉ token ∧ (stream = token ++ delimiter :: rest ∨
      (stream = token ∧ rest = [] ∧ token ≠ [])) := by
  cases stream with
  | nil => cases read
  | cons byte stream =>
      simp only [getline, Option.some.injEq, Prod.mk.injEq] at read
      obtain ⟨rfl, rfl⟩ := read
      have whole := List.takeWhile_append_dropWhile (p := (· ≠ delimiter)) (l := byte :: stream)
      generalize tail : (byte :: stream).dropWhile (· ≠ delimiter) = dropped at whole
      constructor
      · intro inside
        simpa using List.mem_takeWhile_imp inside
      · cases dropped with
        | nil =>
            right
            rw [List.append_nil] at whole
            exact ⟨whole.symm, rfl, by rw [whole]; simp⟩
        | cons first dropped =>
            left
            have stops : first = delimiter := by
              have found := List.head?_dropWhile_not (· ≠ delimiter) (byte :: stream)
              rw [tail] at found
              simpa using found
            subst first
            exact whole.symm

theorem tokensWithin_enough (delimiter : UInt8) (fuel : Nat) (stream : Bytes)
    (enough : stream.length ≤ fuel) :
    tokensWithin delimiter fuel stream = tokens delimiter stream := by
  induction fuel using Nat.strong_induction_on generalizing stream with
  | _ fuel ih =>
      unfold tokens
      cases fuel with
      | zero => rw [List.length_eq_zero_iff.mp (Nat.le_zero.mp enough)]; rfl
      | succ fuel =>
          cases stream with
          | nil => simp [tokensWithin, getline]
          | cons byte stream =>
              rw [List.length_cons, tokensWithin, tokensWithin]
              split
              · rfl
              · rename_i token rest read
                have shorter := getline_consumes _ _ _ _ read
                simp only [List.length_cons] at shorter enough
                rw [ih fuel (by omega) rest (by omega), ih stream.length (by omega) rest (by omega)]

theorem tokens_nil (delimiter : UInt8) : tokens delimiter [] = [] := rfl

theorem tokens_getline (delimiter : UInt8) (stream token rest : Bytes)
    (read : getline delimiter stream = some (token, rest)) :
    tokens delimiter stream = token :: tokens delimiter rest := by
  have shorter := getline_consumes _ _ _ _ read
  obtain ⟨fuel, size⟩ : ∃ fuel, stream.length = fuel + 1 := ⟨stream.length - 1, by omega⟩
  rw [tokens, size, tokensWithin, read]
  simp only
  rw [tokensWithin_enough _ _ _ (by omega)]

theorem tokens_nil_iff (delimiter : UInt8) (text : Bytes) :
    tokens delimiter text = [] ↔ text = [] := by
  constructor
  · intro empty
    cases read : getline delimiter text with
    | none => exact (getline_none_iff _ _).mp read
    | some result =>
        rw [tokens_getline _ _ result.1 result.2 read] at empty
        cases empty
  · rintro rfl
    exact tokens_nil _

theorem getline_delimited (delimiter : UInt8) (token rest : Bytes) (outside : delimiter ∉ token) :
    getline delimiter (token ++ delimiter :: rest) = some (token, rest) := by
  have stops : ∀ byte ∈ (delimiter :: rest).head?, byte = delimiter := by simp
  obtain ⟨first, remaining⟩ := span_until outside stops
  have filled : token ++ delimiter :: rest ≠ [] := by simp
  rw [getline.eq_2 _ _ filled, first, remaining, List.drop_one, List.tail_cons]

/-- The pieces of a text, without a last one that is empty. -/
def trimmed (pieces : List Bytes) : List Bytes :=
  if pieces.getLast? = some [] then pieces.dropLast else pieces

theorem trimmed_cons (piece : Bytes) (pieces : List Bytes) (more : pieces ≠ []) :
    trimmed (piece :: pieces) = piece :: trimmed pieces := by
  obtain ⟨front, last, rfl⟩ := List.eq_nil_or_concat pieces |>.resolve_left more
  simp only [trimmed, List.concat_eq_append, ← List.cons_append, List.getLast?_concat,
    List.dropLast_concat]
  split <;> rfl

theorem trimmed_cases (pieces : List Bytes) :
    (trimmed pieces = pieces ∧ pieces.getLast? ≠ some []) ∨ pieces = trimmed pieces ++ [[]] := by
  by_cases last : pieces.getLast? = some []
  · right
    rw [trimmed, if_pos last]
    exact (List.dropLast_append_getLast? [] last).symm
  · left
    exact ⟨if_neg last, last⟩

theorem trimmed_take (count : Nat) (pieces : List Bytes)
    (enough : count ≤ (trimmed pieces).length) :
    (trimmed pieces).take count = pieces.take count := by
  rcases trimmed_cases pieces with ⟨same, -⟩ | more
  · rw [same]
  · conv_rhs => rw [more, List.take_append_of_le_length enough]

/-- The loop yields the pieces between delimiters, except an empty one at the end. -/
theorem tokens_eq_trimmed (delimiter : UInt8) (text : Bytes) :
    tokens delimiter text = trimmed (text.splitOn delimiter) := by
  induction size : text.length using Nat.strong_induction_on generalizing text with
  | _ length ih =>
      subst size
      cases read : getline delimiter text with
      | none =>
          rw [(getline_none_iff _ _).mp read]
          simp [tokens_nil, trimmed]
      | some result =>
          obtain ⟨token, rest⟩ := result
          rw [tokens_getline _ _ _ _ read]
          obtain ⟨outside, rfl | ⟨rfl, rfl, filled⟩⟩ := getline_cases _ _ _ _ read
          · have shorter := getline_consumes _ _ _ _ read
            rw [List.splitOn_append_cons_self_of_not_mem outside,
              trimmed_cons _ _ (List.splitOn_ne_nil _ _), ih rest.length shorter rest rfl]
          · simp [List.splitOn_eq_singleton outside, tokens_nil, trimmed, filled]

/-- The first token of a text: the text itself, or what stands before a delimiter. -/
theorem tokens_cons_iff (delimiter : UInt8) (text first : Bytes) (others : List Bytes) :
    tokens delimiter text = first :: others ↔ delimiter ∉ first ∧
      ((text = first ∧ first ≠ [] ∧ others = []) ∨
        ∃ rest, text = first ++ delimiter :: rest ∧ tokens delimiter rest = others) := by
  constructor
  · intro read
    cases found : getline delimiter text with
    | none =>
        rw [(getline_none_iff _ _).mp found, tokens_nil] at read
        cases read
    | some result =>
        obtain ⟨token, rest⟩ := result
        rw [tokens_getline _ _ _ _ found] at read
        obtain ⟨rfl, rfl⟩ := List.cons.inj read
        obtain ⟨outside, whole | ⟨whole, rfl, filled⟩⟩ := getline_cases _ _ _ _ found
        · exact ⟨outside, Or.inr ⟨rest, whole, rfl⟩⟩
        · exact ⟨outside, Or.inl ⟨whole, filled, tokens_nil _⟩⟩
  · rintro ⟨outside, ⟨rfl, filled, rfl⟩ | ⟨rest, rfl, rfl⟩⟩
    · rw [tokens_eq_trimmed, List.splitOn_eq_singleton outside]
      simp [trimmed, filled]
    · exact tokens_getline _ _ _ _ (getline_delimited delimiter first rest outside)

end TextStreams
