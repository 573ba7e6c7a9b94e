import LnpResolver.UriText

/-!
URI references as RFC 3986 has them. A text is cut at its delimiters and the parts
are checked against their character classes; putting the parts together again is the
inverse on everything that passes (`read_iff`). A path is read as the segments
between slashes, a query as parameters between ampersands, each cut at its first
equals sign. Hosts are names and IPv4 addresses; IP literals in brackets are left out.
-/

namespace UriGrammar

open PackedBytes (Bytes)
open CStrings (isdigit hexDigit)
open UriText

/-! The authority of a URI. -/

structure Authority where
  userinfo : Option Bytes
  host : Bytes
  port : Option Bytes
  deriving DecidableEq, Repr

def Authority.dissect (text : Bytes) : Authority :=
  match cutAt atSign text with
  | (front, none) => ⟨none, (cutAt colon front).1, (cutAt colon front).2⟩
  | (front, some rest) => ⟨some front, (cutAt colon rest).1, (cutAt colon rest).2⟩

def Authority.render (authority : Authority) : Bytes :=
  match authority.userinfo with
  | none => joinAt colon (authority.host, authority.port)
  | some userinfo => joinAt atSign (userinfo, some (joinAt colon (authority.host, authority.port)))

def Authority.valid (authority : Authority) : Bool :=
  authority.userinfo.all (encoded userinfoChar) && encoded regNameChar authority.host &&
    authority.port.all (List.all · isdigit)

@[simp] theorem Authority.render_dissect (text : Bytes) : (dissect text).render = text := by
  have whole := join_cutAt atSign text
  unfold dissect
  split
  · rename_i front cut
    rw [cut] at whole
    exact (join_cutAt colon front).trans whole
  · rename_i front rest cut
    rw [cut] at whole
    simpa [render] using whole

/-- A delimiter that occurs in no part of an authority. -/
theorem Authority.render_free {byte : UInt8} {authority : Authority} (valid : authority.valid = true)
    (outside : regNameChar byte = false ∧ hexDigit byte = none ∧ byte ≠ percent)
    (delimiter : byte ≠ colon ∧ byte ≠ atSign) : byte ∉ authority.render := by
  have noDigit : isdigit byte = false := by
    have other := outside.1
    simp only [regNameChar, isUnreserved, Bool.or_eq_false_iff] at other
    exact other.1.1.1.1.1.2
  have noUser : userinfoChar byte = false := by
    simp [userinfoChar, outside.1, delimiter.1]
  simp only [Authority.valid, Bool.and_eq_true] at valid
  have host : byte ∉ joinAt colon (authority.host, authority.port) :=
    host_port_free (encoded_free valid.1.2 outside) valid.2 ⟨noDigit, delimiter.1⟩
  unfold Authority.render
  split
  · exact host
  · rename_i user named
    rw [named] at valid
    have inUser : byte ∉ user := encoded_free valid.1.1 ⟨noUser, outside.2⟩
    refine joinAt_free inUser ?_ delimiter.2
    rintro after ⟨⟩
    exact host

theorem Authority.dissect_render {authority : Authority} (valid : authority.valid = true) :
    dissect authority.render = authority := by
  obtain ⟨userinfo, host, port⟩ := authority
  simp only [Authority.valid, Bool.and_eq_true] at valid
  obtain ⟨⟨user, name⟩, digits⟩ := valid
  have hostCut : cutAt colon (joinAt colon (host, port)) = (host, port) :=
    cutAt_join (encoded_free name (by decide)) port
  cases userinfo with
  | none =>
      have free : atSign ∉ joinAt colon (host, port) :=
        host_port_free (encoded_free name (by decide)) digits (by decide)
      simp [render, dissect, cutAt_free free, hostCut]
  | some text =>
      have front : atSign ∉ text := encoded_free user (by decide)
      simp [render, dissect, cutAt_join front _, hostCut]

/-! Scheme, authority and path of the part in front of query and fragment. -/

def cutScheme (text : Bytes) : Option Bytes × Bytes :=
  match cutAt colon text with
  | (_, none) => (none, text)
  | (scheme, some rest) =>
      if scheme = [] ∨ slash ∈ scheme then (none, text) else (some scheme, rest)

def joinScheme : Option Bytes → Bytes → Bytes
  | none, rest => rest
  | some scheme, rest => joinAt colon (scheme, some rest)

def cutAuthority : Bytes → Option Bytes × Bytes
  | first :: second :: rest =>
      if first = slash ∧ second = slash then
        match cutAt slash rest with
        | (authority, none) => (some authority, [])
        | (authority, some path) => (some authority, slash :: path)
      else (none, first :: second :: rest)
  | text => (none, text)

def joinAuthority : Option Bytes → Bytes → Bytes
  | none, path => path
  | some authority, path => slash :: slash :: (authority ++ path)

theorem join_cutScheme (text : Bytes) :
    joinScheme (cutScheme text).1 (cutScheme text).2 = text := by
  have whole := join_cutAt colon text
  unfold cutScheme
  split
  · rfl
  · rename_i scheme rest cut
    split
    · rfl
    · rw [cut] at whole
      exact whole

theorem join_cutAuthority (text : Bytes) :
    joinAuthority (cutAuthority text).1 (cutAuthority text).2 = text := by
  fun_cases cutAuthority text with
  | case1 first second rest opens authority cut =>
      have whole := join_cutAt slash rest
      rw [cut] at whole
      simp [opens, joinAuthority, ← whole, joinAt]
  | case2 first second rest opens authority path cut =>
      have whole := join_cutAt slash rest
      rw [cut] at whole
      simp [opens, joinAuthority, ← whole, joinAt]
  | case3 | case4 => rfl

theorem cutScheme_some {scheme : Bytes} (filled : scheme ≠ []) (plain : colon ∉ scheme)
    (flat : slash ∉ scheme) (rest : Bytes) :
    cutScheme (joinScheme (some scheme) rest) = (some scheme, rest) := by
  simp [cutScheme, joinScheme, cutAt_join plain, filled, flat]

theorem cutAt_fst_append {separator : UInt8} {before : Bytes} (free : separator ∉ before)
    (after : Bytes) :
    (cutAt separator (before ++ after)).1 = before ++ (cutAt separator after).1 := by
  induction before with
  | nil => rfl
  | cons byte rest ih =>
      simp only [List.mem_cons, not_or] at free
      simp [cutAt, Ne.symm free.1, ih free.2]

-- a colon behind the first slash does not end a scheme
theorem cutScheme_none {text : Bytes} (plain : colon ∉ (cutAt slash text).1) :
    cutScheme text = (none, text) := by
  have whole := join_cutAt colon text
  unfold cutScheme
  split
  · rfl
  · rename_i scheme rest cut
    rw [if_pos]
    by_contra neither
    rw [not_or] at neither
    rw [cut, joinAt] at whole
    apply plain
    rw [← whole, cutAt_fst_append neither.2]
    simp [cutAt, show colon ≠ slash by decide]

theorem cutAuthority_some {authority : Bytes} (flat : slash ∉ authority) {path : Bytes}
    (rooted : ∀ first ∈ path.head?, first = slash) :
    cutAuthority (joinAuthority (some authority) path) = (some authority, path) := by
  cases path with
  | nil =>
      have cut : cutAt slash authority = (authority, none) := cutAt_free flat
      simp [joinAuthority, cutAuthority, cut]
  | cons first path =>
      have root : first = slash := rooted first rfl
      have cut : cutAt slash (authority ++ slash :: path) = (authority, some path) :=
        cutAt_join flat (some path)
      simp [joinAuthority, cutAuthority, root, cut]

theorem cutAuthority_none {text : Bytes} (single : ∀ rest, text ≠ slash :: slash :: rest) :
    cutAuthority text = (none, text) := by
  fun_cases cutAuthority text with
  | case1 first second rest opens | case2 first second rest opens =>
      exact absurd (by rw [opens.1, opens.2]) (single rest)
  | case3 | case4 => rfl

/-! URI references. -/

structure Uri where
  scheme : Option Bytes
  authority : Option Authority
  path : List Bytes
  query : Option (List Parameter)
  fragment : Option Bytes
  deriving DecidableEq, Repr

def Uri.hierarchy (uri : Uri) : Bytes :=
  joinScheme uri.scheme
    (joinAuthority (uri.authority.map Authority.render) ([slash].intercalate uri.path))

def Uri.render (uri : Uri) : Bytes :=
  joinAt hash (joinAt question (uri.hierarchy, uri.query.map (joinList ampersand)), uri.fragment)

def dissect (text : Bytes) : Uri :=
  let front := cutAt hash text
  let hierarchy := cutAt question front.1
  let scheme := cutScheme hierarchy.1
  let authority := cutAuthority scheme.2
  { scheme := scheme.1
    authority := authority.1.map Authority.dissect
    path := authority.2.splitOn slash
    query := hierarchy.2.map (cutList ampersand)
    fragment := front.2 }

theorem render_dissect (text : Bytes) : (dissect text).render = text := by
  have hierarchy : (dissect text).hierarchy = (cutAt question (cutAt hash text).1).1 := by
    simp only [Uri.hierarchy, dissect, Option.map_map, List.intercalate_splitOn]
    have whole : Authority.render ∘ Authority.dissect = id := by
      funext authority
      exact Authority.render_dissect authority
    rw [whole, Option.map_id_fun, id, join_cutAuthority, join_cutScheme]
  have query : (dissect text).query.map (joinList ampersand) =
      (cutAt question (cutAt hash text).1).2 := by
    have whole : joinList ampersand ∘ cutList ampersand = id := by
      funext query
      exact join_cutList ampersand query
    rw [dissect, Option.map_map, whole, Option.map_id_fun, id]
  rw [Uri.render, hierarchy, query, join_cutAt]
  exact join_cutAt hash text

def schemeValid (scheme : Bytes) : Bool :=
  scheme.head?.any isAlpha && scheme.all schemeChar

/-- A path behind an authority is empty or starts with a slash; without one it does
not start with two, and without a scheme its first segment has no colon. -/
def Uri.pathFits (uri : Uri) : Bool :=
  match uri.authority, uri.path with
  | _, [] => false
  | some _, first :: _ => first = []
  | none, first :: rest =>
      !(first = [] && rest.head? = some [] && 1 < rest.length) &&
        (uri.scheme.isSome || colon ∉ first)

def valueChar (byte : UInt8) : Bool := queryChar byte && byte ≠ ampersand
def nameChar (byte : UInt8) : Bool := valueChar byte && byte ≠ equalsSign

def parameterValid (parameter : Parameter) : Bool :=
  encoded nameChar parameter.1 && parameter.2.all (encoded valueChar)

def Uri.valid (uri : Uri) : Bool :=
  uri.scheme.all schemeValid && uri.authority.all Authority.valid &&
    uri.path.all (encoded pchar) && uri.pathFits &&
    uri.query.all (fun query => query ≠ [] && query.all parameterValid) &&
    uri.fragment.all (encoded queryChar)

def read (text : Bytes) : Option Uri :=
  if (dissect text).valid then some (dissect text) else none

/-! Reading a rendered URI. -/

section Rendered

variable {uri : Uri} (valid : uri.valid = true)
include valid

theorem Uri.valid_parts :
    uri.scheme.all schemeValid = true ∧ uri.authority.all Authority.valid = true ∧
      (∀ segment ∈ uri.path, encoded pchar segment = true) ∧ uri.pathFits = true ∧
      (∀ query, uri.query = some query → query ≠ [] ∧
        ∀ parameter ∈ query, parameterValid parameter = true) ∧
      uri.fragment.all (encoded queryChar) = true := by
  simp only [Uri.valid, Bool.and_eq_true, List.all_eq_true] at valid
  obtain ⟨⟨⟨⟨⟨scheme, authority⟩, path⟩, fits⟩, query⟩, fragment⟩ := valid
  refine ⟨scheme, authority, path, fits, ?_, fragment⟩
  intro parameters there
  rw [there] at query
  simpa using query

theorem Uri.first_segment : ∃ first rest, uri.path = first :: rest ∧ slash ∉ first ∧
    cutAt slash ([slash].intercalate uri.path) =
      (first, if rest = [] then none else some ([slash].intercalate rest)) := by
  obtain ⟨_, _, segments, fits, _, _⟩ := Uri.valid_parts valid
  cases path : uri.path with
  | nil => cases authority : uri.authority <;> simp [Uri.pathFits, path, authority] at fits
  | cons first rest =>
      have flat : slash ∉ first :=
        encoded_free (segments first (path ▸ List.mem_cons_self)) (by decide)
      refine ⟨first, rest, rfl, flat, ?_⟩
      rw [intercalate_joinAt, cutAt_join flat]

theorem Uri.rooted (there : uri.authority.isSome = true) :
    ∀ byte ∈ ([slash].intercalate uri.path).head?, byte = slash := by
  obtain ⟨first, rest, path, _, _⟩ := Uri.first_segment valid
  obtain ⟨_, _, _, fits, _, _⟩ := Uri.valid_parts valid
  obtain ⟨authority, same⟩ := Option.isSome_iff_exists.mp there
  have empty : first = [] := by simpa [Uri.pathFits, path, same] using fits
  rw [path, intercalate_joinAt, empty]
  intro byte member
  split at member
  · cases member
  · exact (Option.some.inj member).symm

theorem Uri.single (absent : uri.authority = none) :
    ∀ rest, [slash].intercalate uri.path ≠ slash :: slash :: rest := by
  intro tail same
  obtain ⟨first, rest, path, _, cut⟩ := Uri.first_segment valid
  obtain ⟨_, _, segments, fits, _, _⟩ := Uri.valid_parts valid
  -- two slashes in front are an empty first segment and an empty second one with more behind it
  have parts : cutAt slash (slash :: slash :: tail) = ([], some (slash :: tail)) := by simp [cutAt]
  rw [same, parts, Prod.mk.injEq] at cut
  cases rest with
  | nil => simp at cut
  | cons second more =>
      have flat : slash ∉ second :=
        encoded_free (segments second (by rw [path]; simp)) (by decide)
      have after : joinAt slash (second, if more = [] then none else
          some ([slash].intercalate more)) = slash :: tail := by
        rw [← intercalate_joinAt]
        exact (Option.some.inj cut.2).symm
      have again := congrArg (cutAt slash) after
      rw [cutAt_join flat, cutAt, if_pos rfl, Prod.mk.injEq] at again
      cases more with
      | nil => simp at again
      | cons third more => simp [Uri.pathFits, absent, path, ← cut.1, again.1] at fits

theorem Uri.hierarchy_free {byte : UInt8}
    (outside : pchar byte = false ∧ hexDigit byte = none ∧ byte ≠ percent)
    (delimiter : byte ≠ slash ∧ schemeChar byte = false) : byte ∉ uri.hierarchy := by
  obtain ⟨scheme, authority, segments, _, _, _⟩ := Uri.valid_parts valid
  obtain ⟨⟨name, noColon⟩, noAt⟩ : (regNameChar byte = false ∧ byte ≠ colon) ∧ byte ≠ atSign := by
    simpa [pchar] using outside.1
  have path : byte ∉ [slash].intercalate uri.path := by
    intro member
    rcases mem_intercalate member with same | ⟨segment, known, inside⟩
    · exact delimiter.1 same
    · exact encoded_free (segments segment known) outside inside
  have rest : byte ∉ joinAuthority (uri.authority.map Authority.render)
      ([slash].intercalate uri.path) := by
    cases there : uri.authority with
    | none => exact path
    | some parts =>
        rw [there] at authority
        have whole : byte ∉ parts.render :=
          Authority.render_free authority ⟨name, outside.2⟩ ⟨noColon, noAt⟩
        simp [joinAuthority, delimiter.1, whole, path]
  unfold Uri.hierarchy
  cases there : uri.scheme with
  | none => exact rest
  | some text =>
      rw [there, Option.all_some, schemeValid, Bool.and_eq_true] at scheme
      have inScheme : byte ∉ text := by
        intro member
        rw [List.all_eq_true.mp scheme.2 byte member] at delimiter
        cases delimiter.2
      simp [joinScheme, joinAt, inScheme, noColon, rest]

theorem Uri.parameters_free {byte : UInt8} (query : List Parameter) (there : uri.query = some query)
    (outside : valueChar byte = false ∧ hexDigit byte = none ∧ byte ≠ percent)
    (other : byte ≠ equalsSign) : ∀ parameter ∈ query, byte ∉ joinAt equalsSign parameter := by
  obtain ⟨_, _, _, _, queries, _⟩ := Uri.valid_parts valid
  intro parameter known
  have parts := (queries query there).2 parameter known
  rw [parameterValid, Bool.and_eq_true] at parts
  refine joinAt_free (encoded_free parts.1 ⟨?_, outside.2⟩) ?_ other
  · rw [nameChar, outside.1, Bool.false_and]
  · intro value same
    rw [same] at parts
    exact encoded_free parts.2 outside

theorem Uri.cut_query (query : List Parameter) (there : uri.query = some query) :
    cutList ampersand (joinList ampersand query) = query := by
  obtain ⟨_, _, _, _, queries, _⟩ := Uri.valid_parts valid
  apply cutList_join (queries query there).1
  intro parameter known
  have parts := (queries query there).2 parameter known
  rw [parameterValid, Bool.and_eq_true] at parts
  exact ⟨encoded_free parts.1 (by decide),
    Uri.parameters_free valid query there (by decide) (by decide) parameter known⟩

/-- A delimiter in front of which neither path nor query ends. -/
theorem Uri.front_free {byte : UInt8}
    (outside : queryChar byte = false ∧ hexDigit byte = none ∧ byte ≠ percent)
    (delimiter : schemeChar byte = false ∧ byte ≠ equalsSign ∧ byte ≠ ampersand) :
    byte ∉ joinAt question (uri.hierarchy, uri.query.map (joinList ampersand)) := by
  obtain ⟨⟨name, noSlash⟩, noQuestion⟩ :
      (pchar byte = false ∧ byte ≠ slash) ∧ byte ≠ question := by
    simpa [queryChar] using outside.1
  refine joinAt_free ?_ ?_ noQuestion
  · exact Uri.hierarchy_free valid ⟨name, outside.2⟩ ⟨noSlash, delimiter.1⟩
  · intro after there
    obtain ⟨query, listed, rfl⟩ := Option.map_eq_some_iff.mp there
    refine joinList_free (Uri.parameters_free valid query listed ?_ delimiter.2.1) delimiter.2.2
    exact ⟨by rw [valueChar, outside.1, Bool.false_and], outside.2⟩

theorem Uri.render_noNul : 0 ∉ uri.render := by
  obtain ⟨_, _, _, _, _, fragment⟩ := Uri.valid_parts valid
  refine joinAt_free (Uri.front_free valid (by decide) (by decide)) ?_ (by decide)
  intro after there
  have same : uri.fragment = some after := there
  rw [same] at fragment
  exact encoded_free fragment (by decide)

theorem Uri.cut_scheme : cutScheme uri.hierarchy =
    (uri.scheme, joinAuthority (uri.authority.map Authority.render)
      ([slash].intercalate uri.path)) := by
  obtain ⟨scheme, _, _, fits, _, _⟩ := Uri.valid_parts valid
  obtain ⟨first, rest, path, _, cut⟩ := Uri.first_segment valid
  unfold Uri.hierarchy
  cases named : uri.scheme with
  | some name =>
      rw [named, Option.all_some, schemeValid, Bool.and_eq_true] at scheme
      have outside : ∀ byte, schemeChar byte = false → byte ∉ name := by
        intro byte other member
        rw [List.all_eq_true.mp scheme.2 byte member] at other
        cases other
      apply cutScheme_some
      · rintro rfl
        simp at scheme
      · exact outside colon (by decide)
      · exact outside slash (by decide)
  | none =>
      apply cutScheme_none
      cases there : uri.authority with
      | some parts => simp [joinScheme, joinAuthority, cutAt]
      | none =>
          have free : colon ∉ first := by
            simp only [Uri.pathFits, there, path, named] at fits
            simpa using (Bool.and_eq_true_iff.mp fits).2
          simpa [joinScheme, joinAuthority, cut] using free

theorem Uri.cut_authority :
    cutAuthority (joinAuthority (uri.authority.map Authority.render)
      ([slash].intercalate uri.path)) =
      (uri.authority.map Authority.render, [slash].intercalate uri.path) := by
  obtain ⟨_, authority, _, _, _, _⟩ := Uri.valid_parts valid
  cases there : uri.authority with
  | none => exact cutAuthority_none (Uri.single valid there)
  | some parts =>
      apply cutAuthority_some
      · rw [there] at authority
        exact Authority.render_free authority (by decide) (by decide)
      · exact Uri.rooted valid (by rw [there]; rfl)

theorem dissect_render : dissect uri.render = uri := by
  obtain ⟨_, authority, segments, _, queries, _⟩ := Uri.valid_parts valid
  have front : hash ∉ joinAt question (uri.hierarchy, uri.query.map (joinList ampersand)) :=
    Uri.front_free valid (by decide) (by decide)
  have query : (uri.query.map (joinList ampersand)).map (cutList ampersand) = uri.query := by
    cases there : uri.query with
    | none => rfl
    | some query => exact congrArg some (Uri.cut_query valid query there)
  have parts : (uri.authority.map Authority.render).map Authority.dissect = uri.authority := by
    cases there : uri.authority with
    | none => rfl
    | some parts =>
        rw [there] at authority
        exact congrArg some (Authority.dissect_render authority)
  have path : ([slash].intercalate uri.path).splitOn slash = uri.path := by
    apply List.splitOn_intercalate
    · exact fun segment member => encoded_free (segments segment member) (by decide)
    · obtain ⟨first, rest, path, _, _⟩ := Uri.first_segment valid
      simp [path]
  have question : cutAt question (joinAt question (uri.hierarchy,
      uri.query.map (joinList ampersand))) = (uri.hierarchy, uri.query.map (joinList ampersand)) :=
    cutAt_join (Uri.hierarchy_free valid (by decide) (by decide)) _
  simp only [dissect, Uri.render, cutAt_join front, question, Uri.cut_scheme valid,
    Uri.cut_authority valid, query, parts, path]

end Rendered

/-- Reading and rendering are inverse to each other on valid URIs. -/
theorem read_iff (text : Bytes) (uri : Uri) :
    read text = some uri ↔ uri.valid = true ∧ uri.render = text := by
  unfold read
  constructor
  · intro found
    split at found
    · rename_i valid
      cases found
      exact ⟨valid, render_dissect text⟩
    · cases found
  · rintro ⟨valid, rfl⟩
    rw [dissect_render valid, if_pos valid]

/-! A base URI with more behind it. -/

theorem Uri.path_filled {uri : Uri} (fits : uri.pathFits = true) : uri.path ≠ [] := by
  intro empty
  cases there : uri.authority <;> simp [Uri.pathFits, there, empty] at fits

def Uri.extend (base : Uri) (more : List Bytes) (query : List Parameter) : Uri :=
  { base with path := base.path ++ more, query := some query }

theorem Uri.render_extend {base : Uri} (valid : base.valid = true) (noQuery : base.query = none)
    (noFragment : base.fragment = none) {more : List Bytes} (filled : more ≠ [])
    (query : List Parameter) :
    (base.extend more query).render =
      base.render ++ slash :: ([slash].intercalate more ++ question :: joinList ampersand query) := by
  obtain ⟨_, _, _, fits, _, _⟩ := Uri.valid_parts valid
  have path := intercalate_append slash (Uri.path_filled fits) filled
  have hierarchy : (base.extend more query).hierarchy =
      base.hierarchy ++ slash :: [slash].intercalate more := by
    simp only [Uri.extend, Uri.hierarchy, path]
    cases base.scheme <;> cases base.authority <;> simp [joinScheme, joinAuthority, joinAt]
  rw [Uri.render, Uri.render, hierarchy]
  simp [Uri.extend, noQuery, noFragment, joinAt]

/-- Segments behind a path fit wherever the path does, except behind a lone slash
that no authority precedes. -/
theorem Uri.extend_fits_iff {base : Uri} (fits : base.pathFits = true) {more : List Bytes}
    (filled : more ≠ []) (single : more.head? = some [] → more.length = 1)
    (query : List Parameter) :
    (base.extend more query).pathFits = true ↔
      ¬(base.authority = none ∧ base.path = [[], []]) := by
  cases text : base.path with
  | nil => exact absurd text (Uri.path_filled fits)
  | cons first rest =>
      cases there : base.authority with
      | some parts => simpa [Uri.pathFits, Uri.extend, there, text] using fits
      | none =>
          simp only [Uri.pathFits, there, text, Bool.and_eq_true] at fits
          obtain ⟨apart, noColon⟩ := fits
          have longer : 0 < more.length := List.length_pos_iff.mpr filled
          simp only [Uri.pathFits, Uri.extend, there, text, List.cons_append, Bool.and_eq_true,
            noColon, and_true, true_and]
          match rest with
          | [] =>
              have alone : first = [] → more.head? = some [] → more.length ≤ 1 :=
                fun _ empty => (single empty).le
              simpa [or_iff_not_imp_left] using alone
          | [second] => simp [longer, or_iff_not_imp_left]
          | second :: third :: rest => simpa using apart

theorem Uri.extend_valid_iff {base : Uri} (valid : base.valid = true) {more : List Bytes}
    (segments : more.all (encoded pchar) = true) (filled : more ≠ [])
    (single : more.head? = some [] → more.length = 1) (query : List Parameter) :
    (base.extend more query).valid = true ↔
      ¬(base.authority = none ∧ base.path = [[], []]) ∧ query ≠ [] ∧
        query.all parameterValid = true := by
  simp only [Uri.valid, Bool.and_eq_true] at valid
  obtain ⟨⟨⟨⟨⟨scheme, authority⟩, path⟩, fits⟩, _⟩, fragment⟩ := valid
  have joined : (base.path ++ more).all (encoded pchar) = true := by
    rw [List.all_append, path, segments, Bool.and_self]
  simp only [Uri.valid, Bool.and_eq_true, Uri.extend_fits_iff fits filled single]
  simp [Uri.extend, scheme, authority, joined, fragment]

end UriGrammar
