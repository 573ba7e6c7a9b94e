import LnpResolver.UriText

/-!
SIP URIs as RFC 3261 has them, read and rendered like the URIs of `UriGrammar`:
user and password, host and port, parameters and headers. Hosts are names and IPv4
addresses; IPv6 references in brackets are left out.
-/

namespace SipUriGrammar

open PackedBytes (Bytes)
open CStrings (isdigit hexDigit)
open UriText

/-- `&` `=` `+` `$` `,` `;` `?` `/` -/
def userUnreserved (byte : UInt8) : Bool :=
  byte = ampersand || byte = equalsSign || byte = 43 || byte = 36 || byte = 44 ||
    byte = semicolon || byte = question || byte = slash

/-- RFC 3261 also counts `!` `'` `(` `)` `*` as unreserved. -/
def sipUnreserved (byte : UInt8) : Bool :=
  isUnreserved byte || byte = 33 || (39 ≤ byte && byte ≤ 42)

def userChar (byte : UInt8) : Bool := sipUnreserved byte || userUnreserved byte

def passwordChar (byte : UInt8) : Bool :=
  sipUnreserved byte || byte = ampersand || byte = equalsSign || byte = 43 || byte = 36 || byte = 44

/-- With `[` `]` `/` `:` `&` `+` `$`. -/
def paramChar (byte : UInt8) : Bool :=
  sipUnreserved byte || byte = 91 || byte = 93 || byte = slash || byte = colon ||
    byte = ampersand || byte = 43 || byte = 36

/-- With `[` `]` `/` `?` `:` `+` `$`. -/
def headerChar (byte : UInt8) : Bool :=
  sipUnreserved byte || byte = 91 || byte = 93 || byte = slash || byte = question ||
    byte = colon || byte = 43 || byte = 36

def alphanumeric (byte : UInt8) : Bool := isAlpha byte || isdigit byte

def domainLabel (label : Bytes) : Bool :=
  label.head?.any alphanumeric && label.getLast?.any alphanumeric &&
    label.all fun byte => alphanumeric byte || byte = hyphen

/-- Labels between dots, the last of them starting with a letter; one dot may follow. -/
def hostname (labels : List Bytes) : Bool :=
  let names := if labels.getLast? = some [] then labels.dropLast else labels
  names.all domainLabel && names.getLast?.any fun label => label.head?.any isAlpha

def ipv4Address (labels : List Bytes) : Bool :=
  labels.length = 4 && labels.all fun label =>
    1 ≤ label.length && label.length ≤ 3 && label.all isdigit

def sipHost (host : Bytes) : Bool :=
  host.all (fun byte => alphanumeric byte || byte = hyphen || byte = dot) &&
    (hostname (host.splitOn dot) || ipv4Address (host.splitOn dot))

structure SipUri where
  userinfo : Option (Bytes × Option Bytes)
  host : Bytes
  port : Option Bytes
  parameters : Option (List Parameter)
  headers : Option (List Parameter)
  deriving DecidableEq, Repr

def sipScheme : Bytes := [115, 105, 112]

def SipUri.target (uri : SipUri) : Bytes :=
  joinAt question (joinAt semicolon (joinAt colon (uri.host, uri.port),
    uri.parameters.map (joinList semicolon)), uri.headers.map (joinList ampersand))

def SipUri.render (uri : SipUri) : Bytes :=
  joinAt colon (sipScheme, some (match uri.userinfo with
    | none => uri.target
    | some userinfo => joinAt atSign (joinAt colon userinfo, some uri.target)))

def sipTarget (userinfo : Option (Bytes × Option Bytes)) (text : Bytes) : SipUri :=
  let front := cutAt question text
  let address := cutAt semicolon front.1
  let hostPort := cutAt colon address.1
  { userinfo := userinfo
    host := hostPort.1
    port := hostPort.2
    parameters := address.2.map (cutList semicolon)
    headers := front.2.map (cutList ampersand) }

def sipDissect (text : Bytes) : SipUri :=
  match cutAt atSign text with
  | (text, none) => sipTarget none text
  | (userinfo, some text) => sipTarget (some (cutAt colon userinfo)) text

def sipParameterValid (parameter : Parameter) : Bool :=
  parameter.1 ≠ [] && encoded paramChar parameter.1 &&
    parameter.2.all fun value => value ≠ [] && encoded paramChar value

def sipHeaderValid (header : Parameter) : Bool :=
  header.1 ≠ [] && encoded headerChar header.1 && header.2.any (encoded headerChar)

def SipUri.valid (uri : SipUri) : Bool :=
  uri.userinfo.all (fun userinfo => userinfo.1 ≠ [] && encoded userChar userinfo.1 &&
      userinfo.2.all (encoded passwordChar)) &&
    sipHost uri.host && uri.port.all (fun port => port ≠ [] && port.all isdigit) &&
    uri.parameters.all (fun parameters => parameters ≠ [] && parameters.all sipParameterValid) &&
    uri.headers.all (fun headers => headers ≠ [] && headers.all sipHeaderValid)

def sipRead (text : Bytes) : Option SipUri :=
  match cutAt colon text with
  | (_, none) => none
  | (scheme, some rest) =>
      if scheme = sipScheme ∧ (sipDissect rest).valid then some (sipDissect rest) else none

theorem target_sipTarget (userinfo : Option (Bytes × Option Bytes)) (text : Bytes) :
    (sipTarget userinfo text).target = text := by
  have parameters : joinList semicolon ∘ cutList semicolon = id :=
    funext (join_cutList semicolon)
  have headers : joinList ampersand ∘ cutList ampersand = id :=
    funext (join_cutList ampersand)
  simp only [SipUri.target, sipTarget, Option.map_map, parameters, headers, Option.map_id_fun, id,
    Prod.mk.eta, join_cutAt]

theorem render_sipDissect (text : Bytes) :
    (sipDissect text).render = joinAt colon (sipScheme, some text) := by
  have whole := join_cutAt atSign text
  unfold sipDissect
  split
  · rename_i front cut
    rw [cut] at whole
    have same : front = text := whole
    rw [SipUri.render, ← same]
    exact congrArg (fun rest => joinAt colon (sipScheme, some rest)) (target_sipTarget none front)
  · rename_i userinfo rest cut
    rw [cut] at whole
    have target := target_sipTarget (some (cutAt colon userinfo)) rest
    have front : joinAt colon (cutAt colon userinfo) = userinfo := join_cutAt colon userinfo
    rw [SipUri.render, ← whole]
    simp only [sipTarget] at target ⊢
    rw [target, front]

theorem parameter_encoded {parameter : Parameter} (valid : sipParameterValid parameter = true) :
    encoded paramChar parameter.1 = true ∧
      ∀ text, parameter.2 = some text → encoded paramChar text = true := by
  simp only [sipParameterValid, Bool.and_eq_true] at valid
  refine ⟨valid.1.2, fun text there => ?_⟩
  rw [there, Option.all_some, Bool.and_eq_true] at valid
  exact valid.2.2

theorem header_encoded {header : Parameter} (valid : sipHeaderValid header = true) :
    encoded headerChar header.1 = true ∧
      ∀ text, header.2 = some text → encoded headerChar text = true := by
  simp only [sipHeaderValid, Bool.and_eq_true] at valid
  refine ⟨valid.1.2, fun text there => ?_⟩
  rw [there, Option.any_some] at valid
  exact valid.2

section SipRendered

variable {uri : SipUri} (valid : uri.valid = true)
include valid

theorem SipUri.valid_parts :
    (∀ userinfo, uri.userinfo = some userinfo → userinfo.1 ≠ [] ∧
      encoded userChar userinfo.1 = true ∧ userinfo.2.all (encoded passwordChar) = true) ∧
    sipHost uri.host = true ∧ uri.port.all (List.all · isdigit) = true ∧
    (∀ parameters, uri.parameters = some parameters → parameters ≠ [] ∧
      ∀ parameter ∈ parameters, sipParameterValid parameter = true) ∧
    (∀ headers, uri.headers = some headers → headers ≠ [] ∧
      ∀ header ∈ headers, sipHeaderValid header = true) := by
  simp only [SipUri.valid, Bool.and_eq_true] at valid
  obtain ⟨⟨⟨⟨user, host⟩, port⟩, parameters⟩, headers⟩ := valid
  refine ⟨?_, host, ?_, ?_, ?_⟩
  · intro userinfo there
    rw [there] at user
    simpa [and_assoc] using user
  · cases there : uri.port with
    | none => rfl
    | some digits =>
        rw [there] at port
        simp only [Option.all_some, Bool.and_eq_true] at port ⊢
        exact port.2
  · intro list there
    rw [there] at parameters
    simpa using parameters
  · intro list there
    rw [there] at headers
    simpa using headers

theorem SipUri.host_free {byte : UInt8}
    (outside : alphanumeric byte = false ∧ byte ≠ hyphen ∧ byte ≠ dot) : byte ∉ uri.host := by
  obtain ⟨_, host, _, _, _⟩ := SipUri.valid_parts valid
  intro member
  rw [sipHost, Bool.and_eq_true] at host
  have allowed := List.all_eq_true.mp host.1 byte member
  simp [outside] at allowed

theorem SipUri.parameters_free {byte : UInt8} (parameters : List Parameter)
    (there : uri.parameters = some parameters)
    (outside : paramChar byte = false ∧ hexDigit byte = none ∧ byte ≠ percent)
    (other : byte ≠ equalsSign) :
    ∀ parameter ∈ parameters, byte ∉ joinAt equalsSign parameter := by
  obtain ⟨_, _, _, lists, _⟩ := SipUri.valid_parts valid
  intro parameter member
  obtain ⟨name, value⟩ := parameter_encoded ((lists parameters there).2 parameter member)
  exact parameter_free name value outside other

theorem SipUri.headers_free {byte : UInt8} (headers : List Parameter)
    (there : uri.headers = some headers)
    (outside : headerChar byte = false ∧ hexDigit byte = none ∧ byte ≠ percent)
    (other : byte ≠ equalsSign) :
    ∀ header ∈ headers, byte ∉ joinAt equalsSign header := by
  obtain ⟨_, _, _, _, lists⟩ := SipUri.valid_parts valid
  intro header member
  obtain ⟨name, value⟩ := header_encoded ((lists headers there).2 header member)
  exact parameter_free name value outside other

/-- A delimiter of none of the parts of the address. -/
theorem SipUri.address_free {byte : UInt8}
    (host : alphanumeric byte = false ∧ byte ≠ hyphen ∧ byte ≠ dot)
    (parameters : paramChar byte = false ∧ hexDigit byte = none ∧ byte ≠ percent)
    (delimiter : byte ≠ colon ∧ byte ≠ semicolon ∧ byte ≠ equalsSign) :
    byte ∉ joinAt semicolon (joinAt colon (uri.host, uri.port),
      uri.parameters.map (joinList semicolon)) := by
  obtain ⟨_, _, port, _, _⟩ := SipUri.valid_parts valid
  have noDigit : isdigit byte = false := by
    have other := host.1
    simp only [alphanumeric, Bool.or_eq_false_iff] at other
    exact other.2
  refine joinAt_free ?_ ?_ delimiter.2.1
  · exact host_port_free (SipUri.host_free valid host) port ⟨noDigit, delimiter.1⟩
  · intro after there
    obtain ⟨list, listed, rfl⟩ := Option.map_eq_some_iff.mp there
    exact joinList_free (SipUri.parameters_free valid list listed parameters delimiter.2.2)
      delimiter.2.1

theorem SipUri.target_free {byte : UInt8}
    (host : alphanumeric byte = false ∧ byte ≠ hyphen ∧ byte ≠ dot)
    (lists : paramChar byte = false ∧ headerChar byte = false ∧ hexDigit byte = none ∧ byte ≠ percent)
    (delimiter : (byte ≠ colon ∧ byte ≠ semicolon ∧ byte ≠ equalsSign) ∧
      byte ≠ question ∧ byte ≠ ampersand) : byte ∉ uri.target := by
  refine joinAt_free ?_ ?_ delimiter.2.1
  · exact SipUri.address_free valid host ⟨lists.1, lists.2.2⟩ delimiter.1
  · intro after there
    obtain ⟨list, listed, rfl⟩ := Option.map_eq_some_iff.mp there
    exact joinList_free (SipUri.headers_free valid list listed lists.2 delimiter.1.2.2)
      delimiter.2.2

theorem sipTarget_target : sipTarget uri.userinfo uri.target = uri := by
  obtain ⟨_, _, port, parameterLists, headerLists⟩ := SipUri.valid_parts valid
  have front : question ∉ joinAt semicolon (joinAt colon (uri.host, uri.port),
      uri.parameters.map (joinList semicolon)) :=
    SipUri.address_free valid (by decide) (by decide) (by decide)
  have address : semicolon ∉ joinAt colon (uri.host, uri.port) :=
    host_port_free (SipUri.host_free valid (by decide)) port (by decide)
  have host : colon ∉ uri.host := SipUri.host_free valid (by decide)
  have parameters : (uri.parameters.map (joinList semicolon)).map (cutList semicolon) =
      uri.parameters := by
    cases there : uri.parameters with
    | none => rfl
    | some list =>
        refine congrArg some (cutList_join (parameterLists list there).1 ?_)
        intro parameter member
        have parts := parameter_encoded ((parameterLists list there).2 parameter member)
        exact ⟨encoded_free parts.1 (by decide),
          SipUri.parameters_free valid list there (by decide) (by decide) parameter member⟩
  have headers : (uri.headers.map (joinList ampersand)).map (cutList ampersand) = uri.headers := by
    cases there : uri.headers with
    | none => rfl
    | some list =>
        refine congrArg some (cutList_join (headerLists list there).1 ?_)
        intro header member
        have parts := header_encoded ((headerLists list there).2 header member)
        exact ⟨encoded_free parts.1 (by decide),
          SipUri.headers_free valid list there (by decide) (by decide) header member⟩
  simp only [sipTarget, SipUri.target, cutAt_join front, cutAt_join address, cutAt_join host,
    parameters, headers]

theorem sipRead_render : sipRead uri.render = some uri := by
  obtain ⟨users, _, _, _, _⟩ := SipUri.valid_parts valid
  have scheme : colon ∉ sipScheme := by decide
  have parts : sipDissect (match uri.userinfo with
      | none => uri.target
      | some userinfo => joinAt atSign (joinAt colon userinfo, some uri.target)) = uri := by
    have whole := sipTarget_target valid
    cases there : uri.userinfo with
    | none =>
        rw [there] at whole
        have alone : atSign ∉ uri.target :=
          SipUri.target_free valid (by decide) (by decide) (by decide)
        simpa [sipDissect, cutAt_free alone] using whole
    | some userinfo =>
        obtain ⟨_, user, password⟩ := users userinfo there
        have front : atSign ∉ joinAt colon userinfo := by
          refine joinAt_free (encoded_free user (by decide)) ?_ (by decide)
          intro after same
          rw [same] at password
          exact encoded_free password (by decide)
        have name : colon ∉ userinfo.1 := encoded_free user (by decide)
        have cut : cutAt colon (joinAt colon userinfo) = userinfo := cutAt_join name userinfo.2
        rw [there] at whole
        simpa [sipDissect, cutAt_join front, cut] using whole
  rw [sipRead, SipUri.render, cutAt_join scheme]
  simp only [parts, valid, and_self, ↓reduceIte]

theorem SipUri.render_noNul : 0 ∉ uri.render := by
  obtain ⟨users, _, _, _, _⟩ := SipUri.valid_parts valid
  have target : 0 ∉ uri.target :=
    SipUri.target_free valid (by decide) (by decide) (by decide)
  have scheme : 0 ∉ sipScheme := by decide
  refine joinAt_free scheme ?_ (by decide)
  rintro after ⟨⟩
  cases there : uri.userinfo with
  | none => exact target
  | some userinfo =>
      obtain ⟨_, user, password⟩ := users userinfo there
      refine joinAt_free (joinAt_free (encoded_free user (by decide)) ?_ (by decide)) ?_ (by decide)
      · intro text same
        rw [same] at password
        exact encoded_free password (by decide)
      · rintro text ⟨⟩
        exact target

end SipRendered

theorem sipRead_iff (text : Bytes) (uri : SipUri) :
    sipRead text = some uri ↔ uri.valid = true ∧ uri.render = text := by
  constructor
  · intro found
    have whole := join_cutAt colon text
    unfold sipRead at found
    split at found
    · cases found
    · rename_i scheme rest cut
      split at found
      · rename_i passes
        cases found
        rw [cut, passes.1] at whole
        exact ⟨passes.2, (render_sipDissect rest).trans whole⟩
      · cases found
  · rintro ⟨valid, rfl⟩
    exact sipRead_render valid

end SipUriGrammar
