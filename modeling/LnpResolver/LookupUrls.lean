import LnpResolver.Decimals
import LnpResolver.Drivers
import LnpResolver.SipUriGrammar
import LnpResolver.UriGrammar

/-!
What a provider is asked for. Five drivers write the number of the request into the
URL or URI of the lookup as it is. Read back by the grammar of URIs, the text has the
configured parts and the number as one component exactly when every byte of the
number may stand for itself at its place; a delimiter, a percent sign or a NUL byte
makes the provider see something else.
-/

namespace LnpResolver.LookupUrls

open PackedBytes RequestWire JsonItems DriverInterface Drivers
open UriText hiding semicolon equalsSign
open CStrings (isdigit)
open UriGrammar (Uri)
open SipUriGrammar (SipUri)

/-! Embedding a text in a URL that is handed over as a C string. -/

/-- The component that is read back decodes to the embedded text exactly if the text
is a valid component that decodes to itself. -/
theorem component_iff {Target : Type} {read : Bytes → Option Target} {valid : Target → Bool}
    {render : Target → Bytes}
    (reads : ∀ text target, read text = some target ↔ valid target = true ∧ render target = text)
    (noNul : ∀ target, valid target = true → 0 ∉ render target)
    {expected : Bytes → Target} {front back : Bytes}
    (renders : ∀ raw, render (expected raw) = front ++ raw ++ back) (data : Bytes) :
    (∃ raw, read (cString (front ++ data ++ back)) = some (expected raw) ∧ pctDecode raw = data) ↔
      valid (expected data) = true ∧ pctDecode data = data := by
  constructor
  · rintro ⟨raw, found, decoded⟩
    obtain ⟨passes, text⟩ := (reads _ _).mp found
    rw [renders] at text
    -- decoding never lengthens, so nothing is cut off and the raw component is the data itself
    have longer : data.length ≤ raw.length := decoded ▸ pctDecode_length raw
    have part : cString (front ++ data ++ back) <+: front ++ data ++ back := List.takeWhile_prefix _
    have lengths := congrArg List.length text
    have bound := part.length_le
    simp only [List.length_append] at lengths bound
    have whole : cString (front ++ data ++ back) = front ++ data ++ back := by
      apply part.eq_of_length
      simp only [List.length_append]
      omega
    have same : raw = data := by
      rw [whole] at text
      exact List.append_cancel_left (List.append_cancel_right text)
    exact same ▸ ⟨passes, same ▸ decoded⟩
  · rintro ⟨passes, decoded⟩
    have whole := noNul (expected data) passes
    rw [renders] at whole
    exact ⟨data, (reads _ _).mpr ⟨passes, by rw [renders, cString_eq_self whole]⟩, decoded⟩

/-! The parts that every driver has. -/

def portText (port : UInt16) : Option Bytes :=
  if port = 0 then none else some (decimal port.toNat)

theorem join_portText (host : Bytes) (port : UInt16) :
    joinAt colon (host, portText port) =
      host ++ (if port = 0 then [] else bytesOf ":" ++ decimal port.toNat) := by
  unfold portText
  split
  · simp [joinAt]
  · simp only [joinAt]
    rfl

theorem port_digits (port : UInt16) :
    (portText port).all (fun text => text ≠ [] && text.all isdigit) = true := by
  unfold portText
  split
  · rfl
  · obtain ⟨filled, digits⟩ := Decimals.decimal_digits port.toNat
    simpa [isdigit, UInt8.le_iff_toNat_le] using ⟨filled, digits⟩

def parameter (name : String) (value : Bytes) : Parameter := (bytesOf name, some value)

/-- A text without reserved characters. -/
def Plain (text : Bytes) : Prop := ∀ byte ∈ text, isReserved byte = false

/-- A base URL whose reserved characters are the colons and slashes of its own. -/
def PlainUrl (url : Bytes) : Prop :=
  ∀ byte ∈ url, isReserved byte = true → byte = colon ∨ byte = slash

theorem plain_char {byte : UInt8} (plain : isReserved byte = false) :
    regNameChar byte = isUnreserved byte ∧ UriGrammar.valueChar byte = isUnreserved byte := by
  simp only [isReserved, isGenDelim, Bool.or_eq_false_iff, decide_eq_false_iff_not] at plain
  obtain ⟨⟨⟨⟨⟨⟨⟨noColon, noSlash⟩, noQuestion⟩, _⟩, _⟩, _⟩, noAt⟩, noSub⟩ := plain
  have noAmpersand : byte ≠ ampersand := by
    rintro rfl
    exact absurd noSub (by decide)
  simp [regNameChar, UriGrammar.valueChar, queryChar, pchar, noSub, noColon, noSlash, noQuestion,
    noAt, noAmpersand]

theorem plain_encoded {text : Bytes} (plain : Plain text) :
    encoded regNameChar text = encoded isUnreserved text ∧
      encoded UriGrammar.valueChar text = encoded isUnreserved text :=
  ⟨encoded_congr fun byte member => (plain_char (plain byte member)).1,
    encoded_congr fun byte member => (plain_char (plain byte member)).2⟩

/-! What the URLs are for: the configured parts and the number as `raw`. -/

def requestedUrl : Resolution → Bytes
  | .http request => request.url
  | _ => []

def alcazarTarget (driver : CHttpAlcazarDriver) (raw : Bytes) : Uri :=
  { scheme := some (bytesOf "http")
    authority := some ⟨none, driver.host, portText driver.port⟩
    path := [[], bytesOf "api", bytesOf "2.2", bytesOf "lrn"]
    query := some [parameter "extended" (bytesOf "true"), parameter "output" (bytesOf "json"),
      parameter "key" driver.key, parameter "tn" raw]
    fragment := none }

def thinqTarget (driver : CHttpThinqDriver) (raw : Bytes) : Uri :=
  { scheme := some (bytesOf "https")
    authority := some ⟨none, driver.host, portText driver.port⟩
    path := [[], bytesOf "lrn", bytesOf "extended", raw]
    query := some [parameter "format" (bytesOf "json")]
    fragment := none }

/-- `base` is what the configured URL is by itself. -/
def coureAnqTarget (driver : CHttpCoureAnqDriver) (base : Uri) (raw : Bytes) : Uri :=
  base.extend [bytesOf "api", bytesOf "json", bytesOf "LookUpNumber", bytesOf "GsmPortStatus"]
    [parameter "username" driver.username, parameter "password" driver.password,
      parameter "ServiceType" (bytesOf "4"), parameter "country" driver.countryCode,
      parameter "numbersToLookUp" raw]

def bulkvsTarget (driver : CHttpBulkvsDriver) (base : Uri) (raw : Bytes) : Uri :=
  base.extend [[]]
    [parameter "id" driver.token, parameter "did" raw, parameter "format" (bytesOf "json")]

def sipTarget (driver : CSipDriver) (raw : Bytes) : SipUri :=
  { userinfo := some (raw, none)
    host := driver.host
    port := portText driver.port
    parameters := none
    headers := none }

/-! The drivers write what they are configured for around the number. -/

theorem alcazar_renders (driver : CHttpAlcazarDriver) (raw : Bytes) :
    (alcazarTarget driver raw).render =
      (address "http" driver.host driver.port ++ bytesOf "/api/2.2/lrn?extended=true&output=json" ++
        bytesOf "&key=" ++ driver.key ++ bytesOf "&tn=") ++ raw ++ [] := by
  have fixed : bytesOf "/api/2.2/lrn?extended=true&output=json" =
      slash :: (bytesOf "api" ++ slash :: (bytesOf "2.2" ++ slash :: (bytesOf "lrn" ++
        question :: (bytesOf "extended" ++ UriText.equalsSign :: (bytesOf "true" ++
          ampersand :: (bytesOf "output" ++ UriText.equalsSign :: bytesOf "json")))))) := by decide
  have scheme : bytesOf "://" = [colon, slash, slash] := by decide
  have key : bytesOf "&key=" = ampersand :: (bytesOf "key" ++ [UriText.equalsSign]) := by decide
  have tn : bytesOf "&tn=" = ampersand :: (bytesOf "tn" ++ [UriText.equalsSign]) := by decide
  have authority := join_portText driver.host driver.port
  rw [address, fixed, scheme, key, tn]
  simp only [alcazarTarget, Uri.render, Uri.hierarchy, UriGrammar.joinScheme,
    UriGrammar.joinAuthority, UriGrammar.Authority.render, Option.map_some, authority]
  simp [joinAt, joinList, parameter, List.intercalate, List.intersperse]

theorem thinq_renders (driver : CHttpThinqDriver) (raw : Bytes) :
    (thinqTarget driver raw).render =
      (address "https" driver.host driver.port ++ bytesOf "/lrn/extended/") ++ raw ++
        bytesOf "?format=json" := by
  have fixed : bytesOf "/lrn/extended/" =
      slash :: (bytesOf "lrn" ++ slash :: (bytesOf "extended" ++ [slash])) := by decide
  have scheme : bytesOf "://" = [colon, slash, slash] := by decide
  have format : bytesOf "?format=json" =
      question :: (bytesOf "format" ++ UriText.equalsSign :: bytesOf "json") := by decide
  have authority := join_portText driver.host driver.port
  rw [address, fixed, scheme, format]
  simp only [thinqTarget, Uri.render, Uri.hierarchy, UriGrammar.joinScheme,
    UriGrammar.joinAuthority, UriGrammar.Authority.render, Option.map_some, authority]
  simp [joinAt, joinList, parameter, List.intercalate, List.intersperse]

section Based

variable {url : Bytes} {base : Uri} (plain : PlainUrl url)
  (found : UriGrammar.read url = some base)
include plain found

/-- A plain base URL ends with its path. -/
theorem plain_base : base.query = none ∧ base.fragment = none := by
  obtain ⟨_, rfl⟩ := (UriGrammar.read_iff url base).mp found
  have absent : ∀ byte, isReserved byte = true → byte ≠ colon → byte ≠ slash →
      byte ∉ base.render := by
    intro byte reserved noColon noSlash member
    rcases plain byte member reserved with same | same
    · exact noColon same
    · exact noSlash same
  constructor
  · by_contra present
    obtain ⟨query, same⟩ := Option.ne_none_iff_exists'.mp present
    apply absent question (by decide) (by decide) (by decide)
    rw [Uri.render, mem_joinAt, mem_joinAt, same]
    exact .inl (.inr ⟨_, rfl, .inl rfl⟩)
  · by_contra present
    obtain ⟨fragment, same⟩ := Option.ne_none_iff_exists'.mp present
    apply absent hash (by decide) (by decide) (by decide)
    rw [Uri.render, mem_joinAt, same]
    exact .inr ⟨_, rfl, .inl rfl⟩

theorem coure_anq_renders (driver : CHttpCoureAnqDriver) (raw : Bytes) :
    (coureAnqTarget driver base raw).render =
      (url ++ bytesOf "/api/json/LookUpNumber/GsmPortStatus?" ++
        bytesOf "username=" ++ driver.username ++ bytesOf "&password=" ++ driver.password ++
        bytesOf "&ServiceType=4" ++ bytesOf "&country=" ++ driver.countryCode ++
        bytesOf "&numbersToLookUp=") ++ raw ++ [] := by
  obtain ⟨noQuery, noFragment⟩ := plain_base plain found
  obtain ⟨valid, text⟩ := (UriGrammar.read_iff url base).mp found
  have fixed : bytesOf "/api/json/LookUpNumber/GsmPortStatus?" =
      slash :: (bytesOf "api" ++ slash :: (bytesOf "json" ++ slash :: (bytesOf "LookUpNumber" ++
        slash :: (bytesOf "GsmPortStatus" ++ [question])))) := by decide
  have username : bytesOf "username=" = bytesOf "username" ++ [UriText.equalsSign] := by decide
  have password : bytesOf "&password=" =
      ampersand :: (bytesOf "password" ++ [UriText.equalsSign]) := by decide
  have service : bytesOf "&ServiceType=4" =
      ampersand :: (bytesOf "ServiceType" ++ UriText.equalsSign :: bytesOf "4") := by decide
  have country : bytesOf "&country=" =
      ampersand :: (bytesOf "country" ++ [UriText.equalsSign]) := by decide
  have number : bytesOf "&numbersToLookUp=" =
      ampersand :: (bytesOf "numbersToLookUp" ++ [UriText.equalsSign]) := by decide
  rw [coureAnqTarget, Uri.render_extend valid noQuery noFragment (List.cons_ne_nil _ _), text,
    fixed, username, password, service, country, number]
  simp [joinAt, joinList, parameter, List.intercalate, List.intersperse]

theorem bulkvs_renders (driver : CHttpBulkvsDriver) (raw : Bytes) :
    (bulkvsTarget driver base raw).render =
      (url ++ bytesOf "/?id=" ++ driver.token ++ bytesOf "&did=") ++ raw ++
        bytesOf "&format=json" := by
  obtain ⟨noQuery, noFragment⟩ := plain_base plain found
  obtain ⟨valid, text⟩ := (UriGrammar.read_iff url base).mp found
  have fixed : bytesOf "/?id=" = slash :: question :: (bytesOf "id" ++ [UriText.equalsSign]) := by
    decide
  have did : bytesOf "&did=" = ampersand :: (bytesOf "did" ++ [UriText.equalsSign]) := by decide
  have format : bytesOf "&format=json" =
      ampersand :: (bytesOf "format" ++ UriText.equalsSign :: bytesOf "json") := by decide
  rw [bulkvsTarget, Uri.render_extend valid noQuery noFragment (List.cons_ne_nil _ _), text, fixed,
    did, format]
  simp [joinAt, joinList, parameter, List.intercalate, List.intersperse]

end Based

theorem sip_renders (driver : CSipDriver) (raw : Bytes) :
    (sipTarget driver raw).render = bytesOf "sip:" ++ raw ++ (bytesOf "@" ++ driver.host ++
      (if driver.port = 0 then [] else bytesOf ":" ++ decimal driver.port.toNat)) := by
  have scheme : bytesOf "sip:" = SipUriGrammar.sipScheme ++ [colon] := by decide
  have delimiter : bytesOf "@" = [atSign] := by decide
  have address := join_portText driver.host driver.port
  rw [scheme, delimiter]
  simp only [sipTarget, SipUri.render, SipUri.target, address]
  simp [joinAt]

/-! When the targets are valid. -/

theorem authority_valid (host : Bytes) (port : UInt16) :
    UriGrammar.Authority.valid ⟨none, host, portText port⟩ = encoded regNameChar host := by
  have digits : (portText port).all (List.all · isdigit) = true := by
    have filled := port_digits port
    cases text : portText port with
    | none => rfl
    | some text =>
        rw [text, Option.all_some, Bool.and_eq_true] at filled
        exact filled.2
  simp [UriGrammar.Authority.valid, digits]

theorem parameter_valid (name : String) (value : Bytes)
    (named : encoded UriGrammar.nameChar (bytesOf name) = true) :
    UriGrammar.parameterValid (parameter name value) = encoded UriGrammar.valueChar value := by
  simp [UriGrammar.parameterValid, parameter, named]

theorem alcazar_valid (driver : CHttpAlcazarDriver) (raw : Bytes) :
    (alcazarTarget driver raw).valid = true ↔ encoded regNameChar driver.host = true ∧
      encoded UriGrammar.valueChar driver.key = true ∧ encoded UriGrammar.valueChar raw = true := by
  have scheme : UriGrammar.schemeValid (bytesOf "http") = true := by decide
  have path : [[], bytesOf "api", bytesOf "2.2", bytesOf "lrn"].all (encoded pchar) = true := by
    decide
  have extended : UriGrammar.parameterValid (parameter "extended" (bytesOf "true")) = true := by
    decide
  have output : UriGrammar.parameterValid (parameter "output" (bytesOf "json")) = true := by decide
  have key := parameter_valid "key" driver.key (by decide)
  have tn := parameter_valid "tn" raw (by decide)
  simp only [Uri.valid, alcazarTarget, Uri.pathFits, Option.all_some, Option.all_none, scheme,
    authority_valid, path, List.all_cons, List.all_nil, extended, output, key, tn]
  simp

theorem thinq_valid (driver : CHttpThinqDriver) (raw : Bytes) :
    (thinqTarget driver raw).valid = true ↔
      encoded regNameChar driver.host = true ∧ encoded pchar raw = true := by
  have scheme : UriGrammar.schemeValid (bytesOf "https") = true := by decide
  have lrn : encoded pchar (bytesOf "lrn") = true := by decide
  have extended : encoded pchar (bytesOf "extended") = true := by decide
  have empty : encoded pchar [] = true := rfl
  have format : UriGrammar.parameterValid (parameter "format" (bytesOf "json")) = true := by decide
  simp only [Uri.valid, thinqTarget, Uri.pathFits, Option.all_some, Option.all_none, scheme,
    authority_valid, List.all_cons, List.all_nil, lrn, extended, empty, format]
  simp

/-- The lone slash, behind which a further segment would become an authority. -/
def LoneSlash (base : Uri) : Prop := base.authority = none ∧ base.path = [[], []]

theorem coure_anq_valid (driver : CHttpCoureAnqDriver) {base : Uri} (valid : base.valid = true)
    (raw : Bytes) : (coureAnqTarget driver base raw).valid = true ↔
      ¬LoneSlash base ∧ encoded UriGrammar.valueChar driver.username = true ∧
        encoded UriGrammar.valueChar driver.password = true ∧
        encoded UriGrammar.valueChar driver.countryCode = true ∧
        encoded UriGrammar.valueChar raw = true := by
  have service : UriGrammar.parameterValid (parameter "ServiceType" (bytesOf "4")) = true := by
    decide
  have username := parameter_valid "username" driver.username (by decide)
  have password := parameter_valid "password" driver.password (by decide)
  have country := parameter_valid "country" driver.countryCode (by decide)
  have number := parameter_valid "numbersToLookUp" raw (by decide)
  rw [coureAnqTarget, UriGrammar.Uri.extend_valid_iff valid (by decide) (List.cons_ne_nil _ _)
    (by decide)]
  simp only [List.all_cons, List.all_nil, service, username, password, country, number]
  simp [LoneSlash]

theorem bulkvs_valid (driver : CHttpBulkvsDriver) {base : Uri} (valid : base.valid = true)
    (raw : Bytes) : (bulkvsTarget driver base raw).valid = true ↔
      ¬LoneSlash base ∧ encoded UriGrammar.valueChar driver.token = true ∧
        encoded UriGrammar.valueChar raw = true := by
  have format : UriGrammar.parameterValid (parameter "format" (bytesOf "json")) = true := by decide
  have token := parameter_valid "id" driver.token (by decide)
  have number := parameter_valid "did" raw (by decide)
  rw [bulkvsTarget, UriGrammar.Uri.extend_valid_iff valid (by decide) (List.cons_ne_nil _ _)
    (by decide)]
  simp only [List.all_cons, List.all_nil, format, token, number]
  simp [LoneSlash]

theorem sip_valid (driver : CSipDriver) (raw : Bytes) :
    (sipTarget driver raw).valid = true ↔ SipUriGrammar.sipHost driver.host = true ∧ raw ≠ [] ∧
      encoded SipUriGrammar.userChar raw = true := by
  simp only [SipUri.valid, sipTarget, port_digits, Option.all_some, Option.all_none]
  simp [and_comm, and_left_comm]

/-! The five drivers. -/

inductive NumberDriver where
  | alcazar (driver : CHttpAlcazarDriver)
  | coureAnq (driver : CHttpCoureAnqDriver)
  | bulkvs (driver : CHttpBulkvsDriver)
  | thinq (driver : CHttpThinqDriver)
  | sip (driver : CSipDriver)

/-- The fields that go into the URL contain no reserved characters. -/
def PlainFields : NumberDriver → Prop
  | .alcazar driver => Plain driver.host ∧ Plain driver.key
  | .coureAnq driver => PlainUrl driver.baseUrl ∧ Plain driver.username ∧ Plain driver.password ∧
      Plain driver.countryCode
  | .bulkvs driver => PlainUrl driver.url ∧ Plain driver.token
  | .thinq driver => Plain driver.host
  | .sip driver => Plain driver.host

/-- What resolve hands over is read back as the configured parts and one component
that decodes to the number. -/
def OneComponent (request : ResolverRequest) : NumberDriver → Prop
  | .alcazar driver => ∃ raw, UriGrammar.read (requestedUrl (driver.resolve request)) =
      some (alcazarTarget driver raw) ∧ pctDecode raw = request.data
  | .coureAnq driver => ∃ base, UriGrammar.read driver.baseUrl = some base ∧
      ∃ raw, UriGrammar.read (requestedUrl (driver.resolve request)) =
        some (coureAnqTarget driver base raw) ∧ pctDecode raw = request.data
  | .bulkvs driver => ∃ base, UriGrammar.read driver.url = some base ∧
      ∃ raw, UriGrammar.read (requestedUrl (driver.resolve request)) =
        some (bulkvsTarget driver base raw) ∧ pctDecode raw = request.data
  | .thinq driver => ∃ raw, UriGrammar.read (requestedUrl (driver.resolve request)) =
      some (thinqTarget driver raw) ∧ pctDecode raw = request.data
  | .sip driver => ∃ raw, SipUriGrammar.sipRead (cString (driver.dstUri request)) =
      some (sipTarget driver raw) ∧ pctDecode raw = request.data

/-- A field of unreserved characters and percent-encoded triplets. -/
def FieldText (text : Bytes) : Prop := encoded isUnreserved text = true

/-- A base URL that is a URI reference by itself, other than the lone slash. -/
def BaseText (url : Bytes) : Prop :=
  ∃ base, UriGrammar.read url = some base ∧ ¬LoneSlash base

/-- The bytes that stand for themselves in the value of a parameter. -/
def ValueText (data : Bytes) : Prop := ∀ byte ∈ data, UriGrammar.valueChar byte = true

def Admissible (data : Bytes) : NumberDriver → Prop
  | .alcazar driver => FieldText driver.host ∧ FieldText driver.key ∧ ValueText data
  | .coureAnq driver => BaseText driver.baseUrl ∧ FieldText driver.username ∧
      FieldText driver.password ∧ FieldText driver.countryCode ∧ ValueText data
  | .bulkvs driver => BaseText driver.url ∧ FieldText driver.token ∧ ValueText data
  | .thinq driver => FieldText driver.host ∧ ∀ byte ∈ data, pchar byte = true
  | .sip driver => SipUriGrammar.sipHost driver.host = true ∧ data ≠ [] ∧
      ∀ byte ∈ data, SipUriGrammar.userChar byte = true

theorem value_iff (data : Bytes) :
    encoded UriGrammar.valueChar data = true ∧ pctDecode data = data ↔ ValueText data :=
  encoded_self_iff (by decide) data

theorem alcazar_iff (driver : CHttpAlcazarDriver) (request : ResolverRequest)
    (host : Plain driver.host) (key : Plain driver.key) :
    OneComponent request (.alcazar driver) ↔ Admissible request.data (.alcazar driver) := by
  have url : requestedUrl (driver.resolve request) = cString ((address "http" driver.host
      driver.port ++ bytesOf "/api/2.2/lrn?extended=true&output=json" ++ bytesOf "&key=" ++
      driver.key ++ bytesOf "&tn=") ++ request.data ++ []) := by
    rw [List.append_nil]
    rfl
  rw [OneComponent, url, component_iff UriGrammar.read_iff (fun _ => UriGrammar.Uri.render_noNul)
    (alcazar_renders driver), alcazar_valid, (plain_encoded host).1, (plain_encoded key).2]
  simp only [and_assoc, value_iff]
  rfl

theorem thinq_iff (driver : CHttpThinqDriver) (request : ResolverRequest)
    (host : Plain driver.host) :
    OneComponent request (.thinq driver) ↔ Admissible request.data (.thinq driver) := by
  have url : requestedUrl (driver.resolve request) = cString ((address "https" driver.host
      driver.port ++ bytesOf "/lrn/extended/") ++ request.data ++ bytesOf "?format=json") := rfl
  rw [OneComponent, url, component_iff UriGrammar.read_iff (fun _ => UriGrammar.Uri.render_noNul)
    (thinq_renders driver), thinq_valid, (plain_encoded host).1]
  simp only [and_assoc, encoded_self_iff (show pchar percent = false by decide)]
  rfl

/-- Under a base URL the question is put once the base has been read. -/
theorem based_iff {url : Bytes} (data : Bytes) (fields : Prop) {read : Uri → Prop}
    (each : ∀ base, UriGrammar.read url = some base →
      (read base ↔ ¬LoneSlash base ∧ fields ∧ ValueText data)) :
    (∃ base, UriGrammar.read url = some base ∧ read base) ↔
      BaseText url ∧ fields ∧ ValueText data := by
  constructor
  · rintro ⟨base, found, one⟩
    obtain ⟨apart, rest⟩ := (each base found).mp one
    exact ⟨⟨base, found, apart⟩, rest⟩
  · rintro ⟨⟨base, found, apart⟩, rest⟩
    exact ⟨base, found, (each base found).mpr ⟨apart, rest⟩⟩

theorem coure_anq_iff (driver : CHttpCoureAnqDriver) (request : ResolverRequest)
    (base : PlainUrl driver.baseUrl) (username : Plain driver.username)
    (password : Plain driver.password) (country : Plain driver.countryCode) :
    OneComponent request (.coureAnq driver) ↔ Admissible request.data (.coureAnq driver) := by
  have url : requestedUrl (driver.resolve request) = cString ((driver.baseUrl ++
      bytesOf "/api/json/LookUpNumber/GsmPortStatus?" ++ bytesOf "username=" ++ driver.username ++
      bytesOf "&password=" ++ driver.password ++ bytesOf "&ServiceType=4" ++ bytesOf "&country=" ++
      driver.countryCode ++ bytesOf "&numbersToLookUp=") ++ request.data ++ []) := by
    rw [List.append_nil]
    rfl
  rw [OneComponent, url]
  refine (based_iff request.data (FieldText driver.username ∧ FieldText driver.password ∧
    FieldText driver.countryCode) ?_).trans ?_
  · intro read found
    obtain ⟨valid, _⟩ := (UriGrammar.read_iff _ _).mp found
    rw [component_iff UriGrammar.read_iff (fun _ => UriGrammar.Uri.render_noNul)
      (coure_anq_renders base found driver), coure_anq_valid driver valid,
      (plain_encoded username).2, (plain_encoded password).2, (plain_encoded country).2]
    simp only [and_assoc, value_iff]
    rfl
  · simp only [Admissible, and_assoc]

theorem bulkvs_iff (driver : CHttpBulkvsDriver) (request : ResolverRequest)
    (base : PlainUrl driver.url) (token : Plain driver.token) :
    OneComponent request (.bulkvs driver) ↔ Admissible request.data (.bulkvs driver) := by
  have url : requestedUrl (driver.resolve request) = cString ((driver.url ++ bytesOf "/?id=" ++
      driver.token ++ bytesOf "&did=") ++ request.data ++ bytesOf "&format=json") := rfl
  rw [OneComponent, url]
  apply based_iff request.data (FieldText driver.token)
  intro read found
  obtain ⟨valid, _⟩ := (UriGrammar.read_iff _ _).mp found
  rw [component_iff UriGrammar.read_iff (fun _ => UriGrammar.Uri.render_noNul)
    (bulkvs_renders base found driver), bulkvs_valid driver valid, (plain_encoded token).2]
  simp only [and_assoc, value_iff]
  rfl

theorem sip_iff (driver : CSipDriver) (request : ResolverRequest) :
    OneComponent request (.sip driver) ↔ Admissible request.data (.sip driver) := by
  have uri : driver.dstUri request = bytesOf "sip:" ++ request.data ++ (bytesOf "@" ++
      driver.host ++ (if driver.port = 0 then [] else bytesOf ":" ++ decimal driver.port.toNat)) :=
    rfl
  rw [OneComponent, uri, component_iff SipUriGrammar.sipRead_iff
    (fun _ => SipUriGrammar.SipUri.render_noNul) (sip_renders driver), sip_valid]
  simp only [and_assoc, encoded_self_iff (show SipUriGrammar.userChar percent = false by decide)]
  rfl

/-- The number is one component of what is looked up exactly when every byte of it
stands for itself there, the configured fields being well-formed themselves. -/
theorem number_component_iff (driver : NumberDriver) (plain : PlainFields driver)
    (request : ResolverRequest) :
    OneComponent request driver ↔ Admissible request.data driver := by
  cases driver with
  | alcazar driver => exact alcazar_iff driver request plain.1 plain.2
  | coureAnq driver =>
      obtain ⟨base, username, password, country⟩ := plain
      exact coure_anq_iff driver request base username password country
  | bulkvs driver => exact bulkvs_iff driver request plain.1 plain.2
  | thinq driver => exact thinq_iff driver request plain
  | sip driver => exact sip_iff driver request

/-- The driver of the request URL in the source. -/
def eastDriver : CHttpAlcazarDriver :=
  ⟨1, bytesOf "api.east.alcazarnetworks.com", 0, bytesOf "5ddc2fba-0cc4-4c93-9a28-bd28ddf5e6d4",
    4000⟩

def lookupOf (data : Bytes) : ResolverRequest := { data := data }

instance (text : Bytes) : Decidable (Plain text) :=
  List.decidableBAll (fun byte => isReserved byte = false) text

instance (text : Bytes) : Decidable (ValueText text) :=
  List.decidableBAll (fun byte => UriGrammar.valueChar byte = true) text

theorem number_component_of_digits :
    PlainFields (.alcazar eastDriver) ∧ Admissible (bytesOf "14846642959") (.alcazar eastDriver) ∧
      OneComponent (lookupOf (bytesOf "14846642959")) (.alcazar eastDriver) := by
  have plain : PlainFields (.alcazar eastDriver) :=
    ⟨(by decide : Plain eastDriver.host), (by decide : Plain eastDriver.key)⟩
  have admissible : Admissible (bytesOf "14846642959") (.alcazar eastDriver) :=
    ⟨(by decide : encoded isUnreserved eastDriver.host = true),
      (by decide : encoded isUnreserved eastDriver.key = true),
      (by decide : ValueText (bytesOf "14846642959"))⟩
  exact ⟨plain, admissible,
    (number_component_iff (.alcazar eastDriver) plain (lookupOf (bytesOf "14846642959"))).mpr
      admissible⟩

/-- A number with an ampersand is read as a shorter number and a further key. -/
theorem ampersand_adds_parameter :
    ¬ ∀ driver request, PlainFields driver → OneComponent request driver := by
  intro every
  have plain : Plain eastDriver.host ∧ Plain eastDriver.key := ⟨by decide, by decide⟩
  obtain ⟨raw, found, _⟩ := every (.alcazar eastDriver) (lookupOf (bytesOf "1&key=x")) plain
  have seen : UriGrammar.read (requestedUrl (eastDriver.resolve (lookupOf (bytesOf "1&key=x")))) =
      some { alcazarTarget eastDriver [] with
        query := some [parameter "extended" (bytesOf "true"), parameter "output" (bytesOf "json"),
          parameter "key" eastDriver.key, parameter "tn" (bytesOf "1"),
          parameter "key" (bytesOf "x")] } := by
    rw [UriGrammar.read_iff]
    decide
  rw [seen] at found
  have parameters := congrArg (fun uri => uri.query.map List.length) (Option.some.inj found)
  exact absurd (Option.some.inj parameters) (by simp)

end LnpResolver.LookupUrls
