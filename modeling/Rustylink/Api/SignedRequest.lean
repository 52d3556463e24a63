import Rustylink.Api.Signing

/-!
# Signed requests

The request that `ApiClient::execute` hands to the HTTP client, and what the
other side makes of it: it reads the flags from the `Sign` header and puts the
signed bytes together again from the parts of the request.
-/

namespace Rustylink.Api

open Rustylink.Foundation

structure ClientIdentity where
  os : String
  osVersion : String
  appVersion : String
  brand : String
  model : String
  deviceId : String
  buildNumber : String
  osVersionPatch : String
  clientSource : String
  language : String
  userAgent : String
  deriving DecidableEq, Repr

def ClientIdentity.queryPairs (identity : ClientIdentity) (now : Int) :
    List (String × String) :=
  [("os", identity.os), ("os_version", identity.osVersion),
    ("app_version", identity.appVersion), ("brand", identity.brand),
    ("model", identity.model), ("language", identity.language),
    ("build_number", identity.buildNumber),
    ("os_version_patch", identity.osVersionPatch), ("timestamp", toString now),
    ("client_source", identity.clientSource)]

abbrev SessionCookies := List (String × String)

structure ApiHooks where
  identity : ClientIdentity
  cookies : SessionCookies
  knockToken : Option String
  signer : SigningContext
  deriving DecidableEq, Repr

def StartsAtRoot (path : String) : Prop := path.toList.head? = some '/'

structure SendableRequest where
  method : String
  path : String
  path_root : StartsAtRoot path
  queryPairs : List (String × String)
  body : Except String (Option ByteString)

inductive RequestError where
  | invalidBaseUrl (value : String)
  | encode (source : String)
  | headerValue (name : String)
  | headerName (name : String)
  | signRequest (source : SigningError)
  | buildRequest (source : String)
  deriving DecidableEq, Repr

/--
The libraries: URLs, URIs, header names and values, and the decoder of the
header.
-/
structure RequestCrates (Url Uri HeaderValue : Type) extends SignCrates Url
    HeaderValue where
  join : Url → String → Option Url
  appendPairs : Url → List (String × String) → Url
  parseUri : Url → Except String Uri
  uriPath : Uri → String
  uriQuery : Uri → Option String
  fromStr : String → Option HeaderValue
  fromStatic : String → HeaderValue
  asBytes : HeaderValue → ByteString
  headerName : String → Option String
  decodeFromSlice : ByteString → Option HttpSignHeader

/--
A text is kept as a header value in its bytes, and read back as a text only if
it is ASCII; names are kept in lower case.  The encoders can be undone.  A URI
has the path and the query of its URL, whose path is absolute when it comes from
an absolute one.
-/
structure RequestCrates.Lawful {Url Uri HeaderValue : Type}
    (crates : RequestCrates Url Uri HeaderValue) : Prop where
  fromStr_bytes : ∀ text value, crates.fromStr text = some value →
    crates.asBytes value = utf8 text
  toStr_fromStr : ∀ text value, crates.fromStr text = some value →
    crates.toStr value = if IsAscii text then some text else none
  headerName_lower : ∀ text name, crates.headerName text = some name →
    name = toAsciiLowercase text
  base64_ascii : ∀ bytes, IsAscii (crates.base64Encode bytes)
  base64_decode : ∀ bytes, crates.base64Decode (crates.base64Encode bytes) =
    some bytes
  header_decode : ∀ header, crates.decodeFromSlice (crates.encodeToVec header) =
    some header
  join_root : ∀ base path url, StartsAtRoot path →
    crates.join base path = some url →
    StartsAtRoot (crates.path url)
  appendPairs_path : ∀ url pairs, crates.path (crates.appendPairs url pairs) =
    crates.path url
  uri_target : ∀ url uri, StartsAtRoot (crates.path url) →
    crates.parseUri url = .ok uri →
    crates.uriPath uri = crates.path url ∧
      crates.uriQuery uri = crates.query url

/-! ## Headers -/

def isAsciiWhitespace (c : Char) : Bool :=
  c = ' ' || c = '\t' || c = '\n' || c = '\r' || c.toNat = 0x0C

def deviceNameCookieValue (identity : ClientIdentity) : String :=
  let name := String.ofList ((identity.model.toList.map fun c =>
    if isAsciiWhitespace c then '-' else c).filter fun c =>
      !(c = ';' || c = ',' || c = '='))
  if trim name = "" then "unknow" else name

def deviceCookieHeader (cookies : SessionCookies)
    (identity : ClientIdentity) : String :=
  "; ".intercalate ((cookies ++ [("device_id", identity.deviceId),
    ("device_name", deviceNameCookieValue identity)]).map fun (name, value) =>
      name ++ "=" ++ value)

variable {Url Uri HeaderValue : Type}
  (crates : RequestCrates Url Uri HeaderValue)

def insertHeader (name spelling text : String)
    (headers : HeaderMap HeaderValue) :
    Except RequestError (HeaderMap HeaderValue) :=
  match crates.fromStr text with
  | some value => .ok (headers.put name value)
  | none => .error (.headerValue spelling)

def insertSome (name : String) (text : Option String)
    (headers : HeaderMap HeaderValue) :
    Except RequestError (HeaderMap HeaderValue) :=
  match text with
  | some text => insertHeader crates name name text headers
  | none => .ok headers

def ApiHooks.baseHeaders (hooks : ApiHooks) :
    Except RequestError (HeaderMap HeaderValue) := do
  let acceptLanguage :=
    if containsText "zh" hooks.identity.language then "zh-CN" else "en-US"
  let headers ← insertHeader crates "accept-language" "Accept-Language"
      acceptLanguage
    fun _ => none
  let headers ← insertHeader crates "user-agent" "User-Agent"
      hooks.identity.userAgent headers
  let headers ← insertHeader crates "cookie" "Cookie"
    (deviceCookieHeader hooks.cookies hooks.identity) headers
  let headers ← insertSome crates "csrf-token"
      (hooks.cookies.lookup "csrf-token") headers
  let headers ← insertSome crates "knock-token" hooks.knockToken headers
  insertSome crates "jwt-token" (hooks.cookies.lookup "vpn-token") headers

/-! ## The request -/

def endpointUrl (baseUrl : Url) (path : String) : Except RequestError Url :=
  match crates.join baseUrl path with
  | some url => .ok url
  | none => .error (.invalidBaseUrl path)

structure ApiClient (Url : Type) where
  baseUrl : Url
  hooks : ApiHooks

structure Prepared (Url HeaderValue : Type) where
  url : Url
  body : ByteString
  headers : HeaderMap HeaderValue

structure HttpRequest (Uri HeaderValue : Type) where
  method : String
  uri : Uri
  headers : HeaderMap HeaderValue
  body : ByteString

namespace ApiClient

variable (client : ApiClient Url)

def prepare (request : SendableRequest) (now : Int) :
    Except RequestError (Prepared Url HeaderValue) := do
  let url ← endpointUrl crates client.baseUrl request.path
  let url := crates.appendPairs url
    (request.queryPairs ++ client.hooks.identity.queryPairs now)
  let body ← request.body.mapError .encode
  let headers ← client.hooks.baseHeaders crates
  let headers := headers.put "accept" (crates.fromStatic "application/json")
  let headers :=
    if body.isSome then headers.put "content-type"
      (crates.fromStatic "application/json")
    else headers
  return ⟨url, body.getD [], headers⟩

def insertSigned (headers : HeaderMap HeaderValue) (signed : SignedHeader) :
    Except RequestError (HeaderMap HeaderValue) :=
  match crates.headerName signed.name with
  | none => .error (.headerName signed.name)
  | some name => insertHeader crates name signed.name signed.value headers

def execute (request : SendableRequest) (now : Int) :
    Except RequestError (HttpRequest Uri HeaderValue) := do
  let prepared ← client.prepare crates request now
  let signedHeaders ← (client.hooks.signer.sign crates.toSignCrates
      request.method prepared.url
    prepared.headers prepared.body).mapError .signRequest
  let headers ← signedHeaders.foldlM (insertSigned crates) prepared.headers
  let uri ← (crates.parseUri prepared.url).mapError .buildRequest
  return ⟨request.method, uri, headers, prepared.body⟩

end ApiClient

/-! ## The other side -/

namespace HttpRequest

variable (request : HttpRequest Uri HeaderValue)

def signHeader : Option HttpSignHeader := do
  let value ← request.headers "sign"
  let text ← crates.toStr value
  let encoded ← text.toList.dropPrefix? "v1;".toList
  let bytes ← crates.base64Decode (String.ofList encoded)
  crates.decodeFromSlice bytes

/-- The input, put together again from the request and the flags. -/
def verifierInput (flags : SigningInputFlags) : ByteString :=
  let raw (name : String) := (request.headers name).map crates.asBytes
  inputPart flags .method (some (utf8 request.method)) ++
  inputPart flags .path (some (utf8 (crates.uriPath request.uri))) ++
  inputPart flags .query ((crates.uriQuery request.uri).map utf8) ++
  inputPart flags .bodySha256
    (if request.body = [] then none else some (crates.sha256 request.body)) ++
  inputPart flags .cookie (raw "cookie") ++
  inputPart flags .csrfToken (raw "csrf-token") ++
  inputPart flags .knockToken (raw "knock-token") ++
  inputPart flags .jwtToken ((raw "jwt-token").map trimBytes)

end HttpRequest

end Rustylink.Api
