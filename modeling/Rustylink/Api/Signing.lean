import Rustylink.Foundation.Hkdf
import Rustylink.Foundation.Table
import Rustylink.Foundation.Utf8

/-!
# Request signing

The signature of a request is a MAC over the parts of it that the flags select.
The hash functions, the encoders, and what the HTTP and URL libraries make of
their values are parameters; `HmacSha256::new_from_slice` takes keys of every
length.
-/

namespace Rustylink.Api

open Rustylink.Foundation

structure HmacSha256 extends KeyedHash where
  size_eq : size = 32

structure SigningRuleConfig where
  urls : List String
  enableSigning : Bool
  signingInputParams : UInt64
  deriving DecidableEq, Repr

structure SigningConfig where
  enabled : Bool
  rootKeyVersion : UInt64
  signingInputParams : UInt64
  rules : List SigningRuleConfig
  activationCode : Option String
  deviceId : Option String
  hmacKeyBase64 : Option String
  sharedSecret : Option String
  deriving DecidableEq, Repr

def SigningConfig.default : SigningConfig :=
  ⟨false, 0, 0, [], none, none, none, none⟩

structure SigningContext where
  config : SigningConfig
  deriving DecidableEq, Repr

inductive SigningError where
  | missingSecret
  | invalidBase64
  deriving DecidableEq, Repr

structure HttpSignHeader where
  rootKeyVersion : UInt64
  signingInputParams : UInt64
  signingResult : ByteString
  deriving DecidableEq, Repr

structure SignedHeader where
  name : String
  value : String
  deriving DecidableEq, Repr

structure SignCrates (Url HeaderValue : Type) where
  path : Url → String
  query : Url → Option String
  toStr : HeaderValue → Option String
  sha256 : ByteString → ByteString
  hmac : HmacSha256
  base64Encode : ByteString → String
  base64Decode : String → Option ByteString
  encodeToVec : HttpSignHeader → ByteString

abbrev HeaderMap (HeaderValue : Type) := Table String HeaderValue

/-! ## Flags -/

structure SigningInputFlags where
  bits : UInt64
  deriving DecidableEq, Repr

namespace SigningInputFlags

def bit (n : UInt64) : SigningInputFlags := ⟨(1 : UInt64) <<< n⟩

def method : SigningInputFlags := .bit 1

def path : SigningInputFlags := .bit 2

def query : SigningInputFlags := .bit 3

def bodySha256 : SigningInputFlags := .bit 4

def cookie : SigningInputFlags := .bit 5

def androidReserved6 : SigningInputFlags := .bit 6

def csrfToken : SigningInputFlags := .bit 7

def knockToken : SigningInputFlags := .bit 8

def jwtToken : SigningInputFlags := .bit 9

def union (flags others : SigningInputFlags) : SigningInputFlags :=
  ⟨flags.bits ||| others.bits⟩

def contains (flags flag : SigningInputFlags) : Bool :=
  flags.bits &&& flag.bits = flag.bits

end SigningInputFlags

def defaultSigningInputFlags : SigningInputFlags :=
  [.path, .query, .bodySha256, .cookie, .androidReserved6, .csrfToken,
    .knockToken].foldl .union .method

/-! ## Key derivation -/

structure Expansion where
  okm : ByteString
  previous : ByteString
  counter : UInt8
  deriving DecidableEq, Repr

namespace Expansion

variable (hmac : HmacSha256) (prk info : ByteString)

def init : Expansion := ⟨[], [], 1⟩

def round (s : Expansion) : Expansion :=
  let previous := hmac.mac prk (s.previous ++ info ++ [s.counter])
  ⟨s.okm ++ previous, previous, s.counter + 1⟩

theorem length_round (s : Expansion) :
    (s.round hmac prk info).okm.length = s.okm.length + 32 := by
  simp [round, hmac.length_mac, hmac.size_eq]

def loop (length : Nat) (s : Expansion) : Expansion :=
  if s.okm.length < length then loop length (s.round hmac prk info) else s
termination_by length - s.okm.length
decreasing_by
  rw [length_round]
  omega

end Expansion

def hkdfSha256 (hmac : HmacSha256) (ikm salt info : ByteString) (length : Nat) :
    Except SigningError ByteString :=
  let prk := hmac.mac salt ikm
  .ok ((Expansion.init.loop hmac prk info length).okm.take length)

def httpSignHkdfSecret : ByteString := utf8 "ygicehnydny4fj"

def generateHttpSignKeyBytes (hmac : HmacSha256)
    (activationCode deviceId : String) :
    Except SigningError ByteString :=
  let normalizedCode := toAsciiLowercase (trim activationCode)
  let info := normalizedCode ++ "|" ++ deviceId
  hkdfSha256 hmac httpSignHkdfSecret [] (utf8 info) 32

/-! ## Signing -/

variable {Url HeaderValue : Type} (crates : SignCrates Url HeaderValue)

def headerValue (headers : HeaderMap HeaderValue)
    (name : String) : Option String :=
  (headers name).bind crates.toStr

def isMultipart (headers : HeaderMap HeaderValue) : Bool :=
  (headerValue crates headers "content-type").any fun value =>
    "multipart/".toList.isPrefixOf (toAsciiLowercase value).toList

/-- What a selected part adds to the input. -/
def inputPart (flags flag : SigningInputFlags)
    (part : Option ByteString) : ByteString :=
  if flags.contains flag then part.getD [] else []

def signingInput (method : String) (url : Url) (headers : HeaderMap HeaderValue)
    (body : ByteString) (flags : SigningInputFlags) : ByteString :=
  inputPart flags .method (some (utf8 method)) ++
  inputPart flags .path (some (utf8 (crates.path url))) ++
  inputPart flags .query ((crates.query url).map utf8) ++
  inputPart flags .bodySha256
    (if body = [] then none else some (crates.sha256 body)) ++
  inputPart flags .cookie ((headerValue crates headers "cookie").map utf8) ++
  inputPart flags .csrfToken
    ((headerValue crates headers "csrf-token").map utf8) ++
  inputPart flags .knockToken
    ((headerValue crates headers "knock-token").map utf8) ++
  inputPart flags .jwtToken
    ((headerValue crates headers "jwt-token").map fun value =>
      utf8 (trim value))

namespace SigningContext

variable (signer : SigningContext)

def hmacKey : Except SigningError ByteString :=
  match signer.config.hmacKeyBase64 with
  | some encoded =>
      match crates.base64Decode encoded with
      | some key => .ok key
      | none => .error .invalidBase64
  | none =>
      match signer.config.activationCode, signer.config.deviceId with
      | some activationCode, some deviceId =>
          generateHttpSignKeyBytes crates.hmac activationCode deviceId
      | _, _ =>
          match signer.config.sharedSecret with
          | some value => .ok (utf8 value)
          | none => .error .missingSecret

def rootKeyVersion : UInt64 :=
  if signer.config.rootKeyVersion = 0 then 1 else signer.config.rootKeyVersion

def signingInputFlags (path : String) : Option SigningInputFlags :=
  let orDefault (params : UInt64) : SigningInputFlags :=
    if params = 0 then defaultSigningInputFlags else ⟨params⟩
  if signer.config.rules = [] then some (orDefault
    signer.config.signingInputParams)
  else
    (signer.config.rules.find? fun rule => rule.enableSigning &&
      rule.urls.contains path).map fun rule => orDefault rule.signingInputParams

/--
A request is signed unless the settings exempt it, with at most one header.
-/
def sign (method : String) (url : Url) (headers : HeaderMap HeaderValue)
    (body : ByteString) :
    Except SigningError (List SignedHeader) :=
  if signer.config.enabled = false then .ok []
  else if toAsciiLowercase method = "put" ∨ isMultipart crates headers then .ok
    []
  else
    match signer.signingInputFlags (crates.path url) with
    | none => .ok []
    | some flags => do
        let key ← signer.hmacKey crates
        let signature := crates.hmac.mac key
          (signingInput crates method url headers body flags)
        let header :=
          crates.encodeToVec ⟨signer.rootKeyVersion, flags.bits, signature⟩
        return [⟨"Sign", "v1;" ++ crates.base64Encode header⟩]

end SigningContext

end Rustylink.Api
