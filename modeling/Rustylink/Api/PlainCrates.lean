import Rustylink.Api.KeyDerivation
import Rustylink.Api.SignedRequest
import Rustylink.Foundation.Base64
import Rustylink.Foundation.WireFields

/-!
# Plain libraries

What the libraries under a request do with it, as far as the requests of the
client need it: absolute paths without a query of their own, form-encoded
queries, header values in visible characters and bytes beyond ASCII, and the
`Sign` header as tagged fields in Base64.  They keep the laws that the requests
rely on, whatever the MAC is.
-/

namespace Rustylink.Api

open Rustylink.Foundation

structure PlainUrl where
  path : String
  query : Option String
  deriving DecidableEq, Repr

/-! ## Form encoding -/

def isFormChar (byte : UInt8) : Bool :=
  (Char.ofNat byte.toNat).isAlphanum ||
    "*-._".toList.contains (Char.ofNat byte.toNat)

def formByte (byte : UInt8) : List Char :=
  if isFormChar byte then [Char.ofNat byte.toNat]
  else if byte = 32 then ['+']
  else '%' :: ((Nat.toDigits 16 byte.toNat).map Char.toUpper).leftpad 2 '0'

def formText (text : String) : String :=
  String.ofList ((utf8 text).flatMap formByte)

def PlainUrl.appendPairs (url : PlainUrl) (pairs : List (String × String)) :
    PlainUrl :=
  { url with query := some ("&".intercalate
      (url.query.toList ++ pairs.map fun (name, value) =>
        formText name ++ "=" ++ formText value)) }

/-! ## Header names and values -/

def isHeaderByte (byte : UInt8) : Bool :=
  byte = 9 || (32 ≤ byte.toNat && byte ≠ 127)

def isVisibleByte (byte : UInt8) : Bool :=
  byte = 9 || (32 ≤ byte.toNat && byte.toNat < 127)

def isTokenChar (c : Char) : Bool :=
  c.isAlphanum || "!#$%&'*+-.^_`|~".toList.contains c

theorem isVisibleByte_iff {byte : UInt8} (h : isHeaderByte byte = true) :
    isVisibleByte byte = true ↔ byte.toNat < 128 := by
  have hdelete : byte = 127 ↔ byte.toNat = 127 := UInt8.toNat_inj.symm
  have htab : byte = 9 ↔ byte.toNat = 9 := UInt8.toNat_inj.symm
  simp only [isHeaderByte, isVisibleByte, Bool.or_eq_true, Bool.and_eq_true,
    decide_eq_true_eq, ne_eq, hdelete, htab] at h ⊢
  omega

/-! ## The `Sign` header on the wire -/

namespace HttpSignHeader

def fields (header : HttpSignHeader) : List WireField :=
  (if header.rootKeyVersion = 0 then []
    else [⟨1, .number header.rootKeyVersion.toNat⟩]) ++
  (if header.signingInputParams = 0 then []
    else [⟨3, .number header.signingInputParams.toNat⟩]) ++
  if header.signingResult = [] then [] else [⟨4, .bytes header.signingResult⟩]

def merge (header : HttpSignHeader) (field : WireField) : HttpSignHeader :=
  match field.number, field.value with
  | 1, .number n => { header with rootKeyVersion := .ofNat n }
  | 3, .number n => { header with signingInputParams := .ofNat n }
  | 4, .bytes value => { header with signingResult := value }
  | _, _ => header

def encodeToVec (header : HttpSignHeader) : ByteString :=
  header.fields.flatMap WireField.write

def decodeFromSlice (text : ByteString) : Option HttpSignHeader :=
  (WireField.readAll text.length text).map fun fields =>
    fields.foldl merge ⟨0, 0, []⟩

theorem foldl_merge_fields (header : HttpSignHeader) :
    header.fields.foldl merge ⟨0, 0, []⟩ = header := by
  obtain ⟨version, params, result⟩ := header
  by_cases hversion : version = 0 <;> by_cases hparams : params = 0 <;>
    by_cases hresult : result =
      [] <;> simp [fields, merge, hversion, hparams, hresult]

theorem decode_encode (header : HttpSignHeader) :
    decodeFromSlice header.encodeToVec = some header := by
  rw [decodeFromSlice, encodeToVec, WireField.readAll_write _ (Nat.le_refl _),
    Option.map_some, foldl_merge_fields]

end HttpSignHeader

/-! ## The libraries together -/

def plainCrates (hmac : HmacSha256) (sha256 : ByteString → ByteString) :
    RequestCrates PlainUrl PlainUrl ByteString where
  path := PlainUrl.path
  query := PlainUrl.query
  toStr := fun value =>
    if value.all isVisibleByte then some (asciiText value) else none
  sha256 := sha256
  hmac := hmac
  base64Encode := Base64.encode
  base64Decode := Base64.decode
  encodeToVec := HttpSignHeader.encodeToVec
  join := fun _ path => some ⟨path, none⟩
  appendPairs := PlainUrl.appendPairs
  parseUri := .ok
  uriPath := PlainUrl.path
  uriQuery := PlainUrl.query
  fromStr := fun text =>
    if (utf8 text).all isHeaderByte then some (utf8 text) else none
  fromStatic := utf8
  asBytes := id
  headerName := fun text =>
    if text ≠ "" ∧ text.toList.all isTokenChar then some (toAsciiLowercase text)
    else none
  decodeFromSlice := HttpSignHeader.decodeFromSlice

theorem plainCrates_fromStr {hmac : HmacSha256}
    {sha256 : ByteString → ByteString} {text : String} {value : ByteString}
    (h : (plainCrates hmac sha256).fromStr text = some value) :
    value = utf8 text ∧ ∀ b ∈ utf8 text, isHeaderByte b = true := by
  simp only [plainCrates] at h
  split at h
  · rename_i hall
    cases h
    exact ⟨rfl, List.all_eq_true.mp hall⟩
  · cases h

theorem plainCrates_toStr {hmac : HmacSha256} {sha256 : ByteString → ByteString}
    {text : String} {value : ByteString}
    (h : (plainCrates hmac sha256).fromStr text = some value) :
    (plainCrates hmac sha256).toStr value =
      if IsAscii text then some text else none := by
  obtain ⟨rfl, hvalid⟩ := plainCrates_fromStr h
  have hvisible : (utf8 text).all isVisibleByte = true ↔ IsAscii text := by
    rw [List.all_eq_true, isAscii_iff_utf8]
    exact forall₂_congr fun b hb => isVisibleByte_iff (hvalid b hb)
  show (if (utf8 text).all isVisibleByte = true then some (asciiText
      (utf8 text)) else none) = _
  by_cases hascii : IsAscii text
  · rw [if_pos (hvisible.mpr hascii), if_pos hascii, asciiText_utf8 hascii]
  · rw [if_neg (mt hvisible.mp hascii), if_neg hascii]

theorem plainCrates_lawful (hmac : HmacSha256)
    (sha256 : ByteString → ByteString) :
    (plainCrates hmac sha256).Lawful where
  fromStr_bytes := fun _ _ h => (plainCrates_fromStr h).1
  toStr_fromStr := fun _ _ h => plainCrates_toStr h
  headerName_lower := by
    intro text name h
    simp only [plainCrates] at h
    split at h
    · cases h
      rfl
    · cases h
  base64_ascii := Base64.encode_ascii
  base64_decode := Base64.decode_encode
  header_decode := HttpSignHeader.decode_encode
  join_root := by
    intro base path url hroot h
    cases h
    exact hroot
  appendPairs_path := fun _ _ => rfl
  uri_target := by
    intro url uri _ h
    cases h
    exact ⟨rfl, rfl⟩

end Rustylink.Api
