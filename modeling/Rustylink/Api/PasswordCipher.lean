import Rustylink.Foundation.Cbc
import Rustylink.Foundation.Hex

/-!
# Passwords in login requests

A password is sent encrypted, under a key and an initialization vector that
are the same for every client and every request.  The digest, the cipher and
the hexadecimal text are third-party code and parameters.
-/

namespace Rustylink.Api

open Rustylink.Foundation

structure PasswordCipher where
  fixedString : String
  deriving DecidableEq, Repr

inductive PasswordCipherError where
  | padding
  | invalidKeyLength (length : Nat)
  deriving DecidableEq, Repr

def aesCbcBlockSize : Nat := 16

def fixedPasswordKey : String := "8bfa9ad090fbbf87e518f1ce24a93eee"

/--
The digest, the encryptor and the text of bytes, with what a receiver undoes
them by.
-/
structure CipherCrates (Encryptor : Type) where
  sha1 : ByteString → ByteString
  hexEncode : ByteString → String
  hexDecode : String → Option ByteString
  newFromSlices : ByteString → ByteString → Option Encryptor
  /--
  `encrypt_padded::<Pkcs7>` of a buffer that holds a message of this length.
  -/
  encryptPadded : Encryptor → ByteString → Nat → Option ByteString
  decryptPadded : ByteString → ByteString → ByteString → Option ByteString

variable {Encryptor : Type}

def paddedLength (length : Nat) : Nat :=
  aesCbcBlockSize * (length / aesCbcBlockSize + 1)

structure CipherCrates.Lawful (crates : CipherCrates Encryptor) : Prop where
  sha1_length : ∀ message, (crates.sha1 message).length = 20
  hexEncode_length : ∀ bytes,
    (utf8 (crates.hexEncode bytes)).length = 2 * bytes.length
  hexDecode_hexEncode : ∀ bytes,
    crates.hexDecode (crates.hexEncode bytes) = some bytes
  newFromSlices_sizes : ∀ key iv, key.length = 32 →
    iv.length = aesCbcBlockSize →
    ∃ encryptor, crates.newFromSlices key iv = some encryptor
  encryptPadded_room : ∀ key iv encryptor buf length,
    crates.newFromSlices key iv = some encryptor → length ≤ buf.length →
    paddedLength length ≤ buf.length →
    ∃ ciphertext, crates.encryptPadded encryptor buf length = some ciphertext ∧
      ciphertext.length = paddedLength length ∧
      crates.decryptPadded key iv ciphertext = some (buf.take length)

variable (crates : CipherCrates Encryptor)

/--
The first bytes of the digest in hexadecimal, written over a block of zeros.
-/
def aesCbcIv (key : String) : ByteString :=
  let digest :=
    (utf8 (crates.hexEncode (crates.sha1 (utf8 key)))).take aesCbcBlockSize
  digest ++ List.replicate (aesCbcBlockSize - digest.length) 0

namespace PasswordCipher

def generated : PasswordCipher := ⟨fixedPasswordKey⟩

def encryptAesCbc (cipher : PasswordCipher) (plaintext : String) :
    Except PasswordCipherError String :=
  let key := utf8 cipher.fixedString
  if key.length ≠ 32 then .error (.invalidKeyLength key.length)
  else
    let iv := aesCbcIv crates cipher.fixedString
    let plain := utf8 plaintext
    let buf := plain ++ List.replicate aesCbcBlockSize 0
    match crates.newFromSlices key iv with
    | none => .error (.invalidKeyLength key.length)
    | some encryptor =>
        match crates.encryptPadded encryptor buf plain.length with
        | none => .error .padding
        | some ciphertext => .ok (crates.hexEncode ciphertext)

/-- What a server that knows the fixed string does with the text it is sent. -/
def decryptAesCbc (cipher : PasswordCipher) (text : String) :
    Option ByteString := do
  let ciphertext ← crates.hexDecode text
  crates.decryptPadded (utf8 cipher.fixedString)
    (aesCbcIv crates cipher.fixedString) ciphertext

end PasswordCipher

/-! ## The requests -/

inductive EncryptError where
  | encryptPassword (source : PasswordCipherError)
  deriving DecidableEq, Repr

structure PasswordLoginRequest where
  loginScene : String
  accountType : String
  account : String
  password : String
  deriving DecidableEq, Repr

structure VerifyMfaRequest where
  loginScene : String
  mfaType : String
  account : String
  code : Option String
  password : Option String
  deriving DecidableEq, Repr

def encryptPassword (password : String) : Except EncryptError String :=
  match PasswordCipher.generated.encryptAesCbc crates password with
  | .ok text => .ok text
  | .error source => .error (.encryptPassword source)

def PasswordLoginRequest.encrypted
    (loginScene accountType account password : String) :
    Except EncryptError PasswordLoginRequest := do
  let password ← encryptPassword crates password
  return ⟨loginScene, accountType, account, password⟩

def VerifyMfaRequest.encrypted (loginScene mfaType account : String)
    (code password : Option String) : Except EncryptError VerifyMfaRequest := do
  let password ← password.mapM (encryptPassword crates)
  return ⟨loginScene, mfaType, account, code, password⟩

/-! ## Libraries that keep the laws -/

abbrev Aes256 := BlockCipher aesCbcBlockSize 32

def cbcCrates (sha1 : ByteString → ByteString) (aes : Aes256) :
    CipherCrates (ByteString × ByteString) where
  sha1 := sha1
  hexEncode := hexEncode
  hexDecode := hexDecode
  newFromSlices key iv :=
    if key.length = 32 ∧ iv.length = aesCbcBlockSize then some (key, iv)
    else none
  encryptPadded := fun (key, iv) buf length =>
    if buf.length < paddedLength length then none
    else some (aes.encryptCbc key iv
      (pkcs7Pad aesCbcBlockSize (buf.take length)))
  decryptPadded key iv bytes :=
    pkcs7Unpad aesCbcBlockSize (aes.decryptCbc key iv bytes)

theorem pkcs7Pad_mod (bytes : ByteString) :
    (pkcs7Pad aesCbcBlockSize bytes).length % aesCbcBlockSize = 0 := by
  rw [length_pkcs7Pad (by decide), Nat.mul_mod_right]

theorem cbcCrates_lawful {sha1 : ByteString → ByteString} (aes : Aes256)
    (hsha1 : ∀ message, (sha1 message).length = 20) :
    (cbcCrates sha1 aes).Lawful where
  sha1_length := hsha1
  hexEncode_length bytes := by
    show (utf8 (hexEncode bytes)).length = _
    rw [utf8_ascii (hexEncode_ascii bytes), List.length_map,
      String.length_toList, length_hexEncode]
  hexDecode_hexEncode := hexDecode_hexEncode
  newFromSlices_sizes key iv hkey hiv := ⟨(key, iv), if_pos ⟨hkey, hiv⟩⟩
  encryptPadded_room key iv encryptor buf length hencryptor hlength hroom := by
    obtain ⟨⟨hkey, hiv⟩, hpair⟩ := Option.ite_none_right_eq_some.mp hencryptor
    obtain rfl := Option.some.inj hpair
    refine ⟨_, if_neg (Nat.not_lt.mpr hroom), ?_, ?_⟩
    · rw [aes.length_encryptCbc hkey hiv (pkcs7Pad_mod _),
        length_pkcs7Pad (by decide), List.length_take, Nat.min_eq_left hlength]
      rfl
    · show pkcs7Unpad aesCbcBlockSize (aes.decryptCbc key iv _) = _
      rw [aes.decryptCbc_encryptCbc (by decide) hkey hiv (pkcs7Pad_mod _),
        pkcs7Unpad_pad (by decide) (by decide)]

def turningCipher : Aes256 where
  encrypt key block := (xorBytes block (key.take aesCbcBlockSize)).reverse
  decrypt key block := xorBytes block.reverse (key.take aesCbcBlockSize)
  length_encrypt key block hkey hblock := by
    have hhalf : block.length = (key.take aesCbcBlockSize).length := by
      rw [List.length_take, hkey, hblock]
      rfl
    rw [List.length_reverse, length_xorBytes hhalf, hblock]
  decrypt_encrypt key block hkey hblock := by
    have hhalf : block.length = (key.take aesCbcBlockSize).length := by
      rw [List.length_take, hkey, hblock]
      rfl
    rw [List.reverse_reverse, xorBytes_cancel hhalf]

def countingDigest (message : ByteString) : ByteString :=
  List.replicate 20 (UInt8.ofNat message.length)

def turningCrates : CipherCrates (ByteString × ByteString) :=
  cbcCrates countingDigest turningCipher

theorem turningCrates_lawful : turningCrates.Lawful :=
  cbcCrates_lawful turningCipher fun _ => List.length_replicate

/-! ## The cipher -/

variable {crates}

theorem aesCbcIv_eq (hcrates : crates.Lawful) (key : String) :
    aesCbcIv crates key =
        (utf8 (crates.hexEncode (crates.sha1 (utf8 key)))).take
          aesCbcBlockSize ∧
      (aesCbcIv crates key).length = aesCbcBlockSize := by
  have hdigits : ((utf8 (crates.hexEncode (crates.sha1 (utf8 key)))).take
      aesCbcBlockSize).length = aesCbcBlockSize := by
    rw [List.length_take, hcrates.hexEncode_length, hcrates.sha1_length]
    rfl
  have hiv : aesCbcIv crates key =
      (utf8 (crates.hexEncode (crates.sha1 (utf8 key)))).take
          aesCbcBlockSize := by
    unfold aesCbcIv
    dsimp only
    rw [hdigits, Nat.sub_self, List.replicate_zero, List.append_nil]
  exact ⟨hiv, hiv ▸ hdigits⟩

theorem paddedLength_le (length : Nat) :
    paddedLength length ≤ length + aesCbcBlockSize := by
  have hdiv := Nat.div_mul_le_self length 16
  simp only [paddedLength, aesCbcBlockSize]
  omega

namespace PasswordCipher

theorem encryptAesCbc_ok (hcrates : crates.Lawful) {cipher : PasswordCipher}
    (hkey : (utf8 cipher.fixedString).length = 32) (plaintext : String) :
    ∃ text, cipher.encryptAesCbc crates plaintext = .ok text ∧
      (utf8 text).length = 2 * paddedLength (utf8 plaintext).length ∧
      cipher.decryptAesCbc crates text = some (utf8 plaintext) := by
  obtain ⟨encryptor, hencryptor⟩ := hcrates.newFromSlices_sizes _ _ hkey
    (aesCbcIv_eq hcrates cipher.fixedString).2
  have hroom : paddedLength (utf8 plaintext).length ≤
      (utf8 plaintext ++ List.replicate aesCbcBlockSize 0).length := by
    rw [List.length_append, List.length_replicate]
    exact paddedLength_le _
  obtain ⟨ciphertext, hciphertext, hlength, hdecrypt⟩ :=
    hcrates.encryptPadded_room _ _ encryptor _ _ hencryptor (by simp) hroom
  refine ⟨crates.hexEncode ciphertext, ?_, ?_, ?_⟩
  · unfold encryptAesCbc
    dsimp only
    rw [if_neg (not_not.mpr hkey), hencryptor]
    dsimp only
    rw [hciphertext]
  · rw [hcrates.hexEncode_length, hlength]
  · unfold decryptAesCbc
    rw [hcrates.hexDecode_hexEncode, Option.bind_eq_bind,
      Option.bind_some, hdecrypt, List.take_left]

/--
With a key of 32 bytes every password is encrypted, to as many blocks as it
has whole ones and one more, and can be recovered, under an IV of digits that
leave none of its zeros; with any other key none is.
-/
theorem password_recovered (hcrates : crates.Lawful) (cipher : PasswordCipher)
    (plaintext : String) :
    aesCbcIv crates cipher.fixedString =
        (utf8 (crates.hexEncode (crates.sha1 (utf8 cipher.fixedString)))).take
          16 ∧
      if (utf8 cipher.fixedString).length = 32 then
        ∃ text, cipher.encryptAesCbc crates plaintext = .ok text ∧
          (utf8 text).length = 32 * ((utf8 plaintext).length / 16 + 1) ∧
          cipher.decryptAesCbc crates text = some (utf8 plaintext)
      else cipher.encryptAesCbc crates plaintext =
        .error (.invalidKeyLength (utf8 cipher.fixedString).length) := by
  refine ⟨(aesCbcIv_eq hcrates cipher.fixedString).1, ?_⟩
  split
  · next hkey =>
    obtain ⟨text, hencrypt, hlength, hdecrypt⟩ :=
      encryptAesCbc_ok hcrates hkey plaintext
    refine ⟨text, hencrypt, ?_, hdecrypt⟩
    rw [hlength, paddedLength, ← Nat.mul_assoc]
    rfl
  · next hkey => exact if_pos hkey

theorem generated_key : (utf8 generated.fixedString).length = 32 := by decide

theorem password_recovered_generated :
    ∃ text, generated.encryptAesCbc turningCrates "correct horse battery" =
      .ok text ∧
      (utf8 text).length = 64 ∧
      generated.decryptAesCbc turningCrates text =
        some (utf8 "correct horse battery") := by
  have hrecovered :=
    (password_recovered turningCrates_lawful generated
      "correct horse battery").2
  rw [if_pos generated_key] at hrecovered
  obtain ⟨text, hencrypt, hlength, hdecrypt⟩ := hrecovered
  exact ⟨text, hencrypt, hlength.trans (by decide +kernel), hdecrypt⟩

end PasswordCipher

theorem encryptPassword_ok (hcrates : crates.Lawful) (password : String) :
    ∃ text, encryptPassword crates password = .ok text ∧
      PasswordCipher.generated.decryptAesCbc crates text =
        some (utf8 password) := by
  obtain ⟨text, hencrypt, -, hdecrypt⟩ :=
    PasswordCipher.encryptAesCbc_ok hcrates PasswordCipher.generated_key
      password
  refine ⟨text, ?_, hdecrypt⟩
  unfold encryptPassword
  rw [hencrypt]

/--
Every login request can be built, with the password in a form that the server
turns back into it and everything else as given.
-/
theorem encrypted_requests (hcrates : crates.Lawful)
    (loginScene kind account : String) (code : Option String)
    (password : String) (mfaPassword : Option String) :
    (∃ request, PasswordLoginRequest.encrypted crates loginScene kind
      account password =
        .ok request ∧
      request.loginScene = loginScene ∧ request.accountType = kind ∧
      request.account = account ∧
      PasswordCipher.generated.decryptAesCbc crates request.password =
        some (utf8 password)) ∧
    ∃ request, VerifyMfaRequest.encrypted crates loginScene kind account
      code mfaPassword =
        .ok request ∧
      request.loginScene = loginScene ∧ request.mfaType = kind ∧
      request.account = account ∧ request.code = code ∧
      request.password.map (PasswordCipher.generated.decryptAesCbc crates) =
        mfaPassword.map fun password => some (utf8 password) := by
  constructor
  · obtain ⟨text, hencrypt, hdecrypt⟩ := encryptPassword_ok hcrates password
    unfold PasswordLoginRequest.encrypted
    rw [hencrypt]
    exact ⟨_, rfl, rfl, rfl, rfl, hdecrypt⟩
  · unfold VerifyMfaRequest.encrypted
    cases mfaPassword with
    | none => exact ⟨_, rfl, rfl, rfl, rfl, rfl, rfl⟩
    | some password =>
        obtain ⟨text, hencrypt, hdecrypt⟩ := encryptPassword_ok hcrates password
        rw [Option.mapM_some, hencrypt]
        exact ⟨_, rfl, rfl, rfl, rfl, rfl, congrArg some hdecrypt⟩

theorem encrypted_requests_login :
    ∃ request, PasswordLoginRequest.encrypted turningCrates "login" "email"
        "user@example.com" "correct horse" = .ok request ∧
      request.accountType = "email" ∧
      PasswordCipher.generated.decryptAesCbc turningCrates request.password =
        some (utf8 "correct horse") := by
  obtain ⟨⟨request, hrequest, -, hkind, -, hpassword⟩, -⟩ :=
    encrypted_requests turningCrates_lawful "login" "email"
      "user@example.com" none "correct horse" none
  exact ⟨request, hrequest, hkind, hpassword⟩

end Rustylink.Api
