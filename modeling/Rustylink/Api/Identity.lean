import Rustylink.Api.SignedRequest
import Rustylink.Foundation.Trimming

/-!
# The default client identity

The identity of the Android client that the daemon stands in for, with a device
id that is derived from the machine.  The digest and its text are third-party
code and parameters.
-/

namespace Rustylink.Api

open Rustylink.Foundation

structure IdentityCrates where
  sha256 : ByteString → ByteString
  hexEncode : ByteString → String

def hexDigitChars : List Char := "0123456789abcdef".toList

structure IdentityCrates.Lawful (crates : IdentityCrates) : Prop where
  sha256_length : ∀ message, (crates.sha256 message).length = 32
  hexEncode_length : ∀ bytes, (crates.hexEncode bytes).toList.length =
    2 * bytes.length
  hexEncode_digits : ∀ bytes, ∀ c ∈ (crates.hexEncode bytes).toList,
    c ∈ hexDigitChars

variable (crates : IdentityCrates)

/-- `DEFAULT_DEVICE_ID`; no machine UID counts as the empty one. -/
def defaultDeviceId (machineUid : Option String) : String :=
  String.ofList ((crates.hexEncode (crates.sha256 (utf8 "device-id-v1" ++
    utf8 (trim (machineUid.getD ""))))).toList.take 32)

def ClientIdentity.default (machineUid : Option String) : ClientIdentity where
  os := "Android"
  osVersion := "35"
  appVersion := "3.2.16"
  brand := "google"
  model := "Pixel 8"
  deviceId := defaultDeviceId crates machineUid
  buildNumber := "2008"
  osVersionPatch := "2025-05-05"
  clientSource := "FeiLian"
  language := "en"
  userAgent := "CorpLink/3.2.16 (googlePixel 8; Android 15; en)"

variable {crates}

theorem defaultDeviceId_digits (hcrates : crates.Lawful)
    (machineUid : Option String) :
    (defaultDeviceId crates machineUid).toList.length = 32 ∧
      ∀ c ∈ (defaultDeviceId crates machineUid).toList, c ∈ hexDigitChars := by
  rw [defaultDeviceId, String.toList_ofList]
  refine ⟨?_, fun c hc => ?_⟩
  · rw [List.length_take, hcrates.hexEncode_length, hcrates.sha256_length]
    rfl
  · exact hcrates.hexEncode_digits _ c (List.mem_of_mem_take hc)

end Rustylink.Api
