import Rustylink.Api.Identity
import Rustylink.Daemon.Config

/-!
# The device that the daemon presents itself as

Every start completes the identity in `config.json`, and every field that is
blank falls back to a default of its own wherever the identity is used.  The
default device id is derived from the machine, which may look different at the
next start.
-/

namespace Rustylink.Daemon

open Rustylink.Foundation Rustylink.Api

def isBlank (text : String) : Bool := trim text = ""

def isSet (slot : Option String) : Bool := slot.any fun value => !isBlank value

def mergeField (slot : Option String) (default : String) : Option String :=
  if slot.all isBlank then some default else slot

def orDefault (value : Option String) (fallback : String) : String :=
  (value.filter fun value => !isBlank value).getD fallback

namespace DeviceIdentityConfig

def isFull (identity : DeviceIdentityConfig) : Bool :=
  !isBlank identity.deviceId &&
    [identity.os, identity.osVersion, identity.appVersion, identity.brand,
      identity.model, identity.buildNumber, identity.osVersionPatch,
      identity.clientSource, identity.language, identity.userAgent].all isSet

/-- The identity with every gap filled, and whether there was one. -/
def ensureFull (default : ClientIdentity) (identity : DeviceIdentityConfig) :
    DeviceIdentityConfig × Bool :=
  if identity.isFull then (identity, false)
  else
    ({ deviceId := if isBlank identity.deviceId then default.deviceId
      else identity.deviceId
       os := mergeField identity.os default.os
       osVersion := mergeField identity.osVersion default.osVersion
       appVersion := mergeField identity.appVersion default.appVersion
       brand := mergeField identity.brand default.brand
       model := mergeField identity.model default.model
       buildNumber := mergeField identity.buildNumber default.buildNumber
       osVersionPatch :=
         mergeField identity.osVersionPatch default.osVersionPatch
       clientSource := mergeField identity.clientSource default.clientSource
       language := mergeField identity.language default.language
       userAgent := mergeField identity.userAgent default.userAgent }, true)

def toClientIdentity (default : ClientIdentity)
    (identity : DeviceIdentityConfig) :
    ClientIdentity where
  deviceId :=
    if isBlank identity.deviceId then default.deviceId else identity.deviceId
  os := orDefault identity.os default.os
  osVersion := orDefault identity.osVersion default.osVersion
  appVersion := orDefault identity.appVersion default.appVersion
  brand := orDefault identity.brand default.brand
  model := orDefault identity.model default.model
  buildNumber := orDefault identity.buildNumber default.buildNumber
  osVersionPatch := orDefault identity.osVersionPatch default.osVersionPatch
  clientSource := orDefault identity.clientSource default.clientSource
  language := orDefault identity.language default.language
  userAgent := orDefault identity.userAgent default.userAgent

end DeviceIdentityConfig

/-! ## Fields and their defaults -/

structure FillsGaps (default : ClientIdentity) : Prop where
  deviceId : isBlank default.deviceId = false
  os : isBlank default.os = false
  osVersion : isBlank default.osVersion = false
  appVersion : isBlank default.appVersion = false
  brand : isBlank default.brand = false
  model : isBlank default.model = false
  buildNumber : isBlank default.buildNumber = false
  osVersionPatch : isBlank default.osVersionPatch = false
  clientSource : isBlank default.clientSource = false
  language : isBlank default.language = false
  userAgent : isBlank default.userAgent = false

theorem isSet_mergeField (slot : Option String) {default : String}
    (h : isBlank default = false) : isSet (mergeField slot default) = true := by
  cases slot with
  | none => simp [mergeField, isSet, h]
  | some value =>
      by_cases hblank : isBlank value = true
      · simp [mergeField, isSet, hblank, h]
      · simp [mergeField, isSet, hblank]

@[simp] theorem orDefault_none (fallback : String) :
  orDefault none fallback = fallback := rfl

@[simp] theorem orDefault_some (value fallback : String) :
    orDefault (some value) fallback =
      if isBlank value then fallback else value := by
  cases h : isBlank value <;> simp [orDefault, Option.filter, h]

theorem orDefault_mergeField (slot : Option String) {default : String}
    (fallback : String) (h : isBlank default = false) :
    orDefault (mergeField slot default) fallback = orDefault slot default := by
  cases slot with
  | none => simp [mergeField, h]
  | some value => cases hblank : isBlank value <;> simp [mergeField, hblank, h]

theorem orDefault_of_isSet {slot : Option String} (h : isSet slot = true)
    (fallback other : String) :
    orDefault slot fallback = orDefault slot other := by
  cases slot with
  | none => simp [isSet] at h
  | some value =>
      have hvalue : isBlank value = false := by simpa [isSet] using h
      simp [hvalue]

namespace DeviceIdentityConfig

variable {identity : DeviceIdentityConfig} {default : ClientIdentity}

theorem toClientIdentity_of_isFull (h : identity.isFull = true)
    (other : ClientIdentity) :
    identity.toClientIdentity default = identity.toClientIdentity other := by
  simp only [isFull, Bool.and_eq_true, Bool.not_eq_true', List.all_cons,
    List.all_nil] at h
  obtain ⟨hid, hos, hversion, happ, hbrand, hmodel, hbuild, hpatch, hsource,
      hlanguage, hagent, -⟩ := h
  simp only [toClientIdentity, hid, Bool.false_eq_true, if_false,
    ClientIdentity.mk.injEq]
  exact ⟨orDefault_of_isSet hos _ _, orDefault_of_isSet hversion _ _,
    orDefault_of_isSet happ _ _, orDefault_of_isSet hbrand _ _,
    orDefault_of_isSet hmodel _ _, trivial, orDefault_of_isSet hbuild _ _,
    orDefault_of_isSet hpatch _ _, orDefault_of_isSet hsource _ _,
    orDefault_of_isSet hlanguage _ _, orDefault_of_isSet hagent _ _⟩

theorem ensureFull_isFull (h : FillsGaps default)
    (identity : DeviceIdentityConfig) :
    (identity.ensureFull default).1.isFull = true := by
  unfold ensureFull
  split
  · assumption
  · have hid :
        isBlank (if isBlank identity.deviceId = true then default.deviceId
        else identity.deviceId) = false := by
      split
      · exact h.deviceId
      · next hblank => simpa using hblank
    simp only [isFull, hid, List.all_cons, List.all_nil,
      isSet_mergeField _ h.os, isSet_mergeField _ h.osVersion,
      isSet_mergeField _ h.appVersion, isSet_mergeField _ h.brand,
      isSet_mergeField _ h.model, isSet_mergeField _ h.buildNumber,
      isSet_mergeField _ h.osVersionPatch, isSet_mergeField _ h.clientSource,
      isSet_mergeField _ h.language, isSet_mergeField _ h.userAgent]
    rfl

theorem ensureFull_toClientIdentity (h : FillsGaps default)
    (identity : DeviceIdentityConfig) (other : ClientIdentity) :
    (identity.ensureFull default).1.toClientIdentity other =
      identity.toClientIdentity default := by
  unfold ensureFull
  split
  · next hfull => exact toClientIdentity_of_isFull hfull default
  · have hid :
        isBlank (if isBlank identity.deviceId = true then default.deviceId
        else identity.deviceId) = false := by
      split
      · exact h.deviceId
      · next hblank => simpa using hblank
    simp only [toClientIdentity, hid, Bool.false_eq_true, if_false,
      orDefault_mergeField _ _ h.os, orDefault_mergeField _ _ h.osVersion,
      orDefault_mergeField _ _ h.appVersion, orDefault_mergeField _ _ h.brand,
      orDefault_mergeField _ _ h.model, orDefault_mergeField _ _ h.buildNumber,
      orDefault_mergeField _ _ h.osVersionPatch,
      orDefault_mergeField _ _ h.clientSource,
      orDefault_mergeField _ _ h.language, orDefault_mergeField _ _ h.userAgent]

theorem ensureFull_of_isFull (h : identity.isFull = true) :
    identity.ensureFull default = (identity, false) := if_pos h

end DeviceIdentityConfig

/-! ## The default of this program -/

theorem isBlank_eq_false {text : String} (hne : text.toList ≠ [])
    (h : ∀ c ∈ text.toList, isWhitespace c = false) : isBlank text = false := by
  have hself : (trim text).toList = text.toList := by
    rw [trim, toList_trimMatches, trimList_of_clean (.of_forall h)]
  simp only [isBlank, decide_eq_false_iff_not]
  intro htrim
  rw [htrim] at hself
  exact hne hself.symm

theorem default_fillsGaps {crates : IdentityCrates} (hcrates : crates.Lawful)
    (machineUid : Option String) : FillsGaps (.default crates machineUid) := by
  have hid : isBlank (defaultDeviceId crates machineUid) = false := by
    obtain ⟨hlength, hdigits⟩ := defaultDeviceId_digits hcrates machineUid
    have hvisible : hexDigitChars.all (fun c => !isWhitespace c) = true := by
      decide
    refine isBlank_eq_false ?_ fun c hc => ?_
    · rw [← List.length_pos_iff, hlength]
      decide
    · simpa using List.all_eq_true.mp hvisible c (hdigits c hc)
  exact {
    deviceId := hid
    os := show isBlank "Android" = false by decide
    osVersion := show isBlank "35" = false by decide
    appVersion := show isBlank "3.2.16" = false by decide
    brand := show isBlank "google" = false by decide
    model := show isBlank "Pixel 8" = false by decide
    buildNumber := show isBlank "2008" = false by decide
    osVersionPatch := show isBlank "2025-05-05" = false by decide
    clientSource := show isBlank "FeiLian" = false by decide
    language := show isBlank "en" = false by decide
    userAgent :=
      show isBlank "CorpLink/3.2.16 (googlePixel 8; Android 15; en)" = false by
        decide }

/-! ## Configurations that stand for a device -/

def DaemonConfig.completed (default : ClientIdentity) (config : DaemonConfig) :
    DaemonConfig :=
  { config with identity := (config.identity.ensureFull default).1 }

/--
A full identity that stands for this device, whatever the machine's default.
-/
def StandsFor (device : ClientIdentity) (config : DaemonConfig) : Prop :=
  config.identity.isFull = true ∧
    ∀ default, config.identity.toClientIdentity default = device

theorem StandsFor.completed {default : ClientIdentity} (h : FillsGaps default)
    (config : DaemonConfig) :
    StandsFor (config.identity.toClientIdentity default)
      (config.completed default) :=
  ⟨DeviceIdentityConfig.ensureFull_isFull h config.identity,
    fun other => DeviceIdentityConfig.ensureFull_toClientIdentity h
      config.identity other⟩

theorem StandsFor.completed_eq {device : ClientIdentity} {config : DaemonConfig}
    (h : StandsFor device config) (default : ClientIdentity) :
    config.completed default = config := by
  unfold DaemonConfig.completed
  rw [DeviceIdentityConfig.ensureFull_of_isFull h.1]

end Rustylink.Daemon
