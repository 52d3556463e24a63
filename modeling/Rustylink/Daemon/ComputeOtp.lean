import Rustylink.Core.Totp
import Rustylink.Daemon.AuthCalls

/-!
# The code of an automatic reconnect

Between the provisioning and a code the offset lies in the auth machine, and in
the file of a restarted daemon.
-/

namespace Rustylink.Daemon

open Rustylink.Foundation Rustylink.Core

def persistedTotp (config : TotpConfig) : PersistedTotpConfig :=
  ⟨config.url, config.timeDiffSeconds.toInt⟩

def storedTotp (config : PersistedTotpConfig) : TotpConfig :=
  ⟨config.url, .ofInt config.timeDiffSeconds⟩

@[simp] theorem storedTotp_persistedTotp (config : TotpConfig) :
    storedTotp (persistedTotp config) = config := by
  simp [storedTotp, persistedTotp]

def AuthCoordinator.computeOtp (crate : TotpCrate) (manual : Option String)
    (auth : AuthCoordinator) (now : Timestamp) :
    Except Overflow (Option String) :=
  match manual, auth.totp with
  | some code, _ => .ok (some code)
  | none, none => .ok none
  | none, some config => generateTotp crate (storedTotp config) now.asSecond

theorem totpFromProvision_exact {provision : Core.OtpProvision}
    {now : Timestamp} {config : Option TotpConfig}
    (h : Core.totpFromProvision provision now = .ok config) :
    totpFromProvision now.second
        ⟨provision.url, provision.timestamp.toInt⟩ =
      config.map persistedTotp := by
  unfold totpFromProvision
  by_cases hurl : provision.url = ""
  · rw [Core.totpFromProvision, if_pos hurl] at h
    cases h
    rw [if_pos hurl]
    rfl
  · cases config with
    | none =>
        rw [Core.totpFromProvision, if_neg hurl] at h
        cases hdiff : timeDiffSeconds provision.timestamp now.asSecond <;>
          rw [hdiff] at h <;> cases h
    | some config =>
        obtain ⟨hsame, hdiff⟩ := (totpFromProvision_eq_some hurl).mp h
        rw [timeDiffSeconds_eq_ok, Timestamp.toInt_asSecond] at hdiff
        rw [if_neg hurl, Option.map_some, persistedTotp, hsame, hdiff]

/--
A code is made without an overflow, at the server's time and from what the auth
calls store, exactly when the offset and that time fit.
-/
theorem computeOtp_corrected_iff (crate : TotpCrate)
    {provision : Core.OtpProvision} {received now : Timestamp}
    (hurl : provision.url ≠ "") (hlater : received.second ≤ now.second) :
    (∃ config corrected,
        Core.totpFromProvision provision received = .ok (some config) ∧
        totpFromProvision received.second
            ⟨provision.url, provision.timestamp.toInt⟩ =
          some (persistedTotp config) ∧
        config.corrected now.asSecond = .ok corrected ∧
        corrected.toInt = serverTime provision.timestamp.toInt received.second
          now.second ∧
        ∀ auth : AuthCoordinator, auth.totp = some (persistedTotp config) →
          auth.computeOtp crate none now =
            .ok (codeAt crate provision.url corrected)) ↔
      (0 < provision.timestamp.toInt →
        provision.timestamp.toInt - received.second < 2 ^ 63 ∧
          provision.timestamp.toInt + (now.second - received.second) <
            2 ^ 63) := by
  rw [← corrected_iff hurl hlater]
  constructor
  · rintro ⟨config, corrected, hconfig, -, hsum, htime, -⟩
    exact ⟨config, corrected, hconfig, hsum, htime⟩
  · rintro ⟨config, corrected, hconfig, hsum, htime⟩
    refine ⟨config, corrected, hconfig, totpFromProvision_exact hconfig, hsum,
      htime, fun auth hauth => ?_⟩
    have hsame := ((totpFromProvision_eq_some hurl).mp hconfig).1
    simp only [AuthCoordinator.computeOtp, hauth, storedTotp_persistedTotp,
      generateTotp, hsum, hsame, Except.map]

def morning : Timestamp := ⟨1700000000, by decide, by decide⟩

def evening : Timestamp := ⟨1700040000, by decide, by decide⟩

theorem computeOtp_corrected_iff_evening :
    (∃ config corrected,
        Core.totpFromProvision ⟨"otpauth://totp/vpn", 1700000007⟩ morning =
          .ok (some config) ∧
        totpFromProvision morning.second
            ⟨"otpauth://totp/vpn", (1700000007 : Int64).toInt⟩ =
          some (persistedTotp config) ∧
        config.corrected evening.asSecond = .ok corrected ∧
        corrected.toInt = serverTime (1700000007 : Int64).toInt morning.second
          evening.second ∧
        ∀ auth : AuthCoordinator, auth.totp = some (persistedTotp config) →
          auth.computeOtp (fun _ => none) none evening =
            .ok (codeAt (fun _ => none) "otpauth://totp/vpn" corrected)) ↔
      (0 < (1700000007 : Int64).toInt →
        (1700000007 : Int64).toInt - morning.second < 2 ^ 63 ∧
          (1700000007 : Int64).toInt + (evening.second - morning.second) <
            2 ^ 63) :=
  computeOtp_corrected_iff (fun _ => none) (by decide) (by decide)

/-- A server that sends the largest time makes every later code overflow. -/
theorem largest_timestamp_overflows :
    Core.totpFromProvision ⟨"otpauth://totp/vpn", Int64.maxValue⟩ morning =
        .ok (some ⟨"otpauth://totp/vpn", Int64.maxValue - 1700000000⟩) ∧
      morning.second ≤ evening.second ∧
      ((AuthCoordinator.new "device").setTotp (some (persistedTotp
        ⟨"otpauth://totp/vpn", Int64.maxValue - 1700000000⟩))).computeOtp
          (fun _ => none) none evening = .error .overflow := by
  refine ⟨?_, ?_, ?_⟩ <;> decide +kernel

end Rustylink.Daemon
