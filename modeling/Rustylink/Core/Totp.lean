import Mathlib.Tactic.SplitIfs
import Rustylink.Foundation.Checked

/-!
# One-time passwords

The offset between the server's clock and the local one is taken when the secret
is provisioned, and added to the local time when a code is made.  Both are `i64`
operations; the TOTP library makes the codes.
-/

namespace Rustylink.Core

open Rustylink.Foundation

/-- A time that `jiff::Timestamp` can hold, in seconds. -/
structure Timestamp where
  second : Int
  min_le : -377705023201 ≤ second
  le_max : second ≤ 253402207200

namespace Timestamp

def asSecond (t : Timestamp) : Int64 := .ofInt t.second

@[simp] theorem toInt_asSecond (t : Timestamp) :
    t.asSecond.toInt = t.second := by
  have hlow := t.min_le
  have hhigh := t.le_max
  exact Int64.toInt_ofInt_of_le (by omega) (by omega)

end Timestamp

structure OtpProvision where
  url : String
  timestamp : Int64
  deriving DecidableEq, Repr

structure TotpConfig where
  url : String
  timeDiffSeconds : Int64
  deriving DecidableEq, Repr

/-- `TOTP::from_url_unchecked`, with the codes of what it reads from a URL. -/
abbrev TotpCrate := String → Option (Nat → String)

/-! ## Provisioning -/

def timeDiffSeconds (timestamp now : Int64) : Except Overflow Int64 :=
  if 0 < timestamp then checkedSub timestamp now else .ok 0

def totpFromProvision (provision : OtpProvision) (now : Timestamp) :
    Except Overflow (Option TotpConfig) :=
  if provision.url = "" then .ok none
  else (timeDiffSeconds provision.timestamp now.asSecond).map fun diff =>
    some ⟨provision.url, diff⟩

/-! ## Codes -/

def TotpConfig.corrected (config : TotpConfig) (nowUnix : Int64) :
    Except Overflow Int64 :=
  checkedAdd nowUnix config.timeDiffSeconds

def codeAt (crate : TotpCrate) (url : String) (time : Int64) : Option String :=
  if 0 ≤ time then (crate url).map fun generate =>
    generate time.toInt.toNat else none

def generateTotp (crate : TotpCrate) (config : TotpConfig) (nowUnix : Int64) :
    Except Overflow (Option String) :=
  (config.corrected nowUnix).map (codeAt crate config.url)

/-! ## The corrected time -/

/--
The server's time at the local time `now`, as it was seen at the local time
`received`.
-/
def serverTime (timestamp received now : Int) : Int :=
  if 0 < timestamp then timestamp + (now - received) else now

theorem timeDiffSeconds_eq_ok {timestamp now diff : Int64} :
    timeDiffSeconds timestamp now = .ok diff ↔
      diff.toInt =
        if 0 < timestamp.toInt then timestamp.toInt - now.toInt else 0 := by
  have hpositive : 0 < timestamp ↔ 0 < timestamp.toInt := by
    rw [Int64.lt_iff_toInt_lt, Int64.toInt_zero]
  unfold timeDiffSeconds
  simp only [hpositive]
  split_ifs
  · exact checkedSub_eq_ok
  · rw [Except.ok.injEq, eq_comm, ← Int64.toInt_inj, Int64.toInt_zero]

theorem totpFromProvision_eq_some {provision : OtpProvision} {now : Timestamp}
    {config : TotpConfig} (hurl : provision.url ≠ "") :
    totpFromProvision provision now = .ok (some config) ↔
      config.url = provision.url ∧
        timeDiffSeconds provision.timestamp now.asSecond =
          .ok config.timeDiffSeconds := by
  obtain ⟨url, seconds⟩ := config
  unfold totpFromProvision
  rw [if_neg hurl]
  cases timeDiffSeconds provision.timestamp now.asSecond with
  | error e => simp [Except.map]
  | ok diff => simp [Except.map, eq_comm]

theorem corrected_iff {provision : OtpProvision} {received now : Timestamp}
    (hurl : provision.url ≠ "") (hlater : received.second ≤ now.second) :
    (∃ config corrected, totpFromProvision provision received =
      .ok (some config) ∧
        config.corrected now.asSecond = .ok corrected ∧
        corrected.toInt = serverTime provision.timestamp.toInt
          received.second now.second) ↔
      (0 < provision.timestamp.toInt →
        provision.timestamp.toInt - received.second < 2 ^ 63 ∧
          provision.timestamp.toInt + (now.second - received.second) <
            2 ^ 63) := by
  have hreceived := received.le_max
  have hlow := now.min_le
  have hhigh := now.le_max
  unfold serverTime
  constructor
  · rintro ⟨config, corrected, hconfig, hsum, -⟩ hpositive
    have hdiff :=
      timeDiffSeconds_eq_ok.mp ((totpFromProvision_eq_some hurl).mp hconfig).2
    rw [if_pos hpositive, Timestamp.toInt_asSecond] at hdiff
    have htime := checkedAdd_eq_ok.mp hsum
    rw [Timestamp.toInt_asSecond, hdiff] at htime
    have hdiffFits := config.timeDiffSeconds.toInt_lt
    have htimeFits := corrected.toInt_lt
    omega
  · intro hfits
    -- local times are far from both ends, so only the upper bounds can be missed
    have hdiff : FitsInt64 (if 0 < provision.timestamp.toInt then
        provision.timestamp.toInt - received.second else 0) := by
      constructor <;> split_ifs <;> omega
    have htime : FitsInt64 (if 0 < provision.timestamp.toInt then
        provision.timestamp.toInt + (now.second - received.second)
            else now.second) := by
      constructor <;> split_ifs <;> omega
    obtain ⟨diff, hdiff⟩ := exists_toInt_eq.mpr hdiff
    obtain ⟨corrected, htime⟩ := exists_toInt_eq.mpr htime
    refine ⟨⟨provision.url, diff⟩, corrected,
      (totpFromProvision_eq_some hurl).mpr ⟨rfl, ?_⟩, ?_, htime⟩
    · rw [timeDiffSeconds_eq_ok, Timestamp.toInt_asSecond]
      exact hdiff
    · refine checkedAdd_eq_ok.mpr ?_
      rw [Timestamp.toInt_asSecond]
      dsimp only
      rw [htime, hdiff]
      split_ifs <;> omega

end Rustylink.Core
