import Rustylink.Api.Client
import Rustylink.Core.Vpn

/-!
# The `/vpn/report` keepalive

`dotClient` says what comes back for a report: a failure, or a reply with its
status and its body.
-/

namespace Rustylink.Api

structure VpnReportRequest where
  type : String
  ip : String
  publicKey : String
  mode : String
  deriving DecidableEq, Repr

inductive VpnReportType where
  | connected
  | disconnected
  deriving DecidableEq, Repr

def VpnReportType.wire : VpnReportType → String
  | .connected => "100"
  | .disconnected => "101"

end Rustylink.Api

namespace Rustylink.Daemon

open Rustylink.Api Rustylink.Core

structure ReportParams where
  assignedIp : String
  pubKey : String
  mode : VpnConnectMode
  deriving DecidableEq, Repr

def ReportParams.request (report : ReportParams) (reportType : VpnReportType) :
    VpnReportRequest where
  type := reportType.wire
  ip := report.assignedIp
  publicKey := report.pubKey
  mode := report.mode.androidName

variable {Body Json : Type}

/-- A report that fails is not fatal; it says nothing about a logout. -/
def sendReport (decode : Body → Option (BaseResponse Json Json))
    (dotClient : VpnReportRequest →
      Except (ApiError Body Json) (HttpResponse Body))
    (report : ReportParams) (reportType : VpnReportType) : Bool :=
  match send decode decode (dotClient (report.request reportType)) with
  | .ok response => response.isForceLogout
  | .error _ => false

theorem sendReport_decoded {decode : Body → Option (BaseResponse Json Json)}
    {dotClient : VpnReportRequest →
      Except (ApiError Body Json) (HttpResponse Body)}
    {report : ReportParams} {reportType : VpnReportType}
    {reply : HttpResponse Body} {response : BaseResponse Json Json}
    (hreply : dotClient (report.request reportType) = .ok reply)
    (hstatus : reply.isSuccess = true)
    (hdecode : decode reply.body = some response) :
    sendReport decode dotClient report reportType = true ↔
      response.code = 0 ∧ response.action = some "logout" := by
  obtain ⟨hok, herror⟩ := send_decoded decode hstatus hdecode
  unfold sendReport
  rw [hreply]
  by_cases hcode : response.code = 0
  · rw [hok hcode]
    simp [hcode]
  · obtain ⟨error, hsend⟩ := herror hcode
    rw [hsend]
    simp [hcode]

/--
A reply is reported as a forced logout exactly when its action says so, unless
it carries a non-zero code together with that action.
-/
theorem sendReport_iff_logout (decode : Body → Option (BaseResponse Json Json))
    (dotClient : VpnReportRequest →
      Except (ApiError Body Json) (HttpResponse Body))
    (report : ReportParams) (reportType : VpnReportType)
    {reply : HttpResponse Body} {response : BaseResponse Json Json}
    (hreply : dotClient (report.request reportType) = .ok reply)
    (hstatus : reply.isSuccess = true)
    (hdecode : decode reply.body = some response) :
    (sendReport decode dotClient report reportType = true ↔
        response.action = some "logout") ↔
      response.code = 0 ∨ response.action ≠ some "logout" := by
  rw [sendReport_decoded hreply hstatus hdecode]
  constructor
  · intro h
    by_cases haction : response.action = some "logout"
    · exact .inl (h.mpr haction).1
    · exact .inr haction
  · rintro (hcode | haction)
    · exact ⟨And.right, fun h => ⟨hcode, h⟩⟩
    · exact ⟨And.right, fun h => absurd h haction⟩

def reportExample : ReportParams := ⟨"10.0.0.2", "key", .full⟩

def answering (response : BaseResponse Unit Unit) (_ : VpnReportRequest) :
    Except (ApiError (BaseResponse Unit Unit) Unit)
      (HttpResponse (BaseResponse Unit Unit)) :=
  .ok ⟨200, response⟩

def kickOut (code : Int32) : BaseResponse Unit Unit :=
  { BaseResponse.ofData none with code := code, action := some "logout" }

theorem sendReport_kickOut :
    sendReport some (answering (kickOut 0)) reportExample .connected = true :=
  ((sendReport_iff_logout some (answering (kickOut 0)) reportExample .connected
    rfl rfl rfl).mpr (.inl rfl)).mpr rfl

theorem sendReport_misses_kickOut :
    (kickOut 401).action = some "logout" ∧
      sendReport some (answering (kickOut 401)) reportExample .connected =
        false :=
  ⟨rfl, by decide⟩

end Rustylink.Daemon
