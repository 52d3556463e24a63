import Mathlib.Data.List.Basic

/-!
# The API client

What the client makes of a reply.  `Body` is the type of the bytes of a reply
and `Json` the type of untyped JSON values; the decoder of the JSON library is
a parameter.  An error that shows a body carries it whole, before it is cut to
the length that logs can take.
-/

namespace Rustylink.Api

structure LogoutReason where
  reason : Option String
  message : Option String
  deriving DecidableEq, Repr

/-- The envelope of every reply. -/
structure BaseResponse (Json α : Type) where
  code : Int32
  message : Option String
  data : Option α
  action : Option String
  logoutReason : Option LogoutReason
  extra : Option (List (String × Json))
  deriving DecidableEq, Repr

def BaseResponse.ofData {Json α : Type} (data : Option α) :
    BaseResponse Json α where
  code := 0
  message := none
  data := data
  action := none
  logoutReason := none
  extra := none

def BaseResponse.isForceLogout {Json α : Type}
    (response : BaseResponse Json α) : Bool :=
  response.action = some "logout"

@[simp] theorem BaseResponse.isForceLogout_iff {Json α : Type}
    {response : BaseResponse Json α} :
    response.isForceLogout = true ↔ response.action = some "logout" := by
  simp [isForceLogout]

class ApiResponse (Response : Type) where
  code : Response → Int32
  message : Response → Option String

instance {Json α : Type} : ApiResponse (BaseResponse Json α) where
  code := BaseResponse.code
  message := BaseResponse.message

/-- `request` stands for all that can go wrong before there is a reply. -/
inductive ApiError (Body Json : Type) where
  | invalidBaseUrl (value : String)
  | request (source : String)
  | decode (content : Body)
  | httpStatus (status : Nat) (content : Body)
  | missingVpnDotField (field : String)
  | invalidPort (port : Int)
  | apiStatus (code : Int32) (message : String)
        (response : BaseResponse Json Json)
  deriving DecidableEq, Repr

structure HttpResponse (Body : Type) where
  status : Nat
  body : Body
  deriving DecidableEq, Repr

def HttpResponse.isSuccess {Body : Type} (reply : HttpResponse Body) : Bool :=
  200 ≤ reply.status ∧ reply.status < 300

variable {Body Json Response : Type}

def execute (outcome : Except (ApiError Body Json) (HttpResponse Body)) :
    Except (ApiError Body Json) Body := do
  let reply ← outcome
  if reply.isSuccess then .ok reply.body
  else .error (.httpStatus reply.status reply.body)

def decodeResponse (decode : Body → Option Response) (bytes : Body) :
    Except (ApiError Body Json) Response :=
  match decode bytes with
  | some decoded => .ok decoded
  | none => .error (.decode bytes)

/--
The error carries the whole envelope; `envelope` decodes it again, untyped.
-/
def checkApiStatus [ApiResponse Response]
    (envelope : Body → Option (BaseResponse Json Json)) (response : Response)
    (body : Body) : Except (ApiError Body Json) Unit :=
  if ApiResponse.code response = 0 then .ok ()
  else
    let message := (ApiResponse.message response).getD "unknown API error"
    let response := (envelope body).getD {
      code := ApiResponse.code response
      message := some message
      data := none
      action := none
      logoutReason := none
      extra := none }
    .error (.apiStatus response.code message response)

/-- `ApiClient::send`, from the outcome of the request on. -/
def send [ApiResponse Response] (decode : Body → Option Response)
    (envelope : Body → Option (BaseResponse Json Json))
    (outcome : Except (ApiError Body Json) (HttpResponse Body)) :
    Except (ApiError Body Json) Response := do
  let responseBody ← execute outcome
  let decoded ← decodeResponse decode responseBody
  checkApiStatus envelope decoded responseBody
  return decoded

theorem checkApiStatus_ok [ApiResponse Response] {response : Response}
    (envelope : Body → Option (BaseResponse Json Json)) (body : Body)
    (h : ApiResponse.code response = 0) :
    checkApiStatus envelope response body = .ok () :=
  if_pos h

theorem checkApiStatus_error [ApiResponse Response] {response : Response}
    (envelope : Body → Option (BaseResponse Json Json)) (body : Body)
    (h : ApiResponse.code response ≠ 0) :
    ∃ message shown, checkApiStatus envelope response body =
      .error (.apiStatus shown.code message shown) :=
  ⟨_, _, if_neg h⟩

theorem send_decoded [ApiResponse Response] {decode : Body → Option Response}
    (envelope : Body → Option (BaseResponse Json Json))
    {reply : HttpResponse Body} {response : Response}
    (hstatus : reply.isSuccess = true)
    (hdecode : decode reply.body = some response) :
    (ApiResponse.code response = 0 →
      send decode envelope (.ok reply) = .ok response) ∧
      (ApiResponse.code response ≠ 0 →
        ∃ error, send decode envelope (.ok reply) = .error error) := by
  have hbody : execute (.ok reply : Except (ApiError Body Json) _) =
      .ok reply.body := by
    simp [execute, hstatus, bind, Except.bind]
  have hdecoded : decodeResponse decode reply.body =
      (.ok response : Except (ApiError Body Json) Response) := by
    simp [decodeResponse, hdecode]
  have hsend : send decode envelope (.ok reply) = do
      checkApiStatus envelope response reply.body
      return response := by
    simp only [send, hbody, hdecoded, bind, Except.bind]
  constructor
  · intro hcode
    rw [hsend, checkApiStatus_ok envelope reply.body hcode]
    rfl
  · intro hcode
    obtain ⟨message, shown, herror⟩ :=
      checkApiStatus_error envelope reply.body hcode
    rw [hsend, herror]
    exact ⟨_, rfl⟩

end Rustylink.Api
