import Rustylink.Core.VpnConfig

/-!
# The visits of a negotiation

A negotiation visits candidates one after the other: it asks each of them up
to the first reply, goes on when all tries fail, and ends at a reply or at a
dot that has no endpoint.
-/

namespace Rustylink.Core

open Rustylink.Foundation Rustylink.Api

variable {Url Body Json : Type}

def FirstReply
    (answer : Nat → Except (ApiError Body Json)
      (BaseResponse Json VpnConnResponse))
    (attempt : Nat) (response : BaseResponse Json VpnConnResponse) : Prop :=
  1 ≤ attempt ∧ attempt ≤ maxConfigAttemptsPerDot ∧
    answer attempt = .ok response ∧
    ∀ earlier, 1 ≤ earlier → earlier < attempt →
      ∃ source, answer earlier = .error source

def NoReply
    (answer : Nat → Except (ApiError Body Json)
      (BaseResponse Json VpnConnResponse)) : Prop :=
  ∀ attempt, 1 ≤ attempt → attempt ≤ maxConfigAttemptsPerDot →
    ∃ source, answer attempt = .error source

structure Visit (Url : Type) where
  dot : VpnDot
  endpoint : DotEndpoint Url
  tries : Nat
  deriving DecidableEq, Repr

def Visit.calls (request : VpnConfigRequest) (visit : Visit Url) :
    List (DotCall Url) :=
  List.replicate visit.tries
    (.conn visit.endpoint (request.connRequest visit.dot))

inductive VisitsEnd (Url Json : Type) where
  | gaveUp
  | unusable
  | replied (result : VpnConfigResult Url Json)

/-- The visits to the candidates from a position on. -/
inductive Visits (parseUrl : String → Option Url) (request : VpnConfigRequest)
    (answers : Nat → Nat →
      Except (ApiError Body Json) (BaseResponse Json VpnConnResponse)) :
    Nat → List VpnDot → List (Visit Url) → VisitsEnd Url Json → Prop
  | gaveUp (position : Nat) :
      Visits parseUrl request answers position [] [] .gaveUp
  | unusable {position : Nat} {dot : VpnDot} {dots : List VpnDot}
        {source : ApiError Body Json}
      (hendpoint : request.endpoint parseUrl dot = .error source) :
      Visits parseUrl request answers position (dot :: dots) [] .unusable
  | replied {position : Nat} {dot : VpnDot} {dots : List VpnDot}
        {endpoint : DotEndpoint Url}
      {attempt : Nat} {response : BaseResponse Json VpnConnResponse}
      (hendpoint : (request.endpoint parseUrl dot : Except (ApiError Body Json)
        _) = .ok endpoint)
      (hreply : FirstReply (answers position) attempt response) :
      Visits parseUrl request answers position (dot :: dots)
        [⟨dot, endpoint, attempt⟩]
        (.replied ⟨dot, endpoint, response⟩)
  | next {position : Nat} {dot : VpnDot} {dots : List VpnDot}
        {endpoint : DotEndpoint Url}
      {visits : List (Visit Url)} {last : VisitsEnd Url Json}
      (hendpoint : (request.endpoint parseUrl dot : Except (ApiError Body Json)
        _) = .ok endpoint)
      (hnone : NoReply (answers position))
      (hrest : Visits parseUrl request answers (position + 1)
        dots visits last) :
      Visits parseUrl request answers position (dot :: dots)
        (⟨dot, endpoint, maxConfigAttemptsPerDot⟩ :: visits) last

def VisitsEnd.Yields (log : List (DotCall Url)) :
    VisitsEnd Url Json →
      EStateM.Result (VpnConfigError Body Json) (List (DotCall Url))
        (VpnConfigResult Url Json) → Prop
  | .replied result, run =>
      (result.response.data.isSome = true ∧ run = .ok result log) ∨
        (result.response.data = none ∧ run = .error .missingVpnConfigData log)
  | _, run => ∃ error, run = .error error log

/-! ## The runs make these visits -/

variable {parseUrl : String → Option Url} {request : VpnConfigRequest}

@[simp] theorem run_call (event : DotCall Url) (log : List (DotCall Url)) :
    (call event : Negotiation Url Body Json Unit) log =
      .ok () (log ++ [event]) := rfl

@[simp] theorem run_orApi_ok {α : Type} (a : α) (log : List (DotCall Url)) :
    (orApi (.ok a) : Negotiation Url Body Json α) log = .ok a log := rfl

theorem requestConfig_range
    (answer : Nat → Except (ApiError Body Json)
      (BaseResponse Json VpnConnResponse))
    (endpoint : DotEndpoint Url) (body : VpnConnRequest) (n start : Nat)
    (lastError : Option (ApiError Body Json)) (log : List (DotCall Url)) :
    (∃ k response, k < n ∧ answer (start + k) = .ok response ∧
      (∀ j < k, ∃ source, answer (start + j) = .error source) ∧
      requestConfig answer endpoint body (List.range' start n) lastError log =
        .ok (.inl response) (log ++ List.replicate (k + 1)
          (.conn endpoint body))) ∨
    ((∀ j < n, ∃ source, answer (start + j) = .error source) ∧
      ∃ last, requestConfig answer endpoint body (List.range' start n)
        lastError log =
        .ok (.inr last) (log ++ List.replicate n (.conn endpoint body))) := by
  induction n generalizing start lastError log with
  | zero => exact .inr ⟨by omega, lastError, by simp [requestConfig]⟩
  | succ n ih =>
      rw [List.range'_succ]
      simp only [requestConfig, run_bind, run_call]
      cases hanswer : answer start with
      | ok response =>
          exact .inl
            ⟨0, response, by omega, by simpa using hanswer, by omega, rfl⟩
      | error source =>
          have hhead : ∀ {k : Nat},
              (∀ j < k, ∃ source, answer (start + 1 + j) = .error source) →
              ∀ j < k + 1, ∃ source, answer (start + j) = .error source := by
            intro k hrest j hj
            cases j with
            | zero => exact ⟨source, by simpa using hanswer⟩
            | succ j =>
                obtain ⟨later, hlater⟩ := hrest j (by omega)
                exact ⟨later, by rw [← hlater]; congr 1; omega⟩
          have hcalls : ∀ k, log ++ [DotCall.conn endpoint body] ++
              List.replicate k (.conn endpoint body) =
                log ++ List.replicate (k + 1) (.conn endpoint body) := by
            intro k
            rw [List.append_assoc, List.singleton_append, ← List.replicate_succ]
          rcases ih (start + 1) (some source)
              (log ++ [.conn endpoint body]) with
            ⟨k, response, hk, hok, hearlier, hrun⟩ | ⟨hall, last, hrun⟩
          · refine .inl ⟨k + 1, response, by omega, ?_, hhead hearlier, ?_⟩
            · rw [← hok]
              congr 1
              omega
            · exact hrun.trans (by rw [hcalls])
          · exact .inr ⟨hhead hall, last, hrun.trans (by rw [hcalls])⟩

theorem requestConfig_run
    (answer : Nat → Except (ApiError Body Json)
      (BaseResponse Json VpnConnResponse))
    (endpoint : DotEndpoint Url) (body : VpnConnRequest)
    (lastError : Option (ApiError Body Json)) (log : List (DotCall Url)) :
    (∃ attempt response, FirstReply answer attempt response ∧
      requestConfig answer endpoint body attempts lastError log =
        .ok (.inl response)
          (log ++ List.replicate attempt (.conn endpoint body))) ∨
    (NoReply answer ∧ ∃ last, requestConfig answer endpoint body attempts
      lastError log =
      .ok (.inr last) (log ++ List.replicate maxConfigAttemptsPerDot
        (.conn endpoint body))) := by
  rcases requestConfig_range answer endpoint body maxConfigAttemptsPerDot 1
      lastError log with
    ⟨k, response, hk, hok, hearlier, hrun⟩ | ⟨hall, last, hrun⟩
  · refine .inl ⟨k + 1, response, ⟨by omega, hk, ?_, ?_⟩, hrun⟩
    · rw [← hok, Nat.add_comm]
    · intro earlier hone hlt
      obtain ⟨source, herror⟩ := hearlier (earlier - 1) (by omega)
      exact ⟨source, by rw [← herror, Nat.add_sub_cancel' hone]⟩
  · refine .inr ⟨fun attempt hone hle => ?_, last, hrun⟩
    obtain ⟨source, herror⟩ := hall (attempt - 1) (by omega)
    exact ⟨source, by rw [← herror, Nat.add_sub_cancel' hone]⟩

theorem tryDots_visits (parseUrl : String → Option Url)
    (request : VpnConfigRequest)
    (answers : Nat → Nat →
      Except (ApiError Body Json) (BaseResponse Json VpnConnResponse))
    (position : Nat) (dots : List VpnDot)
    (lastError : Option (ApiError Body Json)) (log : List (DotCall Url)) :
    ∃ visits last, Visits parseUrl request answers position dots visits last ∧
      last.Yields (log ++ visits.flatMap (Visit.calls request))
        (tryDots parseUrl answers request position dots lastError log) := by
  induction dots generalizing position lastError log with
  | nil =>
      refine ⟨[], .gaveUp, .gaveUp position, ?_⟩
      rw [List.flatMap_nil, List.append_nil]
      cases lastError <;> exact ⟨_, rfl⟩
  | cons dot dots ih =>
      simp only [tryDots, run_bind]
      cases hendpoint :
          (request.endpoint parseUrl dot : Except (ApiError Body Json) _) with
      | error source =>
          refine ⟨[], .unusable, .unusable hendpoint, ?_⟩
          rw [List.flatMap_nil, List.append_nil]
          exact ⟨_, rfl⟩
      | ok endpoint =>
          simp only [run_orApi_ok]
          rcases requestConfig_run (answers position) endpoint
            (request.connRequest dot)
            lastError log with ⟨attempt, response, hreply, hrun⟩ | ⟨hnone, next,
              hrun⟩
          · refine ⟨_, _, .replied hendpoint hreply, ?_⟩
            rw [List.flatMap_singleton]
            simp only [hrun]
            cases hdata : response.data with
            | some data => exact .inl ⟨by simp [hdata], rfl⟩
            | none => exact .inr ⟨hdata, rfl⟩
          · obtain ⟨visits, last, hvisits, hyields⟩ := ih (position + 1) next
              (log ++ List.replicate maxConfigAttemptsPerDot
                (.conn endpoint (request.connRequest dot)))
            refine ⟨_, last, .next hendpoint hnone hvisits, ?_⟩
            rw [List.flatMap_cons, ← List.append_assoc]
            simp only [hrun]
            exact hyields

def firstCalls (request : VpnConfigRequest) (dots : List VpnDot) :
    List (DotCall Url) :=
  .locations :: if request.ranks (request.candidates dots) then
    [.rank (request.candidates dots)] else []

theorem vpnConfigFromDotList_of_candidates {world : DotWorld Body Json}
    {request : VpnConfigRequest} {locations : BaseResponse Json (List VpnDot)}
    {dots : List VpnDot} (hlocations : world.locations = .ok locations)
    (hdata : locations.data = some dots)
    (hcandidates : request.candidates dots ≠ []) :
    vpnConfigFromDotList parseUrl world request [] =
      tryDots parseUrl world.conn request 0 (world.tried request dots) none
        (firstCalls request dots) := by
  have hdots : dots ≠ [] := by
    rintro rfl
    exact hcandidates rfl
  simp only [vpnConfigFromDotList, run_bind, run_call,
    List.nil_append, hlocations, run_orApi_ok, hdata]
  rw [if_neg hdots, if_neg hcandidates]
  unfold firstCalls
  by_cases hranks : request.ranks (request.candidates dots) = true
  · simp only [hranks, if_true]
    rfl
  · simp only [hranks]
    rfl

theorem vpnConfigFromDotList_run (parseUrl : String → Option Url)
    (world : DotWorld Body Json) (request : VpnConfigRequest) :
    (∃ error, vpnConfigFromDotList parseUrl world request [] =
      .error error [(.locations : DotCall Url)]) ∨
    ∃ locations dots, world.locations = .ok locations ∧
      locations.data = some dots ∧
      request.candidates dots ≠ [] := by
  simp only [vpnConfigFromDotList, run_bind, run_call, List.nil_append]
  cases hlocations : world.locations with
  | error source => exact .inl ⟨_, rfl⟩
  | ok locations =>
      simp only [run_orApi_ok]
      cases hdata : locations.data with
      | none => exact .inl ⟨_, rfl⟩
      | some dots =>
          dsimp only
          by_cases hdots : dots = []
          · rw [if_pos hdots]
            exact .inl ⟨_, rfl⟩
          · by_cases hcandidates : request.candidates dots = []
            · rw [if_neg hdots, if_pos hcandidates]
              exact .inl ⟨_, rfl⟩
            · exact .inr ⟨locations, dots, rfl, hdata, hcandidates⟩

theorem Visits.asked
    {answers : Nat → Nat →
      Except (ApiError Body Json) (BaseResponse Json VpnConnResponse)}
    {position : Nat} {dots : List VpnDot} {visits : List (Visit Url)}
    {result : VpnConfigResult Url Json}
    (h : Visits parseUrl request answers position dots visits
      (.replied result)) :
    (.conn result.endpoint (request.connRequest result.dot)) ∈
      visits.flatMap (Visit.calls request) := by
  generalize hlast : (VisitsEnd.replied result : VisitsEnd Url Json) = last at h
  induction h with
  | gaveUp | unusable => cases hlast
  | replied hendpoint hreply =>
      cases hlast
      rw [List.flatMap_singleton]
      exact List.mem_replicate.mpr ⟨Nat.ne_of_gt hreply.1, rfl⟩
  | next hendpoint hnone hrest ih =>
      rw [List.flatMap_cons]
      exact List.mem_append_right _ (ih hlast)

theorem vpnConfig_asked {world : DotWorld Body Json}
    {result : VpnConfigResult Url Json} {log : List (DotCall Url)}
    (h : vpnConfigFromDotList parseUrl world request [] = .ok result log) :
    .conn result.endpoint (request.connRequest result.dot) ∈ log ∧
      ∀ endpoint body, .conn endpoint body ∈ log →
        ∃ dot, body = request.connRequest dot := by
  rcases vpnConfigFromDotList_run parseUrl world request with
    ⟨error, hrun⟩ | ⟨locations, dots, hlocations, hdata, hcandidates⟩
  · rw [hrun] at h
    cases h
  rw [vpnConfigFromDotList_of_candidates hlocations hdata hcandidates] at h
  obtain ⟨visits, last, hvisits, hyields⟩ :=
    tryDots_visits parseUrl request world.conn 0
    (world.tried request dots) none (firstCalls request dots)
  rw [h] at hyields
  cases last with
  | gaveUp | unusable =>
      obtain ⟨error, herror⟩ := hyields
      cases herror
  | replied found =>
      obtain ⟨-, hok⟩ | ⟨-, herror⟩ := hyields
      · cases hok
        refine ⟨List.mem_append_right _ hvisits.asked,
          fun endpoint body hbody => ?_⟩
        rcases List.mem_append.mp hbody with hfirst | hvisit
        · unfold firstCalls at hfirst
          split at hfirst <;> simp at hfirst
        · obtain ⟨visit, -, hcall⟩ := List.mem_flatMap.mp hvisit
          obtain ⟨-, hsame⟩ := List.mem_replicate.mp hcall
          cases hsame
          exact ⟨visit.dot, rfl⟩
      · cases herror

theorem candidates_ne_nil_of_tried {world : DotWorld Body Json}
    {request : VpnConfigRequest} {dots : List VpnDot}
    (h : world.tried request dots ≠ []) :
    request.candidates dots ≠ [] := by
  intro hnil
  apply h
  simp [DotWorld.tried, hnil, VpnConfigRequest.ranks]

end Rustylink.Core
