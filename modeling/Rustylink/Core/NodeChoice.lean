import Mathlib.Data.List.Perm.Subperm
import Rustylink.Core.DotVisits

/-!
# The node a tunnel connects to

Every request of a negotiation goes to a dot that the request allows, and the
result names the dot and the endpoint that answered.
-/

namespace Rustylink.Core

open Rustylink.Foundation Rustylink.Api

variable {Url Body Json : Type} {parseUrl : String → Option Url}
  {request : VpnConfigRequest}

/-- A dot of the list that serves what the request asks for. -/
structure Allowed (world : DotWorld Body Json) (request : VpnConfigRequest)
    (dot : VpnDot) : Prop where
  listed : ∃ locations dots, world.locations = .ok locations ∧
    locations.data = some dots ∧
    dot ∈ dots
  mode : dot.supportsAndroidMode request.mode.androidId = true
  reconnect : request.reconnect = true → dot.supportsReconnect = true
  pinned : ∀ id, request.locationId = some id → dot.id = some id

def DotCall.isConn : DotCall Url → Bool
  | .conn .. => true
  | _ => false

def DotCall.isRank : DotCall Url → Bool
  | .rank _ => true
  | _ => false

/-! ## Candidates -/

theorem mem_candidates_iff {dots : List VpnDot} {dot : VpnDot} :
    dot ∈ request.candidates dots ↔ dot ∈ dots ∧
      (∀ id, request.locationId = some id → dot.id = some id) ∧
      dot.supportsAndroidMode request.mode.androidId = true ∧
      (request.reconnect = true → dot.supportsReconnect = true) := by
  simp only [VpnConfigRequest.candidates, List.mem_filter, Bool.and_eq_true,
    Bool.or_eq_true, Bool.not_eq_true', Option.all_eq_true, decide_eq_true_eq]
  constructor
  · rintro ⟨hmem, ⟨hpinned, hmode⟩, hreconnect⟩
    refine ⟨hmem, hpinned, hmode, fun hwanted => hreconnect.resolve_left ?_⟩
    simp [hwanted]
  · rintro ⟨hmem, hpinned, hmode, hreconnect⟩
    refine ⟨hmem, ⟨hpinned, hmode⟩, ?_⟩
    cases hwanted : request.reconnect with
    | false => exact .inl rfl
    | true => exact .inr (hreconnect hwanted)

theorem mem_candidates_of_tried {world : DotWorld Body Json}
    {dots : List VpnDot} {dot : VpnDot}
    (hrank : ∀ dots, (world.rank dots).Perm dots)
    (h : dot ∈ world.tried request dots) : dot ∈ request.candidates dots := by
  unfold DotWorld.tried at h
  have hmem := List.mem_of_mem_take h
  split at hmem
  · exact (hrank _).mem_iff.mp hmem
  · exact hmem

theorem tried_length (world : DotWorld Body Json) (dots : List VpnDot) :
    (world.tried request dots).length ≤ maxDotAttempts := by
  unfold DotWorld.tried
  rw [List.length_take]
  exact Nat.min_le_left ..

/-! ## Visits -/

theorem Visits.spec
    {answers : Nat → Nat →
      Except (ApiError Body Json) (BaseResponse Json VpnConnResponse)}
    {position : Nat} {dots : List VpnDot} {visits : List (Visit Url)}
    {last : VisitsEnd Url Json}
    (h : Visits parseUrl request answers position dots visits last) :
    visits.length ≤ dots.length ∧
      (∀ visit ∈ visits, visit.dot ∈ dots ∧
        visit.tries ≤ maxConfigAttemptsPerDot ∧
        (request.endpoint parseUrl visit.dot : Except (ApiError Body Json) _) =
          .ok visit.endpoint) ∧
      ∀ result, last = .replied result → ∃ visit, visits.getLast? = some visit ∧
        result.dot = visit.dot ∧ result.endpoint = visit.endpoint ∧
        answers (position + (visits.length - 1)) visit.tries =
          .ok result.response := by
  induction h with
  | gaveUp =>
      exact ⟨Nat.le_refl 0, by simp, fun result hresult => by cases hresult⟩
  | unusable =>
      exact ⟨Nat.zero_le _, by simp, fun result hresult => by cases hresult⟩
  | @replied position dot dots endpoint attempt response hendpoint hreply =>
      refine ⟨by simp, ?_, ?_⟩
      · intro visit hvisit
        rw [List.mem_singleton.mp hvisit]
        exact ⟨List.mem_cons_self, hreply.2.1, hendpoint⟩
      · intro result hresult
        cases hresult
        exact ⟨_, rfl, rfl, rfl, hreply.2.2.1⟩
  | @next position dot dots endpoint visits last hendpoint hnone hrest ih =>
      obtain ⟨hlength, hall, hlast⟩ := ih
      refine ⟨Nat.succ_le_succ hlength, ?_, ?_⟩
      · intro visit hvisit
        rcases List.mem_cons.mp hvisit with rfl | hmem
        · exact ⟨List.mem_cons_self, Nat.le_refl _, hendpoint⟩
        · obtain ⟨hdot, htries⟩ := hall visit hmem
          exact ⟨List.mem_cons_of_mem dot hdot, htries⟩
      · intro result hresult
        obtain ⟨visit, hvisit, hdot, hend, hanswer⟩ := hlast result hresult
        refine ⟨visit, ?_, hdot, hend, ?_⟩
        · rw [List.getLast?_cons, hvisit]
          rfl
        · have hpos : visits ≠ [] := by
            rintro rfl
            cases hvisit
          have hone := List.length_pos_of_ne_nil hpos
          rw [← hanswer, List.length_cons]
          congr 1
          omega

theorem filter_calls (visits : List (Visit Url)) (request : VpnConfigRequest) :
    (visits.flatMap (Visit.calls request)).filter DotCall.isConn =
        visits.flatMap (Visit.calls request) ∧
      (visits.flatMap (Visit.calls request)).filter DotCall.isRank = [] := by
  have hconn : ∀ c ∈ visits.flatMap (Visit.calls request), c.isConn = true ∧
      c.isRank = false := by
    intro c hc
    obtain ⟨visit, -, hcall⟩ := List.mem_flatMap.mp hc
    rw [List.eq_of_mem_replicate hcall]
    exact ⟨rfl, rfl⟩
  refine ⟨List.filter_eq_self.mpr fun c hc => (hconn c hc).1, ?_⟩
  rw [List.filter_eq_nil_iff]
  intro c hc
  simp [(hconn c hc).2]

theorem firstCalls_filter (request : VpnConfigRequest) (dots : List VpnDot) :
    (firstCalls request dots : List (DotCall Url)).filter DotCall.isConn =
    [] := by
  unfold firstCalls
  split <;> rfl

theorem firstCalls_pinned {dots : List VpnDot}
    (h : request.locationId.isSome = true) :
    (firstCalls request dots : List (DotCall Url)) = [.locations] := by
  have hpinned : request.locationId.isNone = false := by simpa using h
  simp [firstCalls, VpnConfigRequest.ranks, hpinned]

theorem VisitsEnd.Yields.leaves {log : List (DotCall Url)}
    {last : VisitsEnd Url Json}
    {run : EStateM.Result (VpnConfigError Body Json) (List (DotCall Url))
      (VpnConfigResult Url Json)}
    (h : last.Yields log run) : Foundation.leaves run = log := by
  cases last with
  | gaveUp | unusable =>
      obtain ⟨error, rfl⟩ := h
      rfl
  | replied result =>
      rcases h with ⟨-, rfl⟩ | ⟨-, rfl⟩ <;> rfl

/-! ## The first dial -/

def firstDial (log : List (DotCall Url)) : Option (DotCall Url) :=
  log.find? DotCall.isConn

def VpnConfigRequest.dial (Body Json : Type) (parseUrl : String → Option Url)
    (request : VpnConfigRequest) (dot : VpnDot) : Option (DotCall Url) :=
  (request.endpoint parseUrl dot : Except (ApiError Body Json) _).toOption.map
    fun endpoint => .conn endpoint (request.connRequest dot)

theorem dial_of_endpoint {dot : VpnDot} {endpoint : DotEndpoint Url}
    (h : (request.endpoint parseUrl dot : Except (ApiError Body Json) _) =
      .ok endpoint) :
    request.dial Body Json parseUrl dot =
      some (.conn endpoint (request.connRequest dot)) := by
  simp [VpnConfigRequest.dial, h, Except.toOption]

theorem Visits.firstDial
    {answers : Nat → Nat →
      Except (ApiError Body Json) (BaseResponse Json VpnConnResponse)}
    {position : Nat} {dots : List VpnDot} {visits : List (Visit Url)}
    {last : VisitsEnd Url Json}
    (h : Visits parseUrl request answers position dots visits last) :
    (visits.flatMap (Visit.calls request)).head? =
      dots.head?.bind (request.dial Body Json parseUrl) := by
  cases h with
  | gaveUp => rfl
  | unusable hendpoint =>
      simp [VpnConfigRequest.dial, hendpoint, Except.toOption]
  | replied hendpoint hreply =>
      have htries := Nat.ne_of_gt hreply.1
      simp [Visit.calls, dial_of_endpoint hendpoint, List.head?_replicate,
        htries]
  | next hendpoint _ _ =>
      simp [Visit.calls, dial_of_endpoint hendpoint, maxConfigAttemptsPerDot]

theorem firstDial_negotiation {world : DotWorld Body Json}
    {locations : BaseResponse Json (List VpnDot)} {dots : List VpnDot}
    (hlocations : world.locations = .ok locations)
    (hdata : locations.data = some dots)
    (hcandidates : request.candidates dots ≠ []) :
    firstDial (leaves (vpnConfigFromDotList parseUrl world request [])) =
      (world.tried request dots).head?.bind
      (request.dial Body Json parseUrl) := by
  obtain ⟨visits, last, hvisits, hyields⟩ :=
    tryDots_visits parseUrl request world.conn 0
    (world.tried request dots) none (firstCalls request dots)
  rw [vpnConfigFromDotList_of_candidates hlocations hdata hcandidates,
    hyields.leaves, Core.firstDial, ← List.head?_filter, List.filter_append,
    firstCalls_filter, List.nil_append,
    (filter_calls visits request).1, hvisits.firstDial]

/-! ## The node -/

/--
The requests of a run are those of at most three visits, each to an allowed
dot; a pinned location is not ranked; and the result is the last visit's.
-/
theorem connected_node_matches_selection (parseUrl : String → Option Url)
    (world : DotWorld Body Json) (request : VpnConfigRequest)
    (hrank : ∀ dots, (world.rank dots).Perm dots) :
    ∃ visits : List (Visit Url),
      visits.length ≤ maxDotAttempts ∧
      (leaves (vpnConfigFromDotList parseUrl world request [])).filter
        DotCall.isConn = visits.flatMap (fun visit => List.replicate visit.tries
          (.conn visit.endpoint (request.connRequest visit.dot))) ∧
      (∀ visit ∈ visits, Allowed world request visit.dot ∧
        (request.endpoint parseUrl visit.dot : Except (ApiError Body Json) _) =
          .ok visit.endpoint ∧
        (request.connRequest visit.dot).exportId = visit.dot.id.getD 0 ∧
        visit.tries ≤ maxConfigAttemptsPerDot) ∧
      (request.locationId.isSome = true →
        (leaves (vpnConfigFromDotList parseUrl world request [])).filter
          DotCall.isRank = []) ∧
      ∀ result log, vpnConfigFromDotList parseUrl world request [] =
        .ok result log →
        ∃ visit, visits.getLast? = some visit ∧ result.dot = visit.dot ∧
          result.endpoint = visit.endpoint ∧
          world.conn (visits.length - 1) visit.tries = .ok result.response := by
  rcases vpnConfigFromDotList_run parseUrl world request with
    ⟨error, hrun⟩ | ⟨locations, dots, hlocations, hdata, hcandidates⟩
  · rw [hrun]
    exact ⟨[], Nat.zero_le _,
      rfl, by simp, fun _ => rfl, fun result log hok => by cases hok⟩
  · obtain ⟨visits, last, hvisits, hyields⟩ :=
      tryDots_visits parseUrl request world.conn 0
      (world.tried request dots) none (firstCalls request dots)
    rw [vpnConfigFromDotList_of_candidates hlocations hdata hcandidates,
      hyields.leaves]
    obtain ⟨hlength, hall, hlast⟩ := hvisits.spec
    obtain ⟨hconns, hranks⟩ := filter_calls visits request
    refine ⟨visits, Nat.le_trans hlength (tried_length world dots),
      ?_, ?_, ?_, ?_⟩
    · rw [List.filter_append, firstCalls_filter, hconns]
      rfl
    · intro visit hvisit
      obtain ⟨hmem, htries, hendpoint⟩ := hall visit hvisit
      obtain ⟨hlisted, hpinned, hmode, hreconnect⟩ :=
        mem_candidates_iff.mp (mem_candidates_of_tried hrank hmem)
      exact ⟨⟨⟨locations, dots, hlocations, hdata, hlisted⟩, hmode,
        hreconnect, hpinned⟩, hendpoint, rfl, htries⟩
    · intro hpinned
      rw [List.filter_append, hranks, firstCalls_pinned hpinned]
      rfl
    · intro result log hok
      have hresult : last = .replied result := by
        cases last with
        | gaveUp | unusable =>
            obtain ⟨error, herror⟩ := hyields
            rw [hok] at herror
            cases herror
        | replied other =>
            rcases hyields with ⟨-, hother⟩ | ⟨-, hother⟩
            · rw [hok] at hother
              cases hother
              rfl
            · rw [hok] at hother
              cases hother
      simpa using hlast result hresult

def turnedAround : DotWorld Unit Unit where
  locations := .ok (.ofData (some
    [dotExample "192.0.2.1" (some 443), dotExample "192.0.2.2" (some 443)]))
  rank := List.reverse
  conn := fun _ _ => .ok configExample

theorem connected_node_turned_around :
    ∃ result log, vpnConfigFromDotList some turnedAround requestExample [] =
      .ok result log ∧
      Allowed turnedAround requestExample result.dot := by
  obtain ⟨visits, -, -, hall, -, hlast⟩ :=
    connected_node_matches_selection some turnedAround requestExample
      List.reverse_perm
  obtain ⟨visit, hvisit, hdot, -⟩ := hlast _ _ rfl
  exact ⟨_, _, rfl, hdot ▸ (hall visit (List.mem_of_getLast? hvisit)).1⟩

end Rustylink.Core
