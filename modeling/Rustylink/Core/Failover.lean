import Rustylink.Core.DotVisits

/-!
# Dot failover

A candidate that would return a config within its tries is reached only past
candidates whose requests all fail.  One without an endpoint ends the visits,
and so does a reply without data.
-/

namespace Rustylink.Core

open Rustylink.Foundation Rustylink.Api

variable {Url Body Json : Type} (parseUrl : String → Option Url)

def WouldAnswer (world : DotWorld Body Json) (request : VpnConfigRequest)
    (position : Nat) (dot : VpnDot) : Prop :=
  (∃ endpoint, (request.endpoint parseUrl dot : Except (ApiError Body Json) _) =
    .ok endpoint) ∧
    ∃ attempt, 1 ≤ attempt ∧ attempt ≤ maxConfigAttemptsPerDot ∧
      ∃ response, world.conn position attempt = .ok response ∧
        response.data.isSome = true

def EndsVisits (world : DotWorld Body Json) (request : VpnConfigRequest)
    (position : Nat) (dot : VpnDot) : Prop :=
  (∃ source, (request.endpoint parseUrl dot : Except (ApiError Body Json) _) =
    .error source) ∨
    ∃ attempt response, FirstReply (world.conn position) attempt response ∧
      response.data = none

def FirstToAnswer (world : DotWorld Body Json) (request : VpnConfigRequest)
    (tried : List VpnDot) (position : Nat) (dot : VpnDot) : Prop :=
  tried[position]? = some dot ∧
    WouldAnswer parseUrl world request position dot ∧
    ∀ earlier < position, ∀ other, tried[earlier]? = some other →
      ¬ WouldAnswer parseUrl world request earlier other

/-- The negotiation ends at the first candidate that would answer. -/
def FailoverComplete (world : DotWorld Body Json)
    (request : VpnConfigRequest) : Prop :=
  ∀ locations dots, world.locations = .ok locations →
    locations.data = some dots →
    ∀ position dot, FirstToAnswer parseUrl world request
      (world.tried request dots) position dot →
      ∃ result log, vpnConfigFromDotList parseUrl world request [] =
        .ok result log ∧
        result.dot = dot ∧
        (request.endpoint parseUrl dot : Except (ApiError Body Json) _) =
          .ok result.endpoint ∧
        result.response.data.isSome = true ∧
        ∃ attempt, world.conn position attempt = .ok result.response

/--
Neither that candidate nor one before it ends the visits without a config.
-/
def NoneEndsVisits (world : DotWorld Body Json)
    (request : VpnConfigRequest) : Prop :=
  ∀ locations dots, world.locations = .ok locations →
    locations.data = some dots →
    ∀ position dot, FirstToAnswer parseUrl world request
      (world.tried request dots) position dot →
      ∀ earlier ≤ position, ∀ other, (world.tried request dots)[earlier]? =
        some other →
        ¬ EndsVisits parseUrl world request earlier other

variable {parseUrl} {request : VpnConfigRequest}

def Passes (parseUrl : String → Option Url) (request : VpnConfigRequest)
    (answers : Nat → Nat →
      Except (ApiError Body Json) (BaseResponse Json VpnConnResponse))
    (position : Nat) (dot : VpnDot) : Prop :=
  (∃ endpoint, (request.endpoint parseUrl dot : Except (ApiError Body Json) _) =
    .ok endpoint) ∧
    NoReply (answers position)

theorem FirstReply.unique
    {answer : Nat → Except (ApiError Body Json)
      (BaseResponse Json VpnConnResponse)}
    {a b : Nat} {first second : BaseResponse Json VpnConnResponse}
    (ha : FirstReply answer a first) (hb : FirstReply answer b second) :
    first = second := by
  obtain ⟨ha₁, -, hfirst, haearlier⟩ := ha
  obtain ⟨hb₁, -, hsecond, hbearlier⟩ := hb
  have hab : a = b := by
    rcases Nat.lt_trichotomy a b with hlt | heq | hgt
    · obtain ⟨source, herror⟩ := hbearlier a ha₁ hlt
      rw [hfirst] at herror
      cases herror
    · exact heq
    · obtain ⟨source, herror⟩ := haearlier b hb₁ hgt
      rw [hsecond] at herror
      cases herror
  subst hab
  rw [hfirst] at hsecond
  exact Except.ok.inj hsecond

theorem NoReply.not_firstReply
    {answer : Nat → Except (ApiError Body Json)
      (BaseResponse Json VpnConnResponse)}
    {attempt : Nat} {response : BaseResponse Json VpnConnResponse}
    (h : NoReply answer) (hfirst : FirstReply answer attempt response) :
    False := by
  obtain ⟨hone, hmax, hok, -⟩ := hfirst
  obtain ⟨source, herror⟩ := h attempt hone hmax
  rw [hok] at herror
  cases herror

theorem Passes.not_wouldAnswer {world : DotWorld Body Json} {position : Nat}
    {dot : VpnDot} (h : Passes parseUrl request world.conn position dot) :
    ¬ WouldAnswer parseUrl world request position dot := by
  rintro ⟨-, attempt, hone, hmax, response, hok, -⟩
  obtain ⟨source, herror⟩ := h.2 attempt hone hmax
  rw [hok] at herror
  cases herror

theorem Passes.not_endsVisits {world : DotWorld Body Json} {position : Nat}
    {dot : VpnDot} (h : Passes parseUrl request world.conn position dot) :
    ¬ EndsVisits parseUrl world request position dot := by
  rintro (⟨source, herror⟩ | ⟨attempt, response, hfirst, -⟩)
  · obtain ⟨endpoint, hok⟩ := h.1
    rw [hok] at herror
    cases herror
  · exact h.2.not_firstReply hfirst

theorem Visits.end_position
    {answers : Nat → Nat →
      Except (ApiError Body Json) (BaseResponse Json VpnConnResponse)}
    {position : Nat} {dots : List VpnDot}
    {visits : List (Visit Url)} {last : VisitsEnd Url Json}
    (h : Visits parseUrl request answers position dots visits last) :
    ∃ k, (∀ j < k, ∀ dot, dots[j]? = some dot →
        Passes parseUrl request answers (position + j) dot) ∧
      match last with
      | .gaveUp => dots.length ≤ k
      | .unusable => ∃ dot source, dots[k]? = some dot ∧
          (request.endpoint parseUrl dot : Except (ApiError Body Json) _) =
            .error source
      | .replied result => dots[k]? = some result.dot ∧
          (request.endpoint parseUrl result.dot : Except (ApiError Body Json)
            _) = .ok result.endpoint ∧
          ∃ attempt, FirstReply (answers (position + k))
            attempt result.response := by
  induction h with
  | gaveUp position => exact ⟨0, by simp, Nat.le_refl 0⟩
  | unusable hendpoint => exact ⟨0, by simp, _, _, rfl, hendpoint⟩
  | replied hendpoint hreply => exact ⟨0, by simp, rfl, hendpoint, _, hreply⟩
  | @next position dot dots endpoint visits last hendpoint hnone hrest ih =>
      obtain ⟨k, hpassed, hend⟩ := ih
      refine ⟨k + 1, fun j hj other hother => ?_, ?_⟩
      · cases j with
        | zero =>
            simp only [List.getElem?_cons_zero, Option.some.injEq] at hother
            subst hother
            exact ⟨⟨endpoint, hendpoint⟩, hnone⟩
        | succ j =>
            rw [List.getElem?_cons_succ] at hother
            have hlater := hpassed j (by omega) other hother
            rwa [show position + 1 + j = position + (j + 1) by omega] at hlater
      · rw [show position + 1 + k = position + (k + 1) by omega] at hend
        cases last with
        | gaveUp => exact Nat.succ_le_succ hend
        | unusable => exact hend
        | replied result => exact hend

theorem FirstToAnswer.lt_length {world : DotWorld Body Json}
    {tried : List VpnDot} {position : Nat} {dot : VpnDot}
    (h : FirstToAnswer parseUrl world request tried position dot) :
    position < tried.length :=
  (List.getElem?_eq_some_iff.mp h.1).1

theorem tryDots_reaches_iff {world : DotWorld Body Json} {tried : List VpnDot}
    {position : Nat} {dot : VpnDot} (log : List (DotCall Url))
    (hfirst : FirstToAnswer parseUrl world request tried position dot) :
    (∃ result log', tryDots parseUrl world.conn request 0 tried none log =
      .ok result log' ∧
        result.dot = dot ∧
        (request.endpoint parseUrl dot : Except (ApiError Body Json) _) =
          .ok result.endpoint ∧
        result.response.data.isSome = true ∧
        ∃ attempt, world.conn position attempt = .ok result.response) ↔
      ∀ earlier ≤ position, ∀ other, tried[earlier]? = some other →
        ¬ EndsVisits parseUrl world request earlier other := by
  obtain ⟨visits, last, hvisits, hyields⟩ :=
    tryDots_visits parseUrl request world.conn 0 tried none log
  obtain ⟨k, hpassed, hend⟩ := hvisits.end_position
  simp only [Nat.zero_add] at hpassed hend
  -- The visits do not get past a candidate that would answer.
  have hk : k ≤ position := by
    by_contra hlt
    exact (hpassed position (by omega) dot hfirst.1).not_wouldAnswer hfirst.2.1
  cases last with
  | gaveUp =>
      have hlt := hfirst.lt_length
      exact absurd hend (by omega)
  | unusable =>
      obtain ⟨other, source, hother, hendpoint⟩ := hend
      obtain ⟨error, hrun⟩ := hyields
      constructor
      · rintro ⟨result, log', hok, -⟩
        rw [hrun] at hok
        cases hok
      · intro hnone
        exact absurd (.inl ⟨source, hendpoint⟩) (hnone k hk other hother)
  | replied result =>
      obtain ⟨hdot, hendpoint, attempt, hreply⟩ := hend
      rcases hyields with ⟨hdata, hrun⟩ | ⟨hdata, hrun⟩
      · have hanswers : WouldAnswer parseUrl world request k result.dot :=
          ⟨⟨_, hendpoint⟩, attempt, hreply.1, hreply.2.1, _,
            hreply.2.2.1, hdata⟩
        have hsame : k = position := by
          by_contra hne
          exact hfirst.2.2 k (by omega) _ hdot hanswers
        subst hsame
        have hdots : result.dot = dot :=
          Option.some.inj (hdot.symm.trans hfirst.1)
        refine iff_of_true
          ⟨result, _, hrun, hdots, hdots ▸ hendpoint, hdata, attempt,
            hreply.2.2.1⟩ ?_
        intro earlier hearlier other hother
        rcases Nat.lt_or_eq_of_le hearlier with hlt | rfl
        · exact (hpassed earlier hlt other hother).not_endsVisits
        · rintro (⟨source, herror⟩ | ⟨other', response, hother', hnone⟩)
          · rw [Option.some.inj (hother.symm.trans hdot), hendpoint] at herror
            cases herror
          · rw [← hreply.unique hother'] at hnone
            rw [hnone] at hdata
            cases hdata
      · constructor
        · rintro ⟨result', log', hok, -⟩
          rw [hrun] at hok
          cases hok
        · intro hnone
          exact absurd (.inr ⟨attempt, _, hreply, hdata⟩) (hnone k hk _ hdot)

/--
Failover is complete exactly when no candidate on the way ends the visits.
-/
theorem failover_complete_iff (parseUrl : String → Option Url)
    (world : DotWorld Body Json) (request : VpnConfigRequest) :
    FailoverComplete parseUrl world request ↔
      NoneEndsVisits parseUrl world request := by
  have hreaches : ∀ {locations dots} {position : Nat} {dot : VpnDot},
      world.locations = .ok locations → locations.data = some dots →
      FirstToAnswer parseUrl world request (world.tried request dots)
        position dot →
      vpnConfigFromDotList parseUrl world request [] =
        tryDots parseUrl world.conn request 0 (world.tried request dots) none
          (firstCalls request dots) := by
    intro locations dots position dot hlocations hdata hfirst
    have htried : world.tried request dots ≠ [] := by
      intro hnil
      have hlt := hfirst.lt_length
      rw [hnil] at hlt
      exact absurd hlt (by simp)
    exact vpnConfigFromDotList_of_candidates hlocations hdata
      (candidates_ne_nil_of_tried htried)
  constructor
  · intro h locations dots hlocations hdata position dot hfirst
    have hok := h locations dots hlocations hdata position dot hfirst
    rw [hreaches hlocations hdata hfirst] at hok
    exact (tryDots_reaches_iff _ hfirst).mp hok
  · intro h locations dots hlocations hdata position dot hfirst
    rw [hreaches hlocations hdata hfirst]
    exact (tryDots_reaches_iff _ hfirst).mpr
      (h locations dots hlocations hdata position dot hfirst)

def portlessFirst : DotWorld Unit Unit where
  locations := .ok (.ofData (some
    [dotExample "192.0.2.1" none, dotExample "192.0.2.2" (some 443)]))
  rank := id
  conn := fun _ _ => .ok configExample

theorem portless_dot_ends_failover :
    ¬ FailoverComplete some portlessFirst requestExample := by
  intro h
  have hfirst : FirstToAnswer some portlessFirst requestExample
      (portlessFirst.tried requestExample
        [dotExample "192.0.2.1" none, dotExample "192.0.2.2" (some 443)])
      1 (dotExample "192.0.2.2" (some 443)) := by
    refine ⟨by decide,
      ⟨⟨_, rfl⟩, 1, by decide, by decide, configExample, rfl, rfl⟩, ?_⟩
    rintro earlier hlt other hother ⟨⟨endpoint, hendpoint⟩, -⟩
    obtain rfl : earlier = 0 := by omega
    cases hother
    cases hendpoint
  obtain ⟨result, log, hrun, -⟩ := h _ _ rfl rfl 1 _ hfirst
  cases hrun

end Rustylink.Core
