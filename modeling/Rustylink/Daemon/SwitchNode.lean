import Rustylink.Core.NodeChoice
import Rustylink.Daemon.Latency
import Rustylink.Daemon.ProbePath
import Rustylink.Daemon.System
import Rustylink.Tunnel.ReconnectLaw

/-!
# Switching the node

A connect loop against the negotiations of its attempts: which dot an attempt
gets its config from, what is decided when the attempt ends, and which dot the
next attempt dials first.  The round trips of the dots are fixed for a run;
the lists and the replies of the servers may be others at every attempt.
-/

namespace Rustylink.Daemon

open Rustylink.Foundation Rustylink.Api Rustylink.Core Rustylink.Tunnel

variable {Url Body Json : Type}

abbrev RoundTrips := VpnDot → Option Duration

def RoundTrips.at (latency : RoundTrips) (dots : List VpnDot)
    (i : Nat) : Option Nat :=
  dots[i]?.bind latency

def RoundTrips.rank (latency : RoundTrips) (dots : List VpnDot) : List VpnDot :=
  rankDotsByLatency dots (probeTasks dots some (latency.at dots))

def RoundTrips.world (latency : RoundTrips) (world : DotWorld Body Json) :
    DotWorld Body Json :=
  { world with rank := latency.rank }

/-! ## The trace -/

/--
The daemon, the dot that the attempt in progress has its config from, and the
decision that led to this attempt with the dot of the attempt before.
-/
structure DialTrace where
  daemon : DaemonState
  used : Option VpnDot
  decided : Option (ReconnectDecision × VpnDot)
  deriving DecidableEq, Repr

inductive DialStep (Body Json : Type) where
  | act (a : Action)
  | negotiate (publicKey : String) (otp : Option String)
        (world : DotWorld Body Json)
      (conn : DotConn) (error : String)

namespace DialTrace

def pc (i : TaskId) (s : DialTrace) : Option LoopPc :=
  (s.daemon.loops[i]?).map LoopTask.pc

def acting (i : TaskId) (s : DialTrace) : Action → Option LoopPc
  | .loop j _ => if j = i then s.pc i else none
  | _ => none

def afterAct (i : TaskId) (s : DialTrace) (a : Action) (daemon : DaemonState) :
    DialTrace :=
  match s.acting i a with
  | some .setConfiguring => { s with daemon := daemon, used := none }
  | some (.handleDecision decision) =>
      { s with daemon := daemon, decided := s.used.map fun dot =>
        (decision, dot) }
  | _ => { s with daemon := daemon }

variable (parseUrl : String → Option Url) (latency : RoundTrips)

def request (i : TaskId) (s : DialTrace) (publicKey : String)
    (otp : Option String) : Option VpnConfigRequest :=
  (s.daemon.loops[i]?).map fun task => configRequest task.request publicKey otp

def negotiate (i : TaskId) (s : DialTrace) (request : VpnConfigRequest)
    (world : DotWorld Body Json) (conn : DotConn)
    (error : String) : Option DialTrace :=
  match vpnConfigFromDotList parseUrl (latency.world world) request [] with
  | .ok result _ =>
      if conn.dotId = result.dot.id then
        (Daemon.step s.daemon (.loop i (.configFetched conn))).map fun daemon =>
          { s with daemon := daemon, used := some result.dot }
      else none
  | .error _ _ =>
      (Daemon.step s.daemon (.loop i (.attemptError error))).map fun daemon =>
        { s with daemon := daemon }

def step (i : TaskId) (s : DialTrace) : DialStep Body Json → Option DialTrace
  | .act a =>
      if s.acting i a = some .fetchConfig then none
      else (Daemon.step s.daemon a).map (s.afterAct i a)
  | .negotiate publicKey otp world conn error =>
      if s.pc i = some .fetchConfig then
        (s.request i publicKey otp).bind fun request =>
          s.negotiate parseUrl latency i request world conn error
      else none

def Initial (s : DialTrace) : Prop :=
  Daemon.Initial s.daemon ∧ s.used = none ∧ s.decided = none

end DialTrace

/-! ## The first dial -/

def FirstDials (Body Json : Type) (parseUrl : String → Option Url)
    (request : VpnConfigRequest) (dot : VpnDot)
    (log : List (DotCall Url)) : Prop :=
  ∃ dial, request.dial Body Json parseUrl dot = some dial ∧
    firstDial log = some dial

/-- The two dots have one endpoint and one export id. -/
def SameNode (Body Json : Type) (parseUrl : String → Option Url)
    (request : VpnConfigRequest) (dot other : VpnDot) : Prop :=
  ∃ dial, request.dial Body Json parseUrl dot = some dial ∧
    request.dial Body Json parseUrl other = some dial

/-- Faster than every other dot of the list; of equally fast ones, the first. -/
def Fastest (latency : RoundTrips) (dots : List VpnDot)
    (first : VpnDot) : Prop :=
  ∃ i, dots[i]? = some first ∧
    ∀ j < dots.length, j ≠ i → RanksBefore (latency.at dots) i j

theorem rank_head_iff {latency : RoundTrips} {dots : List VpnDot}
    {first : VpnDot} :
    (latency.rank dots).head? = some first ↔ Fastest latency dots first := by
  have hmeasured : measured dots some (latency.at dots) = latency.at dots := by
    funext i
    unfold measured RoundTrips.at
    cases dots[i]? <;> rfl
  have hranking : IsRanking dots (latency.at dots) (latency.rank dots) := by
    rw [← hmeasured]
    exact rankDotsByLatency_isRanking (.refl _)
  exact hranking.head_iff

def ChoosesNode (request : VpnConfigRequest)
    (world : DotWorld Body Json) : Prop :=
  request.locationId = none ∧
    ∀ locations dots, world.locations = .ok locations →
    locations.data = some dots → 2 ≤ (request.candidates dots).length

def FastestIs (latency : RoundTrips) (request : VpnConfigRequest)
    (world : DotWorld Body Json) (P : VpnDot → Prop) : Prop :=
  ∃ locations dots first, world.locations = .ok locations ∧
    locations.data = some dots ∧
    Fastest latency (request.candidates dots) first ∧ P first

theorem firstDials_iff {parseUrl : String → Option Url} {latency : RoundTrips}
    {request : VpnConfigRequest} {world : DotWorld Body Json}
    (hchoice : ChoosesNode request world) (dot : VpnDot) :
    FirstDials Body Json parseUrl request dot
        (leaves
          (vpnConfigFromDotList parseUrl (latency.world world) request [])) ↔
      FastestIs latency request world fun first =>
        SameNode Body Json parseUrl request first dot := by
  have hhead {locations : BaseResponse Json (List VpnDot)} {dots : List VpnDot}
      (hlocations : world.locations = .ok locations)
      (hdata : locations.data = some dots) :
      ((latency.world world).tried request dots).head? =
        (latency.rank (request.candidates dots)).head? := by
    have htwo := hchoice.2 locations dots hlocations hdata
    have hranks : request.ranks (request.candidates dots) = true := by
      simp [VpnConfigRequest.ranks, hchoice.1]
      omega
    simp [DotWorld.tried, hranks, RoundTrips.world, maxDotAttempts,
      List.head?_take]
  constructor
  · rintro ⟨dial, hdial, hfirst⟩
    rcases vpnConfigFromDotList_run parseUrl (latency.world world) request with
      ⟨error, hrun⟩ | ⟨locations, dots, hlocations, hdata, hcandidates⟩
    · rw [hrun] at hfirst
      cases hfirst
    · rw [firstDial_negotiation hlocations hdata hcandidates,
        hhead hlocations hdata] at hfirst
      obtain ⟨first, hrank, hsame⟩ := Option.bind_eq_some_iff.mp hfirst
      exact ⟨locations, dots, first, hlocations, hdata, rank_head_iff.mp hrank,
        dial, hsame, hdial⟩
  · rintro ⟨locations, dots, first, hlocations, hdata, hfastest,
      dial, hsame, hdial⟩
    have hcandidates : request.candidates dots ≠ [] := by
      intro hnil
      obtain ⟨i, hi, -⟩ := hfastest
      simp [hnil] at hi
    refine ⟨dial, hdial, ?_⟩
    have hlocations' : (latency.world world).locations = .ok locations :=
      hlocations
    rw [firstDial_negotiation hlocations' hdata hcandidates,
      hhead hlocations hdata, rank_head_iff.mpr hfastest]
    exact hsame

/-! ## Runs -/

namespace DialTrace

def AtDecided (i : TaskId) (s : DialTrace)
    (P : VpnConfigRequest → DotWorld Body Json →
    ReconnectDecision → VpnDot → Prop) : DialStep Body Json → Prop
  | .act _ => True
  | .negotiate publicKey otp world _ _ => ∀ request decision dot,
      s.request i publicKey otp = some request →
        s.decided = some (decision, dot) →
        P request world decision dot

def AutoChoice (i : TaskId) (s : DialTrace) : DialStep Body Json → Prop
  | .act _ => True
  | .negotiate publicKey otp world _ _ => ∀ request,
      s.request i publicKey otp = some request → ChoosesNode request world

variable (parseUrl : String → Option Url) (latency : RoundTrips)

def DialsOther (i : TaskId) (s : DialTrace) : DialStep Body Json → Prop :=
  s.AtDecided i fun request world decision dot =>
    decision.isSwitchNode = true → ¬ FirstDials Body Json parseUrl request dot
      (leaves (vpnConfigFromDotList parseUrl (latency.world world) request []))

def Redials (i : TaskId) (s : DialTrace) : DialStep Body Json → Prop
  | .act _ => False
  | .negotiate publicKey otp world _ _ =>
      ∃ request delay attempt dot,
        s.request i publicKey otp = some request ∧
        s.decided = some (.retry delay attempt, dot) ∧
        FirstDials Body Json parseUrl request dot
          (leaves
            (vpnConfigFromDotList parseUrl (latency.world world) request []))

/--
After a `SwitchNode`, the fastest candidate is another node than the one used
before.
-/
def FastestDiffers (i : TaskId) (s : DialTrace) : DialStep Body Json → Prop :=
  s.AtDecided i fun request world decision dot =>
    decision.isSwitchNode = true →
      ¬ FastestIs latency request world fun first =>
        SameNode Body Json parseUrl request first dot

variable {parseUrl} {latency} {i : TaskId} {s t : DialTrace}

theorem dialsOther_iff_fastest {step : DialStep Body Json}
    (hauto : s.AutoChoice i step) :
    s.DialsOther parseUrl latency i step ↔
      s.FastestDiffers parseUrl latency i step := by
  cases step with
  | act a => exact Iff.rfl
  | negotiate publicKey otp world conn error =>
      constructor <;> intro h request decision dot hrequest hdecided hswitch
      · rw [← firstDials_iff (hauto request hrequest)]
        exact h request decision dot hrequest hdecided hswitch
      · rw [firstDials_iff (hauto request hrequest)]
        exact h request decision dot hrequest hdecided hswitch

/-! ## Two nodes -/

def nodeDot (id : Int) (ip : String) : VpnDot :=
  { dotExample ip (some 8443) with id := some id, reconnect := some true }

def twoNodes : List VpnDot := [nodeDot 1 "192.0.2.1", nodeDot 2 "192.0.2.2"]

def twoRoundTrips : RoundTrips :=
  fun dot => if dot.id = some 1 then some 10 else some 20

def twoNodesFrom (position : Nat) : DotWorld Unit Unit where
  locations := .ok (.ofData (some twoNodes))
  rank := id
  conn := fun candidate _ =>
    if position ≤ candidate then .ok configExample
    else .error (.missingVpnDotField "host")

def nodeConn (id : Int) : DotConn :=
  ⟨some id, none, none, "udp://192.0.2.1:51820/", "10.0.0.2"⟩

def negotiating (id : Int) (position : Nat) : DialStep Unit Unit :=
  .negotiate "key" none (twoNodesFrom position) (nodeConn id) "no config"

def toNegotiation : List Action := List.replicate 4 (.loop 0 .proceed)

def sessionWith (outcome : SupervisorOutcome) : List Action :=
  List.replicate 6 (.loop 0 .proceed) ++
    .loop 0 (.outcome outcome) ::
      (List.replicate 3 (.loop 0 .proceed) ++ toNegotiation)

def toFirstNegotiation : List (DialStep Unit Unit) :=
  (.connect .default :: toNegotiation).map .act

def attempted (id : Int) (position : Nat) (outcome : SupervisorOutcome) :
    List (DialStep Unit Unit) :=
  toFirstNegotiation ++ negotiating id position ::
    (sessionWith outcome).map .act

abbrev twoStep : DialTrace → DialStep Unit Unit → Option DialTrace :=
  step parseEndpointUrl twoRoundTrips 0

def idleTrace : DialTrace := ⟨readyDaemon, none, none⟩

theorem attempted_along {C : DialTrace → DialStep Unit Unit → Prop}
    (hact : ∀ s a, C s (.act a)) {id next : Int} {position later : Nat}
    {outcome : SupervisorOutcome} {t : DialTrace}
    (hfirst : C (final twoStep idleTrace toFirstNegotiation)
      (negotiating id position))
    (hrun : exec twoStep idleTrace (attempted id position outcome) = some t)
    (hnext : C t (negotiating next later)) :
    Along twoStep C idleTrace (attempted id position outcome ++
      [negotiating next later]) := by
  have hacts (actions : List Action) (s : DialTrace) :
      Along twoStep C s (actions.map .act) := by
    refine Along.of_forall fun step hstep s => ?_
    obtain ⟨a, -, rfl⟩ := List.mem_map.mp hstep
    exact hact s a
  have hstart : exec twoStep idleTrace toFirstNegotiation =
      some (final twoStep idleTrace toFirstNegotiation) :=
        exec_final (by decide +kernel)
  have hattempt : Along twoStep C idleTrace (attempted id position outcome) :=
    (hacts _ _).append hstart ⟨hfirst, fun s _ => hacts _ s⟩
  exact hattempt.append hrun ⟨hnext, fun _ _ => trivial⟩

def twoRequest : VpnConfigRequest := configRequest .default "key" none

theorem twoNodes_choice (position : Nat) :
    ChoosesNode twoRequest (twoNodesFrom position) := by
  refine ⟨rfl, fun locations dots hlocations hdata => ?_⟩
  cases hlocations
  cases hdata
  decide

theorem twoNodes_fastest {position : Nat} {P : VpnDot → Prop} :
    FastestIs twoRoundTrips twoRequest (twoNodesFrom position) P ↔
      P (nodeDot 1 "192.0.2.1") := by
  have hrank : (twoRoundTrips.rank (twoRequest.candidates twoNodes)).head? =
      some (nodeDot 1 "192.0.2.1") := by decide +kernel
  constructor
  · rintro ⟨locations, dots, first, hlocations, hdata, hfastest, hfirst⟩
    cases hlocations
    cases hdata
    obtain rfl : nodeDot 1 "192.0.2.1" = first :=
      Option.some.inj (hrank.symm.trans (rank_head_iff.mpr hfastest))
    exact hfirst
  · intro hfirst
    exact ⟨_, _, _, rfl, rfl, rank_head_iff.mp hrank, hfirst⟩

theorem faster_node_dialed (position : Nat) :
    FirstDials Unit Unit parseEndpointUrl twoRequest (nodeDot 1 "192.0.2.1")
      (leaves (vpnConfigFromDotList parseEndpointUrl
        (twoRoundTrips.world (twoNodesFrom position)) twoRequest [])) := by
  have hdial :
      (twoRequest.dial Unit Unit parseEndpointUrl
        (nodeDot 1 "192.0.2.1")).isSome =
      true := by decide +kernel
  obtain ⟨dial, hdial⟩ := Option.isSome_iff_exists.mp hdial
  exact (firstDials_iff (twoNodes_choice position) _).mpr
    (twoNodes_fastest.mpr ⟨dial, hdial, hdial⟩)

theorem negotiating_auto {s : DialTrace} (id : Int) (position : Nat)
    (h : s.request 0 "key" none = some twoRequest) :
    s.AutoChoice 0 (negotiating id position) := by
  intro request hrequest
  obtain rfl : twoRequest = request := Option.some.inj (h.symm.trans hrequest)
  exact twoNodes_choice position

structure LeadsTo (id : Int) (position : Nat) (outcome : SupervisorOutcome)
    (decision : ReconnectDecision) (used : VpnDot) (t : DialTrace) : Prop where
  run : exec twoStep idleTrace (attempted id position outcome) = some t
  request : t.request 0 "key" none = some twoRequest
  decided : t.decided = some (decision, used)
  goesOn : (twoStep t (negotiating id position)).isSome = true

theorem exists_leadsTo {id : Int} {position : Nat} {outcome : SupervisorOutcome}
    {decision : ReconnectDecision} {used : VpnDot}
    (h : (exec twoStep idleTrace (attempted id position outcome)).any (fun t =>
      t.request 0 "key" none = some twoRequest &&
        t.decided = some (decision, used) &&
        (twoStep t (negotiating id position)).isSome) = true) :
    ∃ t, LeadsTo id position outcome decision used t := by
  obtain ⟨t, hrun, hchecks⟩ := (Option.any_eq_true _ _).mp h
  simp only [Bool.and_eq_true, decide_eq_true_eq] at hchecks
  exact ⟨t, hrun, hchecks.1.1, hchecks.1.2, hchecks.2⟩

variable {id : Int} {position : Nat} {outcome : SupervisorOutcome}
  {decision : ReconnectDecision}
  {used : VpnDot}

theorem LeadsTo.auto (h : LeadsTo id position outcome decision used t) :
    Along twoStep (AutoChoice 0) idleTrace
      (attempted id position outcome ++ [negotiating id position]) :=
  attempted_along (fun _ _ => trivial)
    (negotiating_auto id position (by decide +kernel)) h.run
    (negotiating_auto id position h.request)

theorem LeadsTo.exec_next (h : LeadsTo id position outcome decision used t) :
    ∃ t', exec twoStep idleTrace
      (attempted id position outcome ++ [negotiating id position]) =
        some t' := by
  obtain ⟨t', ht'⟩ := Option.isSome_iff_exists.mp h.goesOn
  refine ⟨t', ?_⟩
  rw [exec_append h.run, exec_of_step ht', exec_nil]

theorem idleTrace_initial : idleTrace.Initial := ⟨⟨_, _, rfl⟩, rfl, rfl⟩

/--
A run of the loop whose last attempt follows a `Retry` and dials the same node
first.
-/
def RetryMayRedial : Prop :=
  ∃ (steps : List (DialStep Unit Unit)) (next : DialStep Unit Unit)
    (s t t' : DialTrace), s.Initial ∧
    exec twoStep s steps = some t ∧ twoStep t next = some t' ∧
    Along twoStep (AutoChoice 0) s (steps ++ [next]) ∧
    Redials parseEndpointUrl twoRoundTrips 0 t next

theorem retry_may_redial : RetryMayRedial := by
  obtain ⟨t, ht⟩ : ∃ t, LeadsTo 1 0 (.trigger .idleTimeout false)
      (.retry (Duration.fromSecs 2) 1) (nodeDot 1 "192.0.2.1") t :=
    exists_leadsTo (by decide +kernel)
  obtain ⟨t', ht'⟩ := Option.isSome_iff_exists.mp ht.goesOn
  exact ⟨_, _, idleTrace, t, t', idleTrace_initial, ht.run, ht', ht.auto,
    twoRequest, _, _, _, ht.request, ht.decided, faster_node_dialed 0⟩

/--
A run in which the loop chooses among candidates dials another dot first after
every `SwitchNode` exactly when each time the fastest candidate is another node
than the one used before: the decision itself plays no part in the choice.  A
`Retry` too may be followed by a dial of the dot that was used before it.
-/
theorem switch_dials_other_iff (parseUrl : String → Option Url)
    (latency : RoundTrips) (i : TaskId) {s : DialTrace}
    {steps : List (DialStep Body Json)}
    (hauto : Along (step parseUrl latency i) (AutoChoice i) s steps) :
    (Along (step parseUrl latency i) (DialsOther parseUrl latency i) s steps ↔
      Along (step parseUrl latency i) (FastestDiffers parseUrl latency i)
        s steps) ∧
    RetryMayRedial :=
  ⟨Along.congr (fun _ _ hchoice => dialsOther_iff_fastest hchoice) hauto,
    retry_may_redial⟩

/--
A kick-out decides to switch at once, and the node that was kicked out of is
dialed again.
-/
theorem kicked_out_redials :
    ¬ ∀ (parseUrl : String → Option Dns.Url) (latency : RoundTrips) (i : TaskId)
      (s t : DialTrace) (steps : List (DialStep Unit Unit)), s.Initial →
      exec (step parseUrl latency i) s steps = some t →
      Along (step parseUrl latency i) (AutoChoice i) s steps →
      Along (step parseUrl latency i) (DialsOther parseUrl latency i)
        s steps := by
  intro h
  obtain ⟨t, ht⟩ : ∃ t, LeadsTo 1 0 (.serverKickOut false)
      (.switchNode (Duration.fromSecs 2) 1)
      (nodeDot 1 "192.0.2.1") t := exists_leadsTo (by decide +kernel)
  obtain ⟨t', hrun⟩ := ht.exec_next
  have halong := h parseEndpointUrl twoRoundTrips 0 idleTrace t' _
    idleTrace_initial hrun ht.auto
  have hlast :=
    (halong.of_append ht.run).1 twoRequest _ _ ht.request ht.decided rfl
  exact hlast (faster_node_dialed 0)

theorem switch_dials_other_fallback :
    Along twoStep (DialsOther parseEndpointUrl twoRoundTrips 0) idleTrace
      (attempted 2 1 (.serverKickOut false) ++ [negotiating 2 1]) := by
  obtain ⟨t, ht⟩ : ∃ t, LeadsTo 2 1 (.serverKickOut false)
      (.switchNode (Duration.fromSecs 2) 1)
      (nodeDot 2 "192.0.2.2") t := exists_leadsTo (by decide +kernel)
  refine (switch_dials_other_iff parseEndpointUrl twoRoundTrips 0
    ht.auto).1.mpr ?_
  refine attempted_along (fun _ _ => trivial) ?_ ht.run ?_
  · intro request decision dot _ hdecided
    have hfresh : (final twoStep idleTrace toFirstNegotiation).decided =
        none := by decide +kernel
    rw [hfresh] at hdecided
    cases hdecided
  · intro request decision dot hrequest hdecided _
    rw [ht.decided] at hdecided
    cases hdecided
    obtain rfl : twoRequest = request :=
      Option.some.inj (ht.request.symm.trans hrequest)
    rw [twoNodes_fastest]
    rintro ⟨dial, hfirst, hother⟩
    have hdiffer : twoRequest.dial Unit Unit parseEndpointUrl
        (nodeDot 1 "192.0.2.1") ≠
        twoRequest.dial Unit Unit parseEndpointUrl (nodeDot 2 "192.0.2.2") := by
          decide +kernel
    exact hdiffer (hfirst.trans hother.symm)

end DialTrace

end Rustylink.Daemon
