import Rustylink.Tunnel.Session

/-!
# What a session releases

Whatever a session acquires it records, and `stop` releases what is recorded;
but `stop` returns as soon as a route cannot be removed, and then keeps the
bypass and the device.
-/

namespace Rustylink.Tunnel

open Rustylink.Foundation Rustylink.Dns Rustylink.Outbound

def Uses.Tracks {α : Type} (uses : Uses) (held : Option α) : Prop :=
  uses.acquired = uses.released + if held.isSome then 1 else 0

/-- The handles of the session are exactly those acquired and not released. -/
structure Tracked (w : World) : Prop where
  bypass : w.bypass.Tracks w.session.bypass
  device : w.device.Tracks w.session.device
  probe : w.probe.Tracks w.session.probe
  dnsServer : w.dnsServer.Tracks w.session.dnsServer

structure Accounted (w : World) : Prop extends Tracked w where
  routes : Owes (w.session.routes.elim [] AppliedRoutes.routes) w.routeLog

/--
Nothing is held, everything acquired was released, and the deletion of every
added route was attempted.
-/
structure Released (w : World) : Prop where
  noRoutes : w.session.routes = none
  noBypass : w.session.bypass = none
  noDevice : w.session.device = none
  noProbe : w.session.probe = none
  noDnsServer : w.session.dnsServer = none
  routes : w.routeLog.added.Perm w.routeLog.deleted
  bypass : w.bypass.acquired = w.bypass.released
  device : w.device.acquired = w.device.released
  probe : w.probe.acquired = w.probe.released
  dnsServer : w.dnsServer.acquired = w.dnsServer.released

def RemovesRoutes (os : RouteOs) (log : RouteLog)
    (applied : AppliedRoutes) : Prop :=
  os.openManager log = none ∧ DeletesAll os log applied.routes.reverse

def AttemptsRoutes (os : RouteOs) (log : RouteLog)
    (applied : AppliedRoutes) : Prop :=
  applied.routes = [] ∨
    (os.openManager log = none ∧
      DeletesAll os log applied.routes.reverse.dropLast)

/--
The session holds no routes, or the system removes them; a failed removal does
no harm where its deletions were all attempted and no bypass and no device is
left behind.
-/
def StopsCleanly (os : RouteOs) (w : World) : Prop :=
  ∀ applied, w.session.routes = some applied →
    RemovesRoutes os w.routeLog applied ∨
      (w.session.bypass = none ∧ w.session.device = none ∧
        AttemptsRoutes os w.routeLog applied)

/-! ## A start keeps the account -/

structure Stage (n : Nat) (w : World) : Prop where
  accounted : Accounted w
  bypass : n ≤ 0 → w.session.bypass = none
  routes : n ≤ 1 → w.session.routes = none
  dnsServer : n ≤ 2 → w.session.dnsServer = none
  device : n ≤ 3 → w.session.device = none
  probe : n ≤ 4 → w.session.probe = none

theorem Stage.initial (config : TunnelConfig) : Stage 0 (.new config) where
  accounted := ⟨⟨rfl, rfl, rfl, rfl⟩, .refl _⟩
  bypass := fun _ => rfl
  routes := fun _ => rfl
  dnsServer := fun _ => rfl
  device := fun _ => rfl
  probe := fun _ => rfl

theorem Stage.next {n : Nat} {w : World} (h : Stage n w) : Stage (n + 1) w where
  accounted := h.accounted
  bypass := fun hn => h.bypass (by omega)
  routes := fun hn => h.routes (by omega)
  dnsServer := fun hn => h.dnsServer (by omega)
  device := fun hn => h.device (by omega)
  probe := fun hn => h.probe (by omega)

theorem Stage.setConfig {n : Nat} {w : World} (h : Stage n w)
    (config : TunnelConfig) :
    Stage n { w with session := { w.session with config := config } } where
  accounted := ⟨⟨h.accounted.bypass, h.accounted.device, h.accounted.probe,
    h.accounted.dnsServer⟩, h.accounted.routes⟩
  bypass := h.bypass
  routes := h.routes
  dnsServer := h.dnsServer
  device := h.device
  probe := h.probe

theorem Uses.Tracks.acquire {α : Type} {uses : Uses} (a : α)
    (h : uses.Tracks (none : Option α)) : uses.acquire.Tracks (some a) := by
  simp only [Uses.Tracks, Uses.acquire, Option.isSome_none, Option.isSome_some,
    Bool.false_eq_true, if_true, if_false] at h ⊢
  omega

theorem Uses.Tracks.releaseHeld {α : Type} {uses : Uses} {held : Option α}
    (h : uses.Tracks held) :
    (uses.releaseHeld held).acquired = (uses.releaseHeld held).released := by
  cases held with
  | none => exact h
  | some a => exact h

theorem Uses.Tracks.settled {α : Type} {uses : Uses} {held : Option α}
    (h : uses.Tracks held) (hnone : held = none) :
    uses.acquired = uses.released := by
  subst hnone
  exact h

variable {crates : SessionCrates} {os : SessionOs}

theorem openTun_stage {n : Nat} :
    Spec (Stage n) (openTun crates os) (fun _ => Stage n) Accounted := by
  refine Spec.bind readConfig_spec fun config => ?_
  refine Spec.bind (Q := fun _ => Stage n)
    (Spec.ofExcept (fun _ _ _ h => h.1) fun _ h => h.1.accounted) fun request =>
      ?_
  cases os.createTun request with
  | error source => exact Spec.throw fun _ h => h.accounted
  | ok actual =>
      dsimp only
      split
      · exact Spec.pure fun _ h => h
      · split
        · exact Spec.bind (Q := fun _ => Stage n)
            (Spec.modify fun _ h => h.setConfig _) fun _ =>
              Spec.pure fun _ h => h
        · exact Spec.throw fun _ h => h.accounted

theorem setupBypass_stage {ctx : OutboundContext} :
    Spec (Stage 0) (setupBypass os ctx) (fun _ => Stage 1) Accounted := by
  refine Spec.bind readConfig_spec fun config => ?_
  cases ctx.interface with
  | none => exact Spec.pure fun _ h => h.1.next
  | some interface =>
      cases hsetup : os.bypassSetup interface config.fullTunnel with
      | some source =>
          simp only [hsetup]
          exact Spec.pure fun _ h => h.1.next
      | none =>
          simp only [hsetup]
          refine Spec.modify fun w h => ?_
          have hnone : w.session.bypass = none := h.1.bypass (Nat.le_refl 0)
          have htracks := h.1.accounted.bypass
          rw [hnone] at htracks
          exact {
            accounted := ⟨⟨htracks.acquire _, h.1.accounted.device,
              h.1.accounted.probe, h.1.accounted.dnsServer⟩,
                h.1.accounted.routes⟩
            bypass := fun hn => absurd hn (by omega)
            routes := fun _ => h.1.routes (by omega)
            dnsServer := fun _ => h.1.dnsServer (by omega)
            device := fun _ => h.1.device (by omega)
            probe := fun _ => h.1.probe (by omega) }

theorem onRoutes_apply_spec {interfaceName : String}
    {networks : List IpNetwork} :
    Spec (Stage 1) (onRoutes (apply os.routes interfaceName networks))
      (fun applied w => ∀ status, Stage 2 { w with
        session :=
          { w.session with routes := some applied, status := status } })
      Accounted := by
  intro w h
  have hnone : w.session.routes = none := h.routes (Nat.le_refl 1)
  have howes : Owes [] w.routeLog := by
    have hheld := h.accounted.routes
    rw [hnone] at hheld
    exact hheld
  unfold onRoutes
  cases hrun : apply os.routes interfaceName networks w.routeLog with
  | ok applied log =>
      intro status
      exact {
        accounted :=
          ⟨⟨h.accounted.bypass, h.accounted.device, h.accounted.probe,
          h.accounted.dnsServer⟩, (apply_owes howes).1 applied hrun⟩
        bypass := fun hn => absurd hn (by omega)
        routes := fun hn => absurd hn (by omega)
        dnsServer := fun _ => h.dnsServer (by omega)
        device := fun _ => h.device (by omega)
        probe := fun _ => h.probe (by omega) }
  | error e log =>
      have hlog : Owes [] log := (apply_owes howes).2 e hrun
      refine ⟨⟨h.accounted.bypass, h.accounted.device, h.accounted.probe,
        h.accounted.dnsServer⟩, ?_⟩
      show Owes (w.session.routes.elim [] AppliedRoutes.routes) log
      rw [hnone]
      exact hlog

theorem applyRoutes_stage {interfaceName : String} :
    Spec (Stage 1) (applyRoutes os interfaceName) (fun _ => Stage 2)
      Accounted := by
  refine Spec.bind readConfig_spec fun config => ?_
  refine Spec.bind (onRoutes_apply_spec.weaken (fun _ h => h.1)
    (fun _ _ h => h) fun _ h => h) fun applied => ?_
  exact Spec.modify fun w h => h .routesApplied

theorem buildVpnTun_stage {n : Nat} {systemServers : List IpAddr}
    {directed : Dialer} :
    Spec (Stage n) (buildVpnTun os systemServers directed) (fun _ => Stage n)
      Accounted := by
  refine Spec.bind readConfig_spec fun config => ?_
  cases os.vpnTun with
  | error source => exact Spec.throw fun _ h => h.1.accounted
  | ok device => exact Spec.pure fun _ h => h.1

theorem startDnsServer_stage {systemServers : List IpAddr} {directed : Dialer} :
    Spec (Stage 2) (startDnsServer os systemServers directed) (fun _ => Stage 3)
      Accounted := by
  refine Spec.bind readConfig_spec fun config => ?_
  split
  · exact Spec.pure fun _ h => h.1.next
  · split
    · exact Spec.pure fun _ h => h.1.next
    · dsimp only
      split
      · exact Spec.throw fun _ h => h.1.accounted
      · refine Spec.modify fun w h => ?_
        have hnone : w.session.dnsServer = none := h.1.dnsServer (Nat.le_refl 2)
        have htracks := h.1.accounted.dnsServer
        rw [hnone] at htracks
        exact {
          accounted := ⟨⟨h.1.accounted.bypass, h.1.accounted.device,
            h.1.accounted.probe, htracks.acquire _⟩, h.1.accounted.routes⟩
          bypass := fun hn => absurd hn (by omega)
          routes := fun hn => absurd hn (by omega)
          dnsServer := fun hn => absurd hn (by omega)
          device := fun _ => h.1.device (by omega)
          probe := fun _ => h.1.probe (by omega) }

theorem buildDevice_stage {ctx : OutboundContext} {tun : VpnTun}
    {privateKey : Bytes} {peer : Peer} :
    Spec (Stage 3) (buildDevice os ctx tun privateKey peer) (fun _ => Stage 4)
      Accounted := by
  refine Spec.bind readConfig_spec fun config => ?_
  split
  · exact Spec.throw fun _ h => h.1.accounted
  · refine Spec.modify fun w h => ?_
    have hnone : w.session.device = none := h.1.device (Nat.le_refl 3)
    have htracks := h.1.accounted.device
    rw [hnone] at htracks
    exact {
      accounted :=
        ⟨⟨h.1.accounted.bypass, htracks.acquire _, h.1.accounted.probe,
        h.1.accounted.dnsServer⟩, h.1.accounted.routes⟩
      bypass := fun hn => absurd hn (by omega)
      routes := fun hn => absurd hn (by omega)
      dnsServer := fun hn => absurd hn (by omega)
      device := fun hn => absurd hn (by omega)
      probe := fun _ => h.1.probe (by omega) }

theorem startProbe_spec {ctx : OutboundContext} :
    Spec (Stage 4) (startProbe os ctx) (fun _ => Accounted) Accounted := by
  refine Spec.bind readConfig_spec fun config => Spec.modify fun w h => ?_
  have hnone : w.session.probe = none := h.1.probe (Nat.le_refl 4)
  have htracks := h.1.accounted.probe
  rw [hnone] at htracks
  exact ⟨⟨h.1.accounted.bypass, h.1.accounted.device, htracks.acquire _,
    h.1.accounted.dnsServer⟩, h.1.accounted.routes⟩

theorem startInner_stage :
    Spec (Stage 0) (startInner crates os) (fun _ => Accounted) Accounted := by
  have hread : ∀ {n : Nat},
      Spec (Stage n) readConfig (fun _ => Stage n) Accounted :=
    readConfig_spec.weaken (fun _ h => h) (fun _ _ h => h.1) fun _ h => h
  have hcheck : ∀ {n : Nat} {α : Type} (x : Except SessionError α),
      Spec (Stage n) (MonadExcept.ofExcept x : SessionBody α) (fun _ => Stage n)
        Accounted :=
    fun x => Spec.ofExcept (fun _ _ _ h => h) fun _ h => h.accounted
  refine Spec.bind hread fun config => ?_
  refine Spec.bind (hcheck _) fun privateKey => ?_
  refine Spec.bind openTun_stage fun actualInterfaceName => ?_
  refine Spec.bind (hcheck _) fun ctx => ?_
  refine Spec.bind (Q := fun _ => Stage 0)
    (Spec.modify fun _ h => h.setConfig _) fun _ => ?_
  refine Spec.bind (hcheck _) fun endpoint => ?_
  refine Spec.bind hread fun routed => ?_
  refine Spec.bind (hcheck _) fun peer => ?_
  refine Spec.bind setupBypass_stage fun _ => ?_
  refine Spec.bind applyRoutes_stage fun _ => ?_
  refine Spec.bind buildVpnTun_stage fun tun => ?_
  refine Spec.bind startDnsServer_stage fun _ => ?_
  exact Spec.bind buildDevice_stage fun _ => startProbe_spec

theorem startInner_accounted (crates : SessionCrates) (os : SessionOs)
    (config : TunnelConfig) :
    Accounted (leaves (startInner crates os (.new config))) :=
  Meets.leaves (startInner_stage _ (Stage.initial config))

/-! ## What a stop releases -/

theorem DeletesAll.dropLast {routeOs : RouteOs} {routes : List Route}
    {log : RouteLog} (h : DeletesAll routeOs log routes) :
    DeletesAll routeOs log routes.dropLast := by
  induction routes generalizing log with
  | nil => trivial
  | cons route routes ih =>
      cases routes with
      | nil => trivial
      | cons next rest => exact ⟨h.1, ih h.2⟩

theorem remove_ok_iff {routeOs : RouteOs} {applied : AppliedRoutes}
    {log : RouteLog} :
    (∃ log', applied.remove routeOs log = .ok () log') ↔
      RemovesRoutes routeOs log applied := by
  rw [remove_run, RemovesRoutes]
  cases hopen : routeOs.openManager log with
  | none => simpa using deleteRoutes_ok_iff routeOs applied.routes.reverse log
  | some source => simp

theorem remove_settles_iff (routeOs : RouteOs) {applied : AppliedRoutes}
    {log : RouteLog} (h : Owes applied.routes log) :
    (leaves (applied.remove routeOs log)).added.Perm
        (leaves (applied.remove routeOs log)).deleted ↔
      AttemptsRoutes routeOs log applied := by
  rw [remove_run, AttemptsRoutes]
  have hlength : log.added.length = log.deleted.length +
      applied.routes.length := by
    simpa using List.Perm.length_eq h
  cases hopen : routeOs.openManager log with
  | some source =>
      simp only [leaves, reduceCtorEq, false_and, or_false]
      constructor
      · intro hperm
        have heq := hperm.length_eq
        exact List.eq_nil_of_length_eq_zero (by omega)
      · intro hnil
        unfold Owes at h
        simpa [hnil] using h
  | none =>
      obtain ⟨attempted, hprefix, hdeleted, hall⟩ :=
        deleteRoutes_deleted routeOs applied.routes.reverse log
      dsimp only
      rw [deleteRoutes_added, hdeleted, and_iff_right rfl, ← hall]
      constructor
      · intro hperm
        right
        have heq := hperm.length_eq
        rw [List.length_append] at heq
        refine hprefix.eq_of_length ?_
        rw [List.length_reverse]
        omega
      · rintro (hnil | hattempted)
        · have hempty : attempted = [] := by simpa [hnil] using hprefix
          unfold Owes at h
          simpa [hnil, hempty] using h
        · rw [hattempted]
          exact List.Perm.trans h ((List.reverse_perm _).symm.append_left _)

def finishStop (w : World) : World :=
  let w := stopDevice (teardownBypass w)
  { w with session := { w.session with status := .stopped } }

theorem stop_run (w : World) :
    leaves (stop os w) =
      match removeRoutes os (shutdownDnsServer (dropProbe w)) with
      | .ok _ w => finishStop w
      | .error _ w => w := by
  unfold stop updateSession
  simp only [run_bind, run_modify]
  cases removeRoutes os (shutdownDnsServer (dropProbe w)) <;> rfl

theorem removeRoutes_run (w : World) :
    removeRoutes os w =
      match w.session.routes with
      | none => .ok () w
      | some applied => onRoutes (applied.remove os.routes)
          { w with session := { w.session with routes := none } } := by
  unfold removeRoutes updateSession
  simp only [run_bind, run_get]
  cases w.session.routes with
  | none => rfl
  | some applied => rfl

theorem Tracked.close {w : World} (h : Tracked w) :
    Tracked (shutdownDnsServer (dropProbe w)) :=
  ⟨h.bypass, h.device, h.probe.releaseHeld, h.dnsServer.releaseHeld⟩

structure Closed (w : World) : Prop extends Tracked w where
  noRoutes : w.session.routes = none
  noProbe : w.session.probe = none
  noDnsServer : w.session.dnsServer = none

theorem Closed.finishStop_released {w : World} (h : Closed w)
    (hroutes : w.routeLog.added.Perm w.routeLog.deleted) :
    Released (finishStop w) where
  noRoutes := h.noRoutes
  noBypass := rfl
  noDevice := rfl
  noProbe := h.noProbe
  noDnsServer := h.noDnsServer
  routes := hroutes
  bypass := h.bypass.releaseHeld
  device := h.device.releaseHeld
  probe := h.probe.settled h.noProbe
  dnsServer := h.dnsServer.settled h.noDnsServer

theorem Closed.released_iff {w : World} (h : Closed w) :
    Released w ↔ w.session.bypass = none ∧ w.session.device = none ∧
      w.routeLog.added.Perm w.routeLog.deleted := by
  constructor
  · intro hreleased
    exact ⟨hreleased.noBypass, hreleased.noDevice, hreleased.routes⟩
  · rintro ⟨hbypass, hdevice, hroutes⟩
    exact {
      noRoutes := h.noRoutes
      noBypass := hbypass
      noDevice := hdevice
      noProbe := h.noProbe
      noDnsServer := h.noDnsServer
      routes := hroutes
      bypass := h.bypass.settled hbypass
      device := h.device.settled hdevice
      probe := h.probe.settled h.noProbe
      dnsServer := h.dnsServer.settled h.noDnsServer }

theorem stop_released_iff {w : World} (h : Accounted w) :
    Released (leaves (stop os w)) ↔ StopsCleanly os.routes w := by
  have howes := h.routes
  rw [stop_run, removeRoutes_run]
  -- closing the probe and the server leaves the routes alone
  have hsame : (shutdownDnsServer (dropProbe w)).session.routes =
      w.session.routes := rfl
  rw [hsame]
  cases hroutes : w.session.routes with
  | none =>
      rw [hroutes] at howes
      have hclosed : Closed (shutdownDnsServer (dropProbe w)) :=
        ⟨h.toTracked.close, hroutes, rfl, rfl⟩
      constructor
      · intro _ applied happlied
        rw [hroutes] at happlied
        contradiction
      · intro _
        have hperm : w.routeLog.added.Perm (w.routeLog.deleted ++ []) := howes
        rw [List.append_nil] at hperm
        exact hclosed.finishStop_released hperm
  | some applied =>
      rw [hroutes] at howes
      have hsettles := remove_settles_iff os.routes howes
      have hclosed : ∀ log, Closed { shutdownDnsServer (dropProbe w) with
          session :=
            { (shutdownDnsServer (dropProbe w)).session with routes := none }
          routeLog := log } :=
        fun log => ⟨⟨h.bypass, h.device, h.probe.releaseHeld,
          h.dnsServer.releaseHeld⟩, rfl, rfl, rfl⟩
      have hlog : (shutdownDnsServer (dropProbe w)).routeLog = w.routeLog := rfl
      simp only [onRoutes, hlog]
      unfold StopsCleanly
      cases hremove : applied.remove os.routes w.routeLog with
      | ok value log =>
          have hremoved : RemovesRoutes os.routes w.routeLog applied :=
            remove_ok_iff.mp ⟨log, hremove⟩
          have hperm : log.added.Perm log.deleted := by
            rw [hremove] at hsettles
            exact hsettles.mpr (.inr ⟨hremoved.1, hremoved.2.dropLast⟩)
          constructor
          · intro _ held hheld
            rw [hroutes] at hheld
            cases hheld
            exact .inl hremoved
          · intro _
            exact (hclosed log).finishStop_released hperm
      | error e log =>
          have hfailed : ¬ RemovesRoutes os.routes w.routeLog applied := by
            intro hremoved
            obtain ⟨log', hok⟩ := remove_ok_iff.mpr hremoved
            rw [hremove] at hok
            contradiction
          rw [hremove] at hsettles
          rw [(hclosed log).released_iff]
          constructor
          · rintro ⟨hbypass, hdevice, hperm⟩ held hheld
            rw [hroutes] at hheld
            cases hheld
            exact .inr ⟨hbypass, hdevice, hsettles.mp hperm⟩
          · intro hclean
            rcases hclean applied hroutes with
              hremoved | ⟨hbypass, hdevice, hattempts⟩
            · exact absurd hremoved hfailed
            · exact ⟨hbypass, hdevice, hsettles.mpr hattempts⟩

/--
A session that failed to start, and one that is stopped after it started, has
released everything it acquired exactly when it stops cleanly.
-/
theorem session_released_iff (crates : SessionCrates) (os : SessionOs)
    (config : TunnelConfig) :
    (∀ e w, start crates os (.new config) = .error e w →
      (Released w ↔
        StopsCleanly os.routes (leaves (startInner crates os (.new config))))) ∧
    ∀ w, start crates os (.new config) = .ok () w →
      (Released (leaves (stop os w)) ↔ StopsCleanly os.routes w) := by
  have haccounted := startInner_accounted crates os config
  unfold start
  cases hrun : startInner crates os (.new config) with
  | ok value started =>
      rw [hrun] at haccounted
      constructor
      · intro e w hstart
        cases hstart
      · intro w hstart
        cases hstart
        exact stop_released_iff haccounted
  | error e started =>
      rw [hrun] at haccounted
      constructor
      · intro e' w hstart
        cases hstart
        exact stop_released_iff haccounted
      · intro w hstart
        cases hstart

def withoutDevice (os : SessionOs) : SessionOs :=
  { os with buildDevice := fun _ => some "no buffer space" }

theorem session_released_small :
    (∃ e w, start smallCrates (withoutDevice cleanOs)
      (.new (smallConfig true [] [])) = .error e w ∧ Released w) ∧
    ∃ w, start smallCrates cleanOs (.new (smallConfig true [] [])) = .ok () w ∧
      Released (leaves (stop cleanOs w)) := by
  have hclean : ∀ w : World, w.session.routes = some ⟨"wg0",
      [⟨.v4 (Ipv4Addr.new 10 0 0 0), 8, some "wg0"⟩]⟩ →
      StopsCleanly cleanOs.routes w := by
    intro w hroutes applied happlied
    rw [hroutes] at happlied
    cases happlied
    exact .inl ⟨rfl, rfl, trivial⟩
  obtain ⟨e, hfailed⟩ := eq_error_of_not_succeeds (r := start smallCrates
    (withoutDevice cleanOs) (.new (smallConfig true [] []))) (by decide +kernel)
  have hstarted := eq_ok_of_succeeds (r := start smallCrates cleanOs
    (.new (smallConfig true [] []))) (by decide +kernel)
  refine ⟨⟨e, _, hfailed, ?_⟩, _, hstarted, ?_⟩
  · exact ((session_released_iff _ _ _).1 e _ hfailed).mpr
      (hclean _ (by decide +kernel))
  · exact ((session_released_iff _ _ _).2 _ hstarted).mpr
      (hclean _ (by decide +kernel))

/--
A route that is already gone keeps the bypass and the device of its session.
-/
theorem stop_keeps_bypass :
    ¬ ∀ (crates : SessionCrates) (os : SessionOs) (config : TunnelConfig),
      (∀ e w, start crates os (.new config) = .error e w → Released w) ∧
      ∀ w, start crates os (.new config) = .ok () w →
        Released (leaves (stop os w)) := by
  intro h
  have hstarted := eq_ok_of_succeeds (r := start smallCrates
    (smallOs (some smallInterface) (.ofDelete (some "No such process")))
    (.new (smallConfig true [] []))) (by decide +kernel)
  have hbypass := ((h _ _ _).2 _ hstarted).noBypass
  revert hbypass
  decide +kernel

end Rustylink.Tunnel
