import Rustylink.Api.Vpn
import Rustylink.Foundation.Fallible
import Rustylink.Foundation.Net

/-!
# Routes of a tunnel

Which networks a response sends into the tunnel, and the installation and
removal of the system routes for them.  The system is a function of the
commands it was given before, so its answers may depend on anything that
happened; the log of these commands is the state.
-/

namespace Rustylink.Tunnel

open Rustylink.Foundation Rustylink.Api

inductive VpnRouteMode where
  | full
  | split
  deriving DecidableEq, Repr

inductive AddressFamily where
  | v4
  | v6
  deriving DecidableEq, Repr

def AddressFamily.name : AddressFamily → String
  | .v4 => "V4"
  | .v6 => "V6"

structure Route where
  destination : IpAddr
  prefixLength : Nat
  ifName : Option String
  deriving DecidableEq, Repr

inductive RouteError where
  | routeManager (source : String)
  | invalidRoute (cidr source : String)
  | invalidRouteFamily (cidr family : String)
  | addRoute (route : Route) (source : String)
  | deleteRoute (route : Route) (source : String)
  deriving DecidableEq, Repr

structure AppliedRoutes where
  interfaceName : String
  routes : List Route
  deriving DecidableEq, Repr

/-! ## Networks -/

variable (parse : String → Except String IpNetwork)

def parseNetwork (value : String) (family : AddressFamily) :
    Except RouteError IpNetwork :=
  match parse value with
  | .error source => .error (.invalidRoute value source)
  | .ok network =>
      if network.isV4 = (family = .v4) then .ok network
      else .error (.invalidRouteFamily value family.name)

def addNetworks (cidrs : List String) (family : AddressFamily) :
    Except RouteError (List IpNetwork) :=
  cidrs.mapM fun cidr => parseNetwork parse cidr family

def VpnRouteMode.cidrs (mode : VpnRouteMode) (setting : VpnConnSetting) :
    List String × List String :=
  match mode with
  | .full => (setting.vpnRouteFull.getD [], setting.v6RouteFull.getD [])
  | .split => (setting.vpnRouteSplit.getD [], setting.v6RouteSplit.getD [])

def networksFromVpnConn (conn : VpnConnResponse) (routeMode : VpnRouteMode)
    (ipv6Enabled : Bool) : Except RouteError (List IpNetwork) := do
  let (v4Cidrs, v6Cidrs) := routeMode.cidrs conn.setting
  let routes ← addNetworks parse v4Cidrs .v4
  if ipv6Enabled then
    return routes ++ (← addNetworks parse v6Cidrs .v6)
  else
    return routes

def CidrsCover (cidrs : List String) (ip : IpAddr) : Prop :=
  ∃ cidr ∈ cidrs, ∃ network, parse cidr = .ok network ∧
    network.contains ip = true

theorem parseNetwork_ok {cidr : String} {family : AddressFamily}
    {network : IpNetwork} (h : parseNetwork parse cidr family = .ok network) :
    parse cidr = .ok network := by
  unfold parseNetwork at h
  cases hparse : parse cidr with
  | error source =>
      rw [hparse] at h
      cases h
  | ok parsed =>
      simp only [hparse] at h
      split at h
      · exact congrArg _ (Except.ok.inj h)
      · cases h

theorem addNetworks_covers {family : AddressFamily} {cidrs : List String}
    {networks : List IpNetwork}
    (h : addNetworks parse cidrs family = .ok networks) {ip : IpAddr} :
    covers networks ip = true ↔ CidrsCover parse cidrs ip := by
  unfold addNetworks at h
  induction cidrs generalizing networks with
  | nil =>
      cases h
      simp [covers, CidrsCover]
  | cons cidr cidrs ih =>
      rw [List.mapM_cons] at h
      cases hfirst : parseNetwork parse cidr family with
      | error e =>
          rw [hfirst] at h
          cases h
      | ok network =>
          cases hrest : cidrs.mapM fun cidr =>
              parseNetwork parse cidr family with
          | error e =>
              rw [hfirst, hrest] at h
              cases h
          | ok rest =>
              rw [hfirst, hrest] at h
              cases h
              have hparse := parseNetwork_ok parse hfirst
              have hcons : covers (network :: rest) ip =
                  (network.contains ip || covers rest ip) := rfl
              rw [hcons, Bool.or_eq_true, ih hrest]
              simp [CidrsCover, hparse]

theorem networksFromVpnConn_covers {conn : VpnConnResponse}
    {routeMode : VpnRouteMode} {ipv6Enabled : Bool} {networks : List IpNetwork}
    (h : networksFromVpnConn parse conn routeMode ipv6Enabled = .ok networks)
    {ip : IpAddr} :
    covers networks ip = true ↔
      CidrsCover parse (routeMode.cidrs conn.setting).1 ip ∨
        (ipv6Enabled = true ∧
          CidrsCover parse (routeMode.cidrs conn.setting).2 ip) := by
  unfold networksFromVpnConn at h
  cases hv4 : addNetworks parse (routeMode.cidrs conn.setting).1 .v4 with
  | error e =>
      simp only [hv4] at h
      cases h
  | ok v4Networks =>
      simp only [hv4] at h
      cases ipv6Enabled with
      | false =>
          cases h
          simp [addNetworks_covers parse hv4]
      | true =>
          cases hv6 :
              addNetworks parse (routeMode.cidrs conn.setting).2 .v6 with
          | error e =>
              simp only [hv6] at h
              cases h
          | ok v6Networks =>
              simp only [hv6] at h
              cases h
              simp [addNetworks_covers parse hv4, addNetworks_covers parse hv6]

def dnsHostRoutes (servers : List IpAddr)
    (ipv6Enabled : Bool) : List IpNetwork :=
  (servers.filter fun ip => ipv6Enabled || ip.isV4).map IpNetwork.ofAddr

theorem mem_dnsHostRoutes {servers : List IpAddr} {ipv6Enabled : Bool}
    {ip : IpAddr} :
    IpNetwork.ofAddr ip ∈ dnsHostRoutes servers ipv6Enabled ↔
      ip ∈ servers ∧ (ipv6Enabled = true ∨ ip.isV4 = true) := by
  unfold dnsHostRoutes
  rw [List.mem_map_of_injective ofAddr_injective]
  simp

theorem dnsHostRoutes_covers {servers : List IpAddr} {ipv6Enabled : Bool}
    {ip : IpAddr} :
    covers (dnsHostRoutes servers ipv6Enabled) ip = true ↔
      ip ∈ servers ∧ (ipv6Enabled = true ∨ ip.isV4 = true) := by
  unfold dnsHostRoutes
  rw [covers_hosts]
  simp

def systemRoute (network : IpNetwork) (interfaceName : String) : Route :=
  ⟨network.network, network.prefixLength, some interfaceName⟩

def systemRoutes (interfaceName : String)
    (networks : List IpNetwork) : List Route :=
  networks.map fun network => systemRoute network interfaceName

/-! ## Installing and removing -/

inductive AddOutcome where
  | added
  | alreadyExists
  | failed (source : String)
  deriving DecidableEq, Repr

inductive RouteCommand where
  | add (route : Route) (outcome : AddOutcome)
  | delete (route : Route) (error : Option String)
  deriving DecidableEq, Repr

abbrev RouteLog := List RouteCommand

structure RouteOs where
  openManager : RouteLog → Option String
  add : RouteLog → Route → AddOutcome
  delete : RouteLog → Route → Option String

def RouteOs.ofDelete (error : Option String) : RouteOs where
  openManager := fun _ => none
  add := fun _ _ => .added
  delete := fun _ _ => error

abbrev RouteBody := EStateM RouteError RouteLog

variable (os : RouteOs)

def openManager : RouteBody Unit := do
  match os.openManager (← get) with
  | none => pure ()
  | some source => throw (.routeManager source)

def issueAdd (route : Route) : RouteBody AddOutcome := do
  let outcome := os.add (← get) route
  modify (· ++ [.add route outcome])
  return outcome

def issueDelete (route : Route) : RouteBody (Option String) := do
  let error := os.delete (← get) route
  modify (· ++ [.delete route error])
  return error

def rollbackAddedRoutes : List Route → RouteBody Unit
  | [] => pure ()
  | route :: routes => do
      let _ ← issueDelete os route
      rollbackAddedRoutes routes

def addRoutes : List Route → List Route → RouteBody (List Route)
  | [], added => pure added
  | route :: routes, added => do
      match ← issueAdd os route with
      | .added => addRoutes routes (added ++ [route])
      | .alreadyExists => addRoutes routes added
      | .failed source => do
          rollbackAddedRoutes os added.reverse
          throw (.addRoute route source)

def apply (interfaceName : String) (networks : List IpNetwork) :
    RouteBody AppliedRoutes := do
  let routes := systemRoutes interfaceName networks
  openManager os
  let added ← addRoutes os routes []
  return ⟨interfaceName, added⟩

/-- Delete the routes; the first error ends it. -/
def deleteRoutes : List Route → RouteBody Unit
  | [] => pure ()
  | route :: routes => do
      match ← issueDelete os route with
      | none => deleteRoutes routes
      | some source => throw (.deleteRoute route source)

def AppliedRoutes.remove (applied : AppliedRoutes) : RouteBody Unit := do
  openManager os
  deleteRoutes os applied.routes.reverse

/-! ## What is owed -/

def RouteCommand.addedRoute : RouteCommand → Option Route
  | .add route .added => some route
  | _ => none

def RouteCommand.deletedRoute : RouteCommand → Option Route
  | .delete route _ => some route
  | _ => none

def RouteLog.added (log : RouteLog) : List Route :=
  log.filterMap RouteCommand.addedRoute

def RouteLog.deleted (log : RouteLog) : List Route :=
  log.filterMap RouteCommand.deletedRoute

/-- Up to `held`, the deletion of every added route has been attempted. -/
def Owes (held : List Route) (log : RouteLog) : Prop :=
  log.added.Perm (log.deleted ++ held)

def DeletesAll (log : RouteLog) : List Route → Prop
  | [] => True
  | route :: routes =>
      os.delete log route = none ∧
        DeletesAll (log ++ [.delete route none]) routes

namespace RouteLog

@[simp] theorem added_append (log log' : RouteLog) :
    added (log ++ log') = added log ++ added log' :=
  List.filterMap_append ..

@[simp] theorem deleted_append (log log' : RouteLog) :
    deleted (log ++ log') = deleted log ++ deleted log' :=
  List.filterMap_append ..

@[simp] theorem added_add (route : Route) :
    added [.add route .added] = [route] := rfl

@[simp] theorem added_exists (route : Route) :
    added [.add route .alreadyExists] = [] := rfl

@[simp] theorem added_failed (route : Route) (source : String) :
    added [.add route (.failed source)] = [] := rfl

@[simp] theorem added_delete (route : Route) (error : Option String) :
    added [.delete route error] = [] := rfl

@[simp] theorem deleted_add (route : Route) (outcome : AddOutcome) :
    deleted [.add route outcome] = [] := rfl

@[simp] theorem deleted_delete (route : Route) (error : Option String) :
    deleted [.delete route error] = [route] := rfl

end RouteLog

variable {os}

theorem issueAdd_run (route : Route) (log : RouteLog) :
    issueAdd os route log =
      .ok (os.add log route) (log ++ [.add route (os.add log route)]) := rfl

theorem issueDelete_run (route : Route) (log : RouteLog) :
    issueDelete os route log =
      .ok (os.delete log route)
        (log ++ [.delete route (os.delete log route)]) := rfl

theorem openManager_run (log : RouteLog) :
    openManager os log =
      match os.openManager log with
      | none => .ok () log
      | some source => .error (.routeManager source) log := by
  unfold openManager
  rw [run_bind]
  show (match os.openManager log with
    | none => (pure () : RouteBody Unit)
    | some source => throw (RouteError.routeManager source)) log = _
  cases os.openManager log <;> rfl

theorem rollbackAddedRoutes_run (os : RouteOs) (routes : List Route)
    (log : RouteLog) :
    ∃ log', rollbackAddedRoutes os routes log = .ok () log' ∧
      log'.added = log.added ∧ log'.deleted = log.deleted ++ routes := by
  induction routes generalizing log with
  | nil => exact ⟨log, rfl, rfl, by simp⟩
  | cons route routes ih =>
      obtain ⟨log', hrun, hadded, hdeleted⟩ :=
        ih (log ++ [.delete route (os.delete log route)])
      refine ⟨log', hrun, by simpa using hadded, ?_⟩
      simpa [List.append_assoc] using hdeleted

theorem addRoutes_owes {routes added : List Route} {log log' : RouteLog}
    (h : Owes added log) :
    (∀ applied, addRoutes os routes added log = .ok applied log' →
      Owes applied log') ∧
    ∀ error, addRoutes os routes added log = .error error log' →
      Owes [] log' := by
  induction routes generalizing added log with
  | nil =>
      constructor
      · intro applied hrun
        cases hrun
        exact h
      · intro error hrun
        cases hrun
  | cons route routes ih =>
      unfold addRoutes
      simp only [run_bind, issueAdd_run]
      cases hadd : os.add log route with
      | added =>
          refine ih ?_
          unfold Owes at h ⊢
          simp only [RouteLog.added_append, RouteLog.added_add,
            RouteLog.deleted_append, RouteLog.deleted_add, List.append_nil]
          rw [← List.append_assoc]
          exact h.append_right [route]
      | alreadyExists =>
          refine ih ?_
          unfold Owes at h ⊢
          simpa using h
      | failed source =>
          obtain ⟨after, hrollback, hadded, hdeleted⟩ :=
            rollbackAddedRoutes_run os added.reverse
              (log ++ [.add route (.failed source)])
          simp only [run_bind, hrollback]
          constructor
          · intro applied hrun
            cases hrun
          · intro error hrun
            cases hrun
            unfold Owes at h ⊢
            rw [hadded, hdeleted]
            simp only [RouteLog.added_append, RouteLog.added_failed,
              RouteLog.deleted_append, RouteLog.deleted_add, List.append_nil]
            exact h.trans ((List.reverse_perm added).symm.append_left _)

theorem apply_owes {interfaceName : String} {networks : List IpNetwork}
    {log log' : RouteLog} (h : Owes [] log) :
    (∀ applied, apply os interfaceName networks log = .ok applied log' →
      Owes applied.routes log') ∧
    ∀ error, apply os interfaceName networks log = .error error log' →
      Owes [] log' := by
  unfold apply
  simp only [run_bind, openManager_run]
  cases os.openManager log with
  | some source =>
      constructor
      · intro applied hrun
        cases hrun
      · intro error hrun
        cases hrun
        exact h
  | none =>
      cases hrun : addRoutes os (systemRoutes interfaceName networks)
          [] log with
      | ok added after =>
          simp only [hrun]
          constructor
          · intro applied hok
            cases hok
            exact (addRoutes_owes h).1 added hrun
          · intro error hok
            cases hok
      | error e after =>
          simp only [hrun]
          constructor
          · intro applied hok
            cases hok
          · intro error hok
            cases hok
            exact (addRoutes_owes h).2 e hrun

theorem deleteRoutes_added (os : RouteOs) (routes : List Route)
    (log : RouteLog) :
    (leaves (deleteRoutes os routes log)).added = log.added := by
  induction routes generalizing log with
  | nil => rfl
  | cons route routes ih =>
      unfold deleteRoutes
      simp only [run_bind, issueDelete_run]
      cases os.delete log route with
      | none =>
          rw [ih]
          simp
      | some source =>
          show (log ++ [RouteCommand.delete route (some source)]).added =
              log.added
          simp

theorem deleteRoutes_ok_iff (os : RouteOs) (routes : List Route)
    (log : RouteLog) :
    (∃ log', deleteRoutes os routes log = .ok () log') ↔
      DeletesAll os log routes := by
  induction routes generalizing log with
  | nil => exact ⟨fun _ => trivial, fun _ => ⟨log, rfl⟩⟩
  | cons route routes ih =>
      unfold deleteRoutes DeletesAll
      simp only [run_bind, issueDelete_run]
      cases os.delete log route with
      | none => simpa using ih _
      | some source =>
          constructor
          · rintro ⟨log', hrun⟩
            cases hrun
          · rintro ⟨hnone, -⟩
            contradiction

theorem deleteRoutes_deleted (os : RouteOs) (routes : List Route)
    (log : RouteLog) :
    ∃ attempted, attempted <+: routes ∧
      (leaves (deleteRoutes os routes log)).deleted = log.deleted ++ attempted ∧
      (attempted = routes ↔ DeletesAll os log routes.dropLast) := by
  induction routes generalizing log with
  | nil =>
      refine ⟨[], List.prefix_refl [], ?_, ?_⟩
      · simp [deleteRoutes, leaves, pure, EStateM.pure]
      · simp [DeletesAll]
  | cons route routes ih =>
      unfold deleteRoutes
      simp only [run_bind, issueDelete_run]
      cases hdelete : os.delete log route with
      | none =>
          obtain ⟨attempted, hprefix, hdeleted, hall⟩ :=
            ih (log ++ [.delete route none])
          refine ⟨route :: attempted, List.cons_prefix_cons.mpr ⟨rfl, hprefix⟩,
            ?_, ?_⟩
          · rw [hdeleted]
            simp
          · rw [List.cons.injEq, and_iff_right rfl, hall]
            cases routes with
            | nil => simp [DeletesAll]
            | cons next rest => simp [DeletesAll, hdelete]
      | some source =>
          refine ⟨[route], by simp, ?_, ?_⟩
          · show (log ++ [RouteCommand.delete route (some source)]).deleted =
              log.deleted ++ [route]
            simp
          · cases routes with
            | nil => simp [DeletesAll]
            | cons next rest => simp [DeletesAll, hdelete]

theorem remove_run (applied : AppliedRoutes) (log : RouteLog) :
    applied.remove os log =
      match os.openManager log with
      | none => deleteRoutes os applied.routes.reverse log
      | some source => .error (.routeManager source) log := by
  unfold AppliedRoutes.remove
  simp only [run_bind, openManager_run]
  cases os.openManager log <;> rfl

end Rustylink.Tunnel
