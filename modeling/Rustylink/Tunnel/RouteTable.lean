import Rustylink.Foundation.Table
import Rustylink.Tunnel.Route

/-!
# Route commands on a routing table

A routing table is keyed by destination and prefix.  The commands that the
system accepted tell what it holds; an add may fail at any position, and a key
that is taken is reported instead of overwritten.
-/

namespace Rustylink.Tunnel

open Rustylink.Foundation

abbrev RouteKey := IpAddr × Nat

def Route.key (route : Route) : RouteKey :=
  (route.destination, route.prefixLength)

abbrev RoutingTable := Table RouteKey Route

def RouteCommand.effect (table : RoutingTable) : RouteCommand → RoutingTable
  | .add route .added => table.put route.key route
  | .delete route none => table.drop route.key
  | _ => table

def RoutingTable.after (table : RoutingTable) (log : RouteLog) : RoutingTable :=
  log.foldl RouteCommand.effect table

/--
Where opening the manager and adding a route fail; nothing is assumed of it.
-/
structure RouteFaults where
  openManager : RouteLog → Option String
  add : RouteLog → Route → Option String

def RoutingTable.os (table : RoutingTable) (faults : RouteFaults) :
    RouteOs where
  openManager := faults.openManager
  add log route :=
    match faults.add log route with
    | some source => .failed source
    | none =>
        if (table.after log route.key).isSome then .alreadyExists else .added
  delete log route :=
    if (table.after log route.key).isSome then none else some "No such process"

variable {table : RoutingTable} {faults : RouteFaults} {log log' : RouteLog}

namespace RoutingTable

@[simp] theorem after_append (table : RoutingTable) (log log' : RouteLog) :
    table.after (log ++ log') = (table.after log).after log' :=
      List.foldl_append ..

@[simp] theorem after_added (table : RoutingTable) (route : Route) :
    table.after [.add route .added] = table.put route.key route := rfl

@[simp] theorem after_exists (table : RoutingTable) (route : Route) :
    table.after [.add route .alreadyExists] = table := rfl

@[simp] theorem after_failed (table : RoutingTable) (route : Route)
  (source : String) :
    table.after [.add route (.failed source)] = table := rfl

@[simp] theorem after_deleted (table : RoutingTable) (route : Route) :
    table.after [.delete route none] = table.drop route.key := rfl

theorem after_delete (table : RoutingTable) (faults : RouteFaults)
    (route : Route) (log : RouteLog) :
    table.after (log ++ [.delete route ((table.os faults).delete log route)]) =
      (table.after log).drop route.key := by
  rw [after_append]
  cases hkey : table.after log route.key with
  | some entry =>
      have hok : (table.os faults).delete log route = none := by simp [os, hkey]
      rw [hok, after_deleted]
  | none =>
      have herror : (table.os faults).delete log route =
          some "No such process" := by
        simp [os, hkey]
      rw [herror, Table.drop_of_none hkey]
      rfl

end RoutingTable

open RoutingTable

/-! ## Taking routes out -/

theorem rollbackAddedRoutes_table (table : RoutingTable) (faults : RouteFaults)
    (routes : List Route) (log : RouteLog) :
    ∃ log', rollbackAddedRoutes (table.os faults) routes log = .ok () log' ∧
      table.after log' = (table.after log).dropAll (routes.map Route.key) := by
  induction routes generalizing log with
  | nil => exact ⟨log, rfl, rfl⟩
  | cons route routes ih =>
      obtain ⟨log', hrun, hafter⟩ :=
        ih (log ++ [.delete route ((table.os faults).delete log route)])
      refine ⟨log', hrun, ?_⟩
      rw [hafter, after_delete]
      rfl

theorem deleteRoutes_table (faults : RouteFaults) {routes : List Route}
    {log : RouteLog} (hnodup : (routes.map Route.key).Nodup)
    (hthere : ∀ route ∈ routes, (table.after log route.key).isSome = true) :
    ∃ log', deleteRoutes (table.os faults) routes log = .ok () log' ∧
      table.after log' = (table.after log).dropAll (routes.map Route.key) := by
  induction routes generalizing log with
  | nil => exact ⟨log, rfl, rfl⟩
  | cons route routes ih =>
      rw [List.map_cons, List.nodup_cons] at hnodup
      have hok : (table.os faults).delete log route = none := by
        simp [RoutingTable.os, hthere route List.mem_cons_self]
      have hrest : ∀ other ∈ routes,
          (table.after (log ++ [.delete route none]) other.key).isSome =
              true := by
        intro other hother
        have hne : other.key ≠ route.key := fun heq =>
          hnodup.1 (List.mem_map.mpr ⟨other, hother, heq⟩)
        rw [after_append, after_deleted, Table.drop_of_ne hne]
        exact hthere other (List.mem_cons_of_mem route hother)
      obtain ⟨log', hrun, hafter⟩ := ih hnodup.2 hrest
      refine ⟨log', ?_, ?_⟩
      · unfold deleteRoutes
        simp only [run_bind, issueDelete_run, hok]
        exact hrun
      · rw [hafter, after_append, after_deleted]
        rfl

/-! ## Putting routes in -/

def Records (table : RoutingTable) (start : RouteLog) (added : List Route)
    (log : RouteLog) : Prop :=
  Table.GrownBy (table.after start) (added.map Route.key) (table.after log)

theorem Records.add {start : RouteLog} {added : List Route} {route : Route}
    (h : Records table start added log)
    (hkey : table.after log route.key = none) :
    Records table start (added ++ [route]) (log ++ [.add route .added]) := by
  unfold Records
  rw [List.map_append, after_append, after_added]
  exact h.put hkey route

structure Covers (table : RoutingTable) (log log' : RouteLog)
    (routes : List Route) : Prop where
  keeps : ∀ k, (table.after log k).isSome = true →
    (table.after log' k).isSome = true
  there : ∀ route ∈ routes, (table.after log' route.key).isSome = true

theorem Covers.cons {log₁ : RouteLog} {route : Route} {routes : List Route}
    (h : Covers table log₁ log' routes)
    (hkeeps : ∀ k, (table.after log k).isSome = true →
      (table.after log₁ k).isSome = true)
    (hroute : (table.after log₁ route.key).isSome = true) :
    Covers table log log' (route :: routes) where
  keeps k hk := h.keeps k (hkeeps k hk)
  there := List.forall_mem_cons.mpr ⟨h.keeps route.key hroute, h.there⟩

theorem addRoutes_table {start : RouteLog} {routes added : List Route}
    (h : Records table start added log) :
    (∀ applied, addRoutes (table.os faults) routes added log =
      .ok applied log' →
      Records table start applied log' ∧ Covers table log log' routes) ∧
    ∀ error, addRoutes (table.os faults) routes added log = .error error log' →
      table.after log' = table.after start := by
  induction routes generalizing added log with
  | nil =>
      constructor
      · intro applied hrun
        cases hrun
        exact ⟨h, fun _ hk => hk, by simp⟩
      · intro error hrun
        cases hrun
  | cons route routes ih =>
      unfold addRoutes
      simp only [run_bind, issueAdd_run]
      cases hfault : faults.add log route with
      | some source =>
          have hadd : (table.os faults).add log route = .failed source := by
            simp [RoutingTable.os, hfault]
          simp only [hadd]
          obtain ⟨log₁, hrollback, hafter⟩ :=
            rollbackAddedRoutes_table table faults
            added.reverse (log ++ [.add route (.failed source)])
          simp only [run_bind, hrollback]
          constructor
          · intro applied hrun
            cases hrun
          · intro error hrun
            cases hrun
            rw [hafter, after_append, after_failed, List.map_reverse]
            exact h.undo (List.reverse_perm _)
      | none =>
          by_cases hkey : (table.after log route.key).isSome = true
          · have hadd : (table.os faults).add log route = .alreadyExists := by
              simp [RoutingTable.os, hfault, hkey]
            simp only [hadd]
            have hsame : table.after (log ++ [.add route .alreadyExists]) =
                table.after log := by rw [after_append, after_exists]
            have hrecords : Records table start added
                (log ++ [.add route .alreadyExists]) := by
              unfold Records
              rw [hsame]
              exact h
            refine ⟨fun applied hrun => ?_, (ih hrecords).2⟩
            obtain ⟨happlied, hrest⟩ := (ih hrecords).1 applied hrun
            refine ⟨happlied, hrest.cons ?_ ?_⟩
            · rw [hsame]
              exact fun _ hk => hk
            · rw [hsame]
              exact hkey
          · have hnone : table.after log route.key = none := by simpa using hkey
            have hadd : (table.os faults).add log route = .added := by
              simp [RoutingTable.os, hfault, hnone]
            simp only [hadd]
            refine ⟨fun applied hrun => ?_, (ih (h.add hnone)).2⟩
            obtain ⟨happlied, hrest⟩ := (ih (h.add hnone)).1 applied hrun
            refine ⟨happlied, hrest.cons ?_ ?_⟩
            · intro k hk
              rw [after_append, after_added]
              by_cases hsame : k = route.key
              · simp [hsame]
              · rwa [Table.put_of_ne hsame]
            · rw [after_append, after_added]
              simp

theorem Records.remove {start : RouteLog} {added : List Route}
    (h : Records table start added log) (interfaceName : String)
    (hopen : faults.openManager log = none) :
    ∃ log', AppliedRoutes.remove (table.os faults) ⟨interfaceName, added⟩ log =
      .ok () log' ∧
      table.after log' = table.after start := by
  have hperm : (added.reverse.map Route.key).Perm (added.map Route.key) :=
    (List.reverse_perm added).map Route.key
  have hthere : ∀ route ∈ added.reverse, (table.after log route.key).isSome =
      true :=
    fun route hroute => h.there _
      (List.mem_map_of_mem (List.mem_reverse.mp hroute))
  obtain ⟨log', hdelete, hafter⟩ :=
    deleteRoutes_table faults (hperm.nodup_iff.mpr h.nodup) hthere
  refine ⟨log', ?_, hafter.trans (h.undo hperm)⟩
  have hmanager : (table.os faults).openManager log = none := hopen
  rw [remove_run, hmanager]
  exact hdelete

theorem apply_run (os : RouteOs) (interfaceName : String)
    (networks : List IpNetwork) (log : RouteLog) :
    apply os interfaceName networks log =
      match os.openManager log with
      | some source => .error (.routeManager source) log
      | none =>
          match addRoutes os (systemRoutes interfaceName networks) [] log with
          | .ok added log' => .ok ⟨interfaceName, added⟩ log'
          | .error error log' => .error error log' := by
  unfold apply
  simp only [run_bind, openManager_run]
  cases os.openManager log with
  | some source => rfl
  | none =>
      dsimp only
      cases addRoutes os (systemRoutes interfaceName networks) [] log <;> rfl

/--
A failed installation leaves the table as it was.  A successful one has an
entry for every network, overwrites nothing, and is undone by the removal.
-/
theorem routes_all_or_nothing (table : RoutingTable) (faults : RouteFaults)
    (interfaceName : String) (networks : List IpNetwork) (log log' : RouteLog) :
    (∀ error, apply (table.os faults) interfaceName networks log =
      .error error log' →
      table.after log' = table.after log) ∧
    ∀ applied, apply (table.os faults) interfaceName networks log =
      .ok applied log' →
      (∀ network ∈ networks,
        (table.after log' (systemRoute network interfaceName).key).isSome =
          true) ∧
      (∀ k route, table.after log k = some route →
        table.after log' k = some route) ∧
      (faults.openManager log' = none →
        ∃ log'', applied.remove (table.os faults) log' = .ok () log'' ∧
          table.after log'' = table.after log) := by
  have hstart : Records table log [] log := Table.GrownBy.refl _
  rw [apply_run]
  cases hopen : (table.os faults).openManager log with
  | some source =>
      constructor
      · intro error hrun
        cases hrun
        rfl
      · intro applied hrun
        cases hrun
  | none =>
      dsimp only
      cases hadd : addRoutes (table.os faults)
          (systemRoutes interfaceName networks) [] log with
      | error e after =>
          constructor
          · intro error hrun
            cases hrun
            exact (addRoutes_table hstart).2 e hadd
          · intro applied hrun
            cases hrun
      | ok added after =>
          constructor
          · intro error hrun
            cases hrun
          · intro applied hrun
            cases hrun
            obtain ⟨hrecords, hcovers⟩ := (addRoutes_table hstart).1 added hadd
            refine ⟨fun network hnetwork => ?_, fun k route => hrecords.keeps,
              hrecords.remove interfaceName⟩
            exact hcovers.there _ (List.mem_map.mpr ⟨network, hnetwork, rfl⟩)

end Rustylink.Tunnel
