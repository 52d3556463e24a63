import Mathlib.Data.List.Infix
import Rustylink.Foundation.Fallible
import Rustylink.Foundation.Table
import Rustylink.Foundation.Text
import Rustylink.Outbound.Dialer

/-!
# The route bypass

Two entries that let bypass traffic around the tunnel: policy rules on Linux,
scoped default routes on macOS.  The table of the system holds what its
commands added; what each add command came to is an input, and a delete
command takes its entry out if it is there.
-/

namespace Rustylink.Outbound

open Rustylink.Foundation

structure CommandOutput where
  success : Bool
  stderr : String
  deriving DecidableEq, Repr

abbrev CommandRun := Except String CommandOutput

inductive BypassError where
  | addRule (detail : String)
  | ipCommand (source : String)
  | addScopedDefault (interface stderr : String)
  | routeCommand (source : String)
  deriving DecidableEq, Repr

def CommandRun.succeeded : CommandRun → Bool
  | .ok output => output.success
  | .error _ => false

/-- A command that reports an entry that is there counts as accepted. -/
def CommandRun.accepted : CommandRun → Bool
  | .ok output => output.success ||
        decide ("File exists".toList <:+: output.stderr.toList)
  | .error _ => false

abbrev BypassBody (Entry : Type) := EStateM BypassError (Table Entry Unit)

variable {Entry : Type} [DecidableEq Entry]

def CommandRun.effect (run : CommandRun) (entry : Entry)
    (table : Table Entry Unit) :
    Table Entry Unit :=
  if run.succeeded then table.put entry () else table

def addEntry (notRun refused : String → BypassError) (run : CommandRun)
    (entry : Entry) : BypassBody Entry Unit := do
  modify (run.effect entry)
  match run with
  | .error source => throw (notRun source)
  | .ok output =>
      if run.accepted then pure () else throw (refused output.stderr)

def delEntry (entry : Entry) : BypassBody Entry Unit :=
  modify (Table.drop entry)

/-! ## Linux -/

namespace Linux

abbrev IpRule := List String

def fwmarkRule : IpRule :=
  ["not", "fwmark", "0x162e", "table", "5678", "priority", "9000"]

def mainSuppressRule : IpRule :=
  ["table", "main", "suppress_prefixlength", "0", "priority", "9001"]

structure RouteBypass where
  installed : Bool
  deriving DecidableEq, Repr

def ipRuleAdd (results : IpRule → CommandRun) (rule : IpRule) :
    BypassBody IpRule Unit :=
  addEntry .ipCommand (fun stderr => .addRule (trim stderr)) (results rule) rule

def setup (results : IpRule → CommandRun) (fullTunnel : Bool) :
    BypassBody IpRule RouteBypass := do
  if !fullTunnel then return ⟨false⟩
  ipRuleAdd results fwmarkRule
  ipRuleAdd results mainSuppressRule
  return ⟨true⟩

def RouteBypass.teardown (bypass : RouteBypass) : BypassBody IpRule Unit := do
  if bypass.installed then
    delEntry fwmarkRule
    delEntry mainSuppressRule

def rules (fullTunnel : Bool) : List IpRule :=
  if fullTunnel then [fwmarkRule, mainSuppressRule] else []

end Linux

/-! ## macOS -/

namespace MacOs

structure ScopedDefault where
  iface : String
  gateway : IpAddr
  ipv6 : Bool
  deriving DecidableEq, Repr

structure RouteBypass where
  interfaceName : String
  gatewayV4 : Option IpAddr
  gatewayV6 : Option IpAddr
  deriving DecidableEq, Repr

def addScopedDefault (results : ScopedDefault → CommandRun)
    (route : ScopedDefault) :
    BypassBody ScopedDefault Unit :=
  addEntry .routeCommand (.addScopedDefault route.iface) (results route) route

def setup (results : ScopedDefault → CommandRun) (interface : OutboundInterface)
    (fullTunnel : Bool) : BypassBody ScopedDefault RouteBypass := do
  if !fullTunnel then return ⟨interface.name, none, none⟩
  if let some gw := interface.gatewayV4 then
    addScopedDefault results ⟨interface.name, gw, false⟩
  if let some gw := interface.gatewayV6 then
    addScopedDefault results ⟨interface.name, gw, true⟩
  return ⟨interface.name, interface.gatewayV4, interface.gatewayV6⟩

def RouteBypass.teardown (bypass : RouteBypass) :
    BypassBody ScopedDefault Unit := do
  if let some gw := bypass.gatewayV4 then
    delEntry ⟨bypass.interfaceName, gw, false⟩
  if let some gw := bypass.gatewayV6 then
    delEntry ⟨bypass.interfaceName, gw, true⟩

def routes (interface : OutboundInterface)
    (fullTunnel : Bool) : List ScopedDefault :=
  if fullTunnel then
    (interface.gatewayV4.map fun gw => ⟨interface.name, gw, false⟩).toList ++
      (interface.gatewayV6.map fun gw => ⟨interface.name, gw, true⟩).toList
  else []

end MacOs

/-! ## Adding entries in sequence -/

def addEntries (notRun : String → BypassError)
    (refused : Entry → String → BypassError) (results : Entry → CommandRun) :
    List Entry → BypassBody Entry Unit
  | [] => pure ()
  | entry :: entries => do
      addEntry notRun (refused entry) (results entry) entry
      addEntries notRun refused results entries

def delEntries : List Entry → BypassBody Entry Unit
  | [] => pure ()
  | entry :: entries => do
      delEntry entry
      delEntries entries

def acceptedFirst (results : Entry → CommandRun)
    (entries : List Entry) : List Entry :=
  entries.takeWhile fun entry => (results entry).accepted

def added (results : Entry → CommandRun) (entries : List Entry)
    (table : Table Entry Unit) :
    Table Entry Unit :=
  (acceptedFirst results entries).foldl
    (fun table entry => (results entry).effect entry table) table

variable {results : Entry → CommandRun} {entry : Entry} {entries : List Entry}
  {table : Table Entry Unit}

theorem CommandRun.accepted_of_succeeded {run : CommandRun}
    (h : run.succeeded = true) :
    run.accepted = true := by
  cases run with
  | error source => cases h
  | ok output =>
      simp only [succeeded] at h
      simp [accepted, h]

theorem CommandRun.effect_apply (run : CommandRun) (entry e : Entry)
    (table : Table Entry Unit) :
    run.effect entry table e =
      if e = entry ∧ run.succeeded = true then some () else table e := by
  unfold effect
  by_cases hs : run.succeeded = true
  · by_cases he : e = entry
    · simp [hs, he]
    · simp [hs, he]
  · simp [hs]

theorem foldl_effect_apply (results : Entry → CommandRun) (entries : List Entry)
    (table : Table Entry Unit) (e : Entry) :
    entries.foldl (fun table entry => (results entry).effect entry table)
      table e =
      if e ∈ entries ∧ (results e).succeeded = true then some ()
        else table e := by
  induction entries generalizing table with
  | nil => simp
  | cons entry entries ih =>
      rw [List.foldl_cons, ih, CommandRun.effect_apply]
      by_cases he : e = entry
      · subst he
        by_cases hs : (results e).succeeded = true <;> simp [hs]
      · simp [he]

theorem run_addEntry (notRun refused : String → BypassError) (run : CommandRun)
    (entry : Entry) (table : Table Entry Unit) :
    (run.accepted = true ∧
      addEntry notRun refused run entry table =
        .ok () (run.effect entry table)) ∨
    (run.accepted = false ∧
      ∃ error, addEntry notRun refused run entry table =
        .error error table) := by
  unfold addEntry
  cases run with
  | error source => exact .inr ⟨rfl, notRun source, rfl⟩
  | ok output =>
      simp only [run_bind, run_modify]
      cases haccepted : (CommandRun.accepted (.ok output)) with
      | true => exact .inl ⟨rfl, rfl⟩
      | false =>
          have hsame : CommandRun.effect (.ok output) entry table = table := by
            unfold CommandRun.effect
            rw [if_neg]
            intro hs
            rw [CommandRun.accepted_of_succeeded hs] at haccepted
            cases haccepted
          rw [hsame]
          exact .inr ⟨rfl, refused output.stderr, rfl⟩

theorem run_addEntries (notRun : String → BypassError)
    (refused : Entry → String → BypassError) (results : Entry → CommandRun)
    (entries : List Entry) (table : Table Entry Unit) :
    ((∀ e ∈ entries, (results e).accepted = true) ∧
      addEntries notRun refused results entries table =
        .ok () (added results entries table)) ∨
    ((∃ e ∈ entries, (results e).accepted = false) ∧
      ∃ error, addEntries notRun refused results entries table =
        .error error (added results entries table)) := by
  induction entries generalizing table with
  | nil => exact .inl ⟨by simp, rfl⟩
  | cons entry entries ih =>
      unfold addEntries
      simp only [run_bind]
      rcases run_addEntry notRun (refused entry) (results entry)
          entry table with
        ⟨haccepted, hrun⟩ | ⟨hrefused, error, hrun⟩
      · have hadded : added results (entry :: entries) table =
            added results entries ((results entry).effect entry table) := by
          simp [added, acceptedFirst, haccepted]
        rw [hrun, hadded]
        rcases ih ((results entry).effect entry table) with
          ⟨hall, hok⟩ | ⟨⟨e, he, hno⟩, herror⟩
        · exact .inl ⟨List.forall_mem_cons.mpr ⟨haccepted, hall⟩, hok⟩
        · exact .inr ⟨⟨e, List.mem_cons_of_mem entry he, hno⟩, herror⟩
      · have hadded : added results (entry :: entries) table = table := by
          simp [added, acceptedFirst, hrefused]
        rw [hrun, hadded]
        exact .inr ⟨⟨entry, List.mem_cons_self, hrefused⟩, error, rfl⟩

theorem run_delEntries (entries : List Entry) (table : Table Entry Unit) :
    delEntries entries table = .ok () (table.dropAll entries) := by
  induction entries generalizing table with
  | nil => rfl
  | cons entry entries ih =>
      unfold delEntries
      rw [run_bind]
      exact ih (table.drop entry)

/-! ## Traces -/

/--
A failed setup leaves none of the entries that it added, and the teardown of a
successful one restores the table that the setup found.
-/
structure LeavesNoTrace {Bypass : Type} (setup : BypassBody Entry Bypass)
    (teardown : Bypass → BypassBody Entry Unit)
    (table : Table Entry Unit) : Prop where
  failed : ∀ error after, setup table = .error error after →
    ∀ e, table e = none → after e = none
  undone : ∀ bypass after, setup table = .ok bypass after →
    teardown bypass after = .ok () table

/--
If all commands are accepted, none of the entries was there; otherwise the
commands before the first that is not accepted added nothing new.
-/
def AddsKnown (results : Entry → CommandRun) (entries : List Entry)
    (table : Table Entry Unit) : Prop :=
  if ∀ e ∈ entries, (results e).accepted = true then ∀ e ∈ entries,
    table e = none
  else ∀ e ∈ acceptedFirst results entries, (results e).succeeded = true →
    table e ≠ none

theorem leavesNoTrace_iff {Bypass : Type} {notRun : String → BypassError}
    {refused : Entry → String → BypassError} {bypass : Bypass}
    {teardown : Bypass → BypassBody Entry Unit}
    (hteardown : teardown bypass = delEntries entries) :
    LeavesNoTrace (addEntries notRun refused results entries >>= fun _ =>
      pure bypass)
      teardown table ↔ AddsKnown results entries table := by
  have happly :=
    foldl_effect_apply results (acceptedFirst results entries) table
  unfold AddsKnown
  rcases run_addEntries notRun refused results entries table with
    ⟨hall, hrun⟩ | ⟨⟨refusedEntry, hmem, hrefused⟩, error, hrun⟩
  · rw [if_pos hall]
    have hsetup : (addEntries notRun refused results entries >>= fun _ =>
        pure bypass) table =
        .ok bypass (added results entries table) := by
      rw [run_bind, hrun]
      rfl
    have hoff : ∀ e, e ∉ entries → added results entries table e = table e := by
      intro e he
      refine (happly e).trans (if_neg fun h => he ?_)
      exact List.takeWhile_sublist _ |>.subset h.1
    rw [← Table.dropAll_eq_iff hoff]
    constructor
    · intro h
      have hdone := h.undone bypass _ hsetup
      rw [hteardown, run_delEntries] at hdone
      exact (EStateM.Result.ok.inj hdone).2
    · intro h
      refine ⟨fun error after herror => ?_, fun bypass' after hok => ?_⟩
      · rw [hsetup] at herror
        cases herror
      · rw [hsetup] at hok
        cases hok
        rw [hteardown, run_delEntries, h]
  · have hnot : ¬ ∀ e ∈ entries, (results e).accepted = true := by
      intro hall
      rw [hall refusedEntry hmem] at hrefused
      cases hrefused
    rw [if_neg hnot]
    have hsetup : (addEntries notRun refused results entries >>= fun _ =>
        pure bypass) table =
        .error error (added results entries table) := by
      rw [run_bind, hrun]
    constructor
    · intro h e he hsucceeded hnone
      have hafter := h.failed error _ hsetup e hnone
      rw [added, happly, if_pos ⟨he, hsucceeded⟩] at hafter
      cases hafter
    · intro h
      refine ⟨fun error' after herror e hnone => ?_, fun bypass' after hok =>
        ?_⟩
      · rw [hsetup] at herror
        cases herror
        rw [added, happly, if_neg, hnone]
        exact fun hadded => h e hadded.1 hadded.2 hnone
      · rw [hsetup] at hok
        cases hok

/-! ## The two platforms -/

theorem Linux.setup_eq (results : Linux.IpRule → CommandRun)
    (fullTunnel : Bool) :
    Linux.setup results fullTunnel =
      addEntries .ipCommand (fun _ stderr => .addRule (trim stderr)) results
        (Linux.rules fullTunnel) >>= fun _ => pure ⟨fullTunnel⟩ := by
  cases fullTunnel with
  | false => rfl
  | true =>
      simp only [Linux.rules, if_true, addEntries, bind_assoc, pure_bind]
      rfl

theorem Linux.teardown_eq (fullTunnel : Bool) :
    Linux.RouteBypass.teardown ⟨fullTunnel⟩ =
      delEntries (Linux.rules fullTunnel) := by
  cases fullTunnel <;> rfl

def MacOs.recorded (interface : OutboundInterface) (fullTunnel : Bool) :
    MacOs.RouteBypass :=
  if fullTunnel then ⟨interface.name, interface.gatewayV4, interface.gatewayV6⟩
  else ⟨interface.name, none, none⟩

theorem MacOs.setup_eq (results : MacOs.ScopedDefault → CommandRun)
    (interface : OutboundInterface) (fullTunnel : Bool) :
    MacOs.setup results interface fullTunnel =
      addEntries .routeCommand (fun route => .addScopedDefault route.iface)
        results (MacOs.routes interface fullTunnel) >>=
          fun _ => pure (MacOs.recorded interface fullTunnel) := by
  cases fullTunnel with
  | false => rfl
  | true =>
      obtain ⟨name, index, gatewayV4, gatewayV6⟩ := interface
      cases gatewayV4 <;> cases gatewayV6 <;>
        simp only [MacOs.routes, MacOs.recorded, if_true, addEntries,
          bind_assoc, pure_bind, Option.map, Option.toList, List.append_nil,
          List.nil_append, List.cons_append] <;>
        rfl

theorem MacOs.teardown_eq (interface : OutboundInterface) (fullTunnel : Bool) :
    (MacOs.recorded interface fullTunnel).teardown =
      delEntries (MacOs.routes interface fullTunnel) := by
  cases fullTunnel with
  | false => rfl
  | true =>
      obtain ⟨name, index, gatewayV4, gatewayV6⟩ := interface
      cases gatewayV4 <;> cases gatewayV6 <;> rfl

/--
On either platform the bypass leaves no trace exactly when a setup that is
accepted finds none of its entries, and one that is refused has added nothing.
-/
theorem route_bypass_leaves_no_trace_iff
    (linuxResults : Linux.IpRule → CommandRun)
    (macResults : MacOs.ScopedDefault → CommandRun)
    (interface : OutboundInterface) (fullTunnel : Bool)
    (rulesTable : Table Linux.IpRule Unit)
    (routesTable : Table MacOs.ScopedDefault Unit) :
    (LeavesNoTrace (Linux.setup linuxResults fullTunnel)
      Linux.RouteBypass.teardown rulesTable ↔
      AddsKnown linuxResults (Linux.rules fullTunnel) rulesTable) ∧
    (LeavesNoTrace (MacOs.setup macResults interface fullTunnel)
      MacOs.RouteBypass.teardown
        routesTable ↔
      AddsKnown macResults (MacOs.routes interface fullTunnel)
        routesTable) := by
  constructor
  · rw [Linux.setup_eq]
    exact leavesNoTrace_iff (Linux.teardown_eq fullTunnel)
  · rw [MacOs.setup_eq]
    exact leavesNoTrace_iff (MacOs.teardown_eq interface fullTunnel)

def secondRefused (rule : Linux.IpRule) : CommandRun :=
  if rule = Linux.fwmarkRule then .ok ⟨true, ""⟩
  else .ok ⟨false, "RTNETLINK answers: Operation not permitted"⟩

def firstExists (rule : Linux.IpRule) : CommandRun :=
  if rule = Linux.fwmarkRule then .ok ⟨false, "RTNETLINK answers: File exists"⟩
  else .ok ⟨true, ""⟩

def holdsFwmark : Table Linux.IpRule Unit :=
  Table.put Linux.fwmarkRule () fun _ => none

/--
The first rule outlives a refused second one, and a rule that was there is
taken out.
-/
theorem route_bypass_leaves_traces :
    (∃ error after, Linux.setup secondRefused true (fun _ => none) =
      .error error after ∧
      after Linux.fwmarkRule = some ()) ∧
    ∃ bypass after final, Linux.setup firstExists true holdsFwmark =
      .ok bypass after ∧
      bypass.teardown after = .ok () final ∧
      holdsFwmark Linux.fwmarkRule = some () ∧
        final Linux.fwmarkRule = none := by
  refine ⟨⟨_, _, rfl, ?_⟩, ⟨_, _, _, rfl, rfl, ?_, ?_⟩⟩ <;> decide

end Rustylink.Outbound
