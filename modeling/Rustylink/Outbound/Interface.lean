import Rustylink.Foundation.StableSort
import Rustylink.Foundation.Text
import Rustylink.Outbound.Dialer

/-!
# Outbound interface selection

The interface that bypass traffic leaves through.  What the system knows, its
interfaces and the one its routes prefer, is an input of the selection; so are
the answers of the enumeration library about each of them.
-/

namespace Rustylink.Outbound

open Rustylink.Foundation

/-- An interface as the library describes it; the address tests are its own. -/
structure Interface where
  name : String
  index : Nat
  isUp : Bool
  isLoopback : Bool
  isTun : Bool
  ipv4 : List IpAddr
  ipv6 : List IpAddr
  gateway : Option IpAddr
  deriving DecidableEq, Repr

structure SystemInterfaces where
  interfaces : List Interface
  defaultInterface : Except String Interface

def SystemInterfaces.known (system : SystemInterfaces) : List Interface :=
  system.defaultInterface.toOption.toList ++ system.interfaces

inductive InterfaceError where
  | interfaceNotFound (name : String)
  | unusableInterface (name : String)
  | missingInterfaceIndex (name : String)
  | noUsableInterface
  deriving DecidableEq, Repr

/-! ## Selection -/

def isWanCandidate (excludedTun : Option String)
    (interface : Interface) : Bool :=
  if excludedTun = some interface.name then false
  else
    interface.isUp && !interface.isLoopback && !interface.isTun &&
      (!interface.ipv4.isEmpty || !interface.ipv6.isEmpty)

namespace OutboundInterface

def fromInterface (interface : Interface) :
    Except InterfaceError OutboundInterface :=
  if interface.index = 0 then .error (.missingInterfaceIndex interface.name)
  else .ok {
    name := interface.name
    index := interface.index
    gatewayV4 := interface.gateway.filter IpAddr.isV4
    gatewayV6 := interface.gateway.filter fun ip => !ip.isV4 }

def bestFallbackInterface (interfaces : List Interface)
    (excludedTun : Option String) : Option OutboundInterface :=
  let candidates := interfaces.filter (isWanCandidate excludedTun)
  match (candidates.insertionSort fun a b => a.gateway.isNone ≤
      b.gateway.isNone).head? with
  | none => none
  | some selected => (fromInterface selected).toOption

def resolveBlocking (system : SystemInterfaces)
    (configured excludedTun : Option String) (fullTunnel : Bool) :
    Except InterfaceError (Option OutboundInterface) :=
  match configured with
  | some name =>
      match system.interfaces.find? (·.name = name) with
      | none => .error (.interfaceNotFound name)
      | some interface =>
          if isWanCandidate excludedTun interface then some <$>
            fromInterface interface
          else .error (.unusableInterface name)
  | none =>
      match system.defaultInterface.toOption.filter
          (isWanCandidate excludedTun) with
      | some interface => some <$> fromInterface interface
      | none =>
          -- Under full-tunnel routes, `none` would lead back into the tunnel.
          let result := bestFallbackInterface system.interfaces excludedTun
          if result.isNone && fullTunnel then .error .noUsableInterface
          else .ok result

def resolve (system : SystemInterfaces) (configured excludedTun : Option String)
    (fullTunnel : Bool) : Except InterfaceError (Option OutboundInterface) :=
  resolveBlocking system ((configured.map trim).filter (· ≠ ""))
    excludedTun fullTunnel

end OutboundInterface

/-! ## What can be selected -/

/-- An interface that leads out of the machine and not into the tunnel. -/
structure Interface.LeadsOut (excludedTun : Option String)
    (interface : Interface) : Prop where
  up : interface.isUp = true
  notLoopback : interface.isLoopback = false
  notTun : interface.isTun = false
  addressed : interface.ipv4 ≠ [] ∨ interface.ipv6 ≠ []
  notExcluded : excludedTun ≠ some interface.name

theorem isWanCandidate_iff {excludedTun : Option String}
    {interface : Interface} :
    isWanCandidate excludedTun interface = true ↔
      interface.LeadsOut excludedTun := by
  unfold isWanCandidate
  constructor
  · intro h
    split at h
    · contradiction
    · rename_i hexcluded
      simp only [Bool.and_eq_true, Bool.or_eq_true, Bool.not_eq_true',
        List.isEmpty_eq_false_iff] at h
      exact ⟨h.1.1.1, h.1.1.2, h.1.2, h.2, hexcluded⟩
  · rintro ⟨hup, hloopback, htun, haddressed, hexcluded⟩
    rw [if_neg hexcluded]
    simpa [hup, hloopback, htun] using haddressed

namespace OutboundInterface

variable {system : SystemInterfaces} {excludedTun : Option String}
  {i : OutboundInterface}

structure IsOf (source : Interface) (i : OutboundInterface) : Prop where
  index_ne_zero : i.index ≠ 0
  name_eq : i.name = source.name
  index_eq : i.index = source.index

theorem fromInterface_spec {source : Interface}
    (h : fromInterface source = .ok i) :
    IsOf source i := by
  unfold fromInterface at h
  split at h
  · cases h
  · rename_i hindex
    cases h
    exact ⟨hindex, rfl, rfl⟩

theorem some_fromInterface {source : Interface}
    {result : Option OutboundInterface}
    (h : some <$> fromInterface source = .ok result) :
    ∃ i, result = some i ∧ IsOf source i := by
  cases hfrom : fromInterface source with
  | error e =>
      rw [hfrom] at h
      cases h
  | ok i =>
      rw [hfrom] at h
      cases h
      exact ⟨i, rfl, fromInterface_spec hfrom⟩

theorem sorted_head_prefers_gateway {candidates : List Interface}
    {selected : Interface} (hhead : (candidates.insertionSort
      fun a b => a.gateway.isNone ≤ b.gateway.isNone).head? = some selected)
    (h : ∃ source ∈ candidates, source.gateway.isSome = true) :
    selected.gateway.isSome = true := by
  obtain ⟨source, hmem, hgateway⟩ := h
  have hsorted := List.pairwise_insertionSort
    (fun a b : Interface => a.gateway.isNone ≤ b.gateway.isNone) candidates
  obtain ⟨rest, hlist⟩ := List.head?_eq_some_iff.mp hhead
  have hsource : source ∈ selected :: rest := by
    rw [← hlist, List.mem_insertionSort]
    exact hmem
  rw [hlist, List.pairwise_cons] at hsorted
  rcases List.mem_cons.mp hsource with rfl | hrest
  · exact hgateway
  · have hle := hsorted.1 source hrest
    cases hselected : selected.gateway with
    | some ip => rfl
    | none =>
        rw [Option.isNone_eq_false_iff.mpr hgateway, hselected] at hle
        exact absurd hle (by decide)

theorem bestFallbackInterface_spec {interfaces : List Interface}
    (h : bestFallbackInterface interfaces excludedTun = some i) :
    ∃ source ∈ interfaces, source.LeadsOut excludedTun ∧ IsOf source i ∧
      ((∃ other ∈ interfaces, other.LeadsOut excludedTun ∧
        other.gateway.isSome = true) →
        source.gateway.isSome = true) := by
  unfold bestFallbackInterface at h
  dsimp only at h
  split at h
  · cases h
  · rename_i selected hhead
    have hmem := List.mem_of_head? hhead
    rw [List.mem_insertionSort, List.mem_filter] at hmem
    have hfrom : fromInterface selected = .ok i := by
      cases hcase : fromInterface selected with
      | error e => simp [hcase, Except.toOption] at h
      | ok j => simpa [hcase, Except.toOption] using h
    refine ⟨selected, hmem.1, isWanCandidate_iff.mp hmem.2,
      fromInterface_spec hfrom, ?_⟩
    rintro ⟨other, hother, hleads, hgateway⟩
    exact sorted_head_prefers_gateway hhead
      ⟨other, List.mem_filter.mpr ⟨hother, isWanCandidate_iff.mpr hleads⟩,
        hgateway⟩

/-! ## The three layers -/

theorem resolveBlocking_pinned {name : String} {fullTunnel : Bool}
    {result : Option OutboundInterface}
    (h : resolveBlocking system (some name) excludedTun fullTunnel =
      .ok result) :
    ∃ i, result = some i ∧ i.name = name ∧
      ∃ source ∈ system.known, source.LeadsOut excludedTun ∧ IsOf source i := by
  simp only [resolveBlocking] at h
  split at h
  · cases h
  · rename_i source hfind
    split at h
    · rename_i hcandidate
      obtain ⟨i, rfl, hof⟩ := some_fromInterface h
      have hname : source.name = name := by simpa using List.find?_some hfind
      exact ⟨i, rfl, hof.name_eq.trans hname, source,
        List.mem_append_right _ (List.mem_of_find?_eq_some hfind),
        isWanCandidate_iff.mp hcandidate, hof⟩
    · cases h

theorem resolveBlocking_unpinned {fullTunnel : Bool}
    {result : Option OutboundInterface}
    (h : resolveBlocking system none excludedTun fullTunnel = .ok result) :
    (result = none → fullTunnel = false) ∧
      ∀ i, result = some i →
        ∃ source ∈ system.known, source.LeadsOut excludedTun ∧
          IsOf source i := by
  simp only [resolveBlocking] at h
  split at h
  · rename_i source hdefault
    obtain ⟨hknown, hcandidate⟩ := Option.filter_eq_some_iff.mp hdefault
    obtain ⟨i, rfl, hof⟩ := some_fromInterface h
    refine ⟨nofun, fun j hj => ?_⟩
    cases hj
    exact ⟨source, List.mem_append_left _ (by simp [hknown]),
      isWanCandidate_iff.mp hcandidate, hof⟩
  · split at h
    · cases h
    · rename_i hloop
      cases h
      refine ⟨fun hnone => ?_, fun i hi => ?_⟩
      · simpa [hnone] using hloop
      · obtain ⟨source, hmem, hleads, hof, -⟩ := bestFallbackInterface_spec hi
        exact ⟨source, List.mem_append_right _ hmem, hleads, hof⟩

theorem resolve_pinned {name : String} {fullTunnel : Bool}
    {result : Option OutboundInterface} (hname : trim name ≠ "")
    (h : resolve system (some name) excludedTun fullTunnel = .ok result) :
    ∃ i, result = some i ∧ i.name = trim name := by
  have hpin : (Option.map trim (some name)).filter (· ≠ "") =
      some (trim name) := by
    simp [hname]
  unfold resolve at h
  rw [hpin] at h
  obtain ⟨i, hresult, hi, -⟩ := resolveBlocking_pinned h
  exact ⟨i, hresult, hi⟩

/--
What is selected has an index and is an interface that leads out; a configured
name is that interface's or there is an error, and `resolve` compares it without
the blanks around it; and a full tunnel is never left to the routes of the
system.
-/
theorem resolveBlocking_self_loop_safe (system : SystemInterfaces)
    (configured excludedTun : Option String) (fullTunnel : Bool) :
    (∀ i, resolveBlocking system configured excludedTun fullTunnel =
      .ok (some i) →
      i.index ≠ 0 ∧ ∃ source ∈ system.known, source.LeadsOut excludedTun ∧
        i.name = source.name ∧ i.index = source.index) ∧
    (∀ name, configured = some name →
      (∃ i, resolveBlocking system configured excludedTun fullTunnel =
        .ok (some i) ∧
          i.name = name) ∨
        ∃ e, resolveBlocking system configured excludedTun fullTunnel =
          .error e) ∧
    (fullTunnel = true →
      resolveBlocking system configured excludedTun fullTunnel ≠ .ok none) ∧
    (∀ name result, configured = some name → trim name ≠ "" →
      resolve system configured excludedTun fullTunnel = .ok result →
        ∃ i, result = some i ∧ i.name = trim name) := by
  refine ⟨fun i hi => ?_, fun name hname => ?_, fun hfull hnone => ?_, ?_⟩
  · have hsource : ∃ source ∈ system.known, source.LeadsOut excludedTun ∧
        IsOf source i := by
      cases configured with
      | some name =>
          obtain ⟨j, hj, -, hsource⟩ := resolveBlocking_pinned hi
          cases hj
          exact hsource
      | none => exact (resolveBlocking_unpinned hi).2 i rfl
    obtain ⟨source, hknown, hleads, hof⟩ := hsource
    exact ⟨hof.index_ne_zero, source, hknown, hleads, hof.name_eq, hof.index_eq⟩
  · subst hname
    cases hresult : resolveBlocking system (some name)
        excludedTun fullTunnel with
    | error e => exact .inr ⟨e, rfl⟩
    | ok result =>
        obtain ⟨i, rfl, hi, -⟩ := resolveBlocking_pinned hresult
        exact .inl ⟨i, rfl, hi⟩
  · cases configured with
    | some name =>
        obtain ⟨i, hi, -⟩ := resolveBlocking_pinned hnone
        cases hi
    | none =>
        have hsplit := (resolveBlocking_unpinned hnone).1 rfl
        rw [hfull] at hsplit
        cases hsplit
  · rintro name result rfl hname h
    exact resolve_pinned hname h

/-! ## Completeness -/

def HasUsable (system : SystemInterfaces)
    (excludedTun : Option String) : Prop :=
  ∃ source ∈ system.interfaces, isWanCandidate excludedTun source = true ∧
    source.index ≠ 0

def hasGateway (i : OutboundInterface) : Prop :=
  i.gatewayV4.isSome = true ∨ i.gatewayV6.isSome = true

def FallbackUsed (system : SystemInterfaces)
    (excludedTun : Option String) : Prop :=
  system.defaultInterface.toOption.filter (isWanCandidate excludedTun) = none

/--
A usable interface is found where there is one, with a gateway if the fallback
can.
-/
def SelectsUsable (system : SystemInterfaces) (excludedTun : Option String)
    (fullTunnel : Bool) : Prop :=
  HasUsable system excludedTun →
    ∃ i, resolveBlocking system none excludedTun fullTunnel = .ok (some i) ∧
      (FallbackUsed system excludedTun →
        (∃ source ∈ system.interfaces, isWanCandidate excludedTun source =
          true ∧
          source.index ≠ 0 ∧ source.gateway.isSome = true) → i.hasGateway)

/-- The only candidate that the layers after the pin look at. -/
def firstCandidate (system : SystemInterfaces)
    (excludedTun : Option String) : Option Interface :=
  (system.defaultInterface.toOption.filter (isWanCandidate excludedTun)).or
    ((system.interfaces.find? fun source =>
        isWanCandidate excludedTun source && source.gateway.isSome).or
      (system.interfaces.find? (isWanCandidate excludedTun)))

theorem fromInterface_ok {source : Interface} (h : source.index ≠ 0) :
    ∃ i, fromInterface source = .ok i ∧
      (source.gateway.isSome = true → i.hasGateway) := by
  refine ⟨_, if_neg h, fun hgateway => ?_⟩
  obtain ⟨ip, hip⟩ := Option.isSome_iff_exists.mp hgateway
  cases hv4 : ip.isV4 with
  | true => exact .inl (by simp [hip, hv4])
  | false => exact .inr (by simp [hip, hv4])

theorem fromInterface_error {source : Interface} (h : source.index = 0) :
    fromInterface source = .error (.missingInterfaceIndex source.name) :=
      if_pos h

theorem bestFallbackInterface_eq (interfaces : List Interface) :
    bestFallbackInterface interfaces excludedTun =
      ((interfaces.find? fun source =>
          isWanCandidate excludedTun source && source.gateway.isSome).or
        (interfaces.find? (isWanCandidate excludedTun))).bind
          fun selected => (fromInterface selected).toOption := by
  have hhead := head?_insertionSort_bool (fun a : Interface => a.gateway.isNone)
    (interfaces.filter (isWanCandidate excludedTun))
  rw [List.find?_filter, List.head?_filter] at hhead
  have hprefers (a : Interface) :
      decide (isWanCandidate excludedTun a = true ∧
        (!a.gateway.isNone) = true) =
        (isWanCandidate excludedTun a && a.gateway.isSome) := by
    cases a.gateway <;> simp
  simp only [hprefers] at hhead
  rw [← hhead]
  unfold bestFallbackInterface
  dsimp only
  split <;> rename_i hsorted <;> rw [hsorted] <;> rfl

variable {fullTunnel : Bool} {source : Interface}

theorem resolveBlocking_of_index
    (hfirst : firstCandidate system excludedTun = some source)
    (hindex : source.index ≠ 0) :
    ∃ i, resolveBlocking system none excludedTun fullTunnel = .ok (some i) ∧
      (source.gateway.isSome = true → i.hasGateway) := by
  obtain ⟨i, hfrom, hgateway⟩ := fromInterface_ok hindex
  refine ⟨i, ?_, hgateway⟩
  simp only [resolveBlocking]
  unfold firstCandidate at hfirst
  cases hdefault : system.defaultInterface.toOption.filter
      (isWanCandidate excludedTun) with
  | some interface =>
      rw [hdefault] at hfirst
      cases hfirst
      simp [hfrom]
  | none =>
      rw [hdefault, Option.none_or] at hfirst
      rw [bestFallbackInterface_eq, hfirst]
      simp [hfrom, Except.toOption]

theorem resolveBlocking_of_no_index
    (hfirst : firstCandidate system excludedTun = some source)
    (hindex : source.index = 0) (i : OutboundInterface) :
    resolveBlocking system none excludedTun fullTunnel ≠ .ok (some i) := by
  have hfrom := fromInterface_error hindex
  simp only [resolveBlocking]
  unfold firstCandidate at hfirst
  cases hdefault : system.defaultInterface.toOption.filter
      (isWanCandidate excludedTun) with
  | some interface =>
      rw [hdefault] at hfirst
      cases hfirst
      simp [hfrom]
  | none =>
      rw [hdefault, Option.none_or] at hfirst
      rw [bestFallbackInterface_eq, hfirst]
      cases fullTunnel <;> simp [hfrom, Except.toOption]

theorem firstCandidate_of_usable (h : HasUsable system excludedTun) :
    ∃ source, firstCandidate system excludedTun = some source ∧
      (FallbackUsed system excludedTun →
        (∃ other ∈ system.interfaces, isWanCandidate excludedTun other = true ∧
          other.index ≠ 0 ∧ other.gateway.isSome = true) →
            source.gateway.isSome = true) := by
  obtain ⟨usable, hmem, hcandidate, -⟩ := h
  unfold firstCandidate FallbackUsed
  cases hdefault : system.defaultInterface.toOption.filter
      (isWanCandidate excludedTun) with
  | some interface => exact ⟨interface, rfl, nofun⟩
  | none =>
      rw [Option.none_or]
      cases hgateway : system.interfaces.find? fun source =>
          isWanCandidate excludedTun source && source.gateway.isSome with
      | some source =>
          have hfound := List.find?_some hgateway
          rw [Bool.and_eq_true] at hfound
          exact ⟨source, rfl, fun _ _ => hfound.2⟩
      | none =>
          rw [Option.none_or]
          have hsome :
              (system.interfaces.find? (isWanCandidate excludedTun)).isSome =
                  true :=
            List.find?_isSome.mpr ⟨usable, hmem, hcandidate⟩
          obtain ⟨source, hfind⟩ := Option.isSome_iff_exists.mp hsome
          refine ⟨source, hfind, ?_⟩
          rintro - ⟨other, hother, hcand, -, hother_gateway⟩
          have hnone := List.find?_eq_none.mp hgateway other hother
          simp [hcand, hother_gateway] at hnone

/-- A usable interface is found exactly when the first candidate hides none. -/
theorem selectsUsable_iff (system : SystemInterfaces)
    (excludedTun : Option String) (fullTunnel : Bool) :
    SelectsUsable system excludedTun fullTunnel ↔
      (HasUsable system excludedTun →
        ∀ source, firstCandidate system excludedTun = some source →
          source.index ≠ 0) := by
  constructor
  · intro h husable source hfirst hindex
    obtain ⟨i, hi, -⟩ := h husable
    exact resolveBlocking_of_no_index hfirst hindex i hi
  · intro h husable
    obtain ⟨source, hfirst, hgateway⟩ := firstCandidate_of_usable husable
    obtain ⟨i, hi, hhas⟩ :=
      resolveBlocking_of_index hfirst (h husable source hfirst)
    exact ⟨i, hi, fun hfallback hother => hhas (hgateway hfallback hother)⟩

def hiddenSystem : SystemInterfaces where
  interfaces :=
    [⟨"en0", 0, true, false, false, [.v4 5], [], some (.v4 1)⟩,
      ⟨"en1", 4, true, false, false, [.v4 6], [], none⟩]
  defaultInterface := .error "no default route"

theorem hiddenSystem_no_selection : ¬ SelectsUsable hiddenSystem none true := by
  intro h
  obtain ⟨i, hi, -⟩ :=
    h ⟨⟨"en1", 4, true, false, false, [.v4 6], [], none⟩, by decide⟩
  have herror : resolveBlocking hiddenSystem none none true =
      .error .noUsableInterface := by
    decide
  rw [herror] at hi
  cases hi

end OutboundInterface

end Rustylink.Outbound
