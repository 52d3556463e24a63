import Mathlib.Data.List.Sort
import Rustylink.Core.VpnConfig
import Rustylink.Tunnel.Reconnect

/-!
# Latency ranking

Dots are probed by concurrent tasks that complete in any order.  A result is
kept under the position of its dot, and the dots are sorted by result and
position.
-/

namespace Rustylink.Daemon

open Rustylink.Api Rustylink.Tunnel

/-- Reachable before unreachable, then by the round-trip time. -/
def cmpLatency : Option Duration → Option Duration → Ordering
  | some a, some b => compare a b
  | some _, none => .lt
  | none, some _ => .gt
  | none, none => .eq

def probeTasks {Client : Type} (dots : List VpnDot)
    (buildClient : VpnDot → Option Client) (rtt : Nat → Option Duration) :
    List (Nat × Option Duration) :=
  dots.zipIdx.filterMap fun (dot, index) =>
    (buildClient dot).map fun _ => (index, rtt index)

def storeLatency (latencies : List (Option Duration))
    (task : Nat × Option Duration) :
    List (Option Duration) :=
  latencies.set task.1 task.2

/-- The ranking, given the tasks in the order in which they complete. -/
def rankDotsByLatency (dots : List VpnDot)
    (completed : List (Nat × Option Duration)) : List VpnDot :=
  if dots.length ≤ 1 then dots
  else
    let latencies :=
      completed.foldl storeLatency (List.replicate dots.length none)
    (dots.zipIdx.insertionSort fun a b =>
      ((cmpLatency (latencies.getD a.2 none) (latencies.getD b.2 none)).then
        (compare a.2 b.2)).isLE).map Prod.fst

/-! ## The order -/

def RanksBefore (latency : Nat → Option Nat) (i j : Nat) : Prop :=
  match latency i, latency j with
  | some a, some b => a < b ∨ (a = b ∧ i < j)
  | some _, none => True
  | none, some _ => False
  | none, none => i < j

variable {latency : Nat → Option Nat} {i j k : Nat}

theorem RanksBefore.trans (h : RanksBefore latency i j)
    (h' : RanksBefore latency j k) :
    RanksBefore latency i k := by
  unfold RanksBefore at *
  cases hi : latency i <;> cases hj : latency j <;> cases hk : latency k <;>
    simp only [hi, hj, hk] at h h' ⊢ <;> omega

theorem RanksBefore.asymm (h : RanksBefore latency i j) :
    ¬ RanksBefore latency j i := by
  unfold RanksBefore at *
  cases hi : latency i <;> cases hj :
    latency j <;> simp [hi, hj] at h ⊢ <;> omega

theorem ranksBefore_total (h : i ≠ j) :
    RanksBefore latency i j ∨ RanksBefore latency j i := by
  unfold RanksBefore
  cases hi : latency i <;> cases hj : latency j <;> simp <;> omega

theorem RanksBefore.congr {other : Nat → Option Nat}
    (h : RanksBefore latency i j) (hi : latency i = other i)
    (hj : latency j = other j) : RanksBefore other i j := by
  unfold RanksBefore at *
  rwa [hi, hj] at h

theorem isLE_iff_ranksBefore :
    ((cmpLatency (latency i) (latency j)).then (compare i j)).isLE = true ↔
      RanksBefore latency i j ∨ i = j := by
  unfold RanksBefore
  cases hi : latency i with
  | none =>
      cases hj : latency j with
      | none => simp [cmpLatency, Nat.isLE_compare, Nat.le_iff_lt_or_eq]
      | some b =>
          have hne : i ≠ j := by
            rintro rfl
            rw [hi] at hj
            cases hj
          simp [cmpLatency, hne, Ordering.then]
  | some a =>
      cases hj : latency j with
      | none => simp [cmpLatency, Ordering.then]
      | some b =>
          have hsame : i = j → a = b := by
            rintro rfl
            exact Option.some.inj (hi.symm.trans hj)
          have hcmp : cmpLatency (some a) (some b) = compare a b := rfl
          rw [hcmp]
          rcases Nat.lt_trichotomy a b with hlt | rfl | hgt
          · simp [Nat.compare_eq_lt.mpr hlt, hlt]
          · simp [Nat.isLE_compare, Nat.le_iff_lt_or_eq]
          · rw [Nat.compare_eq_gt.mpr hgt]
            simp
            omega

/-! ## The results -/

variable {dots : List VpnDot} {completed : List (Nat × Option Duration)}

theorem foldl_storeLatency {rtt : Nat → Option Duration}
    {tasks : List (Nat × Option Duration)}
    (hrtt : ∀ task ∈ tasks, task.2 = rtt task.1)
    (latencies : List (Option Duration)) {i : Nat} (hi : i < latencies.length) :
    (tasks.foldl storeLatency latencies)[i]? =
      if i ∈ tasks.map Prod.fst then some (rtt i) else latencies[i]? := by
  induction tasks generalizing latencies with
  | nil => simp
  | cons task tasks ih =>
      have hrest : ∀ other ∈ tasks, other.2 = rtt other.1 := fun other hother =>
        hrtt other (List.mem_cons_of_mem _ hother)
      have htask := hrtt task List.mem_cons_self
      rw [List.foldl_cons, ih hrest _ (by simpa [storeLatency] using hi)]
      by_cases hmem : i ∈ tasks.map Prod.fst
      · simp [hmem]
      · by_cases hself : task.1 = i
        · subst hself
          simp [hmem, storeLatency, htask, hi]
        · simp [hmem, storeLatency, hself, Ne.symm hself]

variable {Client : Type} {buildClient : VpnDot → Option Client} {rtt : Nat →
  Option Duration}

def measured (dots : List VpnDot) (buildClient : VpnDot → Option Client)
    (rtt : Nat → Option Duration) (i : Nat) : Option Duration :=
  (dots[i]?.bind buildClient).bind fun _ => rtt i

theorem mem_probeTasks {task : Nat × Option Duration} :
    task ∈ probeTasks dots buildClient rtt ↔
      (dots[task.1]?.bind buildClient).isSome = true ∧ task.2 = rtt task.1 := by
  obtain ⟨index, result⟩ := task
  simp only [probeTasks, List.mem_filterMap, Prod.exists,
    List.mem_zipIdx_iff_getElem?, Option.map_eq_some_iff, Prod.mk.injEq,
    Option.isSome_iff_exists, Option.bind_eq_some_iff]
  constructor
  · rintro ⟨dot, i, hdot, client, hclient, rfl, rfl⟩
    exact ⟨⟨client, dot, hdot, hclient⟩, rfl⟩
  · rintro ⟨⟨client, dot, hdot, hclient⟩, rfl⟩
    exact ⟨dot, index, hdot, client, hclient, rfl, rfl⟩

theorem latencies_eq
    (hcompleted : completed.Perm (probeTasks dots buildClient rtt)) {i : Nat}
    (hi : i < dots.length) :
    (completed.foldl storeLatency (List.replicate dots.length none)).getD i
      none =
      measured dots buildClient rtt i := by
  have hrtt : ∀ task ∈ completed, task.2 = rtt task.1 := fun task htask =>
    (mem_probeTasks.mp (hcompleted.mem_iff.mp htask)).2
  have hspawned : i ∈ completed.map Prod.fst ↔
      (dots[i]?.bind buildClient).isSome = true := by
    constructor
    · intro hmem
      obtain ⟨task, htask, rfl⟩ := List.mem_map.mp hmem
      exact (mem_probeTasks.mp (hcompleted.mem_iff.mp htask)).1
    · intro hclient
      exact List.mem_map.mpr
        ⟨(i, rtt i), hcompleted.mem_iff.mpr (mem_probeTasks.mpr ⟨hclient, rfl⟩),
          rfl⟩
  rw [List.getD_eq_getElem?_getD, foldl_storeLatency hrtt _ (by simpa using hi)]
  unfold measured
  by_cases hclient : (dots[i]?.bind buildClient).isSome = true
  · obtain ⟨client, hbuilt⟩ := Option.isSome_iff_exists.mp hclient
    rw [if_pos (hspawned.mpr hclient), hbuilt]
    rfl
  · rw [if_neg fun hmem => hclient (hspawned.mp hmem), List.getElem?_replicate,
      if_pos hi, Option.not_isSome_iff_eq_none.mp hclient]
    rfl

/-! ## The ranking -/

/--
The dots in the order of these results: reachable ones first and by their round
trips, and in the order of the list where nothing else decides.
-/
def IsRanking (dots : List VpnDot) (latency : Nat → Option Nat)
    (ranked : List VpnDot) : Prop :=
  ∃ order : List (VpnDot × Nat), order.Perm dots.zipIdx ∧
    ranked = order.map Prod.fst ∧
    order.Pairwise fun a b => RanksBefore latency a.2 b.2

theorem IsRanking.perm {ranked : List VpnDot}
    (h : IsRanking dots latency ranked) :
    ranked.Perm dots := by
  obtain ⟨order, hperm, rfl, -⟩ := h
  have hdots := hperm.map Prod.fst
  rwa [List.zipIdx_map_fst] at hdots

theorem IsRanking.head_iff {ranked : List VpnDot} {first : VpnDot}
    (h : IsRanking dots latency ranked) :
    ranked.head? = some first ↔
      ∃ i, dots[i]? = some first ∧ ∀ j < dots.length, j ≠ i →
        RanksBefore latency i j := by
  obtain ⟨order, hperm, rfl, hsorted⟩ := h
  have hmem {dot : VpnDot} {i : Nat} : (dot, i) ∈ order ↔
      dots[i]? = some dot := by
    rw [hperm.mem_iff, List.mem_zipIdx_iff_getElem?]
  cases order with
  | nil =>
      have hnil : dots = [] := by simpa using hperm.length_eq.symm
      simp [hnil]
  | cons head rest =>
      obtain ⟨dot, k⟩ := head
      have hbefore : ∀ j < dots.length, j ≠ k → RanksBefore latency k j := by
        intro j hj hne
        have hj' : (dots[j], j) ∈ (dot, k) :: rest :=
          hmem.mpr (List.getElem?_eq_getElem hj)
        rcases List.mem_cons.mp hj' with hsame | hrest
        · exact absurd (congrArg Prod.snd hsame) hne
        · exact (List.pairwise_cons.mp hsorted).1 _ hrest
      have hk : dots[k]? = some dot := hmem.mp List.mem_cons_self
      constructor
      · intro hhead
        obtain rfl : dot = first := by simpa using hhead
        exact ⟨k, hk, hbefore⟩
      · rintro ⟨i, hi, hfirst⟩
        have hik : i = k := by
          by_contra hne
          have hafter :=
            hfirst k (List.getElem?_eq_some_iff.mp hk).1 (Ne.symm hne)
          exact (hbefore i (List.getElem?_eq_some_iff.mp hi).1 hne).asymm hafter
        rw [hik, hk] at hi
        simpa using hi

theorem IsRanking.unique {ranked other : List VpnDot}
    (h : IsRanking dots latency ranked) (h' : IsRanking dots latency other) :
    ranked = other := by
  obtain ⟨order, hperm, rfl, hsorted⟩ := h
  obtain ⟨order', hperm', rfl, hsorted'⟩ := h'
  have hsame : order = order' := (hperm.trans hperm'.symm).eq_of_pairwise
    (fun a b _ _ hab hba => absurd hba hab.asymm) hsorted hsorted'
  rw [hsame]

theorem pairwise_sorted (latency : Nat → Option Nat) (l : List (VpnDot × Nat)) :
    (l.insertionSort fun a b =>
      ((cmpLatency (latency a.2) (latency b.2)).then
        (compare a.2 b.2)).isLE).Pairwise
        fun a b => RanksBefore latency a.2 b.2 ∨ a.2 = b.2 := by
  let r : VpnDot × Nat → VpnDot × Nat → Prop := fun a b =>
    ((cmpLatency (latency a.2) (latency b.2)).then (compare a.2 b.2)).isLE =
      true
  have htotal : Std.Total r := ⟨fun a b => by
    by_cases hne : a.2 = b.2
    · exact .inl (isLE_iff_ranksBefore.mpr (.inr hne))
    · rcases ranksBefore_total hne with hab | hba
      · exact .inl (isLE_iff_ranksBefore.mpr (.inl hab))
      · exact .inr (isLE_iff_ranksBefore.mpr (.inl hba))⟩
  have htrans : IsTrans (VpnDot × Nat) r := ⟨fun a b c hab hbc => by
    rcases isLE_iff_ranksBefore.mp hab with hab | hab
    · rcases isLE_iff_ranksBefore.mp hbc with hbc | hbc
      · exact isLE_iff_ranksBefore.mpr (.inl (hab.trans hbc))
      · exact isLE_iff_ranksBefore.mpr (.inl (hbc ▸ hab))
    · exact isLE_iff_ranksBefore.mpr (hab ▸ isLE_iff_ranksBefore.mp hbc)⟩
  exact (List.pairwise_insertionSort r l).imp fun hab =>
    isLE_iff_ranksBefore.mp hab

theorem rankDotsByLatency_isRanking
    (hcompleted : completed.Perm (probeTasks dots buildClient rtt)) :
    IsRanking dots (measured dots buildClient rtt)
      (rankDotsByLatency dots completed) := by
  unfold rankDotsByLatency
  split
  · rename_i hshort
    refine ⟨dots.zipIdx, List.Perm.refl _, (List.zipIdx_map_fst 0 dots).symm,
      ?_⟩
    cases dots with
    | nil => exact .nil
    | cons dot rest =>
        obtain rfl : rest = [] :=
          List.length_eq_zero_iff.mp (by simpa using hshort)
        simp
  · have hperm := List.perm_insertionSort (fun a b =>
      ((cmpLatency ((completed.foldl storeLatency
        (List.replicate dots.length none)).getD a.2 none)
        ((completed.foldl storeLatency (List.replicate dots.length none)).getD
          b.2 none)).then
          (compare a.2 b.2)).isLE = true) dots.zipIdx
    have hsorted := pairwise_sorted
      (fun i => (completed.foldl storeLatency
        (List.replicate dots.length none)).getD i none)
      dots.zipIdx
    have hpositions := (hperm.map Prod.snd).nodup_iff.mpr
      (List.zipIdx_map_snd 0 dots ▸ List.nodup_range')
    refine ⟨_, hperm, rfl,
      (hsorted.and (List.pairwise_map.mp hpositions)).imp_of_mem ?_⟩
    rintro a b ha hb ⟨hranks | hsame, hne⟩
    · have hbound {c : VpnDot × Nat} (hc : c ∈ dots.zipIdx) :
          c.2 < dots.length :=
        List.snd_lt_of_mem_zipIdx hc
      exact hranks.congr (latencies_eq hcompleted
        (hbound (hperm.mem_iff.mp ha)))
        (latencies_eq hcompleted (hbound (hperm.mem_iff.mp hb)))
    · exact absurd hsame hne

/--
The ranking is the stable one by the results, whichever dots have no client and
in whatever order the probes complete.
-/
theorem rankDotsByLatency_stable (dots : List VpnDot)
    (buildClient : VpnDot → Option Client) (rtt : Nat → Option Duration)
    {completed : List (Nat × Option Duration)}
    (hcompleted : completed.Perm (probeTasks dots buildClient rtt)) :
    (rankDotsByLatency dots completed).Perm dots ∧
      IsRanking dots (measured dots buildClient rtt)
        (rankDotsByLatency dots completed) ∧
      ∀ other, other.Perm (probeTasks dots buildClient rtt) →
        rankDotsByLatency dots other = rankDotsByLatency dots completed := by
  have hranking := rankDotsByLatency_isRanking hcompleted
  refine ⟨hranking.perm, hranking, fun other hother => ?_⟩
  exact (rankDotsByLatency_isRanking hother).unique hranking

theorem rankDotsByLatency_stable_three :
    let dots :=
      [Core.dotExample "192.0.2.1" none, Core.dotExample "192.0.2.2" none,
      Core.dotExample "192.0.2.3" none]
    rankDotsByLatency dots [(2, some 10), (0, some 50)] =
        [Core.dotExample "192.0.2.3" none, Core.dotExample "192.0.2.1" none,
          Core.dotExample "192.0.2.2" none] ∧
      rankDotsByLatency dots [(0, some 50), (2, some 10)] =
        rankDotsByLatency dots [(2, some 10), (0, some 50)] := by
  intro dots
  have hcompleted : List.Perm [(2, some 10), (0, some 50)] (probeTasks dots
      (fun dot => if dot.ip = "192.0.2.2" then none else some ()) fun i =>
          some (50 - 20 * i)) :=
    List.Perm.swap ..
  have hstable := rankDotsByLatency_stable dots
    (fun dot => if dot.ip = "192.0.2.2" then none else some ())
    (fun i => some (50 - 20 * i)) hcompleted
  exact ⟨by decide, hstable.2.2 _ (List.Perm.refl _)⟩

end Rustylink.Daemon
