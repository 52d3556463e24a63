import Mathlib.Data.List.Basic

/-!
# Runs of a partial transition function

A system of interleaved parties is a function `step` from a state and a label
to the next state; `none` means that the label is not enabled there.  Every
nondeterministic outcome (which party moves, what an awaited call returns) is
part of the label, so a run is determined by its list of labels.
-/

namespace Rustylink.Foundation

variable {State Label : Type}

def exec (step : State → Label → Option State) :
    State → List Label → Option State
  | s, [] => some s
  | s, a :: as => (step s a).bind fun s' => exec step s' as

def final (step : State → Label → Option State) (s : State) (as : List Label) :
    State :=
  (exec step s as).getD s

/-- Every step taken from `s` along the labels meets the condition `C`. -/
def Along (step : State → Label → Option State) (C : State → Label → Prop) :
    State → List Label → Prop
  | _, [] => True
  | s, a :: as => C s a ∧ ∀ s', step s a = some s' → Along step C s' as

instance Along.decidable {step : State → Label → Option State}
    {C : State → Label → Prop} [∀ s a, Decidable (C s a)] :
    (s : State) → (as : List Label) → Decidable (Along step C s as)
  | _, [] => .isTrue trivial
  | s, a :: as =>
      have (s' : State) : Decidable (Along step C s' as) :=
        Along.decidable s' as
      inferInstanceAs
        (Decidable (C s a ∧ ∀ s' ∈ step s a, Along step C s' as))

def Always (step : State → Label → Option State) (P : State → Prop) :
    State → List Label → Prop
  | s, [] => P s
  | s, a :: as => P s ∧ ∀ s', step s a = some s' → Always step P s' as

def check (step : State → Label → Option State) (p : State → Bool) :
    State → List Label → Bool
  | s, [] => p s
  | s, a :: as => p s && (step s a).all fun s' => check step p s' as

/--
Every state visited satisfies `P`, up to the first one that satisfies `Q`.
-/
def Until (step : State → Label → Option State) (P Q : State → Prop) :
    State → List Label → Prop
  | s, [] => Q s ∨ P s
  | s, a :: as => Q s ∨ (P s ∧ ∀ s', step s a = some s' → Until step P Q s' as)

def AlongUntil (step : State → Label → Option State) (C : State → Label → Prop)
    (Q : State → Prop) : State → List Label → Prop
  | _, [] => True
  | s, a :: as => Q s ∨
        (C s a ∧ ∀ s', step s a = some s' → AlongUntil step C Q s' as)

def Reachable (step : State → Label → Option State) (Init : State → Prop)
    (s : State) : Prop :=
  ∃ s₀ as, Init s₀ ∧ exec step s₀ as = some s

variable {step : State → Label → Option State}

@[simp] theorem exec_nil (s : State) : exec step s [] = some s := rfl

theorem exec_cons {s t : State} {a : Label} {as : List Label} :
    exec step s (a :: as) = some t ↔
      ∃ s', step s a = some s' ∧ exec step s' as = some t := by
  simp only [exec, Option.bind_eq_some_iff]

theorem exec_of_step {s s' : State} {a : Label} (h : step s a = some s')
    (as : List Label) :
    exec step s (a :: as) = exec step s' as := by
  simp only [exec, h, Option.bind_some]

theorem exec_append {s t : State} {as : List Label}
    (h : exec step s as = some t) (bs : List Label) :
    exec step s (as ++ bs) = exec step t bs := by
  induction as generalizing s with
  | nil =>
      simp only [exec_nil, Option.some.injEq] at h
      rw [h, List.nil_append]
  | cons a as ih =>
      obtain ⟨s', hfirst, hrest⟩ := exec_cons.mp h
      rw [List.cons_append, exec_of_step hfirst, ih hrest]

theorem exec_final {s : State} {as : List Label}
    (h : (exec step s as).isSome) :
    exec step s as = some (final step s as) := by
  obtain ⟨t, ht⟩ := Option.isSome_iff_exists.mp h
  simp [final, ht]

/--
The induction rule for runs whose steps all meet a condition: what one such
step preserves, the whole run preserves.
-/
theorem exec_invariant {C : State → Label → Prop} {I : State → Prop}
    (hstep : ∀ s a s', I s → C s a → step s a = some s' → I s')
    {s t : State} {as : List Label} (hs : I s) (hok : Along step C s as)
    (hrun : exec step s as = some t) : I t := by
  induction as generalizing s with
  | nil =>
      simp only [exec_nil, Option.some.injEq] at hrun
      exact hrun ▸ hs
  | cons a as ih =>
      obtain ⟨s', hfirst, hrest⟩ := exec_cons.mp hrun
      exact ih (hstep s a s' hs hok.1 hfirst) (hok.2 s' hfirst) hrest

theorem Along.of_forall {C : State → Label → Prop} {s : State}
    {as : List Label} (h : ∀ a ∈ as, ∀ s, C s a) : Along step C s as := by
  induction as generalizing s with
  | nil => trivial
  | cons a as ih =>
      exact ⟨h a (by simp) s,
        fun s' _ => ih fun b hb => h b (List.mem_cons_of_mem a hb)⟩

theorem Along.cons_final {C : State → Label → Prop} {s : State} {a : Label}
    {as : List Label} (hok : C s a)
    (hrest : Along step C (final step s [a]) as) :
    Along step C s (a :: as) := by
  refine ⟨hok, fun s' hstep => ?_⟩
  have hfinal : final step s [a] = s' := by simp [final, exec, hstep]
  rw [← hfinal]
  exact hrest

theorem Along.of_append {C : State → Label → Prop} {s t : State}
    {as bs : List Label} (h : Along step C s (as ++ bs))
    (hrun : exec step s as = some t) :
    Along step C t bs := by
  induction as generalizing s with
  | nil =>
      simp only [exec_nil, Option.some.injEq] at hrun
      exact hrun ▸ h
  | cons a as ih =>
      obtain ⟨s', hfirst, hrest⟩ := exec_cons.mp hrun
      exact ih (h.2 s' hfirst) hrest

theorem Along.append {C : State → Label → Prop} {s t : State}
    {as bs : List Label} (h : Along step C s as)
    (hrun : exec step s as = some t) (hrest : Along step C t bs) :
    Along step C s (as ++ bs) := by
  induction as generalizing s with
  | nil =>
      simp only [exec_nil, Option.some.injEq] at hrun
      exact hrun ▸ hrest
  | cons a as ih =>
      obtain ⟨s', hfirst, hrun'⟩ := exec_cons.mp hrun
      refine ⟨h.1, fun u hu => ?_⟩
      obtain rfl : s' = u := Option.some.inj (hfirst.symm.trans hu)
      exact ih (h.2 s' hfirst) hrun'

theorem Along.congr {C D E : State → Label → Prop}
    (h : ∀ s a, E s a → (C s a ↔ D s a)) {s : State} {as : List Label}
    (hok : Along step E s as) :
    Along step C s as ↔ Along step D s as := by
  induction as generalizing s with
  | nil => exact Iff.rfl
  | cons a as ih =>
      refine and_congr (h s a hok.1)
        (forall_congr' fun s' => forall_congr' fun hstep => ?_)
      exact ih (hok.2 s' hstep)

theorem Along.of_invariant {C D : State → Label → Prop} {I : State → Prop}
    (hstep : ∀ s a s', I s → C s a → step s a = some s' → I s')
    (hD : ∀ s a, I s → C s a → D s a) {s : State} {as : List Label} (hs : I s)
    (hok : Along step C s as) : Along step D s as := by
  induction as generalizing s with
  | nil => trivial
  | cons a as ih =>
      exact ⟨hD s a hs hok.1, fun s' hfirst =>
        ih (hstep s a s' hs hok.1 hfirst) (hok.2 s' hfirst)⟩

theorem Always.of_invariant {C : State → Label → Prop} {I P : State → Prop}
    (hstep : ∀ s a s', I s → C s a → step s a = some s' → I s')
    (hP : ∀ s, I s → P s) {s : State} {as : List Label} (hs : I s)
    (hok : Along step C s as) : Always step P s as := by
  induction as generalizing s with
  | nil => exact hP s hs
  | cons a as ih =>
      exact ⟨hP s hs, fun s' hfirst =>
        ih (hstep s a s' hs hok.1 hfirst) (hok.2 s' hfirst)⟩

theorem Reachable.invariant {Init I : State → Prop}
    (hinit : ∀ s, Init s → I s)
    (hstep : ∀ s a s', I s → step s a = some s' → I s')
    {s : State} (hs : Reachable step Init s) : I s := by
  obtain ⟨s₀, as, h₀, hrun⟩ := hs
  exact exec_invariant (C := fun _ _ => True)
    (fun s a s' hI _ h => hstep s a s' hI h) (hinit s₀ h₀)
    (Along.of_forall fun _ _ _ => trivial) hrun

/--
An exact condition, for a property of the states and one of the steps.  If
steps that meet `C` keep an invariant implying `P` and satisfy `D`, and a step
that does not meet it fails `D` or lands outside `P`, then a run has both
properties exactly when all its steps meet `C`.
-/
theorem always_and_along_iff {C D : State → Label → Prop} {I P : State → Prop}
    (hstep : ∀ s a s', I s → C s a → step s a = some s' → I s')
    (hP : ∀ s, I s → P s) (hD : ∀ s a, I s → C s a → D s a)
    (hbreak : ∀ s a s', I s → ¬ C s a → step s a = some s' → D s a → ¬ P s')
    {s t : State} {as : List Label} (hs : I s)
    (hrun : exec step s as = some t) :
    Always step P s as ∧ Along step D s as ↔ Along step C s as := by
  induction as generalizing s with
  | nil => exact ⟨fun _ => trivial, fun _ => ⟨hP s hs, trivial⟩⟩
  | cons a as ih =>
      obtain ⟨s', hfirst, hrest⟩ := exec_cons.mp hrun
      constructor
      · rintro ⟨⟨-, hafter⟩, hmeets, halong⟩
        have hok : C s a := by
          by_contra hno
          apply hbreak s a s' hs hno hfirst hmeets
          have hnext := hafter s' hfirst
          cases as with
          | nil => exact hnext
          | cons b bs => exact hnext.1
        refine ⟨hok, fun u hu => ?_⟩
        rw [hfirst] at hu
        cases hu
        exact (ih (hstep s a s' hs hok hfirst) hrest).mp
          ⟨hafter s' hfirst, halong s' hfirst⟩
      · rintro ⟨hok, hafter⟩
        have hnext :=
          (ih (hstep s a s' hs hok hfirst) hrest).mpr (hafter s' hfirst)
        constructor
        · refine ⟨hP s hs, fun u hu => ?_⟩
          rw [hfirst] at hu
          cases hu
          exact hnext.1
        · refine ⟨hD s a hs hok, fun u hu => ?_⟩
          rw [hfirst] at hu
          cases hu
          exact hnext.2

theorem always_iff_along {C : State → Label → Prop} {I P : State → Prop}
    (hstep : ∀ s a s', I s → C s a → step s a = some s' → I s')
    (hP : ∀ s, I s → P s)
    (hbreak : ∀ s a s', I s → ¬ C s a → step s a = some s' → ¬ P s')
    {s t : State} {as : List Label} (hs : I s)
    (hrun : exec step s as = some t) :
    Always step P s as ↔ Along step C s as := by
  have hboth := always_and_along_iff (D := fun _ _ => True) hstep hP
    (fun _ _ _ _ => trivial) (fun s a s' hI hno hfirst _ =>
      hbreak s a s' hI hno hfirst)
    hs hrun
  rw [← hboth]
  exact ⟨fun h => ⟨h, Along.of_forall fun _ _ _ => trivial⟩, And.left⟩

theorem Always.of_forall {P : State → Prop} {s : State} {as : List Label}
    (h : ∀ s, P s) : Always step P s as :=
  .of_invariant (C := fun _ _ => True) (I := fun _ => True)
    (fun _ _ _ _ _ _ => trivial) (fun s _ => h s)
    trivial (.of_forall fun _ _ _ => trivial)

theorem Always.of_check {p : State → Bool} {P : State → Prop}
    (hp : ∀ s, p s = true → P s) {s : State} {as : List Label}
    (h : check step p s as = true) : Always step P s as := by
  induction as generalizing s with
  | nil => exact hp s h
  | cons a as ih =>
      simp only [check, Bool.and_eq_true, Option.all_eq_true] at h
      exact ⟨hp s h.1, fun s' hstep => ih (h.2 s' hstep)⟩

theorem along_iff_along {C D : State → Label → Prop} {I : State → Prop}
    (hstep : ∀ s a s', I s → C s a → step s a = some s' → I s')
    (hD : ∀ s a, I s → C s a → D s a)
    (hbreak : ∀ s a s', I s → ¬ C s a → step s a = some s' → ¬ D s a)
    {s t : State} {as : List Label} (hs : I s)
    (hrun : exec step s as = some t) :
    Along step D s as ↔ Along step C s as := by
  have hboth :=
    always_and_along_iff (P := fun _ => True) hstep (fun _ _ => trivial) hD
    (fun s a s' hI hno hfirst hmeets _ => hbreak s a s' hI hno hfirst hmeets)
      hs hrun
  rw [← hboth]
  exact ⟨fun h => ⟨.of_forall fun _ => trivial, h⟩, And.right⟩

theorem Always.along {C : State → Label → Prop} {P : State → Prop}
    (hC : ∀ s a, P s → C s a) {s : State} {as : List Label}
    (h : Always step P s as) :
    Along step C s as := by
  induction as generalizing s with
  | nil => trivial
  | cons a as ih => exact ⟨hC s a h.1, fun s' hstep => ih (h.2 s' hstep)⟩

theorem Always.last {P : State → Prop} {s t : State} {as : List Label}
    (h : Always step P s as) (hrun : exec step s as = some t) : P t := by
  induction as generalizing s with
  | nil =>
      simp only [exec_nil, Option.some.injEq] at hrun
      exact hrun ▸ h
  | cons a as ih =>
      obtain ⟨s', hfirst, hrest⟩ := exec_cons.mp hrun
      exact ih (h.2 s' hfirst) hrest

/--
An exact condition for a property that a broken state need not violate at
once.  If a step that does not meet `C` lands in `B`, and a run stays in `B`
as long as `P` holds, then the runs that do not end in `B` stay inside `P`
exactly when all their steps meet `C`.
-/
theorem along_of_always {C : State → Label → Prop} {I B P : State → Prop}
    (hstep : ∀ s a s', I s → C s a → step s a = some s' → I s')
    (hbreak : ∀ s a s', I s → ¬ C s a → step s a = some s' → B s')
    (hlasts : ∀ s a s', B s → P s → step s a = some s' → B s')
    {s t : State} {as : List Label} (hs : I s) (hrun : exec step s as = some t)
    (hend : ¬ (B t ∧ P t)) (halways : Always step P s as) :
    Along step C s as := by
  have hbroken : ∀ {s : State} {as : List Label}, B s →
      exec step s as = some t →
      ¬ Always step P s as := by
    intro s as hB hrun halways
    induction as generalizing s with
    | nil =>
        simp only [exec_nil, Option.some.injEq] at hrun
        subst hrun
        exact hend ⟨hB, halways⟩
    | cons a as ih =>
        obtain ⟨s', hfirst, hrest⟩ := exec_cons.mp hrun
        exact ih (hlasts s a s' hB halways.1 hfirst) hrest (halways.2 s' hfirst)
  induction as generalizing s with
  | nil => trivial
  | cons a as ih =>
      obtain ⟨s', hfirst, hrest⟩ := exec_cons.mp hrun
      have hok : C s a := by
        by_contra hno
        exact hbroken (hbreak s a s' hs hno hfirst) hrest (halways.2 s' hfirst)
      refine ⟨hok, fun u hu => ?_⟩
      rw [hfirst] at hu
      cases hu
      exact ih (hstep s a s' hs hok hfirst) hrest (halways.2 s' hfirst)

theorem Until.head {P Q : State → Prop} {s : State} {as : List Label}
    (h : Until step P Q s as) : Q s ∨ P s := by
  cases as with
  | nil => exact h
  | cons a as => exact h.imp_right And.left

theorem AlongUntil.cons_final {C : State → Label → Prop} {Q : State → Prop}
    {s : State} {a : Label} {as : List Label} (hok : C s a)
    (hrest : AlongUntil step C Q (final step s [a]) as) :
    AlongUntil step C Q s (a :: as) := by
  refine .inr ⟨hok, fun s' hstep => ?_⟩
  have hfinal : final step s [a] = s' := by simp [final, exec, hstep]
  rw [← hfinal]
  exact hrest

theorem Until.of_invariant {C : State → Label → Prop} {I P Q : State → Prop}
    (hstep : ∀ s a s', I s → C s a → step s a = some s' → I s' ∨ Q s')
    (hP : ∀ s, I s → P s) {s : State} {as : List Label} (hs : I s ∨ Q s)
    (hok : AlongUntil step C Q s as) : Until step P Q s as := by
  induction as generalizing s with
  | nil => exact hs.symm.imp_right (hP s)
  | cons a as ih =>
      by_cases hQ : Q s
      · exact .inl hQ
      · have hI := hs.resolve_right hQ
        obtain ⟨hC, hafter⟩ := hok.resolve_left hQ
        exact .inr ⟨hP s hI, fun s' hfirst =>
          ih (hstep s a s' hI hC hfirst) (hafter s' hfirst)⟩

theorem Until.lasts {E : Label → Prop} {B P Q : State → Prop}
    (hlasts : ∀ s a s', B s → E a → step s a = some s' → Q s' ∨ P s' → B s')
    (hB : ∀ s, B s → ¬ Q s) {s t : State} {as : List Label} (hs : B s)
    (hE : ∀ a ∈ as, E a) (hrun : exec step s as = some t)
    (h : Until step P Q s as) : B t := by
  induction as generalizing s with
  | nil =>
      simp only [exec_nil, Option.some.injEq] at hrun
      exact hrun ▸ hs
  | cons a as ih =>
      obtain ⟨s', hfirst, hrest⟩ := exec_cons.mp hrun
      obtain ⟨-, hafter⟩ := h.resolve_left (hB s hs)
      have huntil := hafter s' hfirst
      have hnext := hlasts s a s' hs (hE a (by simp)) hfirst huntil.head
      exact ih hnext (fun b hb => hE b (List.mem_cons_of_mem a hb)) hrest huntil

theorem AlongUntil.of_until {C : State → Label → Prop} {E : Label → Prop}
    {I B P Q : State → Prop}
    (hstep : ∀ s a s', I s → E a → C s a → step s a = some s' →
      Q s' ∨ P s' → I s' ∨ Q s')
    (hbreak : ∀ s a s', I s → E a → ¬ C s a → step s a = some s' → B s')
    (hlasts : ∀ s a s', B s → E a → step s a = some s' → Q s' ∨ P s' → B s')
    (hB : ∀ s, B s → ¬ Q s) {s t : State} {as : List Label} (hs : I s ∨ Q s)
    (hE : ∀ a ∈ as, E a) (hrun : exec step s as = some t) (hend : ¬ B t)
    (h : Until step P Q s as) : AlongUntil step C Q s as := by
  induction as generalizing s with
  | nil => trivial
  | cons a as ih =>
      by_cases hQ : Q s
      · exact .inl hQ
      · obtain ⟨s', hfirst, hrest⟩ := exec_cons.mp hrun
        have hI := hs.resolve_right hQ
        have ha : E a := hE a (by simp)
        have hlater : ∀ b ∈ as, E b := fun b hb =>
          hE b (List.mem_cons_of_mem a hb)
        obtain ⟨-, hafter⟩ := h.resolve_left hQ
        have huntil := hafter s' hfirst
        have hC : C s a := by
          by_contra hno
          have hbroken := hbreak s a s' hI ha hno hfirst
          exact hend (huntil.lasts hlasts hB hbroken hlater hrest)
        refine .inr ⟨hC, fun u hu => ?_⟩
        rw [hfirst] at hu
        cases hu
        exact ih (hstep s a s' hI ha hC hfirst huntil.head) hlater hrest huntil

end Rustylink.Foundation
