import Mathlib.Data.List.Nodup
import Rustylink.Foundation.TaskPool

/-!
# Requests handled by a task each

A dispatcher takes requests one after the other and gives each to a task of its
own, so replies leave in whatever order the tasks finish.  Each reply belongs
to one request all the same, and no request has two.
-/

namespace Rustylink.Foundation

variable {Request Reply : Type}

inductive Stage (Reply : Type) where
  | working
  | ready (reply : Reply)
  | sent (reply : Reply)
  | dropped
  deriving DecidableEq, Repr

def Stage.reply? : Stage Reply → Option Reply
  | .ready reply | .sent reply => some reply
  | .working | .dropped => none

def Stage.isSent : Stage Reply → Bool
  | .sent _ => true
  | _ => false

def Stage.isDropped : Stage Reply → Bool
  | .dropped => true
  | _ => false

structure Job (Request Reply : Type) where
  request : Request
  stage : Stage Reply
  deriving DecidableEq, Repr

/--
The jobs in the order taken, and the replies in the order sent, each with its
job.
-/
structure Dispatch (Request Reply : Type) where
  jobs : List (Job Request Reply)
  sent : List (Nat × Reply)
  deriving DecidableEq, Repr

/-! ## Replies matched with requests -/

/-- Each reply is one that `R` allows to a request of its own. -/
def AnswersEach (R : Request → Reply → Prop) (requests : List Request)
    (replies : List Reply) : Prop :=
  ∃ indices : List Nat, indices.Nodup ∧
    List.Forall₂ (fun i reply => ∃ request, requests[i]? = some request ∧
      R request reply) indices replies

namespace Dispatch

def idle : Dispatch Request Reply := ⟨[], []⟩

def requests (d : Dispatch Request Reply) : List Request :=
  d.jobs.map Job.request

def replies (d : Dispatch Request Reply) : List Reply := d.sent.map Prod.snd

def dropped (d : Dispatch Request Reply) : Nat :=
  d.jobs.countP fun job => job.stage.isDropped

def take (request : Request) (d : Dispatch Request Reply) :
    Dispatch Request Reply :=
  { d with jobs := d.jobs ++ [⟨request, .working⟩] }

def finish (work : Request → Option Reply) (i : Nat)
    (d : Dispatch Request Reply) :
    Option (Dispatch Request Reply) :=
  match d.jobs[i]? with
  | some ⟨request, .working⟩ =>
      some { d with
        jobs := d.jobs.set i ⟨request, (work request).elim .dropped .ready⟩ }
  | _ => none

def pending (i : Nat) (d : Dispatch Request Reply) : Option Reply :=
  match d.jobs[i]? with
  | some ⟨_, .ready reply⟩ => some reply
  | _ => none

def deliver (i : Nat) (delivered : Bool) (d : Dispatch Request Reply) :
    Option (Dispatch Request Reply) :=
  match d.jobs[i]? with
  | some ⟨request, .ready reply⟩ =>
      if delivered then
        some { jobs := d.jobs.set i ⟨request, .sent reply⟩, sent := d.sent ++
          [(i, reply)] }
      else some { d with jobs := d.jobs.set i ⟨request, .dropped⟩ }
  | _ => none

/--
What is sent is what the jobs say, once each, and every reply is one that `R`
allows.
-/
structure Accounted (R : Request → Reply → Prop)
    (d : Dispatch Request Reply) : Prop where
  nodup : (d.sent.map Prod.fst).Nodup
  sent : ∀ i reply, (i, reply) ∈ d.sent ↔
    ∃ request, d.jobs[i]? = some ⟨request, .sent reply⟩
  allowed : EveryTask (fun _ job => ∀ reply, job.stage.reply? = some reply →
    R job.request reply) d.jobs

variable {R : Request → Reply → Prop} {d d' : Dispatch Request Reply}

/-! ## Steps -/

theorem finish_cases {work : Request → Option Reply} {i : Nat}
    (h : d.finish work i = some d') :
    ∃ request, d.jobs[i]? = some ⟨request, .working⟩ ∧
      d' = { d with
        jobs := d.jobs.set i
          ⟨request, (work request).elim .dropped .ready⟩ } := by
  unfold finish at h
  split at h
  · next request hjob => exact ⟨request, hjob, (Option.some.inj h).symm⟩
  · contradiction

theorem deliver_cases {i : Nat} {delivered : Bool}
    (h : d.deliver i delivered = some d') :
    ∃ request reply, d.jobs[i]? = some ⟨request, .ready reply⟩ ∧
      ((delivered = true ∧
        d' = { jobs := d.jobs.set i ⟨request, .sent reply⟩, sent := d.sent ++
          [(i, reply)] }) ∨
      (delivered = false ∧
          d' = { d with jobs := d.jobs.set i ⟨request, .dropped⟩ })) := by
  unfold deliver at h
  split at h
  · next request reply hjob =>
      cases delivered with
      | true =>
          exact ⟨request, reply, hjob, .inl ⟨rfl, (Option.some.inj h).symm⟩⟩
      | false =>
          exact ⟨request, reply, hjob, .inr ⟨rfl, (Option.some.inj h).symm⟩⟩
  · contradiction

@[simp] theorem requests_take (request : Request) :
    (d.take request).requests = d.requests ++ [request] := by
  simp [requests, take]

theorem map_request_set {jobs : List (Job Request Reply)} {i : Nat}
    {request : Request} {old new : Stage Reply}
    (h : jobs[i]? = some ⟨request, old⟩) :
    (jobs.set i ⟨request, new⟩).map Job.request = jobs.map Job.request := by
  apply List.ext_getElem?
  intro j
  rw [List.getElem?_map, List.getElem?_map, List.getElem?_set]
  by_cases hij : i = j
  · subst hij
    rw [if_pos rfl, if_pos (List.getElem?_eq_some_iff.mp h).1, h]
    rfl
  · rw [if_neg hij]

theorem requests_finish {work : Request → Option Reply} {i : Nat}
    (h : d.finish work i = some d') : d'.requests = d.requests := by
  obtain ⟨request, hjob, rfl⟩ := finish_cases h
  exact map_request_set hjob

theorem requests_deliver {i : Nat} {delivered : Bool}
    (h : d.deliver i delivered = some d') :
    d'.requests = d.requests := by
  obtain ⟨request, reply, hjob, ⟨-, rfl⟩ | ⟨-, rfl⟩⟩ := deliver_cases h
  · exact map_request_set hjob
  · exact map_request_set hjob

theorem replies_finish {work : Request → Option Reply} {i : Nat}
    (h : d.finish work i = some d') : d'.replies = d.replies := by
  obtain ⟨request, -, rfl⟩ := finish_cases h
  rfl

theorem replies_deliver {i : Nat} {delivered : Bool} {reply : Reply}
    (h : d.deliver i delivered = some d')
    (hpending : d.pending i = some reply) :
    d'.replies = d.replies ++ if delivered then [reply] else [] := by
  obtain ⟨request, sent, hjob, hsent⟩ := deliver_cases h
  have hreply : sent = reply := by simpa [pending, hjob] using hpending
  subst hreply
  rcases hsent with ⟨rfl, rfl⟩ | ⟨rfl, rfl⟩
  · simp [replies]
  · simp [replies]

theorem Accounted.idle :
    Accounted R (Dispatch.idle : Dispatch Request Reply) where
  nodup := List.nodup_nil
  sent := fun i reply => by simp [Dispatch.idle]
  allowed := fun i job hjob => by simp [Dispatch.idle] at hjob

theorem Accounted.take (h : Accounted R d) (request : Request) :
    Accounted R (d.take request) where
  nodup := h.nodup
  sent := fun i reply => by
    refine (h.sent i reply).trans ⟨?_, ?_⟩
    · rintro ⟨asked, hjob⟩
      exact ⟨asked, get_spawn.mpr (.inl hjob)⟩
    · rintro ⟨asked, hjob⟩
      rcases get_spawn.mp hjob with hold | ⟨-, hnew⟩
      · exact ⟨asked, hold⟩
      · simp at hnew
  allowed := h.allowed.spawn fun reply hreply => by
    simp [Stage.reply?] at hreply

theorem Accounted.set_unsent (h : Accounted R d) {i : Nat} {request : Request}
    {old new : Stage Reply} (hjob : d.jobs[i]? = some ⟨request, old⟩)
    (hold : old.isSent = false) (hnew : new.isSent = false)
    (hallowed : ∀ reply, new.reply? = some reply → R request reply) :
    Accounted R { d with jobs := d.jobs.set i ⟨request, new⟩ } where
  nodup := h.nodup
  sent := fun j reply => by
    refine (h.sent j reply).trans ⟨?_, ?_⟩
    · rintro ⟨asked, hsent⟩
      refine ⟨asked, (get_set hjob).mpr (.inr ⟨?_, hsent⟩)⟩
      rintro rfl
      rw [hjob] at hsent
      obtain ⟨-, rfl⟩ := Job.mk.inj (Option.some.inj hsent)
      simp [Stage.isSent] at hold
    · rintro ⟨asked, hsent⟩
      rcases (get_set hjob).mp hsent with ⟨-, heq⟩ | ⟨-, hsent⟩
      · obtain ⟨-, rfl⟩ := Job.mk.inj heq
        simp [Stage.isSent] at hnew
      · exact ⟨asked, hsent⟩
  allowed := fun j job hget => by
    rcases (get_set hjob).mp hget with ⟨-, rfl⟩ | ⟨-, hget⟩
    · exact hallowed
    · exact h.allowed j job hget

theorem Accounted.finish (h : Accounted R d) {work : Request → Option Reply}
    {i : Nat}
    (hwork : ∀ request reply, work request = some reply → R request reply)
    (hstep : d.finish work i = some d') : Accounted R d' := by
  obtain ⟨request, hjob, rfl⟩ := finish_cases hstep
  cases hreply : work request with
  | none =>
      exact h.set_unsent hjob rfl rfl fun reply hstage => by
        simp [Stage.reply?] at hstage
  | some reply =>
      refine h.set_unsent hjob rfl rfl fun other hstage => ?_
      obtain rfl := Option.some.inj hstage
      exact hwork request _ hreply

theorem Accounted.deliver (h : Accounted R d) {i : Nat} {delivered : Bool}
    (hstep : d.deliver i delivered = some d') : Accounted R d' := by
  obtain ⟨request, reply, hjob, ⟨-, rfl⟩ | ⟨-, rfl⟩⟩ := deliver_cases hstep
  · -- the reply of a job that is ready has not been sent
    have hfresh : ∀ other, (i, other) ∉ d.sent := fun other hmem => by
      obtain ⟨asked, hsent⟩ := (h.sent i other).mp hmem
      rw [hjob] at hsent
      simp at hsent
    refine ⟨?_, fun j other => ?_, fun j job hget => ?_⟩
    · rw [List.map_append, List.nodup_append]
      refine ⟨h.nodup, List.nodup_singleton _, fun j hj k hk => ?_⟩
      obtain ⟨⟨_, other⟩, hmem, rfl⟩ := List.mem_map.mp hj
      rintro rfl
      rw [List.map_singleton, List.mem_singleton] at hk
      subst hk
      exact hfresh other hmem
    · rw [List.mem_append, List.mem_singleton, h.sent j other, Prod.mk.injEq]
      constructor
      · rintro (⟨asked, hsent⟩ | ⟨rfl, rfl⟩)
        · refine ⟨asked, (get_set hjob).mpr (.inr ⟨?_, hsent⟩)⟩
          rintro rfl
          exact hfresh other ((h.sent _ _).mpr ⟨asked, hsent⟩)
        · exact ⟨request, get_set_self hjob⟩
      · rintro ⟨asked, hsent⟩
        rcases (get_set hjob).mp hsent with ⟨rfl, heq⟩ | ⟨-, hsent⟩
        · obtain ⟨-, hreply⟩ := Job.mk.inj heq
          exact .inr ⟨rfl, Stage.sent.inj hreply⟩
        · exact .inl ⟨asked, hsent⟩
    · rcases (get_set hjob).mp hget with ⟨-, rfl⟩ | ⟨-, hget⟩
      · exact fun other hother => h.allowed i _ hjob other hother
      · exact h.allowed j job hget
  · exact h.set_unsent hjob rfl rfl fun other hstage => by
      simp [Stage.reply?] at hstage

/-! ## What an account says -/

theorem Accounted.answersEach (h : Accounted R d) :
    AnswersEach R d.requests d.replies := by
  refine ⟨d.sent.map Prod.fst, h.nodup, ?_⟩
  rw [replies, List.forall₂_map_left_iff, List.forall₂_map_right_iff,
    List.forall₂_same]
  rintro ⟨i, reply⟩ hmem
  obtain ⟨request, hjob⟩ := (h.sent i reply).mp hmem
  exact ⟨request, by rw [requests, List.getElem?_map, hjob]; rfl,
    h.allowed i _ hjob reply rfl⟩

def Quiet (d : Dispatch Request Reply) : Prop :=
  ∀ job ∈ d.jobs, job.stage.isSent = true ∨ job.stage.isDropped = true

theorem Accounted.length_replies (h : Accounted R d) :
    d.replies.length = d.jobs.countP fun job => job.stage.isSent := by
  have hperm : (d.sent.map Prod.fst).Perm (d.jobs.findIdxs fun job =>
      job.stage.isSent) := by
    rw [List.perm_ext_iff_of_nodup h.nodup List.nodup_findIdxs]
    intro i
    rw [List.mem_findIdxs_iff_exists_getElem_pos, List.mem_map]
    constructor
    · rintro ⟨⟨_, reply⟩, hmem, rfl⟩
      obtain ⟨request, hjob⟩ := (h.sent _ _).mp hmem
      obtain ⟨hlt, hget⟩ := List.getElem?_eq_some_iff.mp hjob
      exact ⟨hlt, by rw [hget]; rfl⟩
    · rintro ⟨hlt, hsent⟩
      have hjob := List.getElem?_eq_getElem hlt
      cases hstage : d.jobs[i].stage with
      | sent reply =>
          exact ⟨(i, reply), (h.sent i reply).mpr
            ⟨d.jobs[i].request, by rw [hjob, ← hstage]⟩, rfl⟩
      | working | ready | dropped => simp [hstage, Stage.isSent] at hsent
  rw [replies, List.length_map, ← List.length_map (f := Prod.fst),
    hperm.length_eq, List.length_findIdxs]

theorem Accounted.length_quiet (h : Accounted R d) (hquiet : d.Quiet) :
    d.replies.length + d.dropped = d.requests.length := by
  rw [h.length_replies, dropped, requests, List.length_map,
    List.length_eq_countP_add_countP fun job : Job Request Reply =>
      job.stage.isSent]
  congr 1
  apply List.countP_congr
  intro job hjob
  cases hstage : job.stage with
  | sent reply => simp [Stage.isSent, Stage.isDropped]
  | dropped => simp [Stage.isSent, Stage.isDropped]
  | working | ready =>
      simpa [hstage, Stage.isSent, Stage.isDropped] using hquiet job hjob

end Dispatch

end Rustylink.Foundation
