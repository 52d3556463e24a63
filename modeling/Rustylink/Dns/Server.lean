import Rustylink.Dns.Forwarder
import Rustylink.Foundation.Dispatch
import Rustylink.Foundation.Transition

/-!
# The local DNS server

A receive loop on each of two sockets hands every datagram to a handler of its
own, which answers on the same socket.  Shutting down ends the loops; the
handlers in flight go on, and a socket is closed with the last of them.
-/

namespace Rustylink.Dns.Server

open Rustylink.Foundation Rustylink.Outbound

abbrev Message := SocketAddr × Bytes

/-- `serve_loop` on one socket, and the handlers that it has spawned. -/
structure ServeLoop where
  looping : Bool
  handlers : Dispatch Message Message
  deriving DecidableEq, Repr

def ServeLoop.start : ServeLoop := ⟨true, .idle⟩

def ServeLoop.SocketOpen (s : ServeLoop) : Prop :=
  s.looping = true ∨ ¬ s.handlers.Quiet

/--
How far a call of `shutdown` is; a server that is dropped has no handles left
to join.
-/
inductive Phase where
  | serving
  | joiningV4
  | joiningV6
  | down
  | dropped
  deriving DecidableEq, Repr

structure DnsServer where
  shutdown : Bool
  phase : Phase
  v4 : ServeLoop
  v6 : ServeLoop
  deriving DecidableEq, Repr

inductive Family where
  | v4
  | v6
  deriving DecidableEq, Repr

inductive LoopEvent where
  | received (client : SocketAddr) (datagram : Bytes)
  | recvFailed
  | ended
  | resolved (handler : Nat) (exchanges : Nat → Exchange) (finished : List Nat)
  | sent (handler : Nat) (delivered : Bool)

inductive ServerEvent where
  | on (family : Family) (event : LoopEvent)
  | shutdown
  | joined
  | drop

namespace DnsServer

def start : DnsServer := ⟨false, .serving, .start, .start⟩

def serveLoop (server : DnsServer) : Family → ServeLoop
  | .v4 => server.v4
  | .v6 => server.v6

def setLoop (server : DnsServer) (s : ServeLoop) : Family → DnsServer
  | .v4 => { server with v4 := s }
  | .v6 => { server with v6 := s }

end DnsServer

section Step

variable (crates : DnsCrates) (resolver : DnsResolver)

def ServeLoop.step (cancelled : Bool) (s : ServeLoop) :
    LoopEvent → Option ServeLoop
  | .received client datagram =>
      if s.looping then
        some { s with handlers := s.handlers.take (client, datagram) }
      else none
  | .recvFailed => if s.looping then some s else none
  | .ended =>
      if s.looping ∧ cancelled then some { s with looping := false } else none
  | .resolved handler exchanges finished =>
      (s.handlers.finish (fun (client, datagram) =>
        some (resolver.serve crates client datagram exchanges finished))
        handler).map fun handlers => { s with handlers := handlers }
  | .sent handler delivered =>
      (s.handlers.deliver handler delivered).map fun handlers =>
        { s with handlers := handlers }

def DnsServer.step (server : DnsServer) : ServerEvent → Option DnsServer
  | .on family event =>
      ((server.serveLoop family).step crates resolver server.shutdown event).map
        fun s => server.setLoop s family
  | .shutdown =>
      if server.phase = .serving then
        some { server with shutdown := true, phase := .joiningV4 }
      else none
  | .joined =>
      match server.phase with
      | .joiningV4 => if server.v4.looping then none
            else some { server with phase := .joiningV6 }
      | .joiningV6 => if server.v6.looping then none
            else some { server with phase := .down }
      | _ => none
  | .drop =>
      if server.phase = .down then none
      else some { server with shutdown := true, phase := .dropped }

end Step

/-! ## What a step does to one of the sockets -/

def LoopEvent.requests : LoopEvent → List Message
  | .received client datagram => [(client, datagram)]
  | _ => []

def ServerEvent.requests (family : Family) : ServerEvent → List Message
  | .on eventFamily event => if eventFamily = family then event.requests else []
  | _ => []

def received (family : Family) (events : List ServerEvent) : List Message :=
  events.flatMap (ServerEvent.requests family)

def Serves (crates : DnsCrates) (resolver : DnsResolver)
    (request reply : Message) : Prop :=
  ∃ exchanges finished,
    reply = resolver.serve crates request.1 request.2 exchanges finished

structure LoopEffect (crates : DnsCrates) (resolver : DnsResolver)
    (cancelled : Bool) (requests : List Message) (s s' : ServeLoop) : Prop where
  accounted : s.handlers.Accounted (Serves crates resolver) →
    s'.handlers.Accounted (Serves crates resolver)
  takes : s'.handlers.requests = s.handlers.requests ++ requests
  ends : s.looping = true → cancelled = false → s'.looping = true
  ended : s.looping = false → s'.looping = false ∧ requests = []

variable {crates : DnsCrates} {resolver : DnsResolver}

theorem LoopEffect.refl (cancelled : Bool) (s : ServeLoop) :
    LoopEffect crates resolver cancelled [] s s where
  accounted := id
  takes := (List.append_nil _).symm
  ends := fun hlooping _ => hlooping
  ended := fun hended => ⟨hended, rfl⟩

theorem ServeLoop.step_effect {cancelled : Bool} {event : LoopEvent}
    {s s' : ServeLoop} (h : s.step crates resolver cancelled event = some s') :
    LoopEffect crates resolver cancelled event.requests s s' := by
  cases event with
  | received client datagram =>
      simp only [ServeLoop.step, Option.ite_none_right_eq_some,
        Option.some.injEq] at h
      obtain ⟨hlooping, rfl⟩ := h
      refine ⟨fun hacc => hacc.take _, s.handlers.requests_take _,
        fun _ _ => hlooping, fun hended => ?_⟩
      simp [hlooping] at hended
  | recvFailed =>
      simp only [ServeLoop.step, Option.ite_none_right_eq_some,
        Option.some.injEq] at h
      obtain ⟨-, rfl⟩ := h
      exact .refl _ _
  | ended =>
      simp only [ServeLoop.step, Option.ite_none_right_eq_some,
        Option.some.injEq] at h
      obtain ⟨⟨-, hcancelled⟩, rfl⟩ := h
      refine ⟨id, (List.append_nil _).symm, fun _ hnot => ?_,
        fun _ => ⟨rfl, rfl⟩⟩
      simp [hcancelled] at hnot
  | resolved handler exchanges finished =>
      obtain ⟨handlers, hfinish, rfl⟩ := Option.map_eq_some_iff.mp h
      refine ⟨fun hacc => hacc.finish (fun request reply hreply => ?_) hfinish,
        ?_, fun hlooping _ => hlooping, fun hended => ⟨hended, rfl⟩⟩
      · exact ⟨exchanges, finished, (Option.some.inj hreply).symm⟩
      · exact (Dispatch.requests_finish hfinish).trans (List.append_nil _).symm
  | sent handler delivered =>
      obtain ⟨handlers, hdeliver, rfl⟩ := Option.map_eq_some_iff.mp h
      exact ⟨fun hacc => hacc.deliver hdeliver,
        (Dispatch.requests_deliver hdeliver).trans (List.append_nil _).symm,
        fun hlooping _ => hlooping, fun hended => ⟨hended, rfl⟩⟩

namespace DnsServer

variable {server server' : DnsServer} {event : ServerEvent} {family : Family}

@[simp] theorem serveLoop_setLoop (s : ServeLoop) (eventFamily : Family) :
    (server.setLoop s eventFamily).serveLoop family =
      if eventFamily = family then s else server.serveLoop family := by
  cases eventFamily <;> cases family <;> rfl

@[simp] theorem shutdown_setLoop (s : ServeLoop) :
    (server.setLoop s family).shutdown = server.shutdown := by
  cases family <;> rfl

@[simp] theorem phase_setLoop (s : ServeLoop) :
    (server.setLoop s family).phase = server.phase := by
  cases family <;> rfl

theorem step_cases (h : server.step crates resolver event = some server') :
    (∃ eventFamily loopEvent s, event = .on eventFamily loopEvent ∧
      (server.serveLoop eventFamily).step crates resolver server.shutdown
        loopEvent = some s ∧
      server' = server.setLoop s eventFamily) ∨
    ((∀ family, event.requests family = []) ∧ server'.v4 = server.v4 ∧
      server'.v6 = server.v6 ∧
      (server.shutdown = true → server'.shutdown = true) ∧
      ((server.phase = .serving ∧ server'.shutdown = true ∧
        server'.phase = .joiningV4) ∨
        (server.phase = .joiningV4 ∧ server.v4.looping = false ∧
          server'.shutdown = server.shutdown ∧ server'.phase = .joiningV6) ∨
        (server.phase = .joiningV6 ∧ server.v6.looping = false ∧
          server'.shutdown = server.shutdown ∧ server'.phase = .down) ∨
        (server'.shutdown = true ∧ server'.phase = .dropped))) := by
  cases event with
  | on eventFamily loopEvent =>
      obtain ⟨s, hs, rfl⟩ := Option.map_eq_some_iff.mp h
      exact .inl ⟨eventFamily, loopEvent, s, rfl, hs, rfl⟩
  | shutdown =>
      simp only [step, Option.ite_none_right_eq_some, Option.some.injEq] at h
      obtain ⟨hphase, rfl⟩ := h
      exact .inr ⟨fun _ => rfl, rfl, rfl, fun _ => rfl, .inl ⟨hphase, rfl, rfl⟩⟩
  | joined =>
      simp only [step] at h
      split at h
      · next hphase =>
          simp only [Option.ite_none_left_eq_some, Option.some.injEq,
            Bool.not_eq_true] at h
          obtain ⟨hended, rfl⟩ := h
          exact .inr ⟨fun _ => rfl, rfl, rfl, id,
            .inr (.inl ⟨hphase, hended, rfl, rfl⟩)⟩
      · next hphase =>
          simp only [Option.ite_none_left_eq_some, Option.some.injEq,
            Bool.not_eq_true] at h
          obtain ⟨hended, rfl⟩ := h
          exact .inr ⟨fun _ => rfl, rfl, rfl, id,
            .inr (.inr (.inl ⟨hphase, hended, rfl, rfl⟩))⟩
      · contradiction
  | drop =>
      simp only [step, Option.ite_none_left_eq_some, Option.some.injEq] at h
      obtain ⟨-, rfl⟩ := h
      exact .inr ⟨fun _ => rfl, rfl, rfl,
        fun _ => rfl, .inr (.inr (.inr ⟨rfl, rfl⟩))⟩

theorem step_effect (h : server.step crates resolver event = some server')
    (family : Family) :
    LoopEffect crates resolver server.shutdown (event.requests family)
      (server.serveLoop family) (server'.serveLoop family) := by
  rcases step_cases h with
    ⟨eventFamily, loopEvent, s, rfl, hs, rfl⟩ | ⟨hnone, hv4, hv6, -⟩
  · rw [serveLoop_setLoop, ServerEvent.requests]
    by_cases hfamily : eventFamily = family
    · subst hfamily
      rw [if_pos rfl, if_pos rfl]
      exact ServeLoop.step_effect hs
    · rw [if_neg hfamily, if_neg hfamily]
      exact .refl _ _
  · have hsame : server'.serveLoop family = server.serveLoop family := by
      cases family with
      | v4 => exact hv4
      | v6 => exact hv6
    rw [hnone, hsame]
    exact .refl _ _

structure Orderly (server : DnsServer) : Prop where
  serving : server.shutdown = false →
    ∀ family, (server.serveLoop family).looping = true
  phase : server.phase ≠ .serving → server.shutdown = true
  joinedV4 : server.phase = .joiningV6 → server.v4.looping = false
  down : server.phase = .down →
    ∀ family, (server.serveLoop family).looping = false

theorem Orderly.start : Orderly start where
  serving := fun _ family => by cases family <;> rfl
  phase := fun h => (h rfl).elim
  joinedV4 := fun h => by cases h
  down := fun h => by cases h

theorem Orderly.step (h : server.Orderly)
    (hstep : server.step crates resolver event = some server') :
    server'.Orderly := by
  have heffect := fun family => step_effect hstep family
  have hended : ∀ family, (server.serveLoop family).looping = false →
      (server'.serveLoop family).looping = false :=
    fun family hfamily => ((heffect family).ended hfamily).1
  rcases step_cases hstep with ⟨eventFamily, loopEvent, s, rfl, -, rfl⟩ |
      ⟨-, hv4, hv6, hshut, hphase⟩
  · refine ⟨fun hserving family => ?_, fun hphase => ?_, fun hphase => ?_,
      fun hphase family => ?_⟩
    · rw [shutdown_setLoop] at hserving
      exact (heffect family).ends (h.serving hserving family) hserving
    · rw [phase_setLoop] at hphase
      rw [shutdown_setLoop]
      exact h.phase hphase
    · rw [phase_setLoop] at hphase
      exact hended .v4 (h.joinedV4 hphase)
    · rw [phase_setLoop] at hphase
      exact hended family (h.down hphase family)
  · have hserving : server'.shutdown = false → ∀ family,
        (server'.serveLoop family).looping = true := fun hserving family => by
      have hbefore : server.shutdown = false := by
        cases hshutdown : server.shutdown with
        | false => rfl
        | true => simp [hshut hshutdown] at hserving
      exact (heffect family).ends (h.serving hbefore family) hbefore
    rcases hphase with ⟨-, hset, hnew⟩ | ⟨hold, hjoined, hset, hnew⟩ | ⟨hold,
      hjoined, hset, hnew⟩ | ⟨hset, hnew⟩
    · exact ⟨hserving, fun _ => hset,
        fun h => by simp [hnew] at h, fun h => by simp [hnew] at h⟩
    · refine ⟨hserving, fun _ => hset.trans (h.phase (by simp [hold])),
        fun _ => ?_, fun h => by simp [hnew] at h⟩
      exact hended .v4 hjoined
    · refine ⟨hserving, fun _ => hset.trans (h.phase (by simp [hold])),
        fun h => by simp [hnew] at h, fun _ family => ?_⟩
      cases family with
      | v4 => exact hended .v4 (h.joinedV4 hold)
      | v6 => exact hended .v6 hjoined
    · exact ⟨hserving, fun _ => hset,
        fun h => by simp [hnew] at h, fun h => by simp [hnew] at h⟩

/-! ## Runs -/

theorem run_effect {events : List ServerEvent}
    (hrun : exec (step crates resolver) server events = some server')
    (family : Family)
    (hacc : (server.serveLoop family).handlers.Accounted
      (Serves crates resolver)) :
    (server'.serveLoop family).handlers.Accounted (Serves crates resolver) ∧
      (server'.serveLoop family).handlers.requests =
        (server.serveLoop family).handlers.requests ++
          received family events := by
  induction events generalizing server with
  | nil =>
      obtain rfl := Option.some.inj hrun
      exact ⟨hacc, (List.append_nil _).symm⟩
  | cons event events ih =>
      obtain ⟨next, hstep, hrest⟩ := exec_cons.mp hrun
      have heffect := step_effect hstep family
      obtain ⟨haccounted, htaken⟩ := ih hrest (heffect.accounted hacc)
      refine ⟨haccounted, ?_⟩
      rw [htaken, heffect.takes, List.append_assoc]
      rfl

theorem run_ended {events : List ServerEvent}
    (hrun : exec (step crates resolver) server events = some server')
    {family : Family} (hended : (server.serveLoop family).looping = false) :
    (server'.serveLoop family).looping = false ∧
      received family events = [] := by
  induction events generalizing server with
  | nil =>
      obtain rfl := Option.some.inj hrun
      exact ⟨hended, rfl⟩
  | cons event events ih =>
      obtain ⟨next, hstep, hrest⟩ := exec_cons.mp hrun
      obtain ⟨hnext, hnone⟩ := (step_effect hstep family).ended hended
      obtain ⟨hlast, hlater⟩ := ih hrest hnext
      exact ⟨hlast, by
        rw [received, List.flatMap_cons, hnone, List.nil_append]; exact hlater⟩

theorem Orderly.run (h : server.Orderly) {events : List ServerEvent}
    (hrun : exec (DnsServer.step crates resolver) server events =
      some server') :
    server'.Orderly :=
  exec_invariant (C := fun _ _ => True) (fun _ _ _ horderly _ hstep =>
    horderly.step hstep) h (.of_forall fun _ _ _ => trivial) hrun

/--
Whatever order the handlers finish in, each reply on a socket answers one
datagram that came in on it, to the sender of that datagram and with what the
resolver has for it, and no datagram is answered twice.  Once the handlers are
done every datagram has its answer but those whose sending failed.
-/
theorem server_answers_each {events : List ServerEvent}
    (hrun : exec (DnsServer.step crates resolver) DnsServer.start events =
      some server)
    (family : Family) :
    AnswersEach (Serves crates resolver) (received family events)
      (server.serveLoop family).handlers.replies ∧
    ((server.serveLoop family).handlers.Quiet →
      (server.serveLoop family).handlers.replies.length +
        (server.serveLoop family).handlers.dropped =
        (received family events).length) := by
  have hstart : (DnsServer.start.serveLoop family).handlers = .idle := by
    cases family <;> rfl
  obtain ⟨hacc, htaken⟩ := run_effect hrun family (by
    rw [hstart]
    exact .idle)
  rw [hstart] at htaken
  have hrequests : (server.serveLoop family).handlers.requests =
      received family events := htaken
  rw [← hrequests]
  exact ⟨hacc.answersEach, hacc.length_quiet⟩

def askingClient (host : BitVec 8) : SocketAddr :=
  ⟨.v4 (Ipv4Addr.new 192 168 1 host), 40000⟩

def outOfOrder : List ServerEvent :=
  [.on .v4 (.received (askingClient 2) vpnQuery),
    .on .v4 (.received (askingClient 3) truncatedQuery),
    .on .v4 (.resolved 1 (fun _ => ⟨none, none, []⟩) []),
    .on .v4 (.sent 1 true),
    .on .v4 (.resolved 0 (fun _ => ⟨none, none, []⟩) []),
    .on .v4 (.sent 0 true)]

theorem server_answers_each_outOfOrder :
    AnswersEach (Serves wireCrates silentResolver)
      [(askingClient 2, vpnQuery), (askingClient 3, truncatedQuery)]
      [(askingClient 3, truncatedQuery), (askingClient 2, vpnFailure)] := by
  have hrun : exec (DnsServer.step wireCrates silentResolver)
      DnsServer.start outOfOrder =
      some (final (DnsServer.step wireCrates silentResolver) DnsServer.start
        outOfOrder) := rfl
  have hreplies :
      ((final (DnsServer.step wireCrates silentResolver) DnsServer.start
      outOfOrder).serveLoop .v4).handlers.replies =
        [(askingClient 3, truncatedQuery), (askingClient 2, vpnFailure)] := by
    decide +kernel
  rw [← hreplies]
  exact (server_answers_each hrun .v4).1

/-! ## Shutting down -/

def ending (server : DnsServer) (family : Family) : List ServerEvent :=
  if (server.serveLoop family).looping then [.on family .ended] else []

def remaining (server : DnsServer) : List ServerEvent :=
  match server.phase with
  | .joiningV4 => server.ending .v4 ++ .joined ::
        (server.ending .v6 ++ [.joined])
  | .joiningV6 => server.ending .v6 ++ [.joined]
  | _ => []

def endLoop (server : DnsServer) (family : Family) : DnsServer :=
  server.setLoop { server.serveLoop family with looping := false } family

theorem exec_ending (h : server.shutdown = true) (family : Family) :
    exec (step crates resolver) server (server.ending family) =
      some (server.endLoop family) := by
  unfold ending endLoop
  cases hlooping : (server.serveLoop family).looping with
  | true =>
      rw [if_pos rfl, exec_of_step, exec_nil]
      simp [step, ServeLoop.step, hlooping, h]
  | false =>
      have hsame : { server.serveLoop family with looping := false } =
          server.serveLoop family := by
        rw [← hlooping]
      rw [if_neg Bool.false_ne_true, exec_nil, hsame]
      cases family <;> rfl

theorem exec_joinV6 (hshutdown : server.shutdown = true)
    (hphase : server.phase = .joiningV6) :
    exec (step crates resolver) server (server.ending .v6 ++ [.joined]) =
      some { server.endLoop .v6 with phase := .down } := by
  rw [exec_append (exec_ending hshutdown .v6), exec_of_step, exec_nil]
  simp [step, endLoop, setLoop, hphase]

theorem exec_remaining (h : server.Orderly)
    (hphase : server.phase = .joiningV4 ∨ server.phase = .joiningV6) :
    ∃ done, exec (step crates resolver) server server.remaining = some done ∧
      done.phase = .down ∧
      ∀ family, (done.serveLoop family).handlers =
        (server.serveLoop family).handlers := by
  rcases hphase with hphase | hphase
  · have hshutdown : server.shutdown = true := h.phase (by simp [hphase])
    have hjoined : step crates resolver (server.endLoop .v4) .joined =
        some { server.endLoop .v4 with phase := .joiningV6 } := by
      simp [step, endLoop, setLoop, hphase, serveLoop]
    refine ⟨{ (server.endLoop .v4).endLoop .v6 with phase := .down }, ?_, rfl,
      fun family => by cases family <;> rfl⟩
    rw [remaining, hphase, exec_append (exec_ending hshutdown .v4),
      exec_of_step hjoined]
    have hstill :
        ({ server.endLoop .v4 with phase := .joiningV6 } : DnsServer).shutdown =
            true :=
      hshutdown
    exact exec_joinV6 hstill rfl
  · have hshutdown : server.shutdown = true := h.phase (by simp [hphase])
    refine ⟨{ server.endLoop .v6 with phase := .down }, ?_, rfl,
      fun family => by cases family <;> rfl⟩
    rw [remaining, hphase]
    exact exec_joinV6 hshutdown hphase

/--
Nothing but a shutdown or a drop ends a loop.  `shutdown` waits for the loops
and for no handler; once it has returned the sockets take nothing any more,
and each is closed exactly when the handlers that were in flight are done.
-/
theorem server_shuts_down {events : List ServerEvent}
    (hrun : exec (DnsServer.step crates resolver) DnsServer.start events =
      some server) :
    (server.shutdown = false →
      ∀ family, (server.serveLoop family).looping = true) ∧
    (server.phase = .joiningV4 ∨ server.phase = .joiningV6 →
      ∃ done, exec (DnsServer.step crates resolver) server server.remaining =
        some done ∧
        done.phase = .down ∧
        ∀ family, (done.serveLoop family).handlers =
          (server.serveLoop family).handlers) ∧
    (server.phase = .down → ∀ family,
      ((server.serveLoop family).SocketOpen ↔
        ¬ (server.serveLoop family).handlers.Quiet) ∧
      ∀ later t, exec (DnsServer.step crates resolver) server later = some t →
        received family later = []) := by
  have horderly := Orderly.start.run hrun
  refine ⟨horderly.serving, exec_remaining horderly, fun hdown family =>
    ⟨?_, fun later t ht => ?_⟩⟩
  · simp [ServeLoop.SocketOpen, horderly.down hdown family]
  · exact (run_ended ht (horderly.down hdown family)).2

def shutDownBusy : List ServerEvent :=
  [.on .v6 (.received (askingClient 2) vpnQuery), .shutdown, .on .v6 .ended]

theorem server_shuts_down_busy :
    ∃ done, exec (step wireCrates silentResolver)
      (final (step wireCrates silentResolver) start shutDownBusy)
        [.on .v4 .ended, .joined, .joined] = some done ∧
          done.phase = .down := by
  have hrun : exec (step wireCrates silentResolver) start shutDownBusy =
      some (final (step wireCrates silentResolver) start shutDownBusy) := rfl
  obtain ⟨done, hdone, hdown, -⟩ := (server_shuts_down hrun).2.1 (.inl rfl)
  exact ⟨done, hdone, hdown⟩

end DnsServer

end Rustylink.Dns.Server
