import Akasa.V3.Online

/-!
# `handle_offline` and the life of a v3 session

A persistent session waits offline on its two mailboxes. A takeover hands its state over; a Kick stops the loop
only for a session whose client did not send DISCONNECT; a closed mailbox stops it. `handle_offline` is given the
global state and never uses it, so when the loop stops the client stays in the registry, marked offline.

Over the whole life of a session, online and then offline, the CONNECT's will reaches `send_publish` at most once.
-/

namespace Akasa.V3
open Akasa.Mqtt Akasa.Mqtt.V3 Akasa.HookDispatch

/-- What `handle_offline`'s `select!` takes next: a message of either mailbox, or that mailbox found closed. -/
inductive OfflineEvent where
  | control (msg : ControlMessage)
  | controlClosed
  | normal (sender : ClientId) (msg : NormalMessage)
  | normalClosed

/-- How `handle_offline` leaves its loop. -/
inductive OfflineExit where
  | handedOver (sender : Nat) (state : SessionState)
  | stopped
  | closed
  deriving DecidableEq, Repr

/-- A run of `handle_offline`: still waiting, out of its loop with the session as it left it, or panicked in
`handle_control`. -/
inductive Offline where
  | running (session : Session)
  | exited (session : Session) (exit : OfflineExit)
  | panicked
  deriving DecidableEq, Repr

/-- One turn of `handle_offline`'s loop: `.inl` goes on, `.inr` breaks out, `none` where `handle_control` panics. -/
def offlineStep (h : Handlers) (s : Session) : OfflineEvent → Option (Session ⊕ Session × OfflineExit)
  | .control msg =>
    match handleControl s msg with
    | none => none
    | some (_, some sender) => some (.inr ((buildState s).2, .handedOver sender (buildState s).1))
    | some (stop, none) => if stop then some (.inr (s, .stopped)) else some (.inl s)
  | .controlClosed => some (.inr (s, .closed))
  | .normal sender msg => some (.inl (handleNormal h s sender msg).2)
  | .normalClosed => some (.inr (s, .closed))

def handleOffline (h : Handlers) : Session → List OfflineEvent → Offline
  | s, [] => .running s
  | s, ev :: evs =>
    match offlineStep h s ev with
    | none => .panicked
    | some (.inr (s', x)) => .exited s' x
    | some (.inl s') => handleOffline h s' evs

/-- What the offline loop does to the rest of the broker: only a hand-over sends anything. -/
def Offline.effects : Offline → List Effect
  | .exited _ (.handedOver sender state) => [.handOver sender state]
  | _ => []

theorem Offline.effects_quiet (o : Offline) : Quiet o.effects := by
  rcases o with _ | ⟨_, _ | _ | _⟩ | _ <;> simp [Offline.effects, Effect.isWill, Effect.isExit]

/-- The effects of a session's whole life: those of `handle_online`, then, for a session it hands to
`handle_offline`, those of the offline loop over `evs`. -/
def lifeEffects (h : Handlers) (r : Except IoError (Option Session)) (fx : List Effect) (evs : List OfflineEvent) :
    List Effect :=
  fx ++ match r with
    | .ok (some s) => (handleOffline h s evs).effects
    | _ => []

theorem lifeEffects_eq (h : Handlers) (r : Except IoError (Option Session)) (fx : List Effect)
    (evs : List OfflineEvent) : ∃ t, lifeEffects h r fx evs = fx ++ t ∧ Quiet t := by
  unfold lifeEffects
  split
  · exact ⟨_, rfl, Offline.effects_quiet _⟩
  · exact ⟨[], rfl, quiet_nil⟩

/-- `handle_connection`: `handle_online`, then `handle_offline` spawned on a session it hands back (run here over
`evs`); an error of `handle_online` is returned. Besides the result, the offline run and the effects of the whole
life. -/
def handleConnection {S5 : Type} (cfg : Config) (h : Handlers) (h5 : V5Handlers S5) (w : Wire S5)
    (peer : SocketAddr) (evs : List OfflineEvent) : Option (Except IoError Unit × Option Offline × List Effect) :=
  (handleOnline cfg h h5 w peer).map fun (r, fx) =>
    match r with
    | .ok (some s) => (.ok (), some (handleOffline h s evs), lifeEffects h r fx evs)
    | .ok none => (.ok (), none, lifeEffects h r fx evs)
    | .error e => (.error e, none, lifeEffects h r fx evs)

/-- A client whose CONNECT carries a will loses its connection. -/
def willThenEof : Wire Unit := ⟨some willConnect, none, .accepted 1 none, fun _ => .ok (), [.decodeError true]⟩

/-- A persistent client sends DISCONNECT and its connection closes. -/
def disconnectThenEof : Wire Unit :=
  ⟨some persistentConnect, none, .accepted 1 none, fun _ => .ok (), [.packet 2 [] .disconnect, .decodeError true]⟩

/-- The session `handle_online` hands to `handle_offline` after a DISCONNECT ignores a Kick: the loop keeps
running, and a takeover after the Kick still gets the session's state. -/
theorem handleOffline_keeps_client :
    ∃ s fx, handleOnline (.ofHooks ⟨false, false, false, false⟩) .stateless (V5Handlers.stateless : V5Handlers Unit)
        disconnectThenEof ⟨"peer", 1883⟩ = some (.ok (some s), fx) ∧
      s.disconnected = true ∧
      handleOffline .stateless s [.control (.kick "admin")] = .running s ∧
      handleOffline .stateless s [.control (.kick "admin"), .control (.onlineV3 7)] =
        .exited (buildState s).2 (.handedOver 7 (buildState s).1) :=
  ⟨_, _, rfl, rfl, rfl, rfl⟩

end Akasa.V3
