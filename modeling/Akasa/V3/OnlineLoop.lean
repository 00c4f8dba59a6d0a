import Akasa.V3.HandlePacket

/-!
# The online loop of a v3 connection

What a connection does to the rest of the broker is a list of `Effect`s: registering and removing the client,
marking it offline, the publishes it hands to `send_publish`, the broadcasts it delivers and the state it hands to
a connection taking it over. `Registry.apply` reads the registry's part of them.

`OnlineLoop` (protocols/mqtt, not in this excerpt) is modelled from the spec: one step for each thing it polls,
each step calling the session's functions of `v3/message.rs`. A run ends when a step stops the loop; it has no end
while the events last or where a step panics. Every run keeps the fields only `handle_connect` sets and adds only
broadcasts and hand-overs to the effects.
-/

namespace Akasa.V3
open Akasa.Mqtt Akasa.Mqtt.V3 Akasa.HookDispatch

/-- What a connection does to the rest of the broker, in order. -/
inductive Effect where
  | addClient (clientId : ClientId)
  | removeClient (clientId : ClientId) (filters : List TopicFilter)
  | offlineClient (clientId : ClientId)
  | publishAction (publish : SendPublish)
  | publishWill (publish : SendPublish)
  | broadcast (sender target : ClientId) (msg : NormalMessage)
  | handOver (sender : Nat) (state : SessionState)
  deriving DecidableEq, Repr

def Effect.isWill : Effect → Bool
  | .publishWill _ => true
  | _ => false

/-- `remove_client` or `offline_client`: the registry learns that the connection is gone. -/
def Effect.isExit : Effect → Bool
  | .removeClient _ _ | .offlineClient _ => true
  | _ => false

/-- Effects that neither publish a will nor tell the registry the connection is gone. -/
def Quiet (fx : List Effect) : Prop := ∀ x ∈ fx, x.isWill = false ∧ x.isExit = false

@[simp] theorem quiet_nil : Quiet [] := fun _ h => absurd h (List.not_mem_nil _)

@[simp] theorem quiet_append {fx gx : List Effect} : Quiet (fx ++ gx) ↔ Quiet fx ∧ Quiet gx := by
  simp only [Quiet, List.mem_append]
  exact ⟨fun h => ⟨fun x hx => h x (.inl hx), fun x hx => h x (.inr hx)⟩,
    fun h x hx => hx.elim (h.1 x) (h.2 x)⟩

@[simp] theorem quiet_cons {x : Effect} {fx : List Effect} :
    Quiet (x :: fx) ↔ (x.isWill = false ∧ x.isExit = false) ∧ Quiet fx := by
  simp [Quiet]

/-- Modelled from the spec: the client registry of the global state, each client id with its online flag. -/
structure Registry where
  clients : List (ClientId × Bool)
  deriving DecidableEq, Repr

/-- Modelled from the spec: `add_client`, `remove_client` and `offline_client` on the registry. -/
def Registry.apply (r : Registry) : Effect → Registry
  | .addClient id => ⟨(id, true) :: r.clients.filter (·.1 != id)⟩
  | .removeClient id _ => ⟨r.clients.filter (·.1 != id)⟩
  | .offlineClient id => ⟨r.clients.map fun c => (c.1, c.2 && c.1 != id)⟩
  | _ => r

/-- After `remove_client` or `offline_client` the registry no longer holds the client as online. -/
theorem Registry.apply_exit (r : Registry) {x : Effect} {id : ClientId}
    (hx : (∃ filters, x = .removeClient id filters) ∨ x = .offlineClient id) : (id, true) ∉ (r.apply x).clients := by
  rcases hx with ⟨_, rfl⟩ | rfl <;> simp [Registry.apply]

/-- What the online loop polls, one at a time: a decoded packet, a codec error, a message of either mailbox, the
inflight timer, a target's mailbox taking the broadcasts queued for it, or the outcome of flushing the write
queue. -/
inductive LoopEvent where
  | packet (encodeLen : Nat) (packetBody : Bytes) (packet : Packet)
  | decodeError (eof : Bool)
  | control (msg : ControlMessage)
  | normal (sender : ClientId) (msg : NormalMessage)
  | pendingsDue
  | broadcastReady (target : ClientId)
  | flushed (result : Except IoError Unit)

structure LoopState where
  session : Session
  writePackets : List Packet
  effects : List Effect

/-- How the loop ended: the session as it left it, `taken_over`, and the io error it returns. -/
structure LoopEnd where
  session : Session
  takenOver : Bool
  ioError : Option IoError
  effects : List Effect

/-- What a request's oneshot receiver gets: the dispatcher's last access if it is a reply, `none` where the
sender was dropped. -/
def received (trace : List Access) : Option Reply :=
  match trace.getLast? with
  | some (.reply r) => some r
  | _ => none

/-- `after_handle_packet` of `OnlineSession`: the packets it returns join the write queue. -/
def LoopState.afterHandlePacket (h : Handlers) (st : LoopState) : LoopState :=
  ⟨st.session.withData (h.afterHandlePacket st.session).2, st.writePackets ++ (h.afterHandlePacket st.session).1,
    st.effects⟩

/-- The broadcasts queued for `target`, in order. -/
def queuedFor (bp : List (ClientId × BroadcastPackets)) (target : ClientId) : List NormalMessage :=
  (bp.filter (·.1 == target)).flatMap (·.2.msgs)

section Step

variable {S5 : Type} (cfg : Config) (h : Handlers) (service : Option (Hook S5)) (h5 : V5Handlers S5)

/-- Modelled from the spec: one step of `OnlineLoop`, `.inl` going on, `.inr` stopping, `none` where
`handle_control` or `consume_broadcast` panics. A hook request goes to the hook service and the loop waits for its reply; with no hook
service it fails with `InvalidData`. -/
def loopStep (st : LoopState) : LoopEvent → Option (LoopState ⊕ LoopEnd)
  | .packet len body p =>
    match @handlePacket S5 cfg h st.session len body p st.writePackets with
    | (.error e, s, _) => some (.inr ⟨s, false, e, st.effects⟩)
    | (.ok none, s, wp) => some (.inl (LoopState.afterHandlePacket h ⟨s, wp, st.effects⟩))
    | (.ok (some req), s, _) =>
      match service with
      | none => some (.inr ⟨s, false, some .invalidData, st.effects⟩)
      | some hook =>
        match handleRequest hook h h5 req with
        | (trace, .v3 ctx) =>
          match received trace with
          | some (.result (.ok ())) =>
            some (.inl (LoopState.afterHandlePacket h ⟨ctx.session, ctx.writePackets, st.effects⟩))
          | some (.result (.error e)) => some (.inr ⟨ctx.session, false, e, st.effects⟩)
          | _ => some (.inr ⟨ctx.session, false, some .invalidData, st.effects⟩)
        | _ => some (.inr ⟨s, false, some .invalidData, st.effects⟩)
  | .decodeError eof =>
    match handleDecodeError st.session eof with
    | .error e => some (.inr ⟨st.session, false, e, st.effects⟩)
    | .ok () => some (.inl st)
  | .control msg =>
    match handleControl st.session msg with
    | none => none
    | some (_, some sender) =>
      some (.inr ⟨(buildState st.session).2, true, none,
        st.effects ++ [.handOver sender (buildState st.session).1]⟩)
    | some (stop, none) => if stop then some (.inr ⟨st.session, false, none, st.effects⟩) else some (.inl st)
  | .normal sender msg =>
    some (.inl ⟨(handleNormal h st.session sender msg).2,
      st.writePackets ++ ((handleNormal h st.session sender msg).1.bind Prod.snd).toList, st.effects⟩)
  | .pendingsDue =>
    some (.inl ⟨st.session.withData (h.handlePendings st.session).2,
      st.writePackets ++ (h.handlePendings st.session).1, st.effects⟩)
  | .broadcastReady target =>
    let sent := queuedFor st.session.broadcastPackets target
    (consumeBroadcast { st.session with broadcastPackets := st.session.broadcastPackets.filter (·.1 != target) }
        sent.length).map fun s =>
      .inl ⟨s, st.writePackets, st.effects ++ sent.map (.broadcast st.session.clientId target)⟩
  | .flushed (.ok ()) => some (.inl { st with writePackets := [] })
  | .flushed (.error e) => some (.inr ⟨st.session, false, some e, st.effects⟩)

/-- The loop over what it polls: `some` the way it ended, `none` while it runs or where it panicked. -/
def onlineLoop : LoopState → List LoopEvent → Option LoopEnd
  | _, [] => none
  | st, ev :: evs =>
    match loopStep cfg h service h5 st ev with
    | some (.inl st') => onlineLoop st' evs
    | some (.inr e) => some e
    | none => none

end Step

/-- `s` and `fx` can follow `st`: the fields only `handle_connect` sets are as they were, and the effects grew by
quiet ones. -/
def Follows (st : LoopState) (s : Session) (fx : List Effect) : Prop :=
  s.connectFields = st.session.connectFields ∧ ∃ t, fx = st.effects ++ t ∧ Quiet t

theorem Follows.refl (st : LoopState) : Follows st st.session st.effects := ⟨rfl, [], by simp⟩

theorem Follows.trans {st st' : LoopState} {s : Session} {fx : List Effect} (h₁ : Follows st st'.session st'.effects)
    (h₂ : Follows st' s fx) : Follows st s fx := by
  obtain ⟨hc₁, t₁, he₁, hq₁⟩ := h₁
  obtain ⟨hc₂, t₂, rfl, hq₂⟩ := h₂
  exact ⟨hc₂.trans hc₁, t₁ ++ t₂, by rw [he₁, List.append_assoc], quiet_append.2 ⟨hq₁, hq₂⟩⟩

theorem Follows.of_effects {st : LoopState} {s : Session} (hs : s.connectFields = st.session.connectFields) :
    Follows st s st.effects := ⟨hs, [], by simp, by simp⟩

def LoopState.Next (st : LoopState) : LoopState ⊕ LoopEnd → Prop
  | .inl st' => Follows st st'.session st'.effects
  | .inr e => Follows st e.session e.effects

section Step

variable {S5 : Type} (cfg : Config) (h : Handlers) (service : Option (Hook S5)) (h5 : V5Handlers S5)

/-- What a packet step can do: go on or stop with the session `handle_packet` left, or with the session a hook
request lending the loop's session and queue handed back. -/
theorem packetStep_cases (st : LoopState) (len : Nat) (body : Bytes) (p : Packet) {r : LoopState ⊕ LoopEnd}
    (hr : loopStep cfg h service h5 st (.packet len body p) = some r) :
    ∃ s wp, (s = (@handlePacket S5 cfg h st.session len body p st.writePackets).2.1 ∨
        ∃ hook req ctx, req.lentV3 = some ⟨st.session, st.writePackets⟩ ∧
          (handleRequest hook h h5 req).2 = .v3 ctx ∧ s = ctx.session) ∧
      (r = .inl (LoopState.afterHandlePacket h ⟨s, wp, st.effects⟩) ∨ ∃ io, r = .inr ⟨s, false, io, st.effects⟩) := by
  simp only [loopStep] at hr
  split at hr
  · rename_i hp; cases hr; exact ⟨_, [], .inl (by rw [hp]), .inr ⟨_, rfl⟩⟩
  · rename_i hp; cases hr; exact ⟨_, _, .inl (by rw [hp]), .inl rfl⟩
  · rename_i req s wp hp
    obtain ⟨hsw, hl⟩ := handlePacket_lends_untouched h cfg st.session len body p st.writePackets req (by rw [hp])
    have hs : s = (@handlePacket S5 cfg h st.session len body p st.writePackets).2.1 := by rw [hp]
    split at hr
    · cases hr; exact ⟨_, [], .inl hs, .inr ⟨_, rfl⟩⟩
    · split at hr
      · rename_i hook _ _ ctx hreq
        have hc : ∃ hook req ctx', req.lentV3 = some ⟨st.session, st.writePackets⟩ ∧
            (handleRequest hook h h5 req).2 = .v3 ctx' ∧ ctx.session = ctx'.session :=
          ⟨hook, req, ctx, hl, congrArg Prod.snd hreq, rfl⟩
        split at hr <;> cases hr
        · exact ⟨_, _, .inr hc, .inl rfl⟩
        all_goals exact ⟨_, [], .inr hc, .inr ⟨_, rfl⟩⟩
      · cases hr; exact ⟨_, [], .inl hs, .inr ⟨_, rfl⟩⟩

private theorem packet_next (st : LoopState) (len : Nat) (body : Bytes) (p : Packet) {r : LoopState ⊕ LoopEnd}
    (hr : loopStep cfg h service h5 st (.packet len body p) = some r) : st.Next r := by
  obtain ⟨s, wp, hs, hr⟩ := packetStep_cases cfg h service h5 st len body p hr
  have hc : s.connectFields = st.session.connectFields := by
    rcases hs with rfl | ⟨hook, req, ctx, hl, hreq, rfl⟩
    · exact handlePacket_connectFields h cfg st.session len body p st.writePackets
    · exact handleRequest_keeps hook h h5 (f := Session.connectFields) (fun _ _ => rfl) hl hreq
  rcases hr with rfl | ⟨io, rfl⟩
  · exact Follows.of_effects (by simpa [LoopState.afterHandlePacket] using hc)
  · exact Follows.of_effects hc

/-- One step keeps what only `handle_connect` sets and adds only quiet effects. -/
theorem loopStep_next (st : LoopState) (ev : LoopEvent) {r : LoopState ⊕ LoopEnd}
    (hr : loopStep cfg h service h5 st ev = some r) : st.Next r := by
  cases ev with
  | packet len body p => exact packet_next cfg h service h5 st len body p hr
  | decodeError eof =>
    simp only [loopStep] at hr
    split at hr <;> cases hr <;> exact Follows.refl st
  | control msg =>
    simp only [loopStep] at hr
    split at hr
    · cases hr
    · cases hr; exact ⟨rfl, _, rfl, by simp [Effect.isWill, Effect.isExit]⟩
    · split at hr <;> cases hr <;> exact Follows.refl st
  | normal sender msg => cases hr; exact Follows.of_effects rfl
  | pendingsDue => cases hr; exact Follows.of_effects rfl
  | broadcastReady target =>
    obtain ⟨s, hs, rfl⟩ := Option.map_eq_some'.1 hr
    simp only [consumeBroadcast, Option.ite_none_right_eq_some, Option.some.injEq] at hs
    obtain ⟨-, rfl⟩ := hs
    exact ⟨rfl, _, rfl, fun x hx => by
      obtain ⟨m, -, rfl⟩ := List.mem_map.1 hx
      exact ⟨rfl, rfl⟩⟩
  | flushed result =>
    rcases result with e | ⟨⟩ <;> cases hr <;> exact Follows.refl st

/-- Every run of the loop that ends keeps what only `handle_connect` sets and adds only broadcasts and hand-overs
to the effects. -/
theorem onlineLoop_follows (evs : List LoopEvent) (st : LoopState) {e : LoopEnd}
    (he : onlineLoop cfg h service h5 st evs = some e) : Follows st e.session e.effects := by
  induction evs generalizing st with
  | nil => cases he
  | cons ev evs ih =>
    simp only [onlineLoop] at he
    split at he
    · rename_i st' hs
      exact (loopStep_next cfg h service h5 st ev hs).trans (ih st' he)
    · rename_i e' hs
      cases he
      exact loopStep_next cfg h service h5 st ev hs
    · cases he

end Step

end Akasa.V3
