import Akasa.V3.OnlineLoop

/-!
# `handle_online`

The connection's life up to the offline loop: decode the CONNECT, run the before-connect hook, `handle_connect`,
the after-connect hook and the post-connect writes, then the online loop, then the will, the drain of the
broadcast queues, and the registry's `remove_client` or `offline_client`.

A will is handed to `send_publish` at most once, never after a takeover or a DISCONNECT, and otherwise exactly
once and before the registry hears that the client is gone. Every run that reaches the end of the online loop
without a takeover tells the registry exactly once. The returns before the loop do not: they leave the client
registered as online. The drain sends the queued broadcasts without lowering their count.
-/

namespace Akasa.V3
open Akasa.Mqtt Akasa.Mqtt.V3 Akasa.HookDispatch

/-- Modelled from the spec: what `handle_connect` (v3/packet/connect.rs, not in this excerpt) decides. An accepted
client is registered, and `add_client` hands it the state of the session it took over, if any; a refused one gets a
CONNACK with an error code; `failed` is an io error before the registry hears of the client. -/
inductive ConnectOutcome where
  | accepted (clientId : ClientId) (takenOver : Option SessionState)
  | rejected
  | failed (e : IoError)

/-- Modelled from the spec: a persistent CONNECT adopts the QoS flows, subscriptions and broadcast queues of the
session it took over, as `build_state` exported them. -/
def Session.adopt (s : Session) (st : SessionState) : Session :=
  { s with
    serverPacketId := st.serverPacketId
    pendingPackets := st.pendingPackets
    qos2Pids := st.qos2Pids
    subscribes := st.subscribes
    broadcastPacketsCnt := st.broadcastPacketsCnt
    broadcastPackets := st.broadcastPackets }

/-- Modelled from the spec: `handle_connect`. Accepting registers the client and takes the CONNECT's client
id, protocol, clean-session flag and will; it returns `session_present`, whether a persistent CONNECT adopted the
state of a session it took over. -/
def handleConnect (out : ConnectOutcome) (s : Session) (c : Connect) : Except IoError Bool × Session × List Effect :=
  match out with
  | .accepted id taken =>
    let s := { s with
      clientId := id
      protocol := c.protocol
      connected := true
      cleanSession := c.cleanSession
      lastWill := c.lastWill }
    match (if c.cleanSession then none else taken) with
    | none => (.ok false, s, [.addClient id])
    | some st => (.ok true, s.adopt st, [.addClient id])
  | .rejected => (.ok false, s, [])
  | .failed e => (.error e, s, [])

/-- An accepted client is registered, and its session is connected with the CONNECT's clean-session flag and will. -/
theorem handleConnect_accepted (id : ClientId) (taken : Option SessionState) (s : Session) (c : Connect) :
    ∃ present s', handleConnect (.accepted id taken) s c = (.ok present, s', [.addClient id]) ∧
      s'.connected = true ∧ s'.connectFields = (id, c.cleanSession, c.lastWill) := by
  simp only [handleConnect]
  split <;> exact ⟨_, _, rfl, rfl, rfl⟩

/-- What `handle_online` waits on besides the session: the CONNECT as decoded (`none` for a codec error or the
connect timeout), the hook service, `handle_connect`'s decision, the outcome of the `i`-th write after connecting,
and what the online loop polls. -/
structure Wire (S5 : Type) where
  connect : Option Connect
  hookService : Option (Hook S5)
  accept : ConnectOutcome
  writeOut : Nat → Except IoError Unit
  events : List LoopEvent

/-- `write_packet(..)?` over the packets, the `i`-th write answered by `out i`. -/
def writeAll (out : Nat → Except IoError Unit) : Nat → List Packet → Except IoError Unit
  | _, [] => .ok ()
  | i, _ :: ps =>
    match out i with
    | .error e => .error e
    | .ok () => writeAll out (i + 1) ps

/-- The `SendPublish` of a publish that the broker itself originates, with the length of its PUBLISH; `none` where
that PUBLISH does not encode. -/
def sendPublishOf (qos : QoS) (retain encodeRetain : Bool) (topicName : TopicName) (payload : Bytes) :
    Option SendPublish :=
  (publishOf qos encodeRetain topicName payload).encodeLen.map fun encodeLen =>
    ⟨topicName, retain, qos, payload, encodeLen⟩

/-- What `handle_will` hands to `send_publish`: the will's PUBLISH is encoded without the retain flag. -/
def willPublish (w : LastWill) : Option SendPublish := sendPublishOf w.qos w.retain false w.topicName w.message

section Phases

variable {S5 : Type} (h : Handlers) (h5 : V5Handlers S5)

/-- `before_connect_hook`: the connection goes on only if the hook accepts the CONNECT. -/
def beforeConnectHook (service : Option (Hook S5)) (peer : SocketAddr) (c : Connect) : Except IoError Unit :=
  match service with
  | none => .error .invalidData
  | some hook =>
    match received (handleRequest hook h h5 (.v3BeforeConnect peer c)).1 with
    | some (.connectCode (.ok code)) => if code.toV3Code ≠ .accepted then .error .invalidData else .ok ()
    | some (.connectCode (.error e)) => .error e
    | _ => .error .invalidData

/-- The actions of the after-connect hook, in order. An action PUBLISH that does not encode ends them with
`InvalidData`; the SUBACK of an action SUBSCRIBE is only logged. -/
def runActions : Session → List HookConnectedAction → Except IoError Session × List Effect
  | s, [] => (.ok s, [])
  | s, .publish a :: actions =>
    match sendPublishOf a.qos a.retain a.retain a.topicName a.payload with
    | none => (.error .invalidData, [])
    | some sp =>
      let r := runActions { s with toBroadcast := h.sendPublish s sp } actions
      (r.1, .publishAction sp :: r.2)
  | s, .subscribe topics :: actions => runActions (s.withData (h.handleSubscribe s ⟨.default, topics⟩).2) actions
  | s, .unsubscribe topics :: actions =>
    runActions (s.withData (h.handleUnsubscribe s ⟨.default, topics⟩).2) actions

/-- `after_connect_hook`: the session is lent with a temporary write queue, and the hook's actions run on it. -/
def afterConnectHook (service : Option (Hook S5)) (s : Session) (present : Bool) :
    Except IoError Session × List Effect :=
  match service with
  | none => (.error .invalidData, [])
  | some hook =>
    match handleRequest hook h h5 (.v3AfterConnect ⟨s, []⟩ present) with
    | (trace, .v3 ctx) =>
      match received trace with
      | some (.actions (.ok actions)) => runActions h ctx.session actions
      | some (.actions (.error e)) => (.error e, [])
      | _ => (.error .invalidData, [])
    | _ => (.error .invalidData, [])

/-- `handle_online` up to the online loop: the session the loop starts with, or the error it returns. -/
def connectPhase (cfg : Config) (w : Wire S5) (peer : SocketAddr) : Except IoError Session × List Effect :=
  match w.connect with
  | none => (.error .invalidData, [])
  | some c =>
    match (if cfg.hook.enableBeforeConnect then beforeConnectHook h h5 w.hookService peer c else .ok ()) with
    | .error e => (.error e, [])
    | .ok () =>
      match handleConnect w.accept (Session.new cfg) c with
      | (.error e, _, fx) => (.error e, fx)
      | (.ok present, s, fx) =>
        if !s.connected then (.error .invalidData, fx) else
        match (if cfg.hook.enableBeforeConnect then afterConnectHook h h5 w.hookService s present
            else (.ok s, [])) with
        | (.error e, fx') => (.error e, fx ++ fx')
        | (.ok s, fx') =>
          match writeAll w.writeOut 0 (h.afterHandlePacket s).1 with
          | .error e => (.error e, fx ++ fx')
          | .ok () => (.ok (s.withData (h.afterHandlePacket s).2), fx ++ fx')

end Phases

/-- `handle_will`: take the will and hand it to `send_publish`. -/
def handleWill (h : Handlers) (s : Session) : Except IoError Session × List Effect :=
  match s.lastWill with
  | none => (.ok s, [])
  | some w =>
    match willPublish w with
    | none => (.error .invalidData, [])
    | some sp =>
      (.ok { s with lastWill := none, toBroadcast := h.sendPublish { s with lastWill := none } sp },
        [.publishWill sp])

/-- `session.broadcast_packets.drain()`: every queued message goes to its target's mailbox and the queues are
emptied. The count is left as it was. -/
def drainBroadcast (s : Session) : Session × List Effect :=
  ({ s with broadcastPackets := [] },
    s.broadcastPackets.flatMap fun (target, info) => info.msgs.map (.broadcast s.clientId target))

/-- `handle_online` after the online loop. -/
def afterLoop (h : Handlers) (e : LoopEnd) : Except IoError (Option Session) × List Effect :=
  if e.takenOver then (.ok none, e.effects) else
  match (if !e.session.disconnected then handleWill h e.session else (.ok e.session, [])) with
  | (.error err, fx) => (.error err, e.effects ++ fx)
  | (.ok s, fx) =>
    if (drainBroadcast s).1.cleanSession then
      (match e.ioError with | some err => .error err | none => .ok none,
        e.effects ++ fx ++ (drainBroadcast s).2 ++
          [.removeClient (drainBroadcast s).1.clientId ((drainBroadcast s).1.subscribes.map Prod.fst)])
    else
      (.ok (some { (drainBroadcast s).1 with connected := false }),
        e.effects ++ fx ++ (drainBroadcast s).2 ++ [.offlineClient (drainBroadcast s).1.clientId])

/-- `handle_online`: `some` what it returns with the effects of the whole run, `none` while the online loop runs
or where it panicked. -/
def handleOnline {S5 : Type} (cfg : Config) (h : Handlers) (h5 : V5Handlers S5) (w : Wire S5) (peer : SocketAddr) :
    Option (Except IoError (Option Session) × List Effect) :=
  match connectPhase h h5 cfg w peer with
  | (.error e, fx) => some (.error e, fx)
  | (.ok s, fx) => (onlineLoop cfg h w.hookService h5 ⟨s, [], fx⟩ w.events).map (afterLoop h)

theorem Quiet.countP_isWill {fx : List Effect} (hq : Quiet fx) : fx.countP Effect.isWill = 0 :=
  List.countP_eq_zero.2 fun x hx => by simp [(hq x hx).1]

/-- A will's PUBLISH is shorter than the CONNECT that carried it, so `handle_will` never fails on it. -/
theorem willPublish_isSome (c : Connect) {w : LastWill} (hw : c.lastWill = some w) : (willPublish w).isSome := by
  simpa [willPublish, sendPublishOf] using c.will_encodeLen_isSome hw false

/-- A clean-session CONNECT from client `"c"` with a will on topic `"gone"`. -/
def willConnect : Connect := ⟨.V311, true, 60, "c", some ⟨.level1, false, "gone", [0]⟩, none, none, by decide⟩

theorem willPublish_isSome_willConnect :
    willConnect.lastWill = some ⟨.level1, false, "gone", [0]⟩ ∧ (willPublish ⟨.level1, false, "gone", [0]⟩).isSome :=
  ⟨rfl, willPublish_isSome willConnect rfl⟩

/-- The wills `handle_online` publishes after a loop that ended with `s`. -/
def willEffects (s : Session) : List Effect :=
  if s.disconnected then [] else ((s.lastWill.bind willPublish).map .publishWill).toList

theorem drainBroadcast_quiet (s : Session) : Quiet (drainBroadcast s).2 := by
  simp only [Quiet, drainBroadcast, List.mem_flatMap, List.mem_map]
  rintro x ⟨_, -, m, -, rfl⟩
  exact ⟨rfl, rfl⟩

section Phases

variable {S5 : Type} (h : Handlers) (h5 : V5Handlers S5)

theorem runActions_spec (actions : List HookConnectedAction) (s : Session) :
    Quiet (runActions h s actions).2 ∧
      ∀ s', (runActions h s actions).1 = .ok s' → s'.connectFields = s.connectFields := by
  induction actions generalizing s with
  | nil => exact ⟨quiet_nil, fun s' hs => by cases hs; rfl⟩
  | cons a actions ih =>
    cases a with
    | publish a =>
      simp only [runActions]
      split
      · exact ⟨quiet_nil, fun _ hs => by cases hs⟩
      · obtain ⟨hq, hs⟩ := ih { s with toBroadcast := h.sendPublish s _ }
        exact ⟨quiet_cons.2 ⟨⟨rfl, rfl⟩, hq⟩, hs⟩
    | subscribe topics => exact ih _
    | unsubscribe topics => exact ih _

/-- The after-connect step of `handle_online`, whether or not the hook is switched on. -/
theorem afterConnectHook_spec {b : Bool} {service : Option (Hook S5)} {s : Session} {present : Bool}
    {r : Except IoError Session} {fx : List Effect}
    (hr : (if b then afterConnectHook h h5 service s present else (.ok s, [])) = (r, fx)) :
    Quiet fx ∧ ∀ s', r = .ok s' → s'.connectFields = s.connectFields := by
  cases b
  · cases hr; exact ⟨quiet_nil, fun _ hs => by cases hs; rfl⟩
  cases service with
  | none => cases hr; exact ⟨quiet_nil, fun _ hs => by cases hs⟩
  | some hook =>
    simp only [if_true, afterConnectHook, handleRequest, runLent_v3AfterConnect, Prod.map, received, id,
      List.getLast?_cons_cons, List.getLast?_singleton] at hr
    obtain ⟨hq, hs⟩ := runActions_spec h (hook.v3AfterConnect s present) s
    rw [hr] at hq hs
    exact ⟨hq, hs⟩

/-- The connect phase adds only quiet effects, and a session that enters the loop carries the client id
`handle_connect` registered and the CONNECT's clean-session flag and will. -/
theorem connectPhase_spec (cfg : Config) (w : Wire S5) (peer : SocketAddr) :
    Quiet (connectPhase h h5 cfg w peer).2 ∧
      ∀ s, (connectPhase h h5 cfg w peer).1 = .ok s →
        ∃ c id taken, w.connect = some c ∧ w.accept = .accepted id taken ∧
          .addClient id ∈ (connectPhase h h5 cfg w peer).2 ∧ s.connectFields = (id, c.cleanSession, c.lastWill) := by
  unfold connectPhase
  rcases hc : w.connect with _ | c
  · exact ⟨quiet_nil, fun _ hs => by cases hs⟩
  dsimp only
  split
  · exact ⟨quiet_nil, fun _ hs => by cases hs⟩
  rcases ha : w.accept with ⟨id, taken⟩ | _ | e
  · have hq : Quiet [.addClient id] := by simp [Effect.isWill, Effect.isExit]
    obtain ⟨present, s₁, hhc, hconn, hcf⟩ := handleConnect_accepted id taken (Session.new cfg) c
    simp only [hhc, hconn, Bool.not_true, Bool.false_eq_true, if_false]
    split
    · exact ⟨quiet_append.2 ⟨hq, (afterConnectHook_spec h h5 ‹_›).1⟩, fun _ hs => by cases hs⟩
    · rename_i s' fx' he
      obtain ⟨hq', hs'⟩ := afterConnectHook_spec h h5 he
      split
      · exact ⟨quiet_append.2 ⟨hq, hq'⟩, fun _ hs => by cases hs⟩
      · exact ⟨quiet_append.2 ⟨hq, hq'⟩, fun _ hs => by
          cases hs
          exact ⟨c, id, taken, rfl, rfl, by simp, by simpa [Session.connectFields, ← hcf] using hs' s' rfl⟩⟩
  · simp [handleConnect, Session.new]
  · simp [handleConnect]

end Phases

/-- After a loop that did not end by takeover, and whose session's will encodes, `handle_online` adds the will's
publish, then quiet effects, then exactly one exit for the session's client: `remove_client` for a clean session,
`offline_client` for a persistent one, whose session goes to `handle_offline`. -/
theorem afterLoop_effects (h : Handlers) (e : LoopEnd) (he : e.takenOver = false)
    (hw : ∀ w, e.session.lastWill = some w → (willPublish w).isSome) :
    ∃ mid x, (afterLoop h e).2 = e.effects ++ willEffects e.session ++ mid ++ [x] ∧ Quiet mid ∧
      (e.session.cleanSession = true → ∃ filters, x = .removeClient e.session.clientId filters) ∧
      (e.session.cleanSession = false → x = .offlineClient e.session.clientId ∧
        ∃ s, (afterLoop h e).1 = .ok (some s) ∧ s.connected = false) := by
  have hstep : ∃ s, (if !e.session.disconnected then handleWill h e.session else (.ok e.session, [])) =
      (.ok s, willEffects e.session) ∧ s.clientId = e.session.clientId ∧ s.cleanSession = e.session.cleanSession := by
    cases hd : e.session.disconnected
    · rcases hl : e.session.lastWill with _ | w
      · exact ⟨e.session, by simp [handleWill, willEffects, hd, hl], rfl, rfl⟩
      · obtain ⟨sp, hsp⟩ := Option.isSome_iff_exists.1 (hw w hl)
        exact ⟨{ e.session with lastWill := none, toBroadcast := h.sendPublish { e.session with lastWill := none } sp },
          by simp [handleWill, willEffects, hd, hl, hsp], rfl, rfl⟩
    · exact ⟨e.session, by simp [willEffects, hd], rfl, rfl⟩
  obtain ⟨s, hs, hid, hclean⟩ := hstep
  have hdc : (drainBroadcast s).1.cleanSession = e.session.cleanSession := hclean
  simp only [afterLoop, he, Bool.false_eq_true, if_false, hs]
  split
  · exact ⟨_, _, rfl, drainBroadcast_quiet s,
      fun _ => ⟨s.subscribes.map Prod.fst, by simp [drainBroadcast, hid]⟩, fun hc => by simp_all⟩
  · exact ⟨_, _, rfl, drainBroadcast_quiet s, fun hc => by simp_all,
      fun _ => ⟨by simp [drainBroadcast, hid], _, rfl, rfl⟩⟩

theorem willEffects_countP_le (s : Session) : (willEffects s).countP Effect.isWill ≤ 1 := by
  unfold willEffects
  split
  · simp
  · rcases s.lastWill.bind willPublish with _ | sp <;> simp [Effect.isWill]

theorem willEffects_isExit (s : Session) : ∀ y ∈ willEffects s, y.isExit = false := by
  unfold willEffects
  split
  · simp
  · rcases s.lastWill.bind willPublish with _ | sp <;> simp [Effect.isExit]

theorem Effect.exit_of_client {x : Effect} {id : ClientId}
    (hx : x = .offlineClient id ∨ ∃ filters, x = .removeClient id filters) : x.isWill = false ∧ x.isExit = true := by
  rcases hx with rfl | ⟨_, rfl⟩ <;> exact ⟨rfl, rfl⟩

/-- The run's end, as the online loop and `afterLoop` give it: the effects before the will, the will, then quiet
effects and one exit for the client `handle_connect` registered. -/
private theorem handleOnline_ok {S5 : Type} {cfg : Config} {h : Handlers} {h5 : V5Handlers S5} {w : Wire S5}
    {peer : SocketAddr} {s : Session} {fx₀ : List Effect} {e : LoopEnd} {r : Except IoError (Option Session)}
    {fx : List Effect} (hcp : connectPhase h h5 cfg w peer = (.ok s, fx₀))
    (he : onlineLoop cfg h w.hookService h5 ⟨s, [], fx₀⟩ w.events = some e) (hfx : afterLoop h e = (r, fx)) :
    ∃ c id, w.connect = some c ∧ .addClient id ∈ e.effects ∧ e.session.clientId = id ∧
      e.session.lastWill = c.lastWill ∧ Quiet e.effects ∧
      (e.takenOver = true → fx = e.effects) ∧
      (e.takenOver = false → ∃ mid x, fx = e.effects ++ willEffects e.session ++ mid ++ [x] ∧ Quiet mid ∧
        (x.isWill = false ∧ x.isExit = true) ∧
        (e.session.cleanSession = true → ∃ filters, x = .removeClient id filters) ∧
        (e.session.cleanSession = false → x = .offlineClient id ∧ ∃ s', r = .ok (some s') ∧ s'.connected = false)) := by
  obtain ⟨hq₀, hok⟩ := connectPhase_spec h h5 cfg w peer
  rw [hcp] at hq₀ hok
  obtain ⟨c, id, taken, hc, -, hadd, hs⟩ := hok s rfl
  obtain ⟨hfc, t, het, hqt⟩ := onlineLoop_follows cfg h w.hookService h5 w.events _ he
  have hfe : e.session.connectFields = (id, c.cleanSession, c.lastWill) := hfc.trans hs
  have hid : e.session.clientId = id := congrArg Prod.fst hfe
  have hwill : e.session.lastWill = c.lastWill := congrArg (fun p => p.2.2) hfe
  refine ⟨c, id, hc, by simp [het, hadd], hid, hwill, het ▸ quiet_append.2 ⟨hq₀, hqt⟩, fun htk => ?_, fun htk => ?_⟩
  · simp only [afterLoop, htk, if_true, Prod.mk.injEq] at hfx
    exact hfx.2.symm
  · obtain ⟨mid, x, hfx', hmid, hcl, hps⟩ :=
      afterLoop_effects h e htk fun w hw => willPublish_isSome c (hwill ▸ hw)
    rw [hfx] at hfx' hps
    rw [hid] at hcl hps
    have hx : x.isWill = false ∧ x.isExit = true := by
      cases hclean : e.session.cleanSession
      exacts [Effect.exit_of_client (.inl (hps hclean).1), Effect.exit_of_client (.inr (hcl hclean))]
    exact ⟨mid, x, hfx', hmid, hx, hcl, hps⟩

/-- `handle_online` hands a will to `send_publish` at most once; never after a takeover or a DISCONNECT; and
otherwise, where the CONNECT carried a will, exactly once and before the registry hears that the client is gone. -/
theorem handleOnline_wills {S5 : Type} (cfg : Config) (h : Handlers) (h5 : V5Handlers S5) (w : Wire S5)
    (peer : SocketAddr) {r : Except IoError (Option Session)} {fx : List Effect}
    (hrun : handleOnline cfg h h5 w peer = some (r, fx)) :
    fx.countP Effect.isWill ≤ 1 ∧
    ∀ s fx₀ e, connectPhase h h5 cfg w peer = (.ok s, fx₀) →
      onlineLoop cfg h w.hookService h5 ⟨s, [], fx₀⟩ w.events = some e →
      ((e.takenOver = true ∨ e.session.disconnected = true) → fx.countP Effect.isWill = 0) ∧
      (e.takenOver = false → e.session.disconnected = false → ∀ c wl, w.connect = some c → c.lastWill = some wl →
        ∃ sp pre post, willPublish wl = some sp ∧ fx = pre ++ .publishWill sp :: post ∧ Quiet pre ∧
          (∀ x ∈ post, x.isWill = false) ∧ ∃ x ∈ post, x.isExit = true) := by
  unfold handleOnline at hrun
  rcases hcp : connectPhase h h5 cfg w peer with ⟨_ | s, fx₀⟩
  · have hq₀ := (connectPhase_spec h h5 cfg w peer).1
    rw [hcp] at hrun hq₀
    cases hrun
    exact ⟨by simp [hq₀.countP_isWill], fun _ _ _ h => by cases h⟩
  rw [hcp] at hrun
  obtain ⟨e, he, hfx⟩ := Option.map_eq_some'.1 hrun
  obtain ⟨c, id, hc, -, -, hwill, hq, htaken, hrest⟩ := handleOnline_ok hcp he hfx
  have hcount : fx.countP Effect.isWill ≤ 1 ∧ (e.takenOver = true ∨ e.session.disconnected = true →
      fx.countP Effect.isWill = 0) := by
    cases htk : e.takenOver
    · obtain ⟨mid, x, rfl, hmid, ⟨hxw, -⟩, -⟩ := hrest htk
      have hx : [x].countP Effect.isWill = 0 := by simp [hxw]
      simp only [List.countP_append, hq.countP_isWill, hmid.countP_isWill, hx, Nat.zero_add, Nat.add_zero]
      refine ⟨willEffects_countP_le _, fun hd => ?_⟩
      simp [willEffects, hd.resolve_left Bool.false_ne_true]
    · rw [htaken htk]
      exact ⟨by simp [hq.countP_isWill], fun _ => hq.countP_isWill⟩
  refine ⟨hcount.1, fun s' fx₀' e' hcp' he' => ?_⟩
  obtain ⟨rfl, rfl⟩ : s = s' ∧ fx₀ = fx₀' := by simpa using hcp'
  rw [he] at he'
  cases he'
  refine ⟨hcount.2, fun htk hd c' wl hc' hwl => ?_⟩
  rw [hc] at hc'
  cases hc'
  obtain ⟨mid, x, rfl, hmid, ⟨hxw, hxe⟩, -⟩ := hrest htk
  obtain ⟨sp, hsp⟩ := Option.isSome_iff_exists.1 (willPublish_isSome c hwl)
  refine ⟨sp, e.effects, mid ++ [x], hsp, by simp [willEffects, hd, hwill, hwl, hsp], hq,
    fun y hy => ?_, x, by simp, hxe⟩
  rcases List.mem_append.1 hy with hy | hy
  · exact (hmid y hy).1
  · rw [List.mem_singleton.1 hy]; exact hxw

/-- A clean-session CONNECT from client `"c"`, without a will. -/
def cleanConnect : Connect := ⟨.V311, true, 60, "c", none, none, none, by decide⟩

/-- A persistent-session CONNECT from client `"c"`, without a will. -/
def persistentConnect : Connect := ⟨.V311, false, 60, "c", none, none, none, by decide⟩

/-- Handlers whose `handle_publish` queues each publish for `target`'s mailbox, as `send_publish` does when that
mailbox is full. -/
def Handlers.queueing (target : ClientId) : Handlers :=
  { Handlers.stateless with
    handlePublish := fun s p => (.ok none,
      { s.toSessionData with
        broadcastPacketsCnt := s.broadcastPacketsCnt + 1
        broadcastPackets :=
          (target, ⟨[.publishV3 p.topicName .level0 p.retain p.payload p.topicName .level0 0]⟩) :: s.broadcastPackets }) }

/-- A persistent client publishes once, its broadcast is queued, and the connection drops. -/
def queuedThenEof : Wire Unit :=
  ⟨some persistentConnect, none, .accepted 1 none, fun _ => .ok (),
    [.packet 20 [] (.publish ⟨false, false, .level0, "t", []⟩), .decodeError true]⟩

/-- After the drain the persistent session's broadcast count still counts the message it sent: the session
`handle_online` hands to `handle_offline`, and the state `build_state` would export from it, break the invariant
that held when the loop ended. -/
theorem handleOnline_drain_keeps_count :
    ∃ s₀ fx₀ e s fx, connectPhase (Handlers.queueing 2) .stateless (.ofHooks ⟨false, false, false, false⟩)
        queuedThenEof ⟨"peer", 1883⟩ = (.ok s₀, fx₀) ∧
      onlineLoop (.ofHooks ⟨false, false, false, false⟩) (Handlers.queueing 2) none (V5Handlers.stateless : V5Handlers Unit) ⟨s₀, [], fx₀⟩
        queuedThenEof.events = some e ∧
      e.session.toBroadcast.Inv ∧ e.takenOver = false ∧ e.session.cleanSession = false ∧
      handleOnline (.ofHooks ⟨false, false, false, false⟩) (Handlers.queueing 2) .stateless queuedThenEof
        ⟨"peer", 1883⟩ = some (.ok (some s), fx) ∧
      ¬ s.toBroadcast.Inv ∧ ¬ (buildState s).1.Inv :=
  ⟨_, _, _, _, _, rfl, rfl, by decide, rfl, rfl, rfl, by decide, by decide⟩

/-- Handlers whose `after_handle_packet` resends every pending publish, with the dup flag set. -/
def Handlers.resendPending : Handlers :=
  { Handlers.stateless with
    afterHandlePacket := fun s =>
      (s.pendingPackets.packets.map fun (pid, p) =>
          .publish ⟨true, p.retain, match p.qos with | .level0 => .level0 | .level1 => .level1 pid | .level2 => .level2 pid,
            p.topicName, p.payload⟩,
        s.toSessionData) }

/-- What the offline session of client 1 hands to the connection taking it over: a QoS 1 publish awaiting its
PUBACK. -/
def pendingState : SessionState :=
  ⟨1, .V311, .default, ⟨20, 1000, 15, [(.default, ⟨"t", .level1, false, []⟩)]⟩, [], [], 0, []⟩

/-- Client 1 reconnects and takes over its persistent session, `after_handle_packet` resends the pending publish, and
that write fails: `handle_online` returns the error with neither `remove_client` nor `offline_client`, and the
registry keeps the client as online. -/
theorem handleOnline_write_error_keeps_client :
    handleOnline (.ofHooks ⟨false, false, false, false⟩) Handlers.resendPending (V5Handlers.stateless : V5Handlers Unit)
        ⟨some persistentConnect, none, .accepted 1 (some pendingState), fun _ => .error (.other "BrokenPipe"), []⟩
        ⟨"peer", 1883⟩ =
      some (.error (.other "BrokenPipe"), [.addClient 1]) ∧
    [Effect.addClient 1].foldl Registry.apply ⟨[]⟩ = ⟨[(1, true)]⟩ :=
  ⟨rfl, rfl⟩

end Akasa.V3
