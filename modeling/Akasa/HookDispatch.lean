import Akasa.V3.Session

/-!
# The hook dispatcher

`handle_request` runs one `HookRequest` against the policy handler. A request about a session lends the
dispatcher a `LockedHookContext`: the session and its write queue, which the online loop leaves alone until the
reply arrives. Here the context travels by value and comes back with the reply, and `Dispatch.trace` records, in
order, every access to it, every callback of the handler and the reply. Each branch is written once, as its `Segs`:
the segments between its `.await`s, which `handle_request` runs back to back and the hook service's executor polls
one at a time. Every branch replies exactly once, in its last segment, after everything else; a v3 branch changes
its session only through the packet handlers, so it keeps whatever they keep.
-/

namespace Akasa.HookDispatch
open Akasa.Mqtt Akasa.V3

inductive HookConnectCode where
  | success | clientIdentifierNotValid | serverUnavailable | badUserNameOrPassword | notAuthorized
  deriving DecidableEq, Repr

def HookConnectCode.toV3Code : HookConnectCode → V3.ConnectReturnCode
  | .success => .accepted
  | .clientIdentifierNotValid => .identifierRejected
  | .serverUnavailable => .serverUnavailable
  | .badUserNameOrPassword => .badUserNameOrPassword
  | .notAuthorized => .notAuthorized

inductive HookPublishCode where
  | success | notAuthorized | topicNameInvalid | quotaExceeded
  deriving DecidableEq, Repr

def HookPublishCode.toV5PubackCode : HookPublishCode → V5.PubackReasonCode
  | .success => .success
  | .notAuthorized => .notAuthorized
  | .topicNameInvalid => .topicNameInvalid
  | .quotaExceeded => .quotaExceeded

def HookPublishCode.toV5PubrecCode : HookPublishCode → V5.PubrecReasonCode
  | .success => .success
  | .notAuthorized => .notAuthorized
  | .topicNameInvalid => .topicNameInvalid
  | .quotaExceeded => .quotaExceeded

/-- `PublishAction`, with the fields the v3 after-connect hook reads. -/
structure PublishAction where
  retain : Bool
  qos : QoS
  topicName : TopicName
  payload : Bytes
  deriving DecidableEq, Repr

inductive HookConnectedAction where
  | publish (action : PublishAction)
  | subscribe (topics : List (TopicFilter × QoS))
  | unsubscribe (topics : List TopicFilter)
  deriving DecidableEq, Repr

/-- `LockedHookContext`: the lent session and its write queue. -/
structure LockedHookContext (S P : Type) where
  session : S
  writePackets : List P
  deriving DecidableEq, Repr

/-- What a request's oneshot sender carries. -/
inductive Reply where
  | connectCode (r : Except IoError HookConnectCode)
  | actions (r : Except IoError (List HookConnectedAction))
  | result (r : Except (Option IoError) Unit)

/-- `HookRequest`, the reply channel left out: the reply is an entry of the dispatcher's trace. -/
inductive HookRequest (S5 : Type) where
  | v5BeforeConnect (peer : SocketAddr) (connect : V5.Connect)
  | v5AfterConnect (context : LockedHookContext S5 V5.Packet) (sessionPresent : Bool)
  | v5Publish (context : LockedHookContext S5 V5.Packet) (encodeLen : Nat) (packetBody : Bytes)
      (publish : V5.Publish)
  | v5Subscribe (context : LockedHookContext S5 V5.Packet) (encodeLen : Nat) (packetBody : Bytes)
      (subscribe : V5.Subscribe)
  | v5Unsubscribe (context : LockedHookContext S5 V5.Packet) (encodeLen : Nat) (packetBody : Bytes)
      (unsubscribe : V5.Unsubscribe)
  | v3BeforeConnect (peer : SocketAddr) (connect : V3.Connect)
  | v3AfterConnect (context : LockedHookContext Session V3.Packet) (sessionPresent : Bool)
  | v3Publish (context : LockedHookContext Session V3.Packet) (encodeLen : Nat) (packetBody : Bytes)
      (publish : V3.Publish)
  | v3Subscribe (context : LockedHookContext Session V3.Packet) (encodeLen : Nat) (packetBody : Bytes)
      (subscribe : V3.Subscribe)
  | v3Unsubscribe (context : LockedHookContext Session V3.Packet) (encodeLen : Nat) (packetBody : Bytes)
      (unsubscribe : V3.Unsubscribe)

/-- The policy handler. A `before_*` callback that takes `&mut` returns the packet as it left it; the `after_*`
callbacks return nothing the broker reads, and the trace records their calls. -/
structure Hook (S5 : Type) where
  v5BeforeConnect : SocketAddr → V5.Connect → HookConnectCode
  v5AfterConnect : S5 → Bool → List HookConnectedAction
  v5BeforePublish : S5 → Nat → Bytes → V5.Publish → HookPublishCode × V5.Publish
  v5BeforeSubscribe : S5 → Nat → Bytes → V5.Subscribe → V5.Subscribe
  v5BeforeUnsubscribe : S5 → Nat → Bytes → V5.Unsubscribe → V5.Unsubscribe
  v3BeforeConnect : SocketAddr → V3.Connect → HookConnectCode
  v3AfterConnect : Session → Bool → List HookConnectedAction
  v3BeforePublish : Session → Nat → Bytes → V3.Publish → HookPublishCode × V3.Publish
  v3BeforeSubscribe : Session → Nat → Bytes → V3.Subscribe → V3.Subscribe
  v3BeforeUnsubscribe : Session → Nat → Bytes → V3.Unsubscribe → V3.Unsubscribe

/-- The context a v3 request lends. -/
def HookRequest.lentV3 {S5 : Type} : HookRequest S5 → Option (LockedHookContext Session V3.Packet)
  | .v3AfterConnect ctx _ | .v3Publish ctx _ _ _ | .v3Subscribe ctx _ _ _ | .v3Unsubscribe ctx _ _ _ => some ctx
  | _ => none

/-- The handler that lets everything through unchanged and asks for no action. -/
def Hook.transparent {S5 : Type} : Hook S5 where
  v5BeforeConnect _ _ := .success
  v5AfterConnect _ _ := []
  v5BeforePublish _ _ _ p := (.success, p)
  v5BeforeSubscribe _ _ _ p := p
  v5BeforeUnsubscribe _ _ _ p := p
  v3BeforeConnect _ _ := .success
  v3AfterConnect _ _ := []
  v3BeforePublish _ _ _ p := (.success, p)
  v3BeforeSubscribe _ _ _ p := p
  v3BeforeUnsubscribe _ _ _ p := p

/-- The v5 packet handlers (`v5/packet/`, not in this excerpt), as given. -/
structure V5Handlers (S5 : Type) where
  handlePublish : S5 → V5.Publish → Except V5.Packet (Option V5.Packet) × S5
  handleSubscribe : S5 → V5.Subscribe → Except V5.Packet (List V5.Packet) × S5
  handleUnsubscribe : S5 → V5.Unsubscribe → V5.Packet × S5

/-- v5 handlers that store nothing and acknowledge what they are given. -/
def V5Handlers.stateless {S5 : Type} : V5Handlers S5 where
  handlePublish s _ := (.ok none, s)
  handleSubscribe s p := (.ok [.suback p.pid (p.topics.map fun _ => .grantedQoS0)], s)
  handleUnsubscribe s p := (.unsuback p.pid, s)

inductive Callback where
  | v5BeforeConnect | v5AfterConnect | v5BeforePublish | v5BeforeSubscribe
  | v5AfterSubscribe (codes : Option (List V5.SubscribeReasonCode))
  | v5BeforeUnsubscribe | v5AfterUnsubscribe
  | v3BeforeConnect | v3AfterConnect | v3BeforePublish | v3BeforeSubscribe
  | v3AfterSubscribe (codes : Option (List V3.SubscribeReturnCode))
  | v3BeforeUnsubscribe | v3AfterUnsubscribe

inductive Handler where
  | v5Publish | v5Subscribe | v5Unsubscribe | v3Publish | v3Subscribe | v3Unsubscribe

/-- One step of `handle_request` the lender could observe. -/
inductive Access where
  | sessionRef
  | getMut
  | hook (callback : Callback)
  | handle (handler : Handler)
  | push
  | reply (reply : Reply)

def Access.isReply : Access → Bool
  | .reply _ => true
  | _ => false

/-- An access that neither changes the session nor touches the write queue. -/
def Access.readsOnly : Access → Bool
  | .sessionRef | .hook _ | .reply _ => true
  | _ => false

structure Dispatch (S P : Type) where
  context : LockedHookContext S P
  trace : List Access

abbrev DispatchM (S P : Type) := StateM (Dispatch S P)

section Primitives

variable {S P α β : Type}

def record (a : Access) : DispatchM S P Unit :=
  modify fun d => { d with trace := d.trace ++ [a] }

/-- `context.session_ref()`. -/
def sessionRef : DispatchM S P Unit := record .sessionRef

/-- `context.get_mut()`. -/
def getMut : DispatchM S P Unit := record .getMut

/-- A callback of the handler, given the session as it is now. -/
def callHook (c : Callback) (f : S → α) : DispatchM S P α := do
  record (.hook c)
  return f (← get).context.session

/-- A packet handler run on the lent session. -/
def handle (x : Handler) (f : S → β × S) : DispatchM S P β := do
  record (.handle x)
  let d ← get
  let (b, s) := f d.context.session
  set { d with context := { d.context with session := s } }
  return b

/-- `write_packets.push_back(..)`. -/
def push (p : P) : DispatchM S P Unit :=
  modify fun d => ⟨{ d.context with writePackets := d.context.writePackets ++ [p] }, d.trace ++ [.push]⟩

def pushAll : List P → DispatchM S P Unit
  | [] => pure ()
  | p :: ps => do push p; pushAll ps

/-- `sender.send(..)`. -/
def send (r : Reply) : DispatchM S P Unit := record (.reply r)

@[simp] theorem run_bind (m : DispatchM S P α) (f : α → DispatchM S P β) (d : Dispatch S P) :
    (m >>= f).run d = (f (m.run d).1).run (m.run d).2 := rfl

@[simp] theorem run_pure (a : α) (d : Dispatch S P) : (pure a : DispatchM S P α).run d = (a, d) := rfl

@[simp] theorem record_run (a : Access) (d : Dispatch S P) :
    (record a).run d = ((), { d with trace := d.trace ++ [a] }) := rfl

@[simp] theorem sessionRef_run (d : Dispatch S P) :
    (sessionRef : DispatchM S P Unit).run d = ((), { d with trace := d.trace ++ [.sessionRef] }) := rfl

@[simp] theorem getMut_run (d : Dispatch S P) :
    (getMut : DispatchM S P Unit).run d = ((), { d with trace := d.trace ++ [.getMut] }) := rfl

@[simp] theorem callHook_run (c : Callback) (f : S → α) (d : Dispatch S P) :
    (callHook c f).run d = (f d.context.session, { d with trace := d.trace ++ [.hook c] }) := rfl

@[simp] theorem handle_run (x : Handler) (f : S → β × S) (d : Dispatch S P) :
    (handle x f : DispatchM S P β).run d =
      ((f d.context.session).1,
        ⟨{ d.context with session := (f d.context.session).2 }, d.trace ++ [.handle x]⟩) := rfl

@[simp] theorem push_run (p : P) (d : Dispatch S P) :
    (push p : DispatchM S P Unit).run d =
      ((), ⟨{ d.context with writePackets := d.context.writePackets ++ [p] }, d.trace ++ [.push]⟩) := rfl

@[simp] theorem pushAll_run (ps : List P) (d : Dispatch S P) :
    (pushAll ps : DispatchM S P Unit).run d =
      ((), ⟨{ d.context with writePackets := d.context.writePackets ++ ps }, d.trace ++ ps.map fun _ => .push⟩) := by
  induction ps generalizing d with
  | nil => simp [pushAll]
  | cons p ps ih => simp [pushAll, ih]

@[simp] theorem send_run (r : Reply) (d : Dispatch S P) :
    (send r : DispatchM S P Unit).run d = ((), { d with trace := d.trace ++ [.reply r] }) := rfl

end Primitives

/-- The codes of the last SUBACK among the packets, as the subscribe branches' loops leave `codes`. -/
def subackCodes {P C : Type} (suback? : P → Option (List C)) (packets : List P) : List C :=
  packets.foldl (fun codes p => (suback? p).getD codes) []

def V5.suback? : V5.Packet → Option (List V5.SubscribeReasonCode)
  | .suback _ topics => some topics
  | _ => none

def V3.suback? : V3.Packet → Option (List V3.SubscribeReturnCode)
  | .suback _ topics => some topics
  | _ => none

/-- A branch of `handle_request` cut at its `.await`s on the handler: each segment runs up to the next `.await`, and
what it returns picks the segments after it. -/
inductive Segs (S P : Type) : Type 1 where
  | last (m : DispatchM S P Unit)
  | seg {α : Type} (m : DispatchM S P α) (rest : α → Segs S P)

/-- The segments run back to back. -/
@[simp] def Segs.run {S P : Type} : Segs S P → DispatchM S P Unit
  | .last m => m
  | .seg m rest => m >>= fun a => (rest a).run

section Branches

variable {S5 : Type} (hook : Hook S5) (h : Handlers) (h5 : V5Handlers S5)

def v5BeforeConnect {S P : Type} (peer : SocketAddr) (connect : V5.Connect) : Segs S P :=
  .seg (callHook .v5BeforeConnect fun _ => hook.v5BeforeConnect peer connect) fun code =>
  .last (send (.connectCode (.ok code)))

def v5AfterConnect (sessionPresent : Bool) : Segs S5 V5.Packet :=
  .seg (do sessionRef; callHook .v5AfterConnect (hook.v5AfterConnect · sessionPresent)) fun actions =>
  .last (send (.actions (.ok actions)))

def v5Publish (encodeLen : Nat) (body : Bytes) (publish : V5.Publish) : Segs S5 V5.Packet :=
  .seg (do getMut; callHook .v5BeforePublish (hook.v5BeforePublish · encodeLen body publish)) fun (code, publish) =>
  .last do
    if code = .success then
      match ← handle .v5Publish (h5.handlePublish · publish) with
      | .ok none => pure ()
      | .ok (some packet) => push packet
      | .error errPkt => push errPkt
      send (.result (.ok ()))
    else
      match publish.qosPid with
      | .level0 => pure ()
      | .level1 pid => push (.puback pid code.toV5PubackCode)
      | .level2 pid => push (.pubrec pid code.toV5PubrecCode)
      send (.result (.ok ()))

def v5Subscribe (encodeLen : Nat) (body : Bytes) (subscribe : V5.Subscribe) : Segs S5 V5.Packet :=
  .seg (do getMut; callHook .v5BeforeSubscribe (hook.v5BeforeSubscribe · encodeLen body subscribe)) fun subscribe =>
  .seg (do
    let codes ← match ← handle .v5Subscribe (h5.handleSubscribe · subscribe) with
      | .ok packets => do pushAll packets; pure (some (subackCodes V5.suback? packets))
      | .error errPkt => do push errPkt; pure none
    callHook (.v5AfterSubscribe codes) fun _ => ()) fun _ =>
  .last (send (.result (.ok ())))

def v5Unsubscribe (encodeLen : Nat) (body : Bytes) (unsubscribe : V5.Unsubscribe) : Segs S5 V5.Packet :=
  .seg (do getMut; callHook .v5BeforeUnsubscribe (hook.v5BeforeUnsubscribe · encodeLen body unsubscribe))
    fun unsubscribe =>
  .seg (do
    let unsuback ← handle .v5Unsubscribe (h5.handleUnsubscribe · unsubscribe)
    push unsuback
    callHook .v5AfterUnsubscribe fun _ => ()) fun _ =>
  .last (send (.result (.ok ())))

def v3BeforeConnect {S P : Type} (peer : SocketAddr) (connect : V3.Connect) : Segs S P :=
  .seg (callHook .v3BeforeConnect fun _ => hook.v3BeforeConnect peer connect) fun code =>
  .last (send (.connectCode (.ok code)))

def v3AfterConnect (sessionPresent : Bool) : Segs Session V3.Packet :=
  .seg (do sessionRef; callHook .v3AfterConnect (hook.v3AfterConnect · sessionPresent)) fun actions =>
  .last (send (.actions (.ok actions)))

def v3Publish (encodeLen : Nat) (body : Bytes) (publish : V3.Publish) : Segs Session V3.Packet :=
  .seg (do getMut; callHook .v3BeforePublish (hook.v3BeforePublish · encodeLen body publish)) fun (code, publish) =>
  .last do
    if code = .success then
      match ← handle .v3Publish (fun s => Prod.map id s.withData (h.handlePublish s publish)) with
      | .ok packetOpt =>
        if let some packet := packetOpt then push packet
        send (.result (.ok ()))
      | .error err => send (.result (.error (some err)))
    else send (.result (.error (some .invalidData)))

/-- The reply after `v3_after_subscribe` depends on what the handler returned before it. -/
def v3Subscribe (encodeLen : Nat) (body : Bytes) (subscribe : V3.Subscribe) : Segs Session V3.Packet :=
  .seg (do getMut; callHook .v3BeforeSubscribe (hook.v3BeforeSubscribe · encodeLen body subscribe)) fun subscribe =>
  .seg (do
    match ← handle .v3Subscribe (fun s => Prod.map id s.withData (h.handleSubscribe s subscribe)) with
    | .ok packets =>
      pushAll packets
      callHook (.v3AfterSubscribe (some (subackCodes V3.suback? packets))) fun _ => ()
      return .ok ()
    | .error err =>
      callHook (.v3AfterSubscribe none) fun _ => ()
      return .error (some err)) fun result =>
  .last (send (.result result))

def v3Unsubscribe (encodeLen : Nat) (body : Bytes) (unsubscribe : V3.Unsubscribe) : Segs Session V3.Packet :=
  .seg (do getMut; callHook .v3BeforeUnsubscribe (hook.v3BeforeUnsubscribe · encodeLen body unsubscribe))
    fun unsubscribe =>
  .seg (do
    let unsuback ← handle .v3Unsubscribe (fun s => Prod.map id s.withData (h.handleUnsubscribe s unsubscribe))
    push unsuback
    callHook .v3AfterUnsubscribe fun _ => ()) fun _ =>
  .last (send (.result (.ok ())))

end Branches

/-- The context a request hands back with its reply. -/
inductive Returned (S5 : Type) where
  | none
  | v5 (context : LockedHookContext S5 V5.Packet)
  | v3 (context : LockedHookContext Session V3.Packet)

/-- Run a branch on a lent context: the trace it leaves and the context as it hands it back. -/
def runLent {S P : Type} (ctx : LockedHookContext S P) (m : DispatchM S P Unit) :
    List Access × LockedHookContext S P :=
  let d := (m.run ⟨ctx, []⟩).2
  (d.trace, d.context)

/-- `handle_request`: the request's branch, its segments run back to back. -/
def handleRequest {S5 : Type} (hook : Hook S5) (h : Handlers) (h5 : V5Handlers S5) :
    HookRequest S5 → List Access × Returned S5
  | .v5BeforeConnect peer connect =>
    ((runLent (⟨(), []⟩ : LockedHookContext Unit Unit) (v5BeforeConnect hook peer connect).run).1, .none)
  | .v5AfterConnect ctx present => Prod.map id .v5 (runLent ctx (v5AfterConnect hook present).run)
  | .v5Publish ctx len body p => Prod.map id .v5 (runLent ctx (v5Publish hook h5 len body p).run)
  | .v5Subscribe ctx len body p => Prod.map id .v5 (runLent ctx (v5Subscribe hook h5 len body p).run)
  | .v5Unsubscribe ctx len body p => Prod.map id .v5 (runLent ctx (v5Unsubscribe hook h5 len body p).run)
  | .v3BeforeConnect peer connect =>
    ((runLent (⟨(), []⟩ : LockedHookContext Unit Unit) (v3BeforeConnect hook peer connect).run).1, .none)
  | .v3AfterConnect ctx present => Prod.map id .v3 (runLent ctx (v3AfterConnect hook present).run)
  | .v3Publish ctx len body p => Prod.map id .v3 (runLent ctx (v3Publish hook h len body p).run)
  | .v3Subscribe ctx len body p => Prod.map id .v3 (runLent ctx (v3Subscribe hook h len body p).run)
  | .v3Unsubscribe ctx len body p => Prod.map id .v3 (runLent ctx (v3Unsubscribe hook h len body p).run)

section Discipline

variable {S P α β : Type}

/-- Accesses among which there is no reply. -/
def NoReply (t : List Access) : Prop := ∀ a ∈ t, a.isReply = false

theorem NoReply.append {t u : List Access} (ht : NoReply t) (hu : NoReply u) : NoReply (t ++ u) :=
  fun a ha => (List.mem_append.1 ha).elim (ht a) (hu a)

/-- `m` reads the context and not the trace, and adds its accesses after those already there. -/
def Appends (m : DispatchM S P α) : Prop :=
  ∀ ctx t, m.run ⟨ctx, t⟩ = ((m.run ⟨ctx, []⟩).1, ⟨(m.run ⟨ctx, []⟩).2.context, t ++ (m.run ⟨ctx, []⟩).2.trace⟩)

/-- `m` adds only accesses that are not replies. -/
def Silent (m : DispatchM S P α) : Prop := Appends m ∧ ∀ ctx, NoReply (m.run ⟨ctx, []⟩).2.trace

/-- `m` adds accesses that end with a reply, its only one. -/
def Replies (m : DispatchM S P Unit) : Prop :=
  Appends m ∧ ∀ ctx, ∃ t r, (m.run ⟨ctx, []⟩).2.trace = t ++ [.reply r] ∧ NoReply t

/-- After `m`, a continuation that appends runs as if from an empty trace, after what `m` added. -/
theorem run_bind_of_appends {m : DispatchM S P α} {f : α → DispatchM S P β} (hf : ∀ a, Appends (f a))
    (d : Dispatch S P) :
    (m >>= f).run d =
      (((f (m.run d).1).run ⟨(m.run d).2.context, []⟩).1, ⟨((f (m.run d).1).run ⟨(m.run d).2.context, []⟩).2.context,
        (m.run d).2.trace ++ ((f (m.run d).1).run ⟨(m.run d).2.context, []⟩).2.trace⟩) :=
  hf _ _ _

theorem Appends.bind {m : DispatchM S P α} {f : α → DispatchM S P β} (hm : Appends m) (hf : ∀ a, Appends (f a)) :
    Appends (m >>= f) := fun ctx t => by
  simp only [run_bind_of_appends hf, hm ctx t, List.append_assoc]

theorem Silent.bind {m : DispatchM S P α} {f : α → DispatchM S P β} (hm : Silent m) (hf : ∀ a, Silent (f a)) :
    Silent (m >>= f) :=
  ⟨hm.1.bind fun a => (hf a).1, fun ctx => by
    rw [run_bind_of_appends fun a => (hf a).1]
    exact (hm.2 ctx).append ((hf _).2 _)⟩

theorem Silent.replies_bind {m : DispatchM S P α} {f : α → DispatchM S P Unit} (hm : Silent m)
    (hf : ∀ a, Replies (f a)) : Replies (m >>= f) := by
  refine ⟨hm.1.bind fun a => (hf a).1, fun ctx => ?_⟩
  obtain ⟨t, r, ht, hn⟩ := (hf (m.run ⟨ctx, []⟩).1).2 (m.run ⟨ctx, []⟩).2.context
  exact ⟨_ ++ t, r, by rw [run_bind_of_appends fun a => (hf a).1, ht, List.append_assoc], (hm.2 ctx).append hn⟩

theorem silent_pure (a : α) : Silent (pure a : DispatchM S P α) :=
  ⟨fun _ _ => by simp, fun _ _ h => nomatch h⟩

theorem silent_record {a : Access} (ha : a.isReply = false) : Silent (record a : DispatchM S P Unit) :=
  ⟨fun _ _ => rfl, fun _ => by simpa [NoReply] using ha⟩

theorem silent_sessionRef : Silent (sessionRef : DispatchM S P Unit) := silent_record (a := .sessionRef) rfl

theorem silent_getMut : Silent (getMut : DispatchM S P Unit) := silent_record (a := .getMut) rfl

theorem silent_callHook (c : Callback) (f : S → α) : Silent (callHook c f : DispatchM S P α) :=
  ⟨fun _ _ => rfl, fun _ => by simp [NoReply, Access.isReply]⟩

theorem silent_handle (x : Handler) (f : S → β × S) : Silent (handle x f : DispatchM S P β) :=
  ⟨fun _ _ => rfl, fun _ => by simp [NoReply, Access.isReply]⟩

theorem silent_push (p : P) : Silent (push p : DispatchM S P Unit) :=
  ⟨fun _ _ => rfl, fun _ => by simp [NoReply, Access.isReply]⟩

theorem silent_pushAll (ps : List P) : Silent (pushAll ps : DispatchM S P Unit) := by
  induction ps with
  | nil => exact silent_pure ()
  | cons p ps ih => exact (silent_push p).bind fun _ => ih

theorem replies_send (r : Reply) : Replies (send r : DispatchM S P Unit) :=
  ⟨fun _ _ => rfl, fun _ => ⟨[], r, rfl, fun _ h => nomatch h⟩⟩

/-- A silent step followed by the reply. -/
theorem Silent.then_send {m : DispatchM S P α} (hm : Silent m) (r : Reply) : Replies (m >>= fun _ => send r) :=
  hm.replies_bind fun _ => replies_send r

/-- Every segment but the last is silent, and the last replies. -/
def Segs.RepliesLast : Segs S P → Prop
  | .last m => Replies m
  | .seg m rest => Silent m ∧ ∀ a, (rest a).RepliesLast

/-- Segments that reply last reply once when run back to back. -/
theorem Segs.RepliesLast.run : ∀ {sg : Segs S P}, sg.RepliesLast → Replies sg.run
  | .last _, h => h
  | .seg _ _, h => h.1.replies_bind fun a => (h.2 a).run

end Discipline

section BranchReplies

/-! Every branch replies in its last segment and in no other. -/

variable {S5 : Type} (hook : Hook S5) (h : Handlers) (h5 : V5Handlers S5) (len : Nat) (body : Bytes)

@[simp] theorem repliesLast_v5BeforeConnect {S P : Type} (peer : SocketAddr) (c : V5.Connect) :
    (v5BeforeConnect hook peer c : Segs S P).RepliesLast :=
  ⟨silent_callHook _ _, fun _ => replies_send _⟩

@[simp] theorem repliesLast_v5AfterConnect (present : Bool) : (v5AfterConnect hook present).RepliesLast :=
  ⟨silent_sessionRef.bind fun _ => silent_callHook _ _, fun _ => replies_send _⟩

@[simp] theorem repliesLast_v5Publish (p : V5.Publish) : (v5Publish hook h5 len body p).RepliesLast := by
  refine ⟨silent_getMut.bind fun _ => silent_callHook _ _, fun ⟨code, p⟩ => ?_⟩
  show Replies _
  split
  · refine (silent_handle _ _).replies_bind fun r => ?_
    split
    exacts [(silent_pure _).then_send _, (silent_push _).then_send _, (silent_push _).then_send _]
  · split
    exacts [(silent_pure _).then_send _, (silent_push _).then_send _, (silent_push _).then_send _]

@[simp] theorem repliesLast_v5Subscribe (p : V5.Subscribe) : (v5Subscribe hook h5 len body p).RepliesLast := by
  refine ⟨silent_getMut.bind fun _ => silent_callHook _ _, fun _ =>
    ⟨(silent_handle _ _).bind fun r => ?_, fun _ => replies_send _⟩⟩
  split
  exacts [(silent_pushAll _).bind fun _ => (silent_pure _).bind fun _ => silent_callHook _ _,
    (silent_push _).bind fun _ => (silent_pure _).bind fun _ => silent_callHook _ _]

@[simp] theorem repliesLast_v5Unsubscribe (p : V5.Unsubscribe) : (v5Unsubscribe hook h5 len body p).RepliesLast :=
  ⟨silent_getMut.bind fun _ => silent_callHook _ _, fun _ =>
    ⟨(silent_handle _ _).bind fun _ => (silent_push _).bind fun _ => silent_callHook _ _, fun _ => replies_send _⟩⟩

@[simp] theorem repliesLast_v3BeforeConnect {S P : Type} (peer : SocketAddr) (c : V3.Connect) :
    (v3BeforeConnect hook peer c : Segs S P).RepliesLast :=
  ⟨silent_callHook _ _, fun _ => replies_send _⟩

@[simp] theorem repliesLast_v3AfterConnect (present : Bool) : (v3AfterConnect hook present).RepliesLast :=
  ⟨silent_sessionRef.bind fun _ => silent_callHook _ _, fun _ => replies_send _⟩

@[simp] theorem repliesLast_v3Publish (p : V3.Publish) : (v3Publish hook h len body p).RepliesLast := by
  refine ⟨silent_getMut.bind fun _ => silent_callHook _ _, fun ⟨code, p⟩ => ?_⟩
  show Replies _
  split
  · refine (silent_handle _ _).replies_bind fun r => ?_
    split
    · split
      exacts [(silent_push _).then_send _, (silent_pure _).then_send _]
    · exact replies_send _
  · exact replies_send _

@[simp] theorem repliesLast_v3Subscribe (p : V3.Subscribe) : (v3Subscribe hook h len body p).RepliesLast := by
  refine ⟨silent_getMut.bind fun _ => silent_callHook _ _, fun _ =>
    ⟨(silent_handle _ _).bind fun r => ?_, fun _ => replies_send _⟩⟩
  split
  exacts [(silent_pushAll _).bind fun _ => (silent_callHook _ _).bind fun _ => silent_pure _,
    (silent_callHook _ _).bind fun _ => silent_pure _]

@[simp] theorem repliesLast_v3Unsubscribe (p : V3.Unsubscribe) : (v3Unsubscribe hook h len body p).RepliesLast :=
  ⟨silent_getMut.bind fun _ => silent_callHook _ _, fun _ =>
    ⟨(silent_handle _ _).bind fun _ => (silent_push _).bind fun _ => silent_callHook _ _, fun _ => replies_send _⟩⟩

end BranchReplies

section Request

variable {S5 : Type} (hook : Hook S5) (h : Handlers) (h5 : V5Handlers S5)

theorem Replies.runLent {S P : Type} {m : DispatchM S P Unit} (hm : Replies m) (ctx : LockedHookContext S P) :
    ∃ pre r, (runLent ctx m).1 = pre ++ [.reply r] ∧ ∀ a ∈ pre, a.isReply = false :=
  hm.2 ctx

@[simp] theorem runLent_v5BeforeConnect {S P : Type} (ctx : LockedHookContext S P) (peer : SocketAddr)
    (c : V5.Connect) :
    runLent ctx (v5BeforeConnect hook peer c).run =
      ([.hook .v5BeforeConnect, .reply (.connectCode (.ok (hook.v5BeforeConnect peer c)))], ctx) := rfl

@[simp] theorem runLent_v5AfterConnect (ctx : LockedHookContext S5 V5.Packet) (present : Bool) :
    runLent ctx (v5AfterConnect hook present).run =
      ([.sessionRef, .hook .v5AfterConnect, .reply (.actions (.ok (hook.v5AfterConnect ctx.session present)))],
        ctx) := rfl

@[simp] theorem runLent_v3BeforeConnect {S P : Type} (ctx : LockedHookContext S P) (peer : SocketAddr)
    (c : V3.Connect) :
    runLent ctx (v3BeforeConnect hook peer c).run =
      ([.hook .v3BeforeConnect, .reply (.connectCode (.ok (hook.v3BeforeConnect peer c)))], ctx) := rfl

@[simp] theorem runLent_v3AfterConnect (ctx : LockedHookContext Session V3.Packet) (present : Bool) :
    runLent ctx (v3AfterConnect hook present).run =
      ([.sessionRef, .hook .v3AfterConnect, .reply (.actions (.ok (hook.v3AfterConnect ctx.session present)))],
        ctx) := rfl

/-- Every request gets exactly one reply, after every access to its context and every callback; the
after-connect requests only read the session, and hand their context back as they got it. -/
theorem handleRequest_replies_once (req : HookRequest S5) :
    (∃ pre r, (handleRequest hook h h5 req).1 = pre ++ [.reply r] ∧ ∀ a ∈ pre, a.isReply = false) ∧
    (∀ ctx present, req = .v5AfterConnect ctx present →
      (∀ a ∈ (handleRequest hook h h5 req).1, a.readsOnly) ∧ (handleRequest hook h h5 req).2 = .v5 ctx) ∧
    (∀ ctx present, req = .v3AfterConnect ctx present →
      (∀ a ∈ (handleRequest hook h h5 req).1, a.readsOnly) ∧ (handleRequest hook h h5 req).2 = .v3 ctx) := by
  refine ⟨?_, ?_, ?_⟩
  · cases req <;> exact (Segs.RepliesLast.run (by simp)).runLent _
  · rintro ctx present rfl
    simp only [handleRequest, runLent_v5AfterConnect, Prod.map]
    simp [Access.readsOnly]
  · rintro ctx present rfl
    simp only [handleRequest, runLent_v3AfterConnect, Prod.map]
    simp [Access.readsOnly]

end Request

section Frames

variable {S P α β : Type} (I : S → Prop)

/-- `m` keeps the invariant `I` of the lent session. -/
def Preserves (m : DispatchM S P α) : Prop := ∀ d, I d.context.session → I (m.run d).2.context.session

variable {I}

theorem Preserves.bind {m : DispatchM S P α} {g : α → DispatchM S P β} (hm : Preserves I m)
    (hg : ∀ a, Preserves I (g a)) : Preserves I (m >>= g) :=
  fun d hd => hg (m.run d).1 (m.run d).2 (hm d hd)

theorem preserves_pure (a : α) : Preserves I (pure a : DispatchM S P α) := fun _ hd => hd

theorem preserves_record (a : Access) : Preserves I (record a : DispatchM S P Unit) := fun _ hd => hd

theorem preserves_callHook (c : Callback) (g : S → α) : Preserves I (callHook c g : DispatchM S P α) :=
  fun _ hd => hd

theorem preserves_push (p : P) : Preserves I (push p : DispatchM S P Unit) := fun _ hd => hd

theorem preserves_pushAll (ps : List P) : Preserves I (pushAll ps : DispatchM S P Unit) := fun _ hd => by simpa

theorem preserves_send (r : Reply) : Preserves I (send r : DispatchM S P Unit) := fun _ hd => hd

theorem preserves_handle (x : Handler) {g : S → β × S} (hg : ∀ s, I s → I (g s).2) :
    Preserves I (handle x g : DispatchM S P β) :=
  fun d => hg d.context.session

end Frames

/-- The v3 packet handlers a hook request can call keep the invariant `I` of the session. -/
structure RequestsKeep (h : Handlers) (I : Session → Prop) : Prop where
  publish : ∀ s p, I s → I (s.withData (h.handlePublish s p).2)
  subscribe : ∀ s p, I s → I (s.withData (h.handleSubscribe s p).2)
  unsubscribe : ∀ s p, I s → I (s.withData (h.handleUnsubscribe s p).2)

/-- Every handler keeps a view of the session that `with_data` cannot change. -/
theorem RequestsKeep.frame (h : Handlers) {γ : Type} {f : Session → γ} (hf : ∀ s d, f (s.withData d) = f s)
    (c : γ) : RequestsKeep h fun s => f s = c :=
  ⟨fun s _ hs => (hf s _).trans hs, fun s _ hs => (hf s _).trans hs, fun s _ hs => (hf s _).trans hs⟩

section BranchFrames

variable {S5 : Type} (hook : Hook S5) (h : Handlers) (len : Nat) (body : Bytes) {I : Session → Prop}
  (hk : RequestsKeep h I)
include hk

theorem preserves_v3Publish (p : V3.Publish) : Preserves I (v3Publish hook h len body p).run := by
  refine ((preserves_record _).bind fun _ => preserves_callHook _ _).bind fun ⟨_, _⟩ => ?_
  simp only [Segs.run]
  split
  · refine (preserves_handle _ fun s => hk.publish s _).bind fun r => ?_
    split
    · split
      exacts [(preserves_push _).bind fun _ => preserves_send _, (preserves_pure _).bind fun _ => preserves_send _]
    · exact preserves_send _
  · exact preserves_send _

theorem preserves_v3Subscribe (p : V3.Subscribe) : Preserves I (v3Subscribe hook h len body p).run := by
  refine ((preserves_record _).bind fun _ => preserves_callHook _ _).bind fun _ =>
    ((preserves_handle _ fun s => hk.subscribe s _).bind fun r => ?_).bind fun _ => preserves_send _
  split
  · exact (preserves_pushAll _).bind fun _ => (preserves_callHook _ _).bind fun _ => preserves_pure _
  · exact (preserves_callHook _ _).bind fun _ => preserves_pure _

theorem preserves_v3Unsubscribe (p : V3.Unsubscribe) : Preserves I (v3Unsubscribe hook h len body p).run :=
  ((preserves_record _).bind fun _ => preserves_callHook _ _).bind fun _ =>
    ((preserves_handle _ fun s => hk.unsubscribe s _).bind fun _ => (preserves_push _).bind fun _ =>
      preserves_callHook _ _).bind fun _ => preserves_send _

end BranchFrames

/-- A v3 request hands back a session that keeps every invariant its handlers keep. -/
theorem handleRequest_preserves {S5 : Type} (hook : Hook S5) (h : Handlers) (h5 : V5Handlers S5)
    {I : Session → Prop} (hk : RequestsKeep h I) {req : HookRequest S5}
    {ctx ctx' : LockedHookContext Session V3.Packet} (hl : req.lentV3 = some ctx)
    (hr : (handleRequest hook h h5 req).2 = .v3 ctx') (hI : I ctx.session) : I ctx'.session := by
  cases req <;> simp only [HookRequest.lentV3, reduceCtorEq, Option.some.injEq] at hl <;> subst hl <;>
    simp only [handleRequest, Prod.map, runLent, Returned.v3.injEq] at hr <;> subst hr
  case v3AfterConnect => exact hI
  case v3Publish len body p => exact preserves_v3Publish hook h len body hk p ⟨_, []⟩ hI
  case v3Subscribe len body p => exact preserves_v3Subscribe hook h len body hk p ⟨_, []⟩ hI
  case v3Unsubscribe len body p => exact preserves_v3Unsubscribe hook h len body hk p ⟨_, []⟩ hI

/-- A v3 request hands back its session changed only by the packet handlers: every view of the session that the
handlers cannot change (the client id, the connection flags, the will) is as it was lent. -/
theorem handleRequest_keeps {S5 γ : Type} (hook : Hook S5) (h : Handlers) (h5 : V5Handlers S5)
    {f : Session → γ} (hf : ∀ s d, f (s.withData d) = f s) {req : HookRequest S5}
    {ctx ctx' : LockedHookContext Session V3.Packet} (hl : req.lentV3 = some ctx)
    (hr : (handleRequest hook h h5 req).2 = .v3 ctx') : f ctx'.session = f ctx.session :=
  handleRequest_preserves hook h h5 (RequestsKeep.frame h hf _) hl hr rfl

section Veto

variable {S5 : Type} (hook : Hook S5) (h : Handlers) (h5 : V5Handlers S5)

/-- A v5 publish that `v5_before_publish` vetoes never reaches the publish handler and leaves the session as it was;
it replies `Ok(())` and acknowledges the publish as the hook left it, nothing at QoS 0. -/
theorem handleRequest_v5Publish_veto (ctx : LockedHookContext S5 V5.Packet) (len : Nat) (body : Bytes)
    (p p' : V5.Publish) (code : HookPublishCode) (hc : hook.v5BeforePublish ctx.session len body p = (code, p'))
    (hv : code ≠ .success) :
    handleRequest hook h h5 (.v5Publish ctx len body p) =
      (let ack : List V5.Packet := match p'.qosPid with
        | .level0 => []
        | .level1 pid => [.puback pid code.toV5PubackCode]
        | .level2 pid => [.pubrec pid code.toV5PubrecCode]
      ([.getMut, .hook .v5BeforePublish] ++ ack.map (fun _ => .push) ++ [.reply (.result (.ok ()))],
        .v5 ⟨ctx.session, ctx.writePackets ++ ack⟩)) := by
  rcases hq : p'.qosPid with _ | pid | pid <;> simp [handleRequest, runLent, v5Publish, hc, hv, hq]

/-- A v3 publish that `v3_before_publish` vetoes writes nothing, keeps the session and replies `InvalidData`. -/
theorem handleRequest_v3Publish_veto (ctx : LockedHookContext Session V3.Packet) (len : Nat) (body : Bytes)
    (p p' : V3.Publish) (code : HookPublishCode) (hc : hook.v3BeforePublish ctx.session len body p = (code, p'))
    (hv : code ≠ .success) :
    handleRequest hook h h5 (.v3Publish ctx len body p) =
      ([.getMut, .hook .v3BeforePublish, .reply (.result (.error (some .invalidData)))], .v3 ctx) := by
  simp [handleRequest, runLent, v3Publish, hc, hv]

/-- A vetoed publish never reaches the publish handler and leaves the session as it was. v5 replies `Ok(())` and
acknowledges the publish as the hook left it, nothing at QoS 0; v3 writes nothing and replies `InvalidData`. Each
half asks only its own callback to veto. -/
theorem handleRequest_publish_veto :
    (∀ (ctx : LockedHookContext S5 V5.Packet) (len : Nat) (body : Bytes) (p p' : V5.Publish) (code : HookPublishCode),
      hook.v5BeforePublish ctx.session len body p = (code, p') → code ≠ .success →
      handleRequest hook h h5 (.v5Publish ctx len body p) =
        (let ack : List V5.Packet := match p'.qosPid with
          | .level0 => []
          | .level1 pid => [.puback pid code.toV5PubackCode]
          | .level2 pid => [.pubrec pid code.toV5PubrecCode]
        ([.getMut, .hook .v5BeforePublish] ++ ack.map (fun _ => .push) ++ [.reply (.result (.ok ()))],
          .v5 ⟨ctx.session, ctx.writePackets ++ ack⟩))) ∧
    (∀ (ctx : LockedHookContext Session V3.Packet) (len : Nat) (body : Bytes) (p p' : V3.Publish)
        (code : HookPublishCode),
      hook.v3BeforePublish ctx.session len body p = (code, p') → code ≠ .success →
      handleRequest hook h h5 (.v3Publish ctx len body p) =
        ([.getMut, .hook .v3BeforePublish, .reply (.result (.error (some .invalidData)))], .v3 ctx)) :=
  ⟨handleRequest_v5Publish_veto hook h h5, handleRequest_v3Publish_veto hook h h5⟩

/-- The handler that refuses every publish as not authorised, unchanged. -/
def denyPublish : Hook S5 :=
  { Hook.transparent with
    v5BeforePublish := fun _ _ _ p => (.notAuthorized, p)
    v3BeforePublish := fun _ _ _ p => (.notAuthorized, p) }

/-- The v5 half at a QoS 1 publish, and the v3 half at a hook that vetoes only v3 publishes. -/
theorem handleRequest_publish_veto_denied :
    handleRequest denyPublish Handlers.stateless V5Handlers.stateless
        (.v5Publish ⟨(), []⟩ 9 [] ⟨false, false, .level1 .default, "t", []⟩) =
      ([.getMut, .hook .v5BeforePublish, .push, .reply (.result (.ok ()))],
        .v5 ⟨(), [.puback .default .notAuthorized]⟩) ∧
    handleRequest { Hook.transparent with v3BeforePublish := fun _ _ _ p => (.notAuthorized, p) } Handlers.stateless
        (V5Handlers.stateless : V5Handlers Unit)
        (.v3Publish ⟨Session.new (.ofHooks ⟨false, false, false, false⟩), []⟩ 9 [] ⟨false, false, .level1 .default, "t", []⟩) =
      ([.getMut, .hook .v3BeforePublish, .reply (.result (.error (some .invalidData)))],
        .v3 ⟨Session.new (.ofHooks ⟨false, false, false, false⟩), []⟩) :=
  ⟨(handleRequest_publish_veto denyPublish _ _).1 _ 9 [] _ _ _ rfl (by decide),
    (handleRequest_publish_veto _ _ _).2 _ 9 [] _ _ _ rfl (by decide)⟩

/-- A QoS 1 publish whose hook rewrites it to QoS 0 before vetoing gets no PUBACK. -/
theorem v5Publish_veto_acks_rewritten_qos :
    (handleRequest
        ({ Hook.transparent with v5BeforePublish := fun _ _ _ p => (.notAuthorized, { p with qosPid := .level0 }) } :
          Hook Unit)
        Handlers.stateless V5Handlers.stateless
        (.v5Publish ⟨(), []⟩ 9 [] ⟨false, false, .level1 .default, "t", []⟩)).2 ≠
      .v5 ⟨(), [.puback .default HookPublishCode.notAuthorized.toV5PubackCode]⟩ := by
  simp [handleRequest, runLent, v5Publish]

end Veto

end Akasa.HookDispatch
