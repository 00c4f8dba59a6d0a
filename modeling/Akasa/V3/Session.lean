import Akasa.Mqtt

/-!
# The v3 session and what it does without the socket

`Session` keeps the fields of the v3 session that the functions of `v3/message.rs` read or write, grouped by
who may change them. The packet handlers of `v3/packet/` are not in this excerpt: `Handlers` takes them as given,
each returning only the part of the session it owns, so none of them can touch the connection flags, the client
id or the last will.
-/

namespace Akasa.V3
open Akasa.Mqtt Akasa.Mqtt.V3

structure PubPacket where
  topicName : TopicName
  qos : QoS
  retain : Bool
  payload : Bytes
  deriving DecidableEq, Repr

structure PendingPackets where
  maxInflight : Nat
  maxInMemPending : Nat
  inflightTimeout : Nat
  packets : List (Pid × PubPacket)
  deriving DecidableEq, Repr

inductive NormalMessage where
  | publishV3 (topicName : TopicName) (qos : QoS) (retain : Bool) (payload : Bytes)
      (subscribeFilter : TopicFilter) (subscribeQos : QoS) (encodeLen : Nat)
  | publishV5 (topicName : TopicName) (qos : QoS) (retain : Bool) (payload : Bytes)
      (subscribeFilter : TopicFilter) (subscribeQos : QoS) (encodeLen : Nat)
  deriving DecidableEq, Repr

structure BroadcastPackets where
  msgs : List NormalMessage
  deriving DecidableEq, Repr

/-- `ControlMessage`. `sender` is the reply channel of the connection taking the session over; the two timer
messages are sent to v5 sessions only. -/
inductive ControlMessage where
  | onlineV3 (sender : Nat)
  | onlineV5 (sender : Nat)
  | kick (reason : String)
  | willDelayReached
  | sessionExpired
  deriving DecidableEq, Repr

structure RecvPublish where
  topicName : TopicName
  qos : QoS
  retain : Bool
  payload : Bytes
  subscribeFilter : TopicFilter
  subscribeQos : QoS
  deriving DecidableEq, Repr

structure SendPublish where
  topicName : TopicName
  retain : Bool
  qos : QoS
  payload : Bytes
  encodeLen : Nat
  deriving DecidableEq, Repr

structure Pending where
  serverPacketId : Pid
  pendingPackets : PendingPackets
  qos2Pids : List Pid
  deriving DecidableEq, Repr

structure Broadcast where
  broadcastPacketsMax : Nat
  broadcastPacketsCnt : Nat
  broadcastPackets : List (ClientId × BroadcastPackets)
  deriving DecidableEq, Repr

structure SessionData extends Pending, Broadcast where
  subscribes : List (TopicFilter × QoS)
  deriving DecidableEq, Repr

/-- The v3 `Session`: what the packet handlers own (the QoS flows of `Pending`, the broadcast queues of `Broadcast`
with their count, the subscriptions), and what only the connection's own functions set. -/
structure Session extends SessionData where
  clientId : ClientId
  protocol : Protocol
  connected : Bool
  disconnected : Bool
  cleanSession : Bool
  lastWill : Option LastWill
  deriving DecidableEq, Repr

/-- `SessionState`, what a persistent session hands to the connection that takes it over. -/
structure SessionState where
  clientId : ClientId
  protocol : Protocol
  serverPacketId : Pid
  pendingPackets : PendingPackets
  qos2Pids : List Pid
  subscribes : List (TopicFilter × QoS)
  broadcastPacketsCnt : Nat
  broadcastPackets : List (ClientId × BroadcastPackets)
  deriving DecidableEq, Repr

/-- The functions of `v3/packet/` the core calls, as given. -/
structure Handlers where
  handlePublish : Session → Publish → Except IoError (Option Packet) × SessionData
  handlePuback : Session → Pid → SessionData
  handlePubrec : Session → Pid → Packet × SessionData
  handlePubrel : Session → Pid → Except (Option IoError) Packet × SessionData
  handlePubcomp : Session → Pid → SessionData
  handleSubscribe : Session → Subscribe → Except IoError (List Packet) × SessionData
  handleUnsubscribe : Session → Unsubscribe → Packet × SessionData
  recvPublish : Session → RecvPublish → Option (QoS × Option Packet) × Pending
  sendPublish : Session → SendPublish → Broadcast
  afterHandlePacket : Session → List Packet × SessionData
  handlePendings : Session → List Packet × SessionData

def Handlers.stateless : Handlers where
  handlePublish s _ := (.ok none, s.toSessionData)
  handlePuback s _ := s.toSessionData
  handlePubrec s pid := (.pubrel pid, s.toSessionData)
  handlePubrel s pid := (.ok (.pubcomp pid), s.toSessionData)
  handlePubcomp s _ := s.toSessionData
  handleSubscribe s p := (.ok [.suback p.pid (p.topics.map fun _ => .maxLevel0)], s.toSessionData)
  handleUnsubscribe s p := (.unsuback p.pid, s.toSessionData)
  recvPublish s _ := (none, s.toPending)
  sendPublish s _ := s.toBroadcast
  afterHandlePacket s := ([], s.toSessionData)
  handlePendings s := ([], s.toSessionData)

def Session.withData (s : Session) (d : SessionData) : Session := { s with toSessionData := d }

/-- What only `handle_connect` sets: the client id, the clean-session flag and the will. -/
def Session.connectFields (s : Session) : ClientId × Bool × Option LastWill := (s.clientId, s.cleanSession, s.lastWill)

@[simp] theorem Session.withData_connectFields (s : Session) (d : SessionData) :
    (s.withData d).connectFields = s.connectFields := rfl

def queued (bp : List (ClientId × BroadcastPackets)) : Nat :=
  (bp.map fun p => p.2.msgs.length).sum

@[simp] theorem queued_nil : queued [] = 0 := rfl

@[simp] theorem queued_cons (t : ClientId) (b : BroadcastPackets) (bp : List (ClientId × BroadcastPackets)) :
    queued ((t, b) :: bp) = b.msgs.length + queued bp := rfl

/-- The broadcast counter counts exactly the queued messages. -/
def Broadcast.Inv (b : Broadcast) : Prop := b.broadcastPacketsCnt = queued b.broadcastPackets

instance (b : Broadcast) : Decidable b.Inv := inferInstanceAs (Decidable (_ = _))

def SessionState.Inv (s : SessionState) : Prop := s.broadcastPacketsCnt = queued s.broadcastPackets

instance (s : SessionState) : Decidable s.Inv := inferInstanceAs (Decidable (_ = _))

structure HookConfig where
  enableBeforeConnect : Bool
  enablePublish : Bool
  enableSubscribe : Bool
  enableUnsubscribe : Bool
  deriving DecidableEq, Repr

structure Config where
  maxPacketSizeServer : Nat
  maxInflightClient : Nat
  maxInMemPendingMessages : Nat
  inflightTimeout : Nat
  hook : HookConfig
  deriving DecidableEq, Repr

/-- A configuration to evaluate the model with: the spec's typical limits, the hook switches as given. -/
def Config.ofHooks (hook : HookConfig) : Config := ⟨maxRemainingLen, 20, 1000, 15, hook⟩

/-- Modelled from the spec: `PendingPackets::new` makes an empty queue with the bounds it is given. -/
def PendingPackets.new (maxInflight maxInMemPending inflightTimeout : Nat) : PendingPackets :=
  ⟨maxInflight, maxInMemPending, inflightTimeout, []⟩

/-- Modelled from the spec: `Session::new` of v3 (v3/session.rs, not in this excerpt), initialising each field as
v5's `Session::new` initialises the field of the same name; the client id is `ClientId::max_value()` of a `u64`
until `handle_connect` assigns one. -/
def Session.new (config : Config) : Session where
  serverPacketId := .default
  pendingPackets := .new config.maxInflightClient config.maxInMemPendingMessages config.inflightTimeout
  qos2Pids := []
  broadcastPacketsMax := 10
  broadcastPacketsCnt := 0
  broadcastPackets := []
  subscribes := []
  clientId := 2 ^ 64 - 1
  protocol := .V311
  connected := false
  disconnected := false
  cleanSession := true
  lastWill := none

/-- `build_state`: swap the session's QoS flows, subscriptions and broadcast queues out into the exported state,
leaving empty ones behind. -/
def buildState (s : Session) : SessionState × Session :=
  (⟨s.clientId, s.protocol, s.serverPacketId, s.pendingPackets, s.qos2Pids, s.subscribes,
      s.broadcastPacketsCnt, s.broadcastPackets⟩,
    { s with pendingPackets := .new 0 0 0, qos2Pids := [], subscribes := [], broadcastPackets := [] })

/-- `consume_broadcast`: `broadcast_packets_cnt -= count`, a `usize` subtraction that panics below zero (`none`). -/
def consumeBroadcast (s : Session) (count : Nat) : Option Session :=
  if count ≤ s.broadcastPacketsCnt then some { s with broadcastPacketsCnt := s.broadcastPacketsCnt - count } else none

def handleDecodeError (s : Session) (eof : Bool) : Except (Option IoError) Unit :=
  if eof then
    if !s.disconnected then .error (some .unexpectedEof) else .error none
  else .error (some .invalidData)

/-- Modelled from the spec: `handle_disconnect` (v3/packet/connect.rs, not in this excerpt) sets the flag that
suppresses the will. -/
def handleDisconnect (s : Session) : Session := { s with disconnected := true }

/-- `handle_control`: whether the loop should stop, and the channel to hand the session to on takeover; `none`
is the `unreachable!()` of the two v5 timer messages. -/
def handleControl (s : Session) : ControlMessage → Option (Bool × Option Nat)
  | .onlineV3 sender => some (false, some sender)
  | .onlineV5 _ => some (false, none)
  | .kick _ => some (!s.disconnected, none)
  | .willDelayReached | .sessionExpired => none

def handleNormal (h : Handlers) (s : Session) (_sender : ClientId) (msg : NormalMessage) :
    Option (QoS × Option Packet) × Session :=
  let recv := match msg with
    | .publishV3 topicName qos retain payload subscribeFilter subscribeQos _
    | .publishV5 topicName qos retain payload subscribeFilter subscribeQos _ =>
      (⟨topicName, qos, retain, payload, subscribeFilter, subscribeQos⟩ : RecvPublish)
  let (r, p) := h.recvPublish s recv
  (r, { s with toPending := p })

end Akasa.V3
