import Mathlib.Tactic.Ring

/-!
# The MQTT values the broker core passes around

The codec is the `mqtt_proto` crate, outside this repository: it hands the core typed packets and an
`encode_len`. This file keeps the fields the modelled functions read or pass on, and the codec's length rule
where a result of the core depends on it (a will's PUBLISH always encodes, since its CONNECT did).
-/

namespace Akasa.Mqtt

/-- The `std::io::ErrorKind` of an error the core returns or receives from its socket. -/
inductive IoError where
  | invalidData | unexpectedEof
  | other (kind : String)
  deriving DecidableEq, Repr

/-- `SocketAddr` of a peer, only handed to the hook handler. -/
structure SocketAddr where
  host : String
  port : Nat
  deriving DecidableEq, Repr

abbrev ClientId := Nat
abbrev TopicName := String
abbrev TopicFilter := String
abbrev Bytes := List UInt8

inductive Protocol where
  | V310 | V311 | V500
  deriving DecidableEq, Repr

inductive QoS where
  | level0 | level1 | level2
  deriving DecidableEq, Repr

/-- A packet identifier: `Pid(NonZeroU16)`. -/
structure Pid where
  value : Nat
  pos : 0 < value
  lt : value < 65536
  deriving DecidableEq

instance : Repr Pid := ⟨fun p _ => repr p.value⟩

/-- `Pid::default()`. -/
def Pid.default : Pid := ⟨1, by decide, by decide⟩

inductive QosPid where
  | level0
  | level1 (pid : Pid)
  | level2 (pid : Pid)
  deriving DecidableEq, Repr

/-- The `qos_pid` a publish of QoS `qos` gets before a pid is assigned (`Pid::default()`). -/
def QoS.defaultPid : QoS → QosPid
  | .level0 => .level0
  | .level1 => .level1 .default
  | .level2 => .level2 .default

namespace V3

structure LastWill where
  qos : QoS
  retain : Bool
  topicName : TopicName
  message : Bytes
  deriving DecidableEq, Repr

structure Publish where
  dup : Bool
  retain : Bool
  qosPid : QosPid
  topicName : TopicName
  payload : Bytes
  deriving DecidableEq, Repr

structure Subscribe where
  pid : Pid
  topics : List (TopicFilter × QoS)
  deriving DecidableEq, Repr

structure Unsubscribe where
  pid : Pid
  topics : List TopicFilter
  deriving DecidableEq, Repr

inductive SubscribeReturnCode where
  | maxLevel0 | maxLevel1 | maxLevel2 | failure
  deriving DecidableEq, Repr

inductive ConnectReturnCode where
  | accepted | unacceptableProtocolVersion | identifierRejected
  | serverUnavailable | badUserNameOrPassword | notAuthorized
  deriving DecidableEq, Repr

/-- Length of a UTF-8 string field: two length bytes and the bytes. -/
def strLen (s : String) : Nat := 2 + s.utf8ByteSize

/-- The remaining length of a CONNECT: protocol name, level, flags and keep alive, then the client identifier,
the will's topic and message, the user name and the password, each present one with its two length bytes. -/
def connectLen (protocol : Protocol) (clientId : String) (lastWill : Option LastWill)
    (username : Option String) (password : Option Bytes) : Nat :=
  (match protocol with | .V310 => 12 | _ => 10) + strLen clientId +
    (match lastWill with | some w => strLen w.topicName + 2 + w.message.length | none => 0) +
    (match username with | some u => strLen u | none => 0) +
    (match password with | some p => 2 + p.length | none => 0)

/-- The largest remaining length the four-byte length field holds. -/
def maxRemainingLen : Nat := 268435455

/-- A decoded CONNECT. Its fields were read within a remaining length the length field holds, so `fits` is what
decoding established; no other CONNECT reaches the core. -/
structure Connect where
  protocol : Protocol
  cleanSession : Bool
  keepAlive : Nat
  clientId : String
  lastWill : Option LastWill
  username : Option String
  password : Option Bytes
  fits : connectLen protocol clientId lastWill username password ≤ maxRemainingLen

inductive Packet where
  | connect (connect : Connect)
  | connack (sessionPresent : Bool) (code : ConnectReturnCode)
  | publish (publish : Publish)
  | puback (pid : Pid)
  | pubrec (pid : Pid)
  | pubrel (pid : Pid)
  | pubcomp (pid : Pid)
  | subscribe (subscribe : Subscribe)
  | suback (pid : Pid) (topics : List SubscribeReturnCode)
  | unsubscribe (unsubscribe : Unsubscribe)
  | unsuback (pid : Pid)
  | pingreq
  | pingresp
  | disconnect

/-- The remaining length of a PUBLISH: topic, the pid when QoS is above 0, payload. -/
def Publish.remainingLen (p : Publish) : Nat :=
  strLen p.topicName + (match p.qosPid with | .level0 => 0 | _ => 2) + p.payload.length

/-- `Packet::Publish(p).encode_len()`: the fixed header (type byte and one to four length bytes) and the remaining
length, or `none` when the remaining length does not fit the length field. -/
def Publish.encodeLen (p : Publish) : Option Nat :=
  let n := p.remainingLen
  if n < 128 then some (2 + n)
  else if n < 16384 then some (3 + n)
  else if n < 2097152 then some (4 + n)
  else if n ≤ maxRemainingLen then some (5 + n)
  else none

theorem Publish.encodeLen_isSome {p : Publish} (h : p.remainingLen ≤ maxRemainingLen) :
    p.encodeLen.isSome := by
  dsimp only [Publish.encodeLen]
  split_ifs <;> simp

/-- The PUBLISH `handle_will` and the after-connect actions measure: no dup, no retain, the default pid. -/
def publishOf (qos : QoS) (retain : Bool) (topicName : TopicName) (payload : Bytes) : Publish :=
  ⟨false, retain, qos.defaultPid, topicName, payload⟩

/-- A will's PUBLISH is shorter than the CONNECT that carried it, so it always encodes. -/
theorem Connect.will_encodeLen_isSome (c : Connect) {w : LastWill} (hw : c.lastWill = some w)
    (retain : Bool) : (publishOf w.qos retain w.topicName w.message).encodeLen.isSome := by
  apply Publish.encodeLen_isSome
  have hc := c.fits
  rw [hw] at hc
  simp only [connectLen, Publish.remainingLen, publishOf] at hc ⊢
  split at hc <;> split <;> omega

end V3

namespace V5

inductive PubackReasonCode where
  | success | noMatchingSubscribers | unspecifiedError | implementationSpecificError | notAuthorized
  | topicNameInvalid | packetIdentifierInUse | quotaExceeded | payloadFormatInvalid
  deriving DecidableEq, Repr

inductive PubrecReasonCode where
  | success | noMatchingSubscribers | unspecifiedError | implementationSpecificError | notAuthorized
  | topicNameInvalid | packetIdentifierInUse | quotaExceeded | payloadFormatInvalid
  deriving DecidableEq, Repr

inductive SubscribeReasonCode where
  | grantedQoS0 | grantedQoS1 | grantedQoS2 | unspecifiedError | implementationSpecificError
  | notAuthorized | topicFilterInvalid | packetIdentifierInUse | quotaExceeded
  | sharedSubscriptionNotSupported | subscriptionIdentifiersNotSupported
  | wildcardSubscriptionsNotSupported
  deriving DecidableEq, Repr

structure Connect where
  cleanStart : Bool
  keepAlive : Nat
  clientId : String
  username : Option String
  password : Option Bytes
  deriving DecidableEq, Repr

structure Publish where
  dup : Bool
  retain : Bool
  qosPid : QosPid
  topicName : TopicName
  payload : Bytes
  deriving DecidableEq, Repr

structure Subscribe where
  pid : Pid
  topics : List (TopicFilter × QoS)
  deriving DecidableEq, Repr

structure Unsubscribe where
  pid : Pid
  topics : List TopicFilter
  deriving DecidableEq, Repr

/-- The v5 packets the publish, subscribe and unsubscribe handlers answer with. -/
inductive Packet where
  | publish (publish : Publish)
  | puback (pid : Pid) (reasonCode : PubackReasonCode)
  | pubrec (pid : Pid) (reasonCode : PubrecReasonCode)
  | suback (pid : Pid) (topics : List SubscribeReasonCode)
  | unsuback (pid : Pid)
  | disconnect (reasonCode : UInt8)
  deriving DecidableEq, Repr

end V5

end Akasa.Mqtt
