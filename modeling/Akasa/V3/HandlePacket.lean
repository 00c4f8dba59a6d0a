import Akasa.HookDispatch

/-!
# `handle_packet` of the v3 session

A PUBLISH, SUBSCRIBE or UNSUBSCRIBE whose hook switch is on leaves `handle_packet` as a `HookRequest` lending the
session and its write queue; the dispatcher then calls the same packet handler `handle_packet` calls when the
switch is off. With a hook that lets the packet through unchanged, the two paths end in the same session, the
same write queue and corresponding results.
-/

namespace Akasa.V3
open Akasa.Mqtt Akasa.Mqtt.V3 Akasa.HookDispatch

/-- `handle_packet`: `Ok(Some(request))` lends the session to the hook service, `Ok(None)` goes on, an error
ends the online loop (`Err(None)` without an io error). -/
def handlePacket {S5 : Type} (cfg : Config) (h : Handlers) (s : Session) (encodeLen : Nat)
    (packetBody : Bytes) (packet : Packet) (writePackets : List Packet) :
    Except (Option IoError) (Option (HookRequest S5)) × Session × List Packet :=
  if encodeLen > cfg.maxPacketSizeServer then (.error (some .invalidData), s, writePackets) else
  match packet with
  | .disconnect => (.ok none, handleDisconnect s, writePackets)
  | .publish pkt =>
    if cfg.hook.enablePublish then
      (.ok (some (.v3Publish ⟨s, writePackets⟩ encodeLen packetBody pkt)), s, writePackets)
    else match h.handlePublish s pkt with
      | (.ok packetOpt, d) => (.ok none, s.withData d, writePackets ++ packetOpt.toList)
      | (.error e, d) => (.error (some e), s.withData d, writePackets)
  | .puback pid => (.ok none, s.withData (h.handlePuback s pid), writePackets)
  | .pubrec pid => (.ok none, s.withData (h.handlePubrec s pid).2, writePackets ++ [(h.handlePubrec s pid).1])
  | .pubrel pid => match h.handlePubrel s pid with
    | (.ok p, d) => (.ok none, s.withData d, writePackets ++ [p])
    | (.error e, d) => (.error e, s.withData d, writePackets)
  | .pubcomp pid => (.ok none, s.withData (h.handlePubcomp s pid), writePackets)
  | .subscribe pkt =>
    if cfg.hook.enableSubscribe then
      (.ok (some (.v3Subscribe ⟨s, writePackets⟩ encodeLen packetBody pkt)), s, writePackets)
    else match h.handleSubscribe s pkt with
      | (.ok retainPackets, d) => (.ok none, s.withData d, writePackets ++ retainPackets)
      | (.error e, d) => (.error (some e), s.withData d, writePackets)
  | .unsubscribe pkt =>
    if cfg.hook.enableUnsubscribe then
      (.ok (some (.v3Unsubscribe ⟨s, writePackets⟩ encodeLen packetBody pkt)), s, writePackets)
    else
      (.ok none, s.withData (h.handleUnsubscribe s pkt).2, writePackets ++ [(h.handleUnsubscribe s pkt).1])
  | .pingreq => (.ok none, s, writePackets ++ [.pingresp])
  | _ => (.error (some .invalidData), s, writePackets)

/-- The hook switch `handle_packet` reads for a packet. -/
def HookConfig.enabledFor (c : HookConfig) : Packet → Bool
  | .publish _ => c.enablePublish
  | .subscribe _ => c.enableSubscribe
  | .unsubscribe _ => c.enableUnsubscribe
  | _ => false

/-- The hook lets this packet through: success, and the packet as it was. -/
def PassesOn {S5 : Type} (hook : Hook S5) (s : Session) (len : Nat) (body : Bytes) : Packet → Prop
  | .publish p => hook.v3BeforePublish s len body p = (.success, p)
  | .subscribe p => hook.v3BeforeSubscribe s len body p = p
  | .unsubscribe p => hook.v3BeforeUnsubscribe s len body p = p
  | _ => True

section Paths

variable {S5 : Type} (hook : Hook S5) (h : Handlers) (h5 : V5Handlers S5)

/-- A request leaves `handle_packet` before anything is changed: it lends the session and queue as they were. -/
theorem handlePacket_lends_untouched (cfg : Config) (s : Session) (len : Nat) (body : Bytes) (p : Packet)
    (wp : List Packet) (req : HookRequest S5) (hreq : (handlePacket cfg h s len body p wp).1 = .ok (some req)) :
    (@handlePacket S5 cfg h s len body p wp).2 = (s, wp) ∧ req.lentV3 = some ⟨s, wp⟩ := by
  unfold handlePacket at hreq ⊢
  by_cases hl : len > cfg.maxPacketSizeServer
  · rw [if_pos hl] at hreq
    cases hreq
  rw [if_neg hl] at hreq ⊢
  cases p with
  | publish pkt =>
    cases he : cfg.hook.enablePublish
    · simp only [he, Bool.false_eq_true, if_false] at hreq
      split at hreq <;> simp at hreq
    · simp only [he, if_true] at hreq ⊢
      cases hreq
      simp [HookRequest.lentV3]
  | subscribe pkt =>
    cases he : cfg.hook.enableSubscribe
    · simp only [he, Bool.false_eq_true, if_false] at hreq
      split at hreq <;> simp at hreq
    · simp only [he, if_true] at hreq ⊢
      cases hreq
      simp [HookRequest.lentV3]
  | unsubscribe pkt =>
    cases he : cfg.hook.enableUnsubscribe
    · simp [he] at hreq
    · simp only [he, if_true] at hreq ⊢
      cases hreq
      simp [HookRequest.lentV3]
  | pubrel pid =>
    dsimp only at hreq
    split at hreq <;> simp at hreq
  | _ => cases hreq

/-- `handle_packet` changes the session only through the packet handlers and `handle_disconnect`. -/
theorem handlePacket_connectFields (cfg : Config) (s : Session) (len : Nat) (body : Bytes) (p : Packet)
    (wp : List Packet) : (@handlePacket S5 cfg h s len body p wp).2.1.connectFields = s.connectFields := by
  unfold handlePacket
  split
  · rfl
  cases p <;> simp only <;> (try split) <;> (try split) <;> rfl

/-- With the hook letting the packet through, the hook path (the request, then `handle_request`) ends where the
direct path ends: the same session, the same write queue, and the reply `Ok(())` or `Err(Some(e))` where the
direct path returns `Ok(None)` or `Err(Some(e))`. Any request `handle_packet` returns lends the session untouched. -/
theorem handlePacket_hook_path_agrees (cfgOn cfgOff : Config) (s : Session) (wp : List Packet) (len : Nat)
    (body : Bytes) (p : Packet) (hlen : len ≤ cfgOn.maxPacketSizeServer)
    (hmax : cfgOff.maxPacketSizeServer = cfgOn.maxPacketSizeServer)
    (hon : cfgOn.hook.enabledFor p = true) (hoff : cfgOff.hook.enabledFor p = false)
    (hpass : PassesOn hook s len body p) :
    (∃ req, @handlePacket S5 cfgOn h s len body p wp = (.ok (some req), s, wp) ∧
      (handleRequest hook h h5 req).2 =
          .v3 ⟨(@handlePacket S5 cfgOff h s len body p wp).2.1, (@handlePacket S5 cfgOff h s len body p wp).2.2⟩ ∧
      ∃ x, (handleRequest hook h h5 req).1.getLast? = some (.reply (.result x)) ∧
        (x = .ok () ∧ (@handlePacket S5 cfgOff h s len body p wp).1 = .ok none ∨
          ∃ e, x = .error (some e) ∧ (@handlePacket S5 cfgOff h s len body p wp).1 = .error (some e))) ∧
    ∀ (cfg : Config) (s : Session) (len : Nat) (body : Bytes) (p : Packet) (wp : List Packet) (req : HookRequest S5),
      (handlePacket cfg h s len body p wp).1 = .ok (some req) →
        (@handlePacket S5 cfg h s len body p wp).2 = (s, wp) ∧ req.lentV3 = some ⟨s, wp⟩ := by
  refine ⟨?_, handlePacket_lends_untouched h⟩
  have hOn : ¬ len > cfgOn.maxPacketSizeServer := by omega
  have hOff : ¬ len > cfgOff.maxPacketSizeServer := by omega
  cases p with
  | publish pkt =>
    simp only [HookConfig.enabledFor] at hon hoff
    simp only [PassesOn] at hpass
    refine ⟨.v3Publish ⟨s, wp⟩ len body pkt, by simp [handlePacket, hOn, hon], ?_⟩
    rcases hr : h.handlePublish s pkt with ⟨e | (_ | q), d⟩ <;>
      simp [handlePacket, hOff, hoff, hr, handleRequest, runLent, v3Publish, hpass]
  | subscribe pkt =>
    simp only [HookConfig.enabledFor] at hon hoff
    simp only [PassesOn] at hpass
    refine ⟨.v3Subscribe ⟨s, wp⟩ len body pkt, by simp [handlePacket, hOn, hon], ?_⟩
    rcases hr : h.handleSubscribe s pkt with ⟨e | ps, d⟩ <;>
      simp [handlePacket, hOff, hoff, hr, handleRequest, runLent, v3Subscribe, hpass, List.getLast?_cons]
  | unsubscribe pkt =>
    simp only [HookConfig.enabledFor] at hon hoff
    simp only [PassesOn] at hpass
    refine ⟨.v3Unsubscribe ⟨s, wp⟩ len body pkt, by simp [handlePacket, hOn, hon], ?_⟩
    simp [handlePacket, hOff, hoff, handleRequest, runLent, v3Unsubscribe, hpass]
  | _ => simp [HookConfig.enabledFor] at hon

end Paths

theorem handlePacket_hook_path_agrees_subscribe :
    let s := Session.new (.ofHooks ⟨false, false, false, false⟩)
    let sub : Subscribe := ⟨.default, [("a/+", .level1)]⟩
    (∃ req, @handlePacket Unit (.ofHooks ⟨false, false, true, false⟩) .stateless s 20 [] (.subscribe sub) [] =
        (.ok (some req), s, []) ∧
      (handleRequest .transparent .stateless .stateless req).2 =
        .v3 ⟨(@handlePacket Unit (.ofHooks ⟨false, false, false, false⟩) .stateless s 20 [] (.subscribe sub) []).2.1,
          (@handlePacket Unit (.ofHooks ⟨false, false, false, false⟩) .stateless s 20 [] (.subscribe sub) []).2.2⟩ ∧
      ∃ x, (handleRequest .transparent .stateless .stateless req).1.getLast? = some (.reply (.result x)) ∧
        (x = .ok () ∧
            (@handlePacket Unit (.ofHooks ⟨false, false, false, false⟩) .stateless s 20 [] (.subscribe sub) []).1 =
              .ok none ∨
          ∃ e, x = .error (some e) ∧
            (@handlePacket Unit (.ofHooks ⟨false, false, false, false⟩) .stateless s 20 [] (.subscribe sub) []).1 =
              .error (some e))) :=
  (handlePacket_hook_path_agrees .transparent .stateless .stateless (.ofHooks ⟨false, false, true, false⟩)
    (.ofHooks ⟨false, false, false, false⟩) (Session.new (.ofHooks ⟨false, false, false, false⟩)) [] 20 []
    (.subscribe ⟨.default, [("a/+", .level1)]⟩) (by decide) rfl rfl rfl rfl).1

end Akasa.V3
