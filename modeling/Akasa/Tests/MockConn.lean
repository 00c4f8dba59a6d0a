import Akasa.Mqtt

/-!
# The mock connection of the tests

`MockConn` stands in for a socket when the tests drive `handle_accept`. What a test writes with
`MockConnControl::write_data` goes chunk by chunk through a channel of capacity 128, and `poll_read` hands it to
the server through whatever buffers the server reads into; what the server writes goes to the test one buffer per
`poll_write`, through a channel of capacity one. Both decode what they pass on in order to log it, and the
`unwrap`s of that decoding panic on some buffers: under a logger that prints `info!`, any buffer that decodes to
`Ok(None)`; in `poll_write`, whatever the logger, any buffer that neither v3 nor v5 decodes to a whole packet.

Over every interleaving of the test's and the server's polls, and whatever the codec, the connection is a byte
stream both ways: the server reads exactly the bytes the test wrote, in order, and the test receives exactly the
bytes the server's writes reported written. A panic ends the run.
-/

namespace Akasa.Tests
open Akasa.Mqtt

inductive Poll (α : Type) where
  | ready (a : α)
  | pending
  deriving DecidableEq, Repr

def brokenPipe : IoError := .other "BrokenPipe"

def Poll.count : Poll (Except IoError Nat) → Nat
  | .ready (.ok n) => n
  | _ => 0

inductive Decoded where
  | packet | incomplete | invalid
  deriving DecidableEq, Repr

/-- The v3 and v5 `Packet::decode` (`mqtt_proto`, not in this excerpt) as given: a whole packet, `Ok(None)` for too
few bytes, or an error; and whether the logger prints `log::info!`, which evaluates its arguments only then. -/
structure Codec where
  v3 : Bytes → Decoded
  v5 : Bytes → Decoded
  info : Bool

/-- The decode-and-log of a chunk `poll_read` takes from the channel panics in `pkt_opt.unwrap()`, an argument of
`log::info!`, on a chunk that decodes to `Ok(None)`: by v3, or by v5 where v3 fails. -/
def Codec.sentPanics (codec : Codec) (v : Bytes) : Bool :=
  codec.info && match codec.v3 v with
    | .packet => false
    | .incomplete => true
    | .invalid => codec.v5 v == .incomplete

/-- The decode-and-log of a buffer `poll_write` is given: v3's `pkt_opt.unwrap()` panics on `Ok(None)` under an
`info!` logger, and where v3 fails, `v5::Packet::decode(buf).unwrap().unwrap()` is outside the logging and panics
on every buffer v5 does not decode whole. -/
def Codec.recvPanics (codec : Codec) (buf : Bytes) : Bool :=
  match codec.v3 buf with
  | .packet => false
  | .incomplete => codec.info
  | .invalid => codec.v5 buf != .packet

/-- A `tokio::sync::mpsc` channel as the mock connection sees it: the buffers in it, oldest first, and whether the
test's end of it is gone. -/
structure Channel where
  queued : List Bytes
  closed : Bool
  deriving DecidableEq, Repr

def Channel.pollRecv (ch : Channel) : Poll (Option Bytes) × Channel :=
  match ch.queued with
  | v :: rest => (.ready (some v), { ch with queued := rest })
  | [] => (if ch.closed then .ready none else .pending, ch)

def inCapacity : Nat := 128

def outCapacity : Nat := 1

/-- `MockConn`: the rest of the chunk being read, the receiving end of the test's writes, and the `PollSender` of
the server's writes, which the test receives from. -/
structure MockConn where
  dataIn : Bytes
  chanIn : Channel
  chanOut : Channel
  deriving DecidableEq, Repr

def MockConn.pending (conn : MockConn) : Bytes := conn.dataIn ++ conn.chanIn.queued.flatten

section Polls

variable (codec : Codec)

def MockConn.copyOut (conn : MockConn) (buf : Bytes) : Poll (Except IoError Nat) × MockConn × Bytes :=
  if conn.dataIn.isEmpty then (.ready (.ok 0), conn, buf) else
  let amt := min buf.length conn.dataIn.length
  (.ready (.ok amt), { conn with dataIn := conn.dataIn.drop amt }, conn.dataIn.take amt ++ buf.drop amt)

/-- `poll_read`: the poll's result, the connection after it and the buffer it filled; `none` where the decode-and-log
of a new chunk panics. -/
def MockConn.pollRead (conn : MockConn) (buf : Bytes) : Option (Poll (Except IoError Nat) × MockConn × Bytes) :=
  if conn.dataIn.isEmpty then
    match conn.chanIn.pollRecv with
    | (.pending, _) => some (.pending, conn, buf)
    | (.ready (some v), ch) =>
      if codec.sentPanics v then none else some (MockConn.copyOut { conn with dataIn := v, chanIn := ch } buf)
    | (.ready none, _) => some (.ready (.error brokenPipe), conn, buf)
  else some (conn.copyOut buf)

def MockConn.pushOut (conn : MockConn) (l : List Bytes) : MockConn :=
  { conn with chanOut := { conn.chanOut with queued := conn.chanOut.queued ++ l } }

/-- `poll_write`: the decode-and-log, then `PollSender::poll_ready` and `start_send` of the whole buffer; the
`poll_flush` of a `PollSender` is always ready. -/
def MockConn.pollWrite (conn : MockConn) (buf : Bytes) : Option (Poll (Except IoError Nat) × MockConn) :=
  if codec.recvPanics buf then none
  else if conn.chanOut.closed then some (.ready (.error brokenPipe), conn)
  else if conn.chanOut.queued.length < outCapacity then some (.ready (.ok buf.length), conn.pushOut [buf])
  else some (.pending, conn)

def MockConn.writeEach : MockConn → List Bytes → Nat → Option (Poll (Except IoError Nat) × MockConn)
  | conn, [], nwritten => some (.ready (.ok nwritten), conn)
  | conn, buf :: bufs, nwritten =>
    (conn.pollWrite codec buf).bind fun
      | (.pending, conn') => some (if nwritten > 0 then .ready (.ok nwritten) else .pending, conn')
      | (.ready (.ok len), conn') => MockConn.writeEach conn' bufs (nwritten + len)
      | (.ready (.error err), conn') => some (.ready (.error err), conn')

def MockConn.pollWriteVectored (conn : MockConn) (bufs : List Bytes) : Option (Poll (Except IoError Nat) × MockConn) :=
  conn.writeEach codec bufs 0

end Polls

/-- What the test and the server do with the connection, in any order. The test calls `write_data`, which waits
while the channel is full; drops its `MockConnControl`; receives from `chan_out`, waiting while it is empty; or
calls `try_read_packet_is_empty`, whose `try_recv` takes the next buffer if there is one. The server polls
`poll_read` with a buffer of `len` bytes, `poll_write` or `poll_write_vectored`. -/
inductive Io where
  | send (data : Bytes)
  | hangUp
  | recv
  | tryRead
  | read (len : Nat)
  | write (buf : Bytes)
  | writeVectored (bufs : List Bytes)

def Io.written : List Io → Bytes
  | [] => []
  | .send data :: ios => data ++ Io.written ios
  | _ :: ios => Io.written ios

/-- What a run shows each side: the bytes the server's reads filled in, the bytes its writes reported written, and
the bytes the test received. -/
structure Transcript where
  read : Bytes
  acked : Bytes
  received : Bytes
  deriving DecidableEq, Repr

def Transcript.append (t t' : Transcript) : Transcript :=
  ⟨t.read ++ t'.read, t.acked ++ t'.acked, t.received ++ t'.received⟩

def MockConn.takeOut (conn : MockConn) : Option (MockConn × Bytes) :=
  match conn.chanOut.queued with
  | b :: rest => some ({ conn with chanOut := { conn.chanOut with queued := rest } }, b)
  | [] => none

section Run

variable (codec : Codec)

/-- One action, `none` when it cannot happen now or where it panics. -/
def MockConn.step (conn : MockConn) : Io → Option (MockConn × Transcript)
  | .send data =>
    if conn.chanIn.closed ∨ inCapacity ≤ conn.chanIn.queued.length then none
    else some ({ conn with chanIn := { conn.chanIn with queued := conn.chanIn.queued ++ [data] } }, ⟨[], [], []⟩)
  | .hangUp =>
    some ({ conn with chanIn := { conn.chanIn with closed := true }, chanOut := { conn.chanOut with closed := true } },
      ⟨[], [], []⟩)
  | .recv =>
    if conn.chanOut.closed then none else (conn.takeOut).map fun (c, b) => (c, ⟨[], [], b⟩)
  | .tryRead =>
    if conn.chanOut.closed then none else
    some ((conn.takeOut).elim (conn, ⟨[], [], []⟩) fun (c, b) => (c, ⟨[], [], b⟩))
  | .read len => (conn.pollRead codec (List.replicate len 0)).map fun (r, c, buf) => (c, ⟨buf.take r.count, [], []⟩)
  | .write buf => (conn.pollWrite codec buf).map fun (r, c) => (c, ⟨[], buf.take r.count, []⟩)
  | .writeVectored bufs =>
    (conn.pollWriteVectored codec bufs).map fun (r, c) => (c, ⟨[], bufs.flatten.take r.count, []⟩)

def MockConn.run : MockConn → List Io → Option (MockConn × Transcript)
  | conn, [] => some (conn, ⟨[], [], []⟩)
  | conn, io :: ios =>
    (conn.step codec io).bind fun (c, t) => (c.run ios).map fun (c', t') => (c', t.append t')

end Run

theorem copyOut_spec (conn : MockConn) (buf : Bytes) :
    ((conn.copyOut buf).2.2.take (conn.copyOut buf).1.count ++ (conn.copyOut buf).2.1.pending = conn.pending) ∧
      (conn.copyOut buf).2.1.chanOut = conn.chanOut := by
  unfold MockConn.copyOut
  split
  · simp [Poll.count]
  · refine ⟨?_, rfl⟩
    have hle : min buf.length conn.dataIn.length ≤ conn.dataIn.length := Nat.min_le_right _ _
    simp only [Poll.count, MockConn.pending, List.take_left' (List.length_take_of_le hle), ← List.append_assoc,
      List.take_append_drop]

section Specs

variable {codec : Codec}

/-- A `poll_read` that does not panic hands over the front of what is pending, as many bytes as it reports, and
leaves the channel to the test alone. -/
theorem pollRead_spec {conn c : MockConn} {buf b : Bytes} {r : Poll (Except IoError Nat)}
    (h : conn.pollRead codec buf = some (r, c, b)) : b.take r.count ++ c.pending = conn.pending ∧ c.chanOut = conn.chanOut := by
  unfold MockConn.pollRead at h
  split at h
  · rename_i he
    rcases hq : conn.chanIn.queued with _ | ⟨v, rest⟩
    · cases hcl : conn.chanIn.closed <;> simp [Channel.pollRecv, hq, hcl] at h <;> obtain ⟨rfl, rfl, rfl⟩ := h <;>
        simp [Poll.count]
    · simp only [Channel.pollRecv, hq, Option.ite_none_left_eq_some, Option.some.injEq] at h
      obtain ⟨-, h⟩ := h
      have hs := copyOut_spec { conn with dataIn := v, chanIn := { conn.chanIn with queued := rest } } buf
      rw [h] at hs
      refine ⟨hs.1.trans ?_, hs.2⟩
      simp [MockConn.pending, List.isEmpty_iff.1 he, hq]
  · have hs := copyOut_spec conn buf
    rwa [Option.some.inj h] at hs

/-- What a `poll_write` that does not panic can do: fail on a closed channel, send the whole buffer while there is
room, or wait. -/
theorem pollWrite_cases {conn c : MockConn} {buf : Bytes} {r : Poll (Except IoError Nat)}
    (h : conn.pollWrite codec buf = some (r, c)) :
    (conn.chanOut.closed = true ∧ r = .ready (.error brokenPipe) ∧ c = conn) ∨
      (conn.chanOut.closed = false ∧ r = .ready (.ok buf.length) ∧ c = conn.pushOut [buf]) ∨
      (r = .pending ∧ c = conn) := by
  unfold MockConn.pollWrite at h
  split at h
  · cases h
  cases hc : conn.chanOut.closed
  · by_cases hr : conn.chanOut.queued.length < outCapacity <;> simp [hc, hr] at h <;> obtain ⟨rfl, rfl⟩ := h
    exacts [.inr (.inl ⟨rfl, rfl, rfl⟩), .inr (.inr ⟨rfl, rfl⟩)]
  · simp only [hc, if_true, Option.some.injEq, Prod.mk.injEq] at h
    exact .inl ⟨rfl, h.1.symm, h.2.symm⟩

theorem pollWrite_spec {conn c : MockConn} {buf : Bytes} {r : Poll (Except IoError Nat)}
    (h : conn.pollWrite codec buf = some (r, c)) :
    ∃ k, c = conn.pushOut ([buf].take k) ∧ ([buf].take k).flatten = buf.take r.count := by
  rcases pollWrite_cases h with ⟨-, rfl, rfl⟩ | ⟨-, rfl, rfl⟩ | ⟨rfl, rfl⟩
  · exact ⟨0, by simp [MockConn.pushOut], by simp [Poll.count]⟩
  · exact ⟨1, rfl, by simp [Poll.count]⟩
  · exact ⟨0, by simp [MockConn.pushOut], by simp [Poll.count]⟩

private theorem pushOut_append (conn : MockConn) (l l' : List Bytes) :
    (conn.pushOut l).pushOut l' = conn.pushOut (l ++ l') := by
  simp [MockConn.pushOut, List.append_assoc]

/-- The loop of `poll_write_vectored` sends a prefix of its buffers: a ready count is the count before plus the
bytes sent, a pending poll follows only empty buffers, and an error, which only a closed channel gives, sends
nothing. -/
theorem writeEach_spec (bufs : List Bytes) : ∀ {conn c : MockConn} {nwritten : Nat} {r : Poll (Except IoError Nat)},
    conn.writeEach codec bufs nwritten = some (r, c) →
    ∃ k, c = conn.pushOut (bufs.take k) ∧
      match r with
      | .ready (.ok n) => n = nwritten + (bufs.take k).flatten.length
      | .pending => nwritten = 0 ∧ (bufs.take k).flatten = []
      | .ready (.error _) => conn.chanOut.closed = true ∧ k = 0 := by
  induction bufs with
  | nil =>
    intro conn c n r h
    cases h
    exact ⟨0, by simp [MockConn.pushOut], by simp⟩
  | cons buf bufs ih =>
    intro conn c n r h
    simp only [MockConn.writeEach, Option.bind_eq_some] at h
    obtain ⟨⟨r₁, c₁⟩, hw, h⟩ := h
    rcases pollWrite_cases hw with ⟨hc, rfl, rfl⟩ | ⟨hc, rfl, rfl⟩ | ⟨rfl, rfl⟩
    · cases h
      exact ⟨0, by simp [MockConn.pushOut], hc, rfl⟩
    · obtain ⟨k, rfl, hres⟩ := ih h
      refine ⟨k + 1, by simp only [pushOut_append, List.take_succ_cons, List.singleton_append], ?_⟩
      revert hres
      rcases r with (e | n') | _
      · exact fun h => absurd (h.1.symm.trans hc) Bool.noConfusion
      · intro h; simp only [h, List.take_succ_cons, List.flatten_cons, List.length_append]; omega
      · rintro ⟨h0, hf⟩
        simp only [List.take_succ_cons, List.flatten_cons, hf, List.append_nil]
        exact ⟨by omega, List.length_eq_zero.1 (by omega)⟩
    · simp only [Option.some.injEq, Prod.mk.injEq] at h
      obtain ⟨rfl, rfl⟩ := h
      refine ⟨0, by simp [MockConn.pushOut], ?_⟩
      by_cases hn : n > 0 <;> simp [hn]
      omega

/-- A `poll_write_vectored` that does not panic sends the test a prefix of its buffers, holding exactly the bytes it
reports written. -/
theorem pollWriteVectored_spec {conn c : MockConn} {bufs : List Bytes} {r : Poll (Except IoError Nat)}
    (h : conn.pollWriteVectored codec bufs = some (r, c)) :
    ∃ k, c = conn.pushOut (bufs.take k) ∧ (bufs.take k).flatten = bufs.flatten.take r.count := by
  obtain ⟨k, hk, hres⟩ := writeEach_spec bufs h
  refine ⟨k, hk, ?_⟩
  have hpre : (bufs.take k).flatten ++ (bufs.drop k).flatten = bufs.flatten := by
    rw [← List.flatten_append, List.take_append_drop]
  revert hres
  rcases r with (e | n) | _
  · rintro ⟨-, rfl⟩; rfl
  · intro h
    rw [Nat.zero_add] at h
    rw [Poll.count, h, ← hpre, List.take_left]
  · rintro ⟨-, h⟩; simp [Poll.count, h]

theorem Io.written_cons (io : Io) (ios : List Io) : Io.written (io :: ios) = Io.written [io] ++ Io.written ios := by
  cases io <;> simp [Io.written]

@[simp] theorem pending_pushOut (conn : MockConn) (l : List Bytes) : (conn.pushOut l).pending = conn.pending := rfl

/-- One action keeps both streams: the bytes the server read and the bytes still pending are those pending before
and those the test sent; the bytes the test received and those still in `chan_out` are those there before and
those the server's writes reported. -/
theorem step_stream {conn conn' : MockConn} {io : Io} {t : Transcript} (h : conn.step codec io = some (conn', t)) :
    t.read ++ conn'.pending = conn.pending ++ Io.written [io] ∧
      t.received ++ conn'.chanOut.queued.flatten = conn.chanOut.queued.flatten ++ t.acked := by
  cases io with
  | send data =>
    simp only [MockConn.step] at h
    split at h
    · cases h
    · cases h; simp [MockConn.pending, Io.written]
  | hangUp => cases h; simp [MockConn.pending, Io.written]
  | recv =>
    simp only [MockConn.step, MockConn.takeOut] at h
    split at h
    · cases h
    · split at h
      · rename_i b rest hq
        cases h; simp [MockConn.pending, Io.written, hq]
      · cases h
  | tryRead =>
    simp only [MockConn.step, MockConn.takeOut] at h
    split at h
    · cases h
    · split at h
      · rename_i b rest hq
        cases h; simp [MockConn.pending, Io.written, hq]
      · cases h; simp [Io.written]
  | read len =>
    simp only [MockConn.step, Option.map_eq_some'] at h
    obtain ⟨⟨r, c, b⟩, hr, h⟩ := h
    cases h
    obtain ⟨hp, ho⟩ := pollRead_spec hr
    exact ⟨by simpa [Io.written] using hp, by simp [ho]⟩
  | write buf =>
    simp only [MockConn.step, Option.map_eq_some'] at h
    obtain ⟨⟨r, c⟩, hw, h⟩ := h
    cases h
    obtain ⟨k, rfl, hb⟩ := pollWrite_spec hw
    refine ⟨by simp [Io.written], ?_⟩
    rw [← hb]
    simp [MockConn.pushOut]
  | writeVectored bufs =>
    simp only [MockConn.step, Option.map_eq_some'] at h
    obtain ⟨⟨r, c⟩, hw, h⟩ := h
    cases h
    obtain ⟨k, rfl, hb⟩ := pollWriteVectored_spec hw
    refine ⟨by simp [Io.written], ?_⟩
    rw [← hb]
    simp [MockConn.pushOut]

end Specs

def MockConn.new : MockConn := ⟨[], ⟨[], false⟩, ⟨[], false⟩⟩

/-- A logger that does not print `info!`, and decoders that take a buffer of two bytes or more for a whole packet. -/
def quietCodec : Codec :=
  ⟨fun b => if b.length < 2 then .incomplete else .packet, fun b => if b.length < 2 then .incomplete else .packet, false⟩

def pingPong : List Io := [.send [192, 0, 7], .read 2, .write [208, 0], .read 2, .tryRead, .send [], .read 4]

end Akasa.Tests
