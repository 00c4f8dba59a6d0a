import Mathlib.Data.List.Forall2
import Mathlib.Tactic.Ring
import Akasa.Mqtt

/-!
# The v5 session: its packet identifiers and the recording random source of SCRAM

`Session::new` starts the server's packet identifier at `Pid::default()`, and `incr_server_packet_id` hands out the
current identifier and moves to the next.

`TracedRng` either draws from the operating system and appends every byte it hands out to `data`, or replays
`data` from `data_idx` on. Each call of `RngCore` is one step; a run is a list of calls. Replaying a recording
with the same calls gives back what the recording run gave, and ends at the end of the recording.
-/

namespace Akasa.Mqtt

/-- Modelled from the spec: `Pid += 1` (`mqtt_proto`, not in this excerpt), from 65535 back to 1. -/
def Pid.incr (p : Pid) : Pid :=
  ⟨p.value % 65535 + 1, Nat.succ_pos _, by have := Nat.mod_lt p.value (show 65535 > 0 by decide); omega⟩

end Akasa.Mqtt

namespace Akasa.V5
open Akasa.Mqtt

/-- The field of the `v5` `Session` the modelled functions read. -/
structure Session where
  serverPacketId : Pid
  deriving DecidableEq, Repr

def Session.new : Session := ⟨.default⟩

def Session.incrServerPacketId (s : Session) : Pid × Session :=
  (s.serverPacketId, { s with serverPacketId := s.serverPacketId.incr })


/-- `n` little-endian bytes of `v`: `to_le_bytes` of an `n`-byte integer. -/
def leBytes : Nat → Nat → List UInt8
  | 0, _ => []
  | n + 1, v => UInt8.ofNat (v % 256) :: leBytes n (v / 256)

/-- `from_le_bytes`. -/
def ofLeBytes : List UInt8 → Nat
  | [] => 0
  | b :: bs => b.toNat + 256 * ofLeBytes bs

@[simp] theorem leBytes_length (n v : Nat) : (leBytes n v).length = n := by
  induction n generalizing v <;> simp [leBytes, *]

theorem ofLeBytes_leBytes (n v : Nat) : ofLeBytes (leBytes n v) = v % 256 ^ n := by
  induction n generalizing v with
  | zero => simp [leBytes, ofLeBytes, Nat.mod_one]
  | succ n ih =>
    have hb : (UInt8.ofNat (v % 256)).toNat = v % 256 := UInt8.toNat_ofNat_of_lt (Nat.mod_lt _ (by decide))
    rw [leBytes, ofLeBytes, ih, hb, Nat.pow_succ, Nat.mul_comm _ 256, Nat.mod_mul]

def u32ToLeBytes (v : UInt32) : List UInt8 := leBytes 4 v.toNat

def u32FromLeBytes (b : List UInt8) : UInt32 := UInt32.ofNat (ofLeBytes b)

def u64ToLeBytes (v : UInt64) : List UInt8 := leBytes 8 v.toNat

def u64FromLeBytes (b : List UInt8) : UInt64 := UInt64.ofNat (ofLeBytes b)

@[simp] theorem u32ToLeBytes_length (v : UInt32) : (u32ToLeBytes v).length = 4 := leBytes_length _ _

@[simp] theorem u64ToLeBytes_length (v : UInt64) : (u64ToLeBytes v).length = 8 := leBytes_length _ _

theorem u32FromLeBytes_toLeBytes (v : UInt32) : u32FromLeBytes (u32ToLeBytes v) = v := by
  have h : v.toNat < 256 ^ 4 := v.toNat_lt_size
  apply UInt32.toNat.inj
  rw [u32FromLeBytes, u32ToLeBytes, ofLeBytes_leBytes, Nat.mod_eq_of_lt h, UInt32.toNat_ofNat_of_lt v.toNat_lt_size]

theorem u64FromLeBytes_toLeBytes (v : UInt64) : u64FromLeBytes (u64ToLeBytes v) = v := by
  have h : v.toNat < 256 ^ 8 := v.toNat_lt_size
  apply UInt64.toNat.inj
  rw [u64FromLeBytes, u64ToLeBytes, ofLeBytes_leBytes, Nat.mod_eq_of_lt h, UInt64.toNat_ofNat_of_lt v.toNat_lt_size]

theorem ofLeBytes_lt (b : List UInt8) : ofLeBytes b < 256 ^ b.length := by
  induction b with
  | nil => simp [ofLeBytes]
  | cons a b ih =>
    have ha : a.toNat < 256 := a.toNat_lt_size
    rw [ofLeBytes, List.length_cons, Nat.pow_succ]
    omega

/-- The other way round: the bytes of the number a list of bytes reads as are that list. -/
theorem leBytes_ofLeBytes (b : List UInt8) : leBytes b.length (ofLeBytes b) = b := by
  induction b with
  | nil => rfl
  | cons a b ih =>
    have ha : a.toNat < 256 := a.toNat_lt_size
    have hmod : (a.toNat + 256 * ofLeBytes b) % 256 = a.toNat := by omega
    have hdiv : (a.toNat + 256 * ofLeBytes b) / 256 = ofLeBytes b := by omega
    rw [List.length_cons, leBytes, ofLeBytes, hmod, hdiv, ih]
    exact congrArg (· :: b) (UInt8.toNat.inj (UInt8.toNat_ofNat_of_lt a.toNat_lt_size))

theorem u32ToLeBytes_fromLeBytes {b : List UInt8} (hb : b.length = 4) : u32ToLeBytes (u32FromLeBytes b) = b := by
  have h : ofLeBytes b < UInt32.size := by have h := ofLeBytes_lt b; rw [hb] at h; exact h
  rw [u32ToLeBytes, u32FromLeBytes, UInt32.toNat_ofNat_of_lt h, ← hb, leBytes_ofLeBytes]

theorem u64ToLeBytes_fromLeBytes {b : List UInt8} (hb : b.length = 8) : u64ToLeBytes (u64FromLeBytes b) = b := by
  have h : ofLeBytes b < UInt64.size := by have h := ofLeBytes_lt b; rw [hb] at h; exact h
  rw [u64ToLeBytes, u64FromLeBytes, UInt64.toNat_ofNat_of_lt h, ← hb, leBytes_ofLeBytes]

/-- `rand::Error`. -/
structure RandError where
  code : Nat
  deriving DecidableEq, Repr

/-- The operating system's randomness as `OsRng` draws it, with the system's state `σ`. A fill hands out as many
bytes as the buffer holds; `try_fill_bytes` may fail instead. -/
structure OsRng (σ : Type) where
  nextU32 : σ → UInt32 × σ
  nextU64 : σ → UInt64 × σ
  fillBytes : σ → Nat → List UInt8 × σ
  tryFillBytes : σ → Nat → Except RandError (List UInt8) × σ
  fillBytes_length : ∀ g n, (fillBytes g n).1.length = n
  tryFillBytes_length : ∀ g n b, (tryFillBytes g n).1 = .ok b → b.length = n

structure TracedRng (σ : Type) where
  rng : Option σ
  dataIdx : Nat
  data : List UInt8

variable {σ : Type} (os : OsRng σ)

def TracedRng.newEmpty (g : σ) : TracedRng σ := ⟨some g, 0, []⟩

def TracedRng.newFrom (data : List UInt8) : TracedRng σ := ⟨none, 0, data⟩

def TracedRng.intoData (t : TracedRng σ) : List UInt8 := t.data

/-- `&self.data[self.data_idx..self.data_idx + n]`; `none` where the slice index panics. -/
def TracedRng.slice (t : TracedRng σ) (n : Nat) : Option (List UInt8) :=
  if t.dataIdx + n ≤ t.data.length then some ((t.data.drop t.dataIdx).take n) else none

def TracedRng.nextU32 (t : TracedRng σ) : Option (UInt32 × TracedRng σ) :=
  match t.rng with
  | some g =>
    let (value, g) := os.nextU32 g
    some (value, { t with rng := some g, data := t.data ++ u32ToLeBytes value })
  | none => (t.slice 4).map fun buf => (u32FromLeBytes buf, { t with dataIdx := t.dataIdx + 4 })

def TracedRng.nextU64 (t : TracedRng σ) : Option (UInt64 × TracedRng σ) :=
  match t.rng with
  | some g =>
    let (value, g) := os.nextU64 g
    some (value, { t with rng := some g, data := t.data ++ u64ToLeBytes value })
  | none => (t.slice 8).map fun buf => (u64FromLeBytes buf, { t with dataIdx := t.dataIdx + 8 })

/-- `fill_bytes` on a buffer of `len` bytes: the bytes it holds afterwards. -/
def TracedRng.fillBytes (t : TracedRng σ) (len : Nat) : Option (List UInt8 × TracedRng σ) :=
  match t.rng with
  | some g =>
    let (dest, g) := os.fillBytes g len
    some (dest, { t with rng := some g, data := t.data ++ dest })
  | none => (t.slice len).map fun dest => (dest, { t with dataIdx := t.dataIdx + len })

def TracedRng.tryFillBytes (t : TracedRng σ) (len : Nat) :
    Option (Except RandError (List UInt8) × TracedRng σ) :=
  match t.rng with
  | some g =>
    match os.tryFillBytes g len with
    | (.error e, g) => some (.error e, { t with rng := some g })
    | (.ok dest, g) => some (.ok dest, { t with rng := some g, data := t.data ++ dest })
  | none => (t.slice len).map fun dest => (.ok dest, { t with dataIdx := t.dataIdx + len })

/-- A call of `RngCore`; the fills name the length of their buffer. -/
inductive RngCall where
  | nextU32 | nextU64
  | fillBytes (len : Nat)
  | tryFillBytes (len : Nat)

/-- What a call gives back: the value, or the buffer as filled. -/
inductive RngValue where
  | u32 (v : UInt32)
  | u64 (v : UInt64)
  | bytes (dest : List UInt8)
  | tried (r : Except RandError (List UInt8))

/-- The bytes of a value as `TracedRng` records them. -/
def RngValue.bytesOf : RngValue → List UInt8
  | .u32 v => u32ToLeBytes v
  | .u64 v => u64ToLeBytes v
  | .bytes dest => dest
  | .tried (.ok dest) => dest
  | .tried (.error _) => []

def RngValue.ok : RngValue → Bool
  | .tried (.error _) => false
  | _ => true

def TracedRng.step (t : TracedRng σ) : RngCall → Option (RngValue × TracedRng σ)
  | .nextU32 => (t.nextU32 os).map fun (v, t) => (.u32 v, t)
  | .nextU64 => (t.nextU64 os).map fun (v, t) => (.u64 v, t)
  | .fillBytes len => (t.fillBytes os len).map fun (d, t) => (.bytes d, t)
  | .tryFillBytes len => (t.tryFillBytes os len).map fun (r, t) => (.tried r, t)

/-- Run calls one after another; `none` where one of them panics. -/
def TracedRng.run : TracedRng σ → List RngCall → Option (List RngValue × TracedRng σ)
  | t, [] => some ([], t)
  | t, c :: cs => do
    let (v, t) ← t.step os c
    let (vs, t) ← t.run cs
    pure (v :: vs, t)

/-- `v` is what `c` can give back: the right kind, and a buffer of the right length. -/
def RngValue.Answers : RngValue → RngCall → Prop
  | .u32 _, .nextU32 | .u64 _, .nextU64 => True
  | .bytes d, .fillBytes len => d.length = len
  | .tried (.ok d), .tryFillBytes len => d.length = len
  | .tried (.error _), .tryFillBytes _ => True
  | _, _ => False

/-- The bytes a run's values put in the recording. -/
def recorded (vs : List RngValue) : List UInt8 := (vs.map RngValue.bytesOf).flatten

@[simp] theorem recorded_nil : recorded [] = [] := rfl

@[simp] theorem recorded_cons (v : RngValue) (vs : List RngValue) :
    recorded (v :: vs) = v.bytesOf ++ recorded vs := rfl

theorem recorded_append (vs ws : List RngValue) : recorded (vs ++ ws) = recorded vs ++ recorded ws := by
  simp [recorded]

theorem run_cons (t : TracedRng σ) (c : RngCall) (cs : List RngCall) {v : RngValue} {t' : TracedRng σ}
    (h : t.step os c = some (v, t')) :
    t.run os (c :: cs) = (t'.run os cs).map fun (vs, t) => (v :: vs, t) := by
  simp only [TracedRng.run, h, Option.bind_eq_bind, Option.some_bind]
  cases t'.run os cs <;> rfl

/-- Recording: a step draws from the system and appends exactly the bytes it hands out. -/
theorem step_record (t : TracedRng σ) {g : σ} (hg : t.rng = some g) (c : RngCall) :
    ∃ v g', t.step os c = some (v, ⟨some g', t.dataIdx, t.data ++ v.bytesOf⟩) ∧ v.Answers c := by
  cases c with
  | nextU32 =>
    exact ⟨.u32 (os.nextU32 g).1, (os.nextU32 g).2,
      by simp [TracedRng.step, TracedRng.nextU32, hg, RngValue.bytesOf], trivial⟩
  | nextU64 =>
    exact ⟨.u64 (os.nextU64 g).1, (os.nextU64 g).2,
      by simp [TracedRng.step, TracedRng.nextU64, hg, RngValue.bytesOf], trivial⟩
  | fillBytes len =>
    exact ⟨.bytes (os.fillBytes g len).1, (os.fillBytes g len).2,
      by simp [TracedRng.step, TracedRng.fillBytes, hg, RngValue.bytesOf], os.fillBytes_length g len⟩
  | tryFillBytes len =>
    rcases hf : os.tryFillBytes g len with ⟨e | d, g'⟩
    · exact ⟨.tried (.error e), g', by simp [TracedRng.step, TracedRng.tryFillBytes, hg, hf, RngValue.bytesOf],
        trivial⟩
    · exact ⟨.tried (.ok d), g', by simp [TracedRng.step, TracedRng.tryFillBytes, hg, hf, RngValue.bytesOf],
        os.tryFillBytes_length g len d (by rw [hf])⟩

/-- Replaying: where the unread recording starts with the bytes of `v`, a step gives back `v` and reads past them. -/
theorem step_replay (t : TracedRng σ) (hr : t.rng = none) (hi : t.dataIdx ≤ t.data.length) {c : RngCall}
    {v : RngValue} (hv : v.Answers c) (hok : v.ok) (rest : List UInt8)
    (hd : t.data.drop t.dataIdx = v.bytesOf ++ rest) :
    t.step os c = some (v, { t with dataIdx := t.dataIdx + v.bytesOf.length }) := by
  have hlen := congrArg List.length hd
  simp only [List.length_drop, List.length_append] at hlen
  have hslice : t.slice v.bytesOf.length = some v.bytesOf := by
    rw [TracedRng.slice, if_pos (by omega), hd, List.take_left' rfl]
  cases c <;> cases v <;> simp only [RngValue.Answers] at hv
  case nextU32.u32 w =>
    simp only [RngValue.bytesOf, u32ToLeBytes_length] at hslice ⊢
    simp [TracedRng.step, TracedRng.nextU32, hr, hslice, u32FromLeBytes_toLeBytes]
  case nextU64.u64 w =>
    simp only [RngValue.bytesOf, u64ToLeBytes_length] at hslice ⊢
    simp [TracedRng.step, TracedRng.nextU64, hr, hslice, u64FromLeBytes_toLeBytes]
  case fillBytes.bytes d =>
    subst hv
    simp only [RngValue.bytesOf] at hslice ⊢
    simp [TracedRng.step, TracedRng.fillBytes, hr, hslice]
  case tryFillBytes.tried r =>
    rcases r with e | d
    · simp [RngValue.ok] at hok
    · subst hv
      simp only [RngValue.bytesOf] at hslice ⊢
      simp [TracedRng.step, TracedRng.tryFillBytes, hr, hslice]

theorem run_record (cs : List RngCall) (t : TracedRng σ) {g : σ} (hg : t.rng = some g) :
    ∃ vs g', t.run os cs = some (vs, ⟨some g', t.dataIdx, t.data ++ recorded vs⟩) ∧ vs.Forall₂ RngValue.Answers cs := by
  induction cs generalizing t g with
  | nil =>
    obtain ⟨r, i, d⟩ := t
    cases hg
    exact ⟨[], g, by simp [TracedRng.run], .nil⟩
  | cons c cs ih =>
    obtain ⟨v, g₁, hs, hv⟩ := step_record os t hg c
    obtain ⟨vs, g₂, hrun, hvs⟩ := ih ⟨some g₁, t.dataIdx, t.data ++ v.bytesOf⟩ rfl
    exact ⟨v :: vs, g₂, by simp [run_cons os t c cs hs, hrun], .cons hv hvs⟩

theorem run_replay (cs : List RngCall) (vs : List RngValue) (hvs : vs.Forall₂ RngValue.Answers cs)
    (hok : ∀ v ∈ vs, v.ok) (t : TracedRng σ) (hr : t.rng = none) (hi : t.dataIdx ≤ t.data.length)
    (rest : List UInt8) (hd : t.data.drop t.dataIdx = recorded vs ++ rest) :
    t.run os cs = some (vs, { t with dataIdx := t.dataIdx + (recorded vs).length }) := by
  induction hvs generalizing t with
  | nil => simp [TracedRng.run]
  | @cons v c vs cs hv hvs ih =>
    simp only [recorded_cons, List.append_assoc] at hd
    have hlen := congrArg List.length hd
    simp only [List.length_drop, List.length_append] at hlen
    have hd' : t.data.drop (t.dataIdx + v.bytesOf.length) = recorded vs ++ rest := by
      rw [← List.drop_drop, hd, List.drop_left' rfl]
    rw [run_cons os t c cs (step_replay os t hr hi hv (hok v (.head _)) _ hd),
      ih (fun w hw => hok w (.tail _ hw)) { t with dataIdx := t.dataIdx + v.bytesOf.length } hr
        (by dsimp only; omega) hd']
    simp [Nat.add_assoc]

/-- Record, then replay: the recording is the bytes of the values in call order, and where every
`try_fill_bytes` of the recording run succeeded, replaying it with the same calls, or with any prefix of them,
gives the same values without a panic and ends the full run at the end of the recording. -/
theorem run_newEmpty_replays (g : σ) (calls : List RngCall) :
    ∃ vs t, (TracedRng.newEmpty g).run os calls = some (vs, t) ∧ vs.Forall₂ RngValue.Answers calls ∧
      t.intoData = recorded vs ∧
      ((∀ v ∈ vs, v.ok) →
        (∀ pre, pre <+: calls →
          ∃ t', (TracedRng.newFrom t.intoData).run os pre = some (vs.take pre.length, t')) ∧
        ∃ t', (TracedRng.newFrom t.intoData).run os calls = some (vs, t') ∧ t'.dataIdx = t'.data.length) := by
  obtain ⟨vs, g', hrun, hvs⟩ := run_record os calls (.newEmpty g) rfl
  simp only [TracedRng.newEmpty, List.nil_append] at hrun
  refine ⟨vs, _, hrun, hvs, rfl, fun hok => ⟨fun pre hpre => ?_, ?_⟩⟩
  · rw [List.prefix_iff_eq_take] at hpre
    have hk := List.forall₂_take pre.length hvs
    rw [← hpre] at hk
    refine ⟨_, run_replay os pre _ hk (fun v hv => hok v (List.mem_of_mem_take hv)) (.newFrom _) rfl
      (Nat.zero_le _) (recorded (vs.drop pre.length)) ?_⟩
    show (recorded vs).drop 0 = _
    rw [List.drop_zero, ← recorded_append, List.take_append_drop]
  · exact ⟨_, run_replay os calls vs hvs hok (.newFrom _) rfl (Nat.zero_le _) [] (List.append_nil _).symm,
      Nat.zero_add _⟩

/-- A source to run the model with: the state counts the draws, and each draw hands out the count. -/
def OsRng.counter : OsRng Nat where
  nextU32 g := (UInt32.ofNat g, g + 1)
  nextU64 g := (UInt64.ofNat g, g + 1)
  fillBytes g n := (List.replicate n (UInt8.ofNat g), g + 1)
  tryFillBytes g n := (.ok (List.replicate n (UInt8.ofNat g)), g + 1)
  fillBytes_length _ _ := List.length_replicate _ _
  tryFillBytes_length g n b h := by cases h; exact List.length_replicate _ _

theorem run_newEmpty_replays_counter :
    ∃ vs t, (TracedRng.newEmpty 7).run OsRng.counter [.nextU32, .tryFillBytes 2] = some (vs, t) ∧
      vs.Forall₂ RngValue.Answers [.nextU32, .tryFillBytes 2] ∧ t.intoData = recorded vs ∧
      (∀ pre, pre <+: [.nextU32, .tryFillBytes 2] →
        ∃ t', (TracedRng.newFrom t.intoData).run OsRng.counter pre = some (vs.take pre.length, t')) ∧
      ∃ t', (TracedRng.newFrom t.intoData).run OsRng.counter [.nextU32, .tryFillBytes 2] = some (vs, t') ∧
        t'.dataIdx = t'.data.length := by
  obtain ⟨vs, t, hrun, hvs, hdata, hreplay⟩ := run_newEmpty_replays OsRng.counter 7 [.nextU32, .tryFillBytes 2]
  have hv : vs = [.u32 7, .tried (.ok [8, 8])] := by
    have h : (TracedRng.newEmpty 7).run OsRng.counter [.nextU32, .tryFillBytes 2] =
        some ([.u32 7, .tried (.ok [8, 8])], ⟨some 9, 0, u32ToLeBytes 7 ++ [8, 8]⟩) := rfl
    rw [h] at hrun
    exact (Prod.mk.inj (Option.some.inj hrun)).1.symm
  subst hv
  exact ⟨_, t, hrun, hvs, hdata, hreplay (by decide)⟩

section Replay

/-- How many recorded bytes a call reads when it is replayed. -/
def RngCall.width : RngCall → Nat
  | .nextU32 => 4
  | .nextU64 => 8
  | .fillBytes len | .tryFillBytes len => len

/-- The value a replayed call makes of the slice it reads. -/
def RngCall.decode : RngCall → List UInt8 → RngValue
  | .nextU32, b => .u32 (u32FromLeBytes b)
  | .nextU64, b => .u64 (u64FromLeBytes b)
  | .fillBytes _, b => .bytes b
  | .tryFillBytes _, b => .tried (.ok b)

theorem bytesOf_decode (c : RngCall) {b : List UInt8} (hb : b.length = c.width) : (c.decode b).bytesOf = b := by
  cases c
  · exact u32ToLeBytes_fromLeBytes hb
  · exact u64ToLeBytes_fromLeBytes hb
  all_goals rfl

theorem slice_eq_some (t : TracedRng σ) {n : Nat} {b : List UInt8} :
    t.slice n = some b ↔ t.dataIdx + n ≤ t.data.length ∧ (t.data.drop t.dataIdx).take n = b := by
  unfold TracedRng.slice; split <;> simp [*]

theorem slice_eq_none (t : TracedRng σ) {n : Nat} : t.slice n = none ↔ t.data.length < t.dataIdx + n := by
  unfold TracedRng.slice; split <;> simp <;> omega

/-- A replaying step reads the slice as wide as its call and decodes it; it panics where the slice does. -/
theorem step_of_replay (t : TracedRng σ) (hr : t.rng = none) (c : RngCall) :
    t.step os c = (t.slice c.width).map fun b => (c.decode b, { t with dataIdx := t.dataIdx + c.width }) := by
  cases c <;> simp only [TracedRng.step, TracedRng.nextU32, TracedRng.nextU64, TracedRng.fillBytes,
    TracedRng.tryFillBytes, hr, Option.map_map] <;> rfl

/-- A replaying run reads consecutive slices of the recording, each as wide as its call, and panics exactly when the
recording is too short for all of them. -/
theorem run_of_replay (cs : List RngCall) (t : TracedRng σ) (hr : t.rng = none) (hi : t.dataIdx ≤ t.data.length) :
    ((t.run os cs).isSome ↔ t.dataIdx + (cs.map RngCall.width).sum ≤ t.data.length) ∧
      ∀ vs t', t.run os cs = some (vs, t') →
        t' = { t with dataIdx := t.dataIdx + (cs.map RngCall.width).sum } ∧
        recorded vs = (t.data.drop t.dataIdx).take (cs.map RngCall.width).sum ∧ ∀ v ∈ vs, v.ok := by
  induction cs generalizing t with
  | nil => simp [TracedRng.run, hi]
  | cons c cs ih =>
    simp only [List.map_cons, List.sum_cons]
    rcases hs : t.slice c.width with _ | b
    · have hlt := (slice_eq_none t).1 hs
      have hn : t.run os (c :: cs) = none := by simp [TracedRng.run, step_of_replay os t hr, hs]
      simp only [hn, Option.isSome_none, Bool.false_eq_true, false_iff, reduceCtorEq, false_implies, implies_true,
        and_true]
      omega
    · obtain ⟨hi', rfl⟩ := (slice_eq_some t).1 hs
      obtain ⟨hiff, hrun⟩ := ih { t with dataIdx := t.dataIdx + c.width } hr hi'
      rw [run_cons os t c cs (by rw [step_of_replay os t hr, hs]; rfl)]
      refine ⟨?_, fun vs t' h => ?_⟩
      · simp only [Option.isSome_map', hiff]
        constructor <;> intro h <;> omega
      simp only [Option.map_eq_some'] at h
      obtain ⟨⟨vs', t''⟩, h', he⟩ := h
      cases he
      obtain ⟨rfl, hrec, hok⟩ := hrun vs' t'' h'
      have hb : ((t.data.drop t.dataIdx).take c.width).length = c.width := by
        simp only [List.length_take, List.length_drop]; omega
      refine ⟨by simp only [Nat.add_assoc], ?_, ?_⟩
      · rw [recorded_cons, hrec, bytesOf_decode c hb, List.take_add, List.drop_drop]
      · rintro v (_ | ⟨_, hv⟩)
        · cases c <;> rfl
        · exact hok v hv

end Replay

end Akasa.V5
