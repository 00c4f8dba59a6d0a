import Mathlib.Data.List.Nodup
import Akasa.HookService.Task

/-!
# The hook service over every interleaving

Connections lend their session and write queue to the hook service and wait for the reply. `HookService::start`
receives the requests in the order they were sent and spawns a task for each; the executor polls the spawned
tasks in any order, each poll running up to the task's next `.await` on the lender's context itself, through the
pointers of its `LockedHookContext`. Modelled from the spec: a connection that has lent its context waits,
touching nothing, until its reply comes (the online loop does not advance while a hook request is out, and
`after_connect_hook` awaits its receiver). A connection never drops its receiver while it waits.

Over every run, whatever the order of polls, no two parties touch a context at once: a spawned task holds a
context only while its lender waits for the reply, and each connection has at most one request out. No request is
lost, and what a lender gets back is what `handle_request` computes alone from the context it lent: the `unsafe`
lending of `LockedHookContext` is sound because every branch replies as its last access. Nor does a request wait
forever: from every reachable world, receiving the channel and polling the waiting connection's task answers it.
-/

namespace Akasa.HookService
open Akasa.Mqtt Akasa.V3 Akasa.HookDispatch HookTask

/-- A request as a connection builds it from its own contexts: `LockedHookContext::new(self, write_packets)`. -/
def Ask (S5 : Type) : Type := { k : Lendable S5 → HookRequest S5 // ∀ x, Lends (k x) x }

/-- A connection as the hook service sees it: running on its own contexts, or waiting for the reply to the request
it sent, with the contexts it had when it sent it. -/
inductive Lender (S5 : Type) where
  | running
  | waiting (req : HookRequest S5) (lent : Lendable S5)

structure World (S5 : Type) where
  /-- Each connection's contexts: where its session and write queue live. -/
  heap : Nat → Lendable S5
  lenders : Nat → Lender S5
  /-- The channel `HookService::start` receives from, oldest first. -/
  requests : List (Nat × HookRequest S5)
  /-- The spawned tasks, each with the connection whose contexts it holds. -/
  tasks : List (Nat × HookTask (Lendable S5))
  /-- Each connection's oneshot receiver. -/
  replies : Nat → Option Reply

/-- What can happen next, in any order. -/
inductive Action (S5 : Type) where
  /-- A running connection sends a request and waits. -/
  | lend (conn : Nat) (ask : Ask S5)
  /-- `HookService::start` receives the oldest request and spawns its `handle_request`. -/
  | recv
  /-- The executor polls the task holding `conn`'s contexts, up to its next `.await`. -/
  | poll (conn : Nat)
  /-- A waiting connection takes its reply and runs again. -/
  | resume (conn : Nat)
  /-- A running connection changes its own session and write queue. -/
  | work (conn : Nat) (f : Lendable S5 → Lendable S5)

/-- A world where every connection runs and nothing is lent. -/
def World.init {S5 : Type} (heap : Nat → Lendable S5) : World S5 := ⟨heap, fun _ => .running, [], [], fun _ => none⟩

/-- The spawned task a poll leaves behind: none when the task is done. -/
def pending {C : Type} (c : Nat) : HookTask C → List (Nat × HookTask C)
  | .done => []
  | .poll next write acc => [(c, .poll next write acc)]

/-- The oneshot receivers after a poll of `c`'s task that made the accesses `acc`: the reply it sent, if any, is in
`c`'s. -/
def deliver (replies : Nat → Option Reply) (c : Nat) (acc : List Access) : Nat → Option Reply :=
  match received acc with
  | some r => Function.update replies c (some r)
  | none => replies

section Step

variable {S5 : Type} (hook : Hook S5) (h : Handlers) (h5 : V5Handlers S5)

def World.step (w : World S5) : Action S5 → Option (World S5)
  | .lend c ask =>
    match w.lenders c with
    | .running =>
      some { w with
        lenders := Function.update w.lenders c (.waiting (ask.1 (w.heap c)) (w.heap c))
        requests := w.requests ++ [(c, ask.1 (w.heap c))] }
    | .waiting _ _ => none
  | .recv =>
    match w.requests with
    | [] => none
    | (c, req) :: rest => some { w with requests := rest, tasks := w.tasks ++ [(c, taskOf hook h h5 req)] }
  | .poll c =>
    match w.tasks.find? (·.1 == c) with
    | some (_, .poll next write acc) =>
      some { w with
        heap := Function.update w.heap c (write (w.heap c))
        tasks := w.tasks.filter (·.1 != c) ++ pending c (next (w.heap c))
        replies := deliver w.replies c (acc (w.heap c)) }
    | _ => none
  | .resume c =>
    match w.lenders c, w.replies c with
    | .waiting _ _, some _ =>
      some { w with lenders := Function.update w.lenders c .running, replies := Function.update w.replies c none }
    | _, _ => none
  | .work c f =>
    match w.lenders c with
    | .running => some { w with heap := Function.update w.heap c (f (w.heap c)) }
    | .waiting _ _ => none

/-- The actions run one after another, `none` where one cannot happen. -/
def World.run : World S5 → List (Action S5) → Option (World S5)
  | w, [] => some w
  | w, a :: acts => (w.step hook h h5 a).bind fun w' => w'.run acts

/-- The worlds the hook service can reach from one where nothing is lent. -/
inductive Reachable : World S5 → Prop
  | init (heap : Nat → Lendable S5) : Reachable (World.init heap)
  | step {w w' : World S5} (a : Action S5) : Reachable w → w.step hook h h5 a = some w' → Reachable w'

theorem Reachable.run {w w' : World S5} (hw : Reachable hook h h5 w) (acts : List (Action S5))
    (hr : w.run hook h h5 acts = some w') : Reachable hook h h5 w' := by
  induction acts generalizing w with
  | nil => cases hr; exact hw
  | cons a acts ih =>
    simp only [World.run, Option.bind_eq_some] at hr
    obtain ⟨w₁, h₁, h₂⟩ := hr
    exact ih (.step a hw h₁) h₂

end Step

/-- The entries of `l` for connection `c`, in order. -/
def ofConn {α : Type} (l : List (Nat × α)) (c : Nat) : List α := (l.filter (·.1 == c)).map Prod.snd

section OfConn

variable {α : Type}

@[simp] theorem ofConn_nil (c : Nat) : ofConn ([] : List (Nat × α)) c = [] := rfl

@[simp] theorem ofConn_cons (c' : Nat) (a : α) (l : List (Nat × α)) (c : Nat) :
    ofConn ((c', a) :: l) c = if c' = c then a :: ofConn l c else ofConn l c := by
  by_cases hc : c' = c <;> simp [ofConn, List.filter_cons, hc]

@[simp] theorem ofConn_append (l l' : List (Nat × α)) (c : Nat) : ofConn (l ++ l') c = ofConn l c ++ ofConn l' c := by
  simp only [ofConn, List.filter_append, List.map_append]

theorem ofConn_filter (l : List (Nat × α)) (c c' : Nat) :
    ofConn (l.filter (·.1 != c)) c' = if c' = c then [] else ofConn l c' := by
  split
  · subst c'
    induction l with
    | nil => rfl
    | cons p l ih => obtain ⟨c₀, a⟩ := p; by_cases hp : c₀ = c <;> simp [List.filter_cons, hp, ih]
  · rename_i hne
    induction l with
    | nil => rfl
    | cons p l ih => obtain ⟨c₀, a⟩ := p; by_cases hp : c₀ = c <;> simp [List.filter_cons, hp, ih, Ne.symm hne]

theorem mem_ofConn_of_find? {l : List (Nat × α)} {c c₀ : Nat} {a : α} (hf : l.find? (·.1 == c) = some (c₀, a)) :
    c₀ = c ∧ a ∈ ofConn l c := by
  have hc : c₀ = c := by simpa using List.find?_some hf
  subst hc
  exact ⟨rfl, List.mem_map.2 ⟨_, List.mem_filter.2 ⟨List.mem_of_find?_eq_some hf, by simp⟩, rfl⟩⟩

end OfConn

/-- What the hook service holds of one connection: its contexts, whether it waits, its oneshot receiver, its
requests in the channel and the spawned tasks holding its contexts. -/
structure Slot (S5 : Type) where
  heap : Lendable S5
  lender : Lender S5
  reply : Option Reply
  requests : List (HookRequest S5)
  tasks : List (HookTask (Lendable S5))

def World.slot {S5 : Type} (w : World S5) (c : Nat) : Slot S5 :=
  ⟨w.heap c, w.lenders c, w.replies c, ofConn w.requests c, ofConn w.tasks c⟩

/-- Where a connection's context is, as the token of a lock: with the connection while it runs; for a waiting
one, exactly one of its request in the channel, one task holding the context, or the reply in its receiver. The
outcome of the task is fixed when the request is sent. -/
def Slot.Inv {S5 : Type} (hook : Hook S5) (h : Handlers) (h5 : V5Handlers S5) : Slot S5 → Prop
  | ⟨_, .running, reply, rq, tk⟩ => rq = [] ∧ tk = [] ∧ reply = none
  | ⟨heap, .waiting req x0, reply, rq, tk⟩ => Lends req x0 ∧
    ((rq = [req] ∧ tk = [] ∧ reply = none ∧ heap = x0) ∨
      (rq = [] ∧ reply = none ∧ ∃ t, tk = [t] ∧ t.RepliesAt heap ∧
        t.outcome heap = (taskOf hook h h5 req).outcome x0) ∨
      (rq = [] ∧ tk = [] ∧ ∃ r, reply = some r ∧ (heap, some r) = (taskOf hook h h5 req).outcome x0))

def World.Inv {S5 : Type} (hook : Hook S5) (h : Handlers) (h5 : V5Handlers S5) (w : World S5) : Prop :=
  ∀ c, (w.slot c).Inv hook h h5

section Preservation

variable {S5 : Type} {hook : Hook S5} {h : Handlers} {h5 : V5Handlers S5} {w w' : World S5}

theorem received_eq_none {t : List Access} (hn : NoReply t) : received t = none := by
  unfold received
  split
  · rename_i r hr
    exact absurd (hn _ (List.mem_of_getLast?_eq_some hr)) (by simp [Access.isReply])
  · rfl

theorem deliver_noReply (replies : Nat → Option Reply) (c : Nat) {t : List Access} (hn : NoReply t) :
    deliver replies c t = replies := by
  simp [deliver, received_eq_none hn]

theorem deliver_reply (replies : Nat → Option Reply) (c : Nat) (pre : List Access) (r : Reply) :
    deliver replies c (pre ++ [.reply r]) = Function.update replies c (some r) := by
  simp [deliver]

theorem deliver_ne (replies : Nat → Option Reply) {c c' : Nat} (acc : List Access) (hne : c' ≠ c) :
    deliver replies c acc c' = replies c' := by
  unfold deliver; cases received acc <;> simp [Function.update_noteq hne]

theorem ofConn_pending_ne {C : Type} {c c' : Nat} (t : HookTask C) (hne : c' ≠ c) : ofConn (pending c t) c' = [] := by
  cases t <;> simp [pending, Ne.symm hne]

/-- A step that keeps the invariant of the connection it acts on, and leaves every other connection's slot as it
was, keeps the invariant. -/
theorem World.Inv.of_slot (hi : w.Inv hook h h5) (c : Nat) (hc : (w'.slot c).Inv hook h h5)
    (hf : ∀ c', c' ≠ c → w'.slot c' = w.slot c') : w'.Inv hook h h5 := fun c' =>
  if hne : c' = c then hne ▸ hc else (hf c' hne) ▸ hi c'

theorem World.init_inv (heap : Nat → Lendable S5) : (World.init heap).Inv hook h h5 :=
  fun _ => ⟨rfl, rfl, rfl⟩

theorem World.Inv.lend (hi : w.Inv hook h h5) {c : Nat} {ask : Ask S5}
    (hs : w.step hook h h5 (.lend c ask) = some w') : w'.Inv hook h h5 := by
  simp only [World.step] at hs
  split at hs
  case h_2 => cases hs
  rename_i hl
  cases hs
  have hc := hi c
  simp only [World.slot, hl, Slot.Inv] at hc
  obtain ⟨hrq, htk, hrp⟩ := hc
  refine hi.of_slot c ?_ fun c' hne => ?_
  · simp only [World.slot, Function.update_same, ofConn_append, hrq, htk, hrp, ofConn_cons, ofConn_nil, if_true,
      List.nil_append, Slot.Inv]
    exact ⟨ask.2 _, .inl (by simp)⟩
  · simp [World.slot, Function.update_noteq hne, Ne.symm hne]

theorem World.Inv.recv (hi : w.Inv hook h h5) (hs : w.step hook h h5 .recv = some w') : w'.Inv hook h h5 := by
  simp only [World.step] at hs
  split at hs
  case h_1 => cases hs
  rename_i c req rest hrq
  cases hs
  have hc := hi c
  have hof : ofConn w.requests c = req :: ofConn rest c := by simp [hrq]
  simp only [World.slot, hof] at hc
  refine hi.of_slot c ?_ fun c' hne => ?_
  · simp only [World.slot]
    revert hc
    rcases w.lenders c with _ | ⟨req', x0⟩ <;> simp only [Slot.Inv]
    · exact fun h' => absurd h'.1 (List.cons_ne_nil _ _)
    · rintro ⟨hlends, ⟨hq, htk, hrp, hx⟩ | ⟨hq, -⟩ | ⟨hq, -⟩⟩
      · obtain ⟨rfl, hrest⟩ := List.cons_eq_cons.1 hq
        simp only [hrest, ofConn_append, htk, ofConn_cons, ofConn_nil, if_true, List.nil_append, hrp, hx]
        exact ⟨hlends, .inr (.inl ⟨trivial, trivial, _, rfl, taskOf_repliesAt hook h h5 req _, rfl⟩)⟩
      all_goals exact absurd hq (List.cons_ne_nil _ _)
  · simp [World.slot, hrq, Ne.symm hne]

theorem ofConn_pending_self {C : Type} (c : Nat) {t : HookTask C} {x : C} (ht : t.RepliesAt x) :
    ofConn (pending c t) c = [t] := by
  cases t
  · exact ht.elim
  · simp [pending]

theorem World.Inv.poll (hi : w.Inv hook h h5) {c : Nat} (hs : w.step hook h h5 (.poll c) = some w') :
    w'.Inv hook h h5 := by
  simp only [World.step] at hs
  split at hs
  case h_2 => cases hs
  rename_i c₀ next write acc hf
  cases hs
  obtain ⟨rfl, hmem⟩ := mem_ofConn_of_find? hf
  refine hi.of_slot c₀ ?_ fun c' hne => ?_
  · have hc := hi c₀
    simp only [World.slot] at hc ⊢
    simp only [Function.update_same, ofConn_append, ofConn_filter, if_true, List.nil_append]
    revert hc hmem
    rcases w.lenders c₀ with _ | ⟨req, x0⟩ <;> simp only [Slot.Inv]
    · rintro hmem ⟨-, htk, -⟩
      simp [htk] at hmem
    · rintro hmem ⟨hlends, ⟨-, htk, -⟩ | ⟨hrq, hrp, t, htk, hrep, hout⟩ | ⟨-, htk, -⟩⟩
      · simp [htk] at hmem
      · rw [htk, List.mem_singleton] at hmem
        subst hmem
        refine ⟨hlends, ?_⟩
        rcases hrep with ⟨hn, hnext⟩ | ⟨pre, r, ha, -, hd⟩
        · rw [deliver_noReply _ _ hn, ofConn_pending_self _ hnext]
          exact .inr (.inl ⟨hrq, hrp, _, rfl, hnext, (outcome_poll hnext).symm.trans hout⟩)
        · rw [ha, deliver_reply, Function.update_same, hd]
          refine .inr (.inr ⟨hrq, rfl, r, rfl, ?_⟩)
          rw [← hout]
          simp [HookTask.outcome, HookTask.finish, ha, hd]
      · simp [htk] at hmem
  · simp only [World.slot, Function.update_noteq hne, deliver_ne _ _ hne, ofConn_append, ofConn_filter, hne,
      if_false, ofConn_pending_ne _ hne, List.append_nil]

theorem World.Inv.resume (hi : w.Inv hook h h5) {c : Nat} (hs : w.step hook h h5 (.resume c) = some w') :
    w'.Inv hook h h5 := by
  simp only [World.step] at hs
  split at hs
  case h_2 => cases hs
  rename_i req x0 r hl hr
  cases hs
  have hc := hi c
  simp only [World.slot, hl, hr, Slot.Inv] at hc
  obtain ⟨-, ⟨-, -, hrp, -⟩ | ⟨-, hrp, -⟩ | ⟨hrq, htk, -⟩⟩ := hc
  iterate 2 exact absurd hrp (Option.some_ne_none _)
  refine hi.of_slot c ?_ fun c' hne => ?_
  · simp only [World.slot, Function.update_same, Slot.Inv]
    exact ⟨hrq, htk, trivial⟩
  · simp only [World.slot, Function.update_noteq hne]

theorem World.Inv.work (hi : w.Inv hook h h5) {c : Nat} {f : Lendable S5 → Lendable S5}
    (hs : w.step hook h h5 (.work c f) = some w') : w'.Inv hook h h5 := by
  simp only [World.step] at hs
  split at hs
  case h_2 => cases hs
  rename_i hl
  cases hs
  have hc := hi c
  refine hi.of_slot c ?_ fun c' hne => ?_
  · simp only [World.slot, hl, Slot.Inv] at hc ⊢
    exact hc
  · simp only [World.slot, Function.update_noteq hne]

/-- Every reachable world keeps the invariant of each connection. -/
theorem Reachable.inv (hw : Reachable hook h h5 w) : w.Inv hook h h5 := by
  induction hw with
  | init heap => exact World.init_inv heap
  | step a _ hs ih =>
    cases a with
    | lend c ask => exact ih.lend hs
    | recv => exact ih.recv hs
    | poll c => exact ih.poll hs
    | resume c => exact ih.resume hs
    | work c f => exact ih.work hs

end Preservation

section Safety

variable {S5 : Type} (hook : Hook S5) (h : Handlers) (h5 : V5Handlers S5)

theorem count_map_fst {α : Type} (l : List (Nat × α)) (c : Nat) : (l.map Prod.fst).count c = (ofConn l c).length := by
  induction l with
  | nil => rfl
  | cons p l ih =>
    obtain ⟨c₀, a⟩ := p
    by_cases hc : c₀ = c <;> simp [List.count_cons, hc, ih]

theorem mem_map_fst {α : Type} (l : List (Nat × α)) (c : Nat) : c ∈ l.map Prod.fst ↔ ofConn l c ≠ [] := by
  rw [← List.count_pos_iff, count_map_fst, List.length_pos]

/-- What the invariant says of one connection: who may touch its contexts. -/
theorem Slot.Inv.exclusive {s : Slot S5} (hs : s.Inv hook h h5) :
    (s.lender = .running → s.requests = [] ∧ s.tasks = [] ∧ s.reply = none) ∧
    s.requests.length + s.tasks.length ≤ 1 ∧
    (s.tasks ≠ [] → (∃ req x0, s.lender = .waiting req x0) ∧ s.reply = none) ∧
    (∀ req x0, s.lender = .waiting req x0 → s.requests ≠ [] ∨ s.tasks ≠ [] ∨ s.reply ≠ none) := by
  rcases s with ⟨heap, _ | ⟨req, x0⟩, reply, rq, tk⟩
  · obtain ⟨rfl, rfl, rfl⟩ := hs
    simp
  · obtain ⟨-, ⟨rfl, rfl, rfl, -⟩ | ⟨rfl, rfl, t, rfl, -⟩ | ⟨rfl, rfl, r, rfl, -⟩⟩ := hs <;> simp

/-- Over every interleaving no two parties touch a connection's contexts at once: a running connection has nothing
out; each connection has at most one request in the channel or task spawned; a task holds a context only while its
lender waits and before the reply; and a waiting connection's request is never lost. -/
theorem reachable_exclusive {w : World S5} (hw : Reachable hook h h5 w) (c : Nat) :
    (w.lenders c = .running → c ∉ w.requests.map Prod.fst ∧ c ∉ w.tasks.map Prod.fst ∧ w.replies c = none) ∧
    (w.requests.map Prod.fst ++ w.tasks.map Prod.fst).Nodup ∧
    (c ∈ w.tasks.map Prod.fst → (∃ req x0, w.lenders c = .waiting req x0) ∧ w.replies c = none) ∧
    (∀ req x0, w.lenders c = .waiting req x0 →
      c ∈ w.requests.map Prod.fst ∨ c ∈ w.tasks.map Prod.fst ∨ w.replies c ≠ none) := by
  have hi := hw.inv
  obtain ⟨hrun, -, htk, hwait⟩ := (hi c).exclusive
  simp only [mem_map_fst, ne_eq, not_not]
  refine ⟨hrun, List.nodup_iff_count_le_one.2 fun c' => ?_, htk, hwait⟩
  rw [List.count_append, count_map_fst, count_map_fst]
  exact ((hi c').exclusive).2.1

theorem outcome_taskOf {req : HookRequest S5} {x : Lendable S5} (hx : Lends req x) :
    (taskOf hook h h5 req).outcome x = (handBack (handleRequest hook h h5 req).2 x, received (handleRequest hook h h5 req).1) := by
  simp only [HookTask.outcome, taskOf_finish hook h h5 req x hx]

/-- The reply a waiting connection finds, and its contexts then, are what its request's task computes alone. -/
theorem World.Inv.reply_heap {w : World S5} (hi : w.Inv hook h h5) {c : Nat} {req : HookRequest S5}
    {x0 : Lendable S5} {r : Reply} (hc : w.lenders c = .waiting req x0) (hr : w.replies c = some r) :
    w.heap c = handBack (handleRequest hook h h5 req).2 x0 ∧ received (handleRequest hook h h5 req).1 = some r := by
  have hi := hi c
  simp only [World.slot, hc, hr, Slot.Inv] at hi
  obtain ⟨hx, ⟨-, -, hrp, -⟩ | ⟨-, hrp, -⟩ | ⟨-, -, r', hrr, hout⟩⟩ := hi
  iterate 2 exact absurd hrp (Option.some_ne_none _)
  cases hrr
  rw [outcome_taskOf hook h h5 hx, Prod.mk.injEq] at hout
  exact ⟨hout.1, hout.2.symm⟩

/-- Whatever the interleaving, a waiting connection whose reply has come finds its contexts and the reply as
`handle_request` computes them alone from the contexts it lent. -/
theorem reachable_reply_sequential {w : World S5} (hw : Reachable hook h h5 w) {c : Nat} {req : HookRequest S5}
    {x0 : Lendable S5} {r : Reply} (hc : w.lenders c = .waiting req x0) (hr : w.replies c = some r) :
    w.heap c = handBack (handleRequest hook h h5 req).2 x0 ∧ received (handleRequest hook h h5 req).1 = some r :=
  hw.inv.reply_heap hook h h5 hc hr

/-- Every connection holds a `v3` session with the before-publish hook on; nothing is lent. -/
def publishHeap : Nat → Lendable Unit := fun _ => ⟨⟨Session.new (.ofHooks ⟨false, true, false, false⟩), []⟩, ⟨(), []⟩⟩

/-- A `v3` connection publishing at QoS 0. -/
def askPublish : Ask Unit := ⟨fun x => .v3Publish x.v3 9 [] ⟨false, false, .level0, "t", []⟩, fun _ => rfl⟩

/-- Two connections publish at once; the executor polls the second's task first. -/
def twoPublishers : List (Action Unit) :=
  [.lend 1 askPublish, .lend 2 askPublish, .recv, .recv, .poll 2, .poll 1, .poll 1, .poll 2]

theorem reachable_exclusive_twoPublishers :
    ∃ w : World Unit, Reachable .transparent .stateless .stateless w ∧
      ∀ c, (w.lenders c = .running → c ∉ w.requests.map Prod.fst ∧ c ∉ w.tasks.map Prod.fst ∧ w.replies c = none) ∧
        (w.requests.map Prod.fst ++ w.tasks.map Prod.fst).Nodup ∧
        (c ∈ w.tasks.map Prod.fst → (∃ req x0, w.lenders c = .waiting req x0) ∧ w.replies c = none) ∧
        (∀ req x0, w.lenders c = .waiting req x0 →
          c ∈ w.requests.map Prod.fst ∨ c ∈ w.tasks.map Prod.fst ∨ w.replies c ≠ none) :=
  ⟨_, (Reachable.init publishHeap).run _ _ _ (twoPublishers.take 6) rfl,
    reachable_exclusive .transparent .stateless .stateless ((Reachable.init publishHeap).run _ _ _ (twoPublishers.take 6) rfl)⟩

theorem reachable_reply_sequential_twoPublishers :
    ∃ w : World Unit, Reachable .transparent .stateless .stateless w ∧
      w.lenders 1 = .waiting (.v3Publish (publishHeap 1).v3 9 [] ⟨false, false, .level0, "t", []⟩) (publishHeap 1) ∧
      w.replies 1 = some (.result (.ok ())) ∧
      (w.heap 1 = handBack (handleRequest .transparent .stateless .stateless
          (.v3Publish (publishHeap 1).v3 9 [] ⟨false, false, .level0, "t", []⟩)).2 (publishHeap 1) ∧
        received (handleRequest (.transparent : Hook Unit) .stateless .stateless
          (.v3Publish (publishHeap 1).v3 9 [] ⟨false, false, .level0, "t", []⟩)).1 = some (.result (.ok ()))) :=
  ⟨_, (Reachable.init publishHeap).run _ _ _ twoPublishers rfl, rfl, rfl,
    reachable_reply_sequential .transparent .stateless .stateless
      ((Reachable.init publishHeap).run _ _ _ twoPublishers rfl) rfl rfl⟩

end Safety

section Progress

variable {S5 : Type} (hook : Hook S5) (h : Handlers) (h5 : V5Handlers S5)

theorem World.run_append (w : World S5) (as bs : List (Action S5)) :
    w.run hook h h5 (as ++ bs) = (w.run hook h h5 as).bind fun w' => w'.run hook h h5 bs := by
  induction as generalizing w with
  | nil => rfl
  | cons a as ih =>
    simp only [List.cons_append, World.run, Option.bind_assoc]
    exact congrArg _ (funext ih)

/-- `HookService::start` receives every request in the channel, one `recv` each. -/
theorem World.run_recv_all (w : World S5) : ∃ w', w.run hook h h5 (List.replicate w.requests.length .recv) = some w' ∧
    w'.requests = [] ∧ w'.lenders = w.lenders := by
  obtain ⟨heap, lenders, rq, tasks, replies⟩ := w
  induction rq generalizing tasks with
  | nil => exact ⟨_, rfl, rfl, rfl⟩
  | cons p rq ih =>
    obtain ⟨c, req⟩ := p
    exact ih (tasks ++ [(c, taskOf hook h h5 req)])

theorem find?_fst {α : Type} (l : List (Nat × α)) (c : Nat) :
    l.find? (·.1 == c) = (ofConn l c).head?.map (Prod.mk c) := by
  induction l with
  | nil => rfl
  | cons p l ih =>
    obtain ⟨c₀, a⟩ := p
    by_cases hc : c₀ = c
    · subst hc; simp [List.find?_cons]
    · simp [List.find?_cons, hc, ih]

/-- A poll of `c`'s task runs it up to its next `.await` on `c`'s contexts. -/
theorem World.step_poll {w : World S5} {c : Nat} {next : Lendable S5 → HookTask (Lendable S5)}
    {write : Lendable S5 → Lendable S5} {acc : Lendable S5 → List Access}
    (hf : w.tasks.find? (·.1 == c) = some (c, .poll next write acc)) :
    ∃ w', w.step hook h h5 (.poll c) = some w' ∧ w'.heap c = write (w.heap c) ∧
      ofConn w'.tasks c = ofConn (pending c (next (w.heap c))) c ∧
      w'.replies c = deliver w.replies c (acc (w.heap c)) c ∧ w'.lenders = w.lenders :=
  ⟨{ w with
      heap := Function.update w.heap c (write (w.heap c))
      tasks := w.tasks.filter (·.1 != c) ++ pending c (next (w.heap c))
      replies := deliver w.replies c (acc (w.heap c)) },
    by simp only [World.step, hf], Function.update_same _ _ _,
    by simp only [ofConn_append, ofConn_filter, if_true, List.nil_append], rfl, rfl⟩

/-- Polled again and again, a spawned task that replies last delivers its reply. -/
theorem World.run_poll_replies {c : Nat} (t : HookTask (Lendable S5)) :
    ∀ w : World S5, ofConn w.tasks c = [t] → t.RepliesAt (w.heap c) →
      ∃ k w', w.run hook h h5 (List.replicate k (.poll c)) = some w' ∧ w'.replies c ≠ none ∧ w'.lenders = w.lenders := by
  induction t with
  | done => exact fun _ _ hr => hr.elim
  | poll next write acc ih =>
    intro w ht hr
    obtain ⟨w₁, hs, hheap, htasks, hrep, hl⟩ := World.step_poll hook h h5 (by rw [find?_fst, ht]; rfl)
    rcases hr with ⟨-, hnext⟩ | ⟨pre, r, ha, -, hd⟩
    · obtain ⟨k, w', hw', hrep', hl'⟩ := ih (w.heap c) w₁ (by rw [htasks, ofConn_pending_self _ hnext])
        (by rwa [hheap])
      exact ⟨k + 1, w', by simpa only [List.replicate_succ, World.run, hs, Option.some_bind] using hw', hrep',
        hl'.trans hl⟩
    · exact ⟨1, w₁, by simp only [List.replicate, World.run, hs, Option.some_bind], by simp [hrep, ha, deliver_reply],
        hl⟩

/-- No request waits forever: from every reachable world, `HookService::start` receiving the channel and the
executor polling the waiting connection's task deliver its reply, and the connection resumes with its contexts as
`handle_request` computes them alone. No other connection has to act. -/
theorem reachable_answered {w : World S5} (hw : Reachable hook h h5 w) {c : Nat} {req : HookRequest S5}
    {x0 : Lendable S5} (hc : w.lenders c = .waiting req x0) :
    ∃ n k w', w.run hook h h5 (List.replicate n .recv ++ List.replicate k (.poll c) ++ [.resume c]) = some w' ∧
      w'.lenders c = .running ∧ w'.heap c = handBack (handleRequest hook h h5 req).2 x0 := by
  obtain ⟨w₁, h₁, hrq, hl₁⟩ := w.run_recv_all hook h h5
  have hw₁ := hw.run _ _ _ _ h₁
  obtain ⟨k, w₂, h₂, hrep, hl₂⟩ : ∃ k w₂, w₁.run hook h h5 (List.replicate k (.poll c)) = some w₂ ∧
      w₂.replies c ≠ none ∧ w₂.lenders = w₁.lenders := by
    have hi := hw₁.inv c
    simp only [World.slot, hl₁, hc, hrq, ofConn_nil, Slot.Inv] at hi
    obtain ⟨-, ⟨hq, -⟩ | ⟨-, -, t, ht, hrt, -⟩ | ⟨-, -, r, hr, -⟩⟩ := hi
    · exact absurd hq.symm (List.cons_ne_nil _ _)
    · exact World.run_poll_replies hook h h5 t w₁ ht hrt
    · exact ⟨0, w₁, rfl, by simp [hr], rfl⟩
  obtain ⟨r, hr⟩ := Option.ne_none_iff_exists'.1 hrep
  have hc₂ : w₂.lenders c = .waiting req x0 := by rw [hl₂, hl₁, hc]
  refine ⟨w.requests.length, k,
    { w₂ with lenders := Function.update w₂.lenders c .running, replies := Function.update w₂.replies c none }, ?_,
    Function.update_same _ _ _, ((hw₁.run _ _ _ _ h₂).inv.reply_heap hook h h5 hc₂ hr).1⟩
  simp only [World.run_append, h₁, h₂, Option.some_bind, World.run, World.step, hc₂, hr]

theorem reachable_answered_twoPublishers :
    ∃ w : World Unit, Reachable .transparent .stateless .stateless w ∧
      w.lenders 1 = .waiting (.v3Publish (publishHeap 1).v3 9 [] ⟨false, false, .level0, "t", []⟩) (publishHeap 1) ∧
      ∃ n k w', w.run .transparent .stateless .stateless
          (List.replicate n .recv ++ List.replicate k (.poll 1) ++ [.resume 1]) = some w' ∧
        w'.lenders 1 = .running ∧ w'.heap 1 = handBack (handleRequest .transparent .stateless .stateless
          (.v3Publish (publishHeap 1).v3 9 [] ⟨false, false, .level0, "t", []⟩)).2 (publishHeap 1) :=
  ⟨_, (Reachable.init publishHeap).run _ _ _ (twoPublishers.take 2) rfl, rfl,
    reachable_answered .transparent .stateless .stateless
      ((Reachable.init publishHeap).run _ _ _ (twoPublishers.take 2) rfl) rfl⟩

end Progress

end Akasa.HookService
