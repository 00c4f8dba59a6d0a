import Akasa.V3.OnlineLoop

/-!
# `handle_request` as a task of the hook service

`HookService::start` spawns the `handle_request` of each request it receives, and its executor runs the spawned
tasks interleaved: a task runs until it awaits a callback of the policy handler and resumes later. `HookTask` is
such a task as the executor sees it: each poll runs one segment, up to the next `.await`, on the context the
request lends. The task of a branch polls the branch's `Segs` one at a time; run back to back, they are the branch
`handle_request` runs, and it replies exactly once, in its last poll, as that poll's last access.
-/

namespace Akasa.HookService
open Akasa.Mqtt Akasa.V3 Akasa.HookDispatch

/-- A spawned task: finished, or what its next poll does to the context it holds, the accesses that poll makes,
and the task left after it. -/
inductive HookTask (C : Type) where
  | done
  | poll (next : C → HookTask C) (write : C → C) (accesses : C → List Access)

namespace HookTask

variable {C D : Type}

/-- The polls of a task run back to back from a context: every access they make, and the context they leave. -/
def finish : HookTask C → C → List Access × C
  | .done, c => ([], c)
  | .poll next write acc, c => Prod.map (acc c ++ ·) id ((next c).finish (write c))

/-- What the connection that lent `c` gets back when the task has run: its context and the reply. -/
def outcome (t : HookTask C) (c : C) : C × Option Reply := ((t.finish c).2, received (t.finish c).1)

/-- The task replies exactly once from `c`, in its last poll and as that poll's last access. -/
def RepliesAt : HookTask C → C → Prop
  | .done, _ => False
  | .poll next write acc, c =>
    (NoReply (acc c) ∧ (next c).RepliesAt (write c)) ∨
      ∃ pre r, acc c = pre ++ [.reply r] ∧ NoReply pre ∧ next c = .done

/-- The task on the part `get` of a bigger context, `put` writing it back. -/
def lift (get : C → D) (put : C → D → C) : HookTask D → HookTask C
  | .done => .done
  | .poll next write acc =>
    .poll (fun c => (next (get c)).lift get put) (fun c => put c (write (get c))) (fun c => acc (get c))

/-- The task of a branch's segments: each poll runs one segment on the context it is lent, from an empty trace. -/
def ofSegs {S P : Type} : Segs S P → HookTask (LockedHookContext S P)
  | .last m => .poll (fun _ => .done) (fun c => (m.run ⟨c, []⟩).2.context) (fun c => (m.run ⟨c, []⟩).2.trace)
  | .seg m rest =>
    .poll (fun c => ofSegs (rest (m.run ⟨c, []⟩).1)) (fun c => (m.run ⟨c, []⟩).2.context)
      (fun c => (m.run ⟨c, []⟩).2.trace)

@[simp] theorem finish_done (c : C) : (done : HookTask C).finish c = ([], c) := rfl

/-- Polled back to back, the segments of a branch that replies last are the branch run at once. -/
theorem finish_ofSegs {S P : Type} {sg : Segs S P} (hs : sg.RepliesLast) (c : LockedHookContext S P) :
    (ofSegs sg).finish c = runLent c sg.run := by
  induction sg generalizing c with
  | last m => simp [ofSegs, HookTask.finish, runLent]
  | seg m rest ih =>
    simp only [ofSegs, HookTask.finish, ih _ (hs.2 _), Segs.run, runLent,
      run_bind_of_appends fun a => (hs.2 a).run.1, Prod.map, id]

/-- Running a lifted task runs the task on its part of the context. -/
theorem finish_lift {get : C → D} {put : C → D → C} (hget : ∀ c d, get (put c d) = d)
    (hput : ∀ c d d', put (put c d) d' = put c d') (hself : ∀ c, put c (get c) = c) (t : HookTask D) (c : C) :
    (t.lift get put).finish c = Prod.map id (put c) (t.finish (get c)) := by
  induction t generalizing c with
  | done => simp [lift, hself]
  | poll next write acc ih =>
    simp only [lift, finish, ih, hget]
    rcases (next (get c)).finish (write (get c)) with ⟨t, d⟩
    exact congrArg (Prod.mk (acc (get c) ++ t)) (hput c _ d)

theorem RepliesAt.lift {get : C → D} {put : C → D → C} (hget : ∀ c d, get (put c d) = d) {t : HookTask D}
    {c : C} (ht : t.RepliesAt (get c)) : (t.lift get put).RepliesAt c := by
  induction t generalizing c with
  | done => exact ht.elim
  | poll next write acc ih =>
    rcases ht with ⟨hn, hr⟩ | ⟨pre, r, ha, hn, hd⟩
    · exact .inl ⟨hn, ih _ (by rwa [hget])⟩
    · exact .inr ⟨pre, r, ha, hn, by simp [HookTask.lift, hd]⟩

/-- A task that replies runs to accesses that end with its one reply. -/
theorem RepliesAt.finish {t : HookTask C} {c : C} (ht : t.RepliesAt c) :
    ∃ pre r, (t.finish c).1 = pre ++ [.reply r] ∧ NoReply pre := by
  induction t generalizing c with
  | done => exact ht.elim
  | poll next write acc ih =>
    rcases ht with ⟨hn, hr⟩ | ⟨pre, r, ha, hn, hd⟩
    · obtain ⟨pre, r, hf, hp⟩ := ih c hr
      refine ⟨acc c ++ pre, r, by simp [HookTask.finish, hf], fun a ha => ?_⟩
      rcases List.mem_append.1 ha with ha | ha
      exacts [hn a ha, hp a ha]
    · exact ⟨pre, r, by simp [HookTask.finish, ha, hd], hn⟩

@[simp] theorem received_reply (pre : List Access) (r : Reply) : received (pre ++ [.reply r]) = some r := by
  simp [received]

/-- A poll that does not reply leaves the outcome to the task after it. -/
theorem outcome_poll {next : C → HookTask C} {write : C → C} {acc : C → List Access} {c : C}
    (hr : (next c).RepliesAt (write c)) : (poll next write acc).outcome c = (next c).outcome (write c) := by
  obtain ⟨pre, r, hf, -⟩ := hr.finish
  simp [outcome, HookTask.finish, hf, ← List.append_assoc]

/-- The segments of a branch that replies last make a task that replies in its last poll. -/
theorem repliesAt_ofSegs {S P : Type} {sg : Segs S P} (hs : sg.RepliesLast) (c : LockedHookContext S P) :
    (ofSegs sg).RepliesAt c := by
  induction sg generalizing c with
  | last m => exact .inr ((hs.2 c).imp fun t ⟨r, ht, hn⟩ => ⟨r, ht, hn, rfl⟩)
  | seg m rest ih => exact .inl ⟨hs.1.2 c, ih _ (hs.2 _) _⟩

end HookTask

open HookTask

/-- What the connections can lend the hook service, for one connection: the session and write queue it has as a
v3 connection, and as a v5 one. A connection lends only the one of its protocol. -/
structure Lendable (S5 : Type) where
  v3 : LockedHookContext Session V3.Packet
  v5 : LockedHookContext S5 V5.Packet

namespace HookTask

variable {S5 : Type}

/-- A task on the v3 context. -/
def onV3 (t : HookTask (LockedHookContext Session V3.Packet)) : HookTask (Lendable S5) :=
  t.lift Lendable.v3 fun x d => { x with v3 := d }

/-- A task on the v5 context. -/
def onV5 (t : HookTask (LockedHookContext S5 V5.Packet)) : HookTask (Lendable S5) :=
  t.lift Lendable.v5 fun x d => { x with v5 := d }

@[simp] theorem finish_onV3 (t : HookTask (LockedHookContext Session V3.Packet)) (x : Lendable S5) :
    t.onV3.finish x = ((t.finish x.v3).1, { x with v3 := (t.finish x.v3).2 }) := by
  unfold onV3
  rw [@finish_lift _ _ Lendable.v3 (fun x d => { x with v3 := d }) (fun _ _ => rfl) (fun _ _ _ => rfl) (fun _ => rfl)]
  rfl

@[simp] theorem finish_onV5 (t : HookTask (LockedHookContext S5 V5.Packet)) (x : Lendable S5) :
    t.onV5.finish x = ((t.finish x.v5).1, { x with v5 := (t.finish x.v5).2 }) := by
  unfold onV5
  rw [@finish_lift _ _ Lendable.v5 (fun x d => { x with v5 := d }) (fun _ _ => rfl) (fun _ _ _ => rfl) (fun _ => rfl)]
  rfl

end HookTask

/-- The request carries the lender's own context: the lender builds its `LockedHookContext` from itself. -/
def Lends {S5 : Type} : HookRequest S5 → Lendable S5 → Prop
  | .v5AfterConnect ctx _, x | .v5Publish ctx _ _ _, x | .v5Subscribe ctx _ _ _, x
  | .v5Unsubscribe ctx _ _ _, x => ctx = x.v5
  | .v3AfterConnect ctx _, x | .v3Publish ctx _ _ _, x | .v3Subscribe ctx _ _ _, x
  | .v3Unsubscribe ctx _ _ _, x => ctx = x.v3
  | .v5BeforeConnect _ _, _ | .v3BeforeConnect _ _, _ => True

/-- The lender's contexts after `handle_request` hands `r` back. -/
def handBack {S5 : Type} : Returned S5 → Lendable S5 → Lendable S5
  | .none, x => x
  | .v5 ctx, x => { x with v5 := ctx }
  | .v3 ctx, x => { x with v3 := ctx }

section Spawn

variable {S5 : Type} (hook : Hook S5) (h : Handlers) (h5 : V5Handlers S5)

/-- The task `HookService::start` spawns for a request: its branch of `handle_request`, on the lender's context
as it is when each poll runs, not on a copy. -/
def taskOf : HookRequest S5 → HookTask (Lendable S5)
  | .v5BeforeConnect peer connect => (ofSegs (v5BeforeConnect hook peer connect)).onV5
  | .v5AfterConnect _ present => (ofSegs (v5AfterConnect hook present)).onV5
  | .v5Publish _ len body p => (ofSegs (v5Publish hook h5 len body p)).onV5
  | .v5Subscribe _ len body p => (ofSegs (v5Subscribe hook h5 len body p)).onV5
  | .v5Unsubscribe _ len body p => (ofSegs (v5Unsubscribe hook h5 len body p)).onV5
  | .v3BeforeConnect peer connect => (ofSegs (v3BeforeConnect hook peer connect)).onV3
  | .v3AfterConnect _ present => (ofSegs (v3AfterConnect hook present)).onV3
  | .v3Publish _ len body p => (ofSegs (v3Publish hook h len body p)).onV3
  | .v3Subscribe _ len body p => (ofSegs (v3Subscribe hook h len body p)).onV3
  | .v3Unsubscribe _ len body p => (ofSegs (v3Unsubscribe hook h len body p)).onV3

/-- Run back to back on the contexts a request lends, its task is `handle_request` on the copy it carries. -/
theorem taskOf_finish (req : HookRequest S5) (x : Lendable S5) (hx : Lends req x) :
    (taskOf hook h h5 req).finish x = ((handleRequest hook h h5 req).1, handBack (handleRequest hook h h5 req).2 x) := by
  cases req <;> simp only [Lends] at hx <;> (try subst hx) <;>
    simp [taskOf, handleRequest, handBack, finish_ofSegs, runLent]

/-- Every spawned task replies exactly once, in its last poll, from whatever context it is lent. -/
theorem taskOf_repliesAt (req : HookRequest S5) (x : Lendable S5) : (taskOf hook h h5 req).RepliesAt x := by
  cases req <;> exact RepliesAt.lift (fun _ _ => rfl) (repliesAt_ofSegs (by simp) _)

end Spawn

end Akasa.HookService
