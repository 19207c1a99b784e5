import Dmx485.Mailbox

/-!
# Every execution consumes a request of its own

The executions of `connect` and `disconnect` that have been entered, together with those the plan
still lists, never outnumber those that the host's posts stand for (`Balanced`); and the host
posts no more refresh and disconnect requests than it has entered the functions that post them
(`Prog.Solvent`). Both are invariants of every run, for every interleaving and every driver.

The bounds are upper bounds: a request can be overwritten before it is read, but none is served
twice. The connect request that a restart posts to itself is part of the refresh it belongs to.

* `World.count`, `World.pledged`: how often a party has performed an operation, and how many
  executions of a function the posts so far stand for.
* `Balanced.worker`, `Balanced.host`: the invariant through a step of either thread.
* `handle_pays`: no message posts a refresh or disconnect request without entering its function.
* `accounted_of_runs`: both invariants along every run from an empty mailbox.
* `executed_once`: the two bounds on executions.
-/

namespace Dmx485

open Interaction Relation

/-! ## Counting -/

/-- How often a party has performed an operation. -/
def World.count (party : Party) (o : Op) (w : World) : ℕ :=
  w.log.countP fun e => decide (e.party = party ∧ e.op = o)

/-- One operation more is counted if it is the one that is counted. -/
lemma count_exec (party party' : Party) (o o' : Op) (r : Reply) (w : World) :
    ((machine party').exec o' r w).2.count party o =
      w.count party o + if party' = party ∧ o' = o then 1 else 0 := by
  simp only [World.count, machine_log, List.countP_cons, decide_eq_true_eq]

/-- The executions of `f` that the host's posts stand for. -/
def World.pledged (f : Fn) (w : World) : ℕ :=
  w.count .host (.setThreadAction 1) * (served 1).count f +
    w.count .host (.setThreadAction 2) * (served 2).count f +
    w.count .host (.setThreadAction 3) * (served 3).count f

/-- Executions of `connect` are pledged by the requests 1 and 3. -/
lemma pledged_connect (w : World) : w.pledged .connect =
    w.count .host (.setThreadAction 1) + w.count .host (.setThreadAction 3) := by
  simp [World.pledged, served]

/-- Executions of `disconnect` are pledged by the requests 2 and 3. -/
lemma pledged_disconnect (w : World) : w.pledged .disconnect =
    w.count .host (.setThreadAction 2) + w.count .host (.setThreadAction 3) := by
  simp [World.pledged, served]

/-- The worker pledges nothing. -/
lemma pledged_worker (f : Fn) (o : Op) (r : Reply) (w : World) :
    ((machine .worker).exec o r w).2.pledged f = w.pledged f := by
  simp [World.pledged, count_exec]

/-- Nor does a calm operation of the host. -/
lemma pledged_calm (f : Fn) {o : Op} (ho : o.Calm) (r : Reply) (w : World) :
    ((machine .host).exec o r w).2.pledged f = w.pledged f := by
  simp [World.pledged, count_exec, ho.ne_setThreadAction]

/-- A post pledges what it will be served by. -/
lemma pledged_post (f : Fn) {action : Int} (ha : action = 1 ∨ action = 2 ∨ action = 3) (r : Reply)
    (w : World) : ((machine .host).exec (.setThreadAction action) r w).2.pledged f =
      w.pledged f + (served action).count f := by
  rcases ha with rfl | rfl | rfl <;> simp [World.pledged, count_exec, Nat.add_mul] <;> omega

/-! ## The worker -/

/-- The executions that are due and not yet entered. -/
def due (p : Place) (action : Int) : List Fn :=
  match p with
  | .start l => l.plan action
  | .within l _ _ => (l.plan action).drop l.executes.length

/-- The executions of `f` entered so far and those still due are covered by posts. -/
def Balanced (f : Fn) (p : Place) (w : World) : Prop :=
  w.count .worker (.enter f) + (due p w.obj.threadAction).count f ≤ w.pledged f

/-- At the start of a block all of its plan is due. -/
lemma due_start (l : Label) (action : Int) : due (.start l) action = l.plan action := rfl

/-- Past its first operation, a block owes what the next one owes. -/
lemma due_within (l : Label) (e : World) (k : Code Label) (x : Obj) :
    due (.within l e k) x.threadAction = (l.next x).plan (l.firstOp.effect x).threadAction := by
  rw [due, l.plan_next x, List.drop_left]

/-- The first operation of a block enters what the block executes. -/
lemma count_firstOp {f : Fn} (hf : f = .connect ∨ f = .disconnect) (l : Label) (r : Reply)
    (w : World) : ((machine .worker).exec l.firstOp r w).2.count .worker (.enter f) =
      w.count .worker (.enter f) + l.executes.count f := by
  rw [count_exec]
  rcases hf with rfl | rfl <;> cases l <;> rfl

/-- **A step of the worker** keeps the balance. -/
lemma Balanced.worker {f : Fn} (hf : f = .connect ∨ f = .disconnect) {p : Place} {w : World}
    {r : Reply} (htail : p.TailAll Label.Later)
    (hsucc : ∀ l', (p.step (machine .worker) thread r w).1 = .start l' → l' ∈ p.label.succs)
    (h : Balanced f p w) :
    Balanced f (p.step (machine .worker) thread r w).1 (p.step (machine .worker) thread r w).2 := by
  obtain ⟨l, rfl, hl, hs⟩ | ⟨l, k, rfl, hl, hs⟩ | ⟨l, e, k, o, rfl, hl, ho, hw, hpos⟩ :=
    worker_cases htail r w
  · have hplan := congrArg (List.count f) (l.plan_next w.obj)
    rw [List.count_append] at hplan
    rw [hs]
    unfold Balanced at *
    rw [due_start] at h ⊢
    rw [count_firstOp hf, pledged_worker, machine_obj]
    omega
  · have hplan := congrArg (List.count f) (l.plan_next w.obj)
    rw [List.count_append] at hplan
    rw [hs]
    unfold Balanced at *
    rw [due_start] at h
    rw [count_firstOp hf, pledged_worker, machine_obj, hl.firstOp_threadAction, due_within]
    omega
  · have haction : (o.effect w.obj).threadAction = w.obj.threadAction :=
      effect_threadAction ho.ne_setThreadAction _
    have henter : o ≠ .enter f := by
      rintro rfl
      exact ho
    have hcount : ((machine .worker).exec o r w).2.count .worker (.enter f) =
        w.count .worker (.enter f) := by
      rw [count_exec, if_neg fun h => henter h.2, Nat.add_zero]
    have hdue : due ((Position.within l e k : Place).step (machine .worker) thread r w).1
        w.obj.threadAction = due (.within l e k) w.obj.threadAction := by
      rcases hpos with ⟨k', hk'⟩ | ⟨l', hl'⟩
      · rw [hk']
        rfl
      · rw [hl', due_within, due_start, l.next_of_succs hl (hsucc l' hl'), hl.firstOp_threadAction]
    unfold Balanced at *
    rw [hw, machine_obj, haction, hdue, hcount, pledged_worker]
    exact h

/-- A post adds no more than it stands for. -/
lemma count_due_post (f : Fn) (p : Place) (action posted : Int) :
    (due p posted).count f ≤ (due p action).count f + (served posted).count f := by
  cases p with
  | start l => cases l <;> simp [due, Label.plan, List.count_cons] <;> omega
  | within l e k => cases l <;> simp [due, Label.plan, Label.executes, List.count_cons]

/-- **A step of the host** keeps the balance: what it posts, it pledges. -/
lemma Balanced.host {f : Fn} {o : Op} (ho : o.Host) {p : Place} {w : World} (r : Reply)
    (h : Balanced f p w) : Balanced f p ((machine .host).exec o r w).2 := by
  have hcount : ((machine .host).exec o r w).2.count .worker (.enter f) =
      w.count .worker (.enter f) := by
    simp [count_exec]
  unfold Balanced at *
  rw [hcount, machine_obj]
  rcases ho.calm_or_post with hcalm | ⟨action, rfl, ha⟩
  · rw [pledged_calm f hcalm, effect_threadAction hcalm.ne_setThreadAction]
    exact h
  · have hdue := count_due_post f p w.obj.threadAction action
    rw [pledged_post f ha]
    show _ + (due p action).count f ≤ _
    omega

/-! ## The host -/

/-- A host program that has entered `f` once for each time it posts `action`, counting from a
credit. -/
def Pays (f : Fn) (action : Int) (p : Code Unit) (n : ℕ) : Prop :=
  p.Solvent (fun o : Op => if o = .enter f then 1 else 0)
    (fun o : Op => if o = .setThreadAction action then 1 else 0) n

/-- A program that posts no such request has nothing to pay for. -/
lemma pays_of_all {f : Fn} {action : Int} {p : Code Unit}
    (hp : p.All fun o : Op => o ≠ .setThreadAction action) (n : ℕ) : Pays f action p n :=
  Prog.Solvent.of_all (hp.mono fun _ ho => if_neg ho) n

/-- The posts that must be paid for, with the functions that pay. -/
def PaidBy (f : Fn) (action : Int) : Prop :=
  (f = .disable ∧ action = 2) ∨ (f = .refresh ∧ action = 3)

/-- `enable` posts 1 only. -/
lemma enable_pays {f : Fn} {action : Int} (hf : PaidBy f action) (n : ℕ) :
    Pays f action enable n := by
  have hone : (Op.setThreadAction 1) ≠ .setThreadAction action := by
    rcases hf with ⟨-, rfl⟩ | ⟨-, rfl⟩ <;> decide
  refine pays_of_all (.step Op.noConfusion fun _ => .step Op.noConfusion fun _ =>
    .step Op.noConfusion fun p => ?_) n
  split_ifs
  · exact .single hone
  · trivial

/-- `disable` posts 2 after it has been entered. -/
lemma disable_pays {f : Fn} {action : Int} (hf : PaidBy f action) : Pays f action disable 0 := by
  rcases hf with ⟨rfl, rfl⟩ | ⟨rfl, rfl⟩
  · exact .step (by decide) fun _ => .step (by decide) fun _ => .step (by decide) fun _ => trivial
  · exact pays_of_all (.step (by decide) fun _ => .step (by decide) fun _ => .single (by decide)) 0

/-- The `refresh` message posts 3 after `refresh` has been entered. -/
lemma dmx_refresh_pays {f : Fn} {action : Int} (hf : PaidBy f action) :
    Pays f action dmx_refresh 0 := by
  rcases hf with ⟨rfl, rfl⟩ | ⟨rfl, rfl⟩
  · exact pays_of_all (.step (by decide) fun _ => .step (by decide) fun _ =>
      .step (by decide) fun _ => .single (by decide)) 0
  · exact .step (by decide) fun _ => .step (by decide) fun _ => .step (by decide) fun _ =>
      ⟨by decide, fun _ => trivial⟩

/-- **Every message pays for what it posts.** -/
theorem handle_pays {f : Fn} {action : Int} (hf : PaidBy f action) (m : Message) :
    Pays f action (handle m) 0 := by
  by_cases hm : m.IsRequest
  · rcases hm with rfl | rfl | rfl
    · exact enable_pays hf 0
    · exact disable_pays hf
    · exact dmx_refresh_pays hf
  · have hcalm : (handle m).All fun o : Op => o ≠ .setThreadAction action :=
      (handle_calm m hm).mono fun _ ho => ho.ne_setThreadAction action
    exact pays_of_all hcalm 0

/-- What has been entered covers what has been posted, and what the host still posts is paid for. -/
def Paid (f : Fn) (action : Int) (s : Sys) : Prop :=
  s.world.count .host (.setThreadAction action) ≤ s.world.count .host (.enter f) ∧
    Pays f action s.host
      (s.world.count .host (.enter f) - s.world.count .host (.setThreadAction action))

/-- **One action** keeps the posts paid for. -/
lemma Paid.step {f : Fn} {action : Int} (hf : PaidBy f action) {s s' : Sys} {a : Action}
    (h : Paid f action s) (hstep : s.step a = some s') : Paid f action s' := by
  obtain ⟨m, u, rfl, -, rfl⟩ | ⟨r, o, k, rfl, hhost, rfl⟩ | ⟨r, rfl, rfl⟩ := Sys.step_cases hstep
  · exact ⟨h.1, (handle_pays hf m).mono (Nat.zero_le _)⟩
  · obtain ⟨hle, hpays⟩ := h
    rw [hhost] at hpays
    obtain ⟨hcost, hrest⟩ := hpays
    have hrest := hrest ((machine .host).exec o r s.world).1
    unfold Paid Pays
    simp only [count_exec, true_and]
    dsimp only at hcost
    refine ⟨by omega, hrest.mono ?_⟩
    dsimp only
    omega
  · have hworker : ∀ o, (s.worker.step (machine .worker) thread r s.world).2.count .host o =
        s.world.count .host o := by
      intro o
      rcases hrest : s.worker.rest thread with l' | ⟨o', k⟩
      · rw [Position.step_of_ret hrest]
      · rw [Position.step_of_op hrest, count_exec]
        simp
    unfold Paid
    rw [hworker, hworker]
    exact h

/-! ## Runs -/

/-- With nothing assumed and nothing owed, every annotation is valid. -/
lemma free_spec : SessionSpec (fun _ _ _ => True) (fun _ _ _ _ => True) (fun _ => True)
    (fun _ => True) (fun _ => True) (fun _ => ()) id id id where
  guarantee := fun _ _ _ _ _ => trivial
  guarantee_tick := fun _ _ _ _ _ _ => trivial
  closed := fun _ h => h
  stop := fun _ _ => ⟨trivial, rfl⟩
  connect := fun _ _ _ _ _ _ => ⟨trivial, rfl⟩
  disconnect := fun _ _ _ _ => ⟨trivial, rfl⟩
  disconnect3 := fun _ _ _ _ => ⟨trivial, rfl⟩

/-- The invariant of the counts. -/
structure Accounted (s : Sys) : Prop where
  holds : s.Holds (loopOutline (fun _ _ _ => True) (fun _ _ _ _ => True) (fun _ => True)
    (fun _ => True) (fun _ => True) (fun _ => ()) id id id)
  tail : s.worker.TailAll Label.Later
  balanced : ∀ f, f = .connect ∨ f = .disconnect → Balanced f s.worker s.world
  paid : ∀ f action, PaidBy f action → Paid f action s

/-- **One action** keeps the accounts. -/
lemma Accounted.step {s s' : Sys} {a : Action} (h : Accounted s) (hstep : s.step a = some s') :
    Accounted s' := by
  have hholds := h.holds.step free_spec.loopSpec.valid (fun _ _ => trivial) hstep
  have hpaid := fun f action hf => (h.paid f action hf).step hf hstep
  obtain ⟨m, u, rfl, -, rfl⟩ | ⟨r, o, k, rfl, hhost, rfl⟩ | ⟨r, rfl, rfl⟩ := Sys.step_cases hstep
  · exact ⟨hholds, h.tail, h.balanced, hpaid⟩
  · have hall := h.holds.2
    rw [hhost] at hall
    exact ⟨hholds, h.tail, fun f hf => (h.balanced f hf).host hall.1 r, hpaid⟩
  · refine ⟨hholds, h.tail.step thread_tail, fun f hf => ?_, hpaid⟩
    refine (h.balanced f hf).worker hf h.tail fun l' hl' => ?_
    have hpost := Outline.holds_post free_spec.loopSpec.valid h.holds.1 (fun _ _ => trivial) hl'
    exact hpost.1

/-- The invariant of the counts holds along every run that starts with an empty mailbox. -/
lemma accounted_of_runs {x : Obj} (hx : x.threadAction = 0) {s : Sys}
    (hrun : Runs (fun _ _ => True) ⟨⟨x, []⟩, .start .head, .ret ()⟩ s) : Accounted s := by
  induction hrun with
  | refl =>
      refine ⟨⟨trivial, trivial⟩, trivial, fun f _ => ?_,
        fun f action _ => ⟨Nat.le_refl _, trivial⟩⟩
      unfold Balanced
      rw [due_start, hx]
      exact Nat.zero_le _
  | tail _ hstep ih =>
      obtain ⟨a, -, hstep⟩ := hstep
      exact ih.step hstep

/-- The balance drawn up: no more executions than requests. -/
lemma Accounted.executions {s : Sys} (h : Accounted s) :
    s.world.count .worker (.enter .connect) ≤
        s.world.count .host (.setThreadAction 1) + s.world.count .host (.enter .refresh) ∧
      s.world.count .worker (.enter .disconnect) ≤
        s.world.count .host (.enter .disable) + s.world.count .host (.enter .refresh) := by
  have hconnect := h.balanced .connect (Or.inl rfl)
  have hdisconnect := h.balanced .disconnect (Or.inr rfl)
  have hdisable := (h.paid .disable 2 (Or.inl ⟨rfl, rfl⟩)).1
  have hrefresh := (h.paid .refresh 3 (Or.inr ⟨rfl, rfl⟩)).1
  unfold Balanced at hconnect hdisconnect
  rw [pledged_connect] at hconnect
  rw [pledged_disconnect] at hdisconnect
  constructor
  · omega
  · omega

/-- **Every execution consumes a request of its own.** In every run that starts with an empty
mailbox, at most as many executions of `connect` have been entered as enable requests have been
posted and `refresh` has been called, and at most as many of `disconnect` as `disable` and
`refresh` have been called. -/
theorem executed_once (x : Obj) (hx : x.threadAction = 0) {s : Sys}
    (hrun : Runs (fun _ _ => True) ⟨⟨x, []⟩, .start .head, .ret ()⟩ s) :
    s.world.count .worker (.enter .connect) ≤
        s.world.count .host (.setThreadAction 1) + s.world.count .host (.enter .refresh) ∧
      s.world.count .worker (.enter .disconnect) ≤
        s.world.count .host (.enter .disable) + s.world.count .host (.enter .refresh) :=
  (accounted_of_runs hx hrun).executions

/-- A refresh request served as far as the reconnection. -/
theorem refresh_executed_once :
    ∃ s : Sys, s.world.count .worker (.enter .connect) = 1 ∧
      s.world.count .worker (.enter .connect) ≤
        s.world.count .host (.setThreadAction 1) + s.world.count .host (.enter .refresh) := by
  obtain ⟨s, hrun, hs⟩ := Runs.of_plays (fun _ _ => True)
    (fun s => s.world.count .worker (.enter .connect) = 1)
    ⟨⟨Obj.initial, []⟩, .start .head, .ret ()⟩
    (request .refresh 4 ++ workerSteps 30) (by decide +kernel)
  exact ⟨s, hs, (executed_once Obj.initial rfl hrun).1⟩

end Dmx485
