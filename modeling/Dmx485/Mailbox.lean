import Dmx485.System

/-!
# The mailbox and the executions it stands for

`threadAction` is a mailbox with one slot. What the worker is going to execute is determined by
its place in the loop and by the slot: `Label.plan` lists the executions of `connect` and
`disconnect` that are due from the start of a block on, if nothing more is posted.

The slot is written by both threads, and no write looks at what is there. A request posted between
the test for 1 and the clearing behind it is overwritten unread; one posted during a restart is
overwritten by the 0 or the 1 of the restart. The plan says so: at these places it does not depend
on the slot.

* `Label.plan_next`: a block executes the head of the plan and hands the rest over, through every
  test, clearing and reposting.
* `thread_tail`: after its first operation no block touches the mailbox.
* `worker_cases`: everything a step of the worker can do, as far as the mailbox is concerned.
* `forecast`: the view of the session that the plan leads to. `Runs.forecast`: it does not
  change until something is posted. So what an outline says about the end of a plan is known from
  the moment of the last post on.
-/

namespace Dmx485

open Interaction Relation

/-! ## The plan -/

/-- What the worker executes for each content of the mailbox. -/
def served (action : Int) : List Fn :=
  if action = 1 then [.connect]
  else if action = 2 then [.disconnect]
  else if action = 3 then [.disconnect, .connect]
  else []

namespace Label

/-- What a block executes. -/
def executes : Label → List Fn
  | connect => [.connect]
  | disconnect | disconnect3 => [.disconnect]
  | _ => []

/-- The blocks that call a function. -/
def Long (l : Label) : Prop := l = connect ∨ l = disconnect ∨ l = disconnect3 ∨ l = tick

instance (l : Label) : Decidable l.Long :=
  inferInstanceAs (Decidable (_ ∨ _ ∨ _ ∨ _))

/-- The first operation of a block. -/
def firstOp : Label → Op
  | head | test2 | test3 => .getThreadAction
  | clear1 | clear2 | clear3 => .setThreadAction 0
  | repost3 => .setThreadAction 1
  | stop3 => .setThreadOn false
  | testOn => .getThreadOn
  | pause | pause3 => .usleep 10000
  | connect => .enter .connect
  | disconnect | disconnect3 => .enter .disconnect
  | tick => .enter .timer_action

/-- The label a block hands over to, given the object its first operation finds. -/
def next (x : Obj) : Label → Label
  | head => if x.threadAction = 1 then clear1 else test2
  | clear1 => connect
  | connect => test2
  | test2 => if x.threadAction = 2 then clear2 else test3
  | clear2 => disconnect
  | disconnect => test3
  | test3 => if x.threadAction = 3 then stop3 else testOn
  | stop3 => disconnect3
  | disconnect3 => clear3
  | clear3 => pause3
  | pause3 => repost3
  | repost3 => testOn
  | testOn => if x.threadOn = true then tick else pause
  | tick => pause
  | pause => head

/-- The executions due from the start of a block. Where the worker has tested the mailbox and not
yet cleared it, and in the whole restart, its content is going to be overwritten unread. -/
def plan : Label → Int → List Fn
  | clear1, _ => [.connect]
  | connect, action => .connect :: served action
  | clear2, _ => [.disconnect]
  | disconnect, action => .disconnect :: served action
  | stop3, _ | disconnect3, _ => [.disconnect, .connect]
  | clear3, _ | pause3, _ | repost3, _ => [.connect]
  | head, action | test2, action | test3, action | testOn, action | tick, action
  | pause, action => served action

/-- **A block executes the head of the plan and hands over the rest.** -/
theorem plan_next (l : Label) (x : Obj) :
    l.plan x.threadAction = l.executes ++ (l.next x).plan (l.firstOp.effect x).threadAction := by
  cases l with
  | head =>
      by_cases h : x.threadAction = 1
      · simp [plan, executes, next, h, served]
      · simp [plan, executes, next, h, firstOp, Op.effect]
  | test2 =>
      by_cases h : x.threadAction = 2
      · simp [plan, executes, next, h, served]
      · simp [plan, executes, next, h, firstOp, Op.effect]
  | test3 =>
      by_cases h : x.threadAction = 3
      · simp [plan, executes, next, h, served]
      · simp [plan, executes, next, h, firstOp, Op.effect]
  | testOn =>
      by_cases h : x.threadOn = true
      · simp [plan, executes, next, h, firstOp, Op.effect]
      · simp [plan, executes, next, h, firstOp, Op.effect]
  | _ => rfl

/-- A block that calls a function has one successor. -/
lemma next_of_succs {l l' : Label} (hl : l.Long) (hl' : l' ∈ l.succs) (x : Obj) :
    l.next x = l' := by
  rcases hl with rfl | rfl | rfl | rfl <;> exact (List.mem_singleton.mp hl').symm

end Label

/-- Entering a function leaves the mailbox as it is. -/
lemma Label.Long.firstOp_threadAction {l : Label} (hl : l.Long) (x : Obj) :
    (l.firstOp.effect x).threadAction = x.threadAction := by
  rcases hl with rfl | rfl | rfl | rfl <;> rfl

/-! ## Remainders of blocks leave the mailbox alone -/

/-- The operations inside the functions the loop calls: they neither touch the mailbox nor enter a
function, and write none of the fields that messages write. -/
def Op.Inner : Op → Prop
  | enter _ | getThreadAction | setThreadAction _ | setDeviceNumber _ | setData ..
  | setAutoConnect _ => False
  | _ => True

/-- Those of `connect` and `disconnect`, which put nothing on the line. -/
def Op.Setup : Op → Prop
  | call c => c.ofFrame = false
  | o => o.Inner

/-- They are inner operations. -/
lemma Op.Setup.inner {o : Op} (ho : o.Setup) : o.Inner := by
  cases o <;> trivial

/-- A failure of `connect`: an error line, and `NULL` stored. -/
lemma failed_setup (c : Console) (format : String) (args : List Arg) :
    (do console c format args; setDmxPointer none).All Op.Setup :=
  .step (by trivial) fun _ => .single (by trivial)

/-- The line setup is made of such operations. -/
lemma configure_setup (t : FT_HANDLE) : (configure t).All Op.Setup := by
  unfold configure
  refine .step (by trivial) fun _ => ?_
  split_ifs
  · exact .step (by trivial) fun _ => failed_setup _ _ _
  refine .step (by trivial) fun _ => .step (by trivial) fun _ => .step (by trivial) fun _ => ?_
  split_ifs
  · exact failed_setup _ _ _
  refine .step (by trivial) fun _ => .step (by trivial) fun _ => .step (by trivial) fun _ =>
    .step (by trivial) fun _ => .step (by trivial) fun _ => .step (by trivial) fun _ =>
    .step (by trivial) fun _ => ?_
  split_ifs
  · exact failed_setup _ _ _
  refine .step (by trivial) fun _ => .step (by trivial) fun _ => .step (by trivial) fun _ =>
    .step (by trivial) fun _ => .step (by trivial) fun _ => .step (by trivial) fun _ =>
    .step (by trivial) fun _ => .step (by trivial) fun _ => .step (by trivial) fun _ =>
    .step (by trivial) fun _ => ?_
  split_ifs
  · exact failed_setup _ _ _
  exact .step (by trivial) fun _ => .step (by trivial) fun _ => .step (by trivial) fun _ =>
    .step (by trivial) fun _ => .step (by trivial) fun _ => .single (by trivial)

/-- So are the queries. -/
lemma Op.Asking.setup {o : Op} (ho : o.Asking) : o.Setup := by
  cases o with
  | call c =>
      cases c with
      | FT_ListDevices arg flags => rfl
      | _ => exact ho.elim
  | _ => trivial

/-- So is the outer test of `connect`. -/
lemma mayOpen_setup (numDevs : DWORD) : (mayOpen numDevs).All Op.Setup := by
  unfold mayOpen
  split_ifs
  · exact .step (by trivial) fun _ => trivial
  · trivial

/-- So is the opening of a device. -/
lemma openDevice_setup : openDevice.All Op.Setup :=
  .step (by trivial) fun _ => .step (by trivial) fun _ => .step (by trivial) fun _ =>
    .step (by trivial) fun _ => trivial

/-- What `connect` does after its entry. -/
lemma connect_setup :
    ∃ p : Code Unit, connect = (enter .connect >>= fun _ => p) ∧ p.All Op.Setup := by
  have hcount : getDeviceCount.All Op.Setup := getDeviceCount_asking.mono fun _ ho => ho.setup
  refine ⟨_, rfl, .bind hcount fun n => .bind (mayOpen_setup _) fun free => ?_⟩
  cases free with
  | true =>
      refine .step (by trivial) fun _ => .step (by trivial) fun _ => .step (by trivial) fun _ =>
        .step (by trivial) fun _ => .step (by trivial) fun _ => ?_
      split_ifs
      · exact .bind openDevice_setup fun t => configure_setup t
      · exact failed_setup _ _ _
  | false => exact failed_setup _ _ _

/-- What `disconnect` does after its entry. -/
lemma disconnect_setup :
    ∃ p : Code Unit, disconnect = (enter .disconnect >>= fun _ => p) ∧ p.All Op.Setup := by
  have hlast : (do if (← getStatus) ≠ FT_OK then
                     console .object_error "dmx485: error disconnecting: %u"
                       [.long (← getStatus).toNat]
                   else
                     setDmxPointer none
                     console .object_post "dmx485: disconnected" []).All Op.Setup := by
    refine .step (by trivial) fun _ => ?_
    split_ifs
    · exact .step (by trivial) fun _ => .single (by trivial)
    · exact .step (by trivial) fun _ => .single (by trivial)
  refine ⟨_, rfl, .step (by trivial) fun _ => .step (by trivial) fun p => ?_⟩
  split_ifs
  · exact .step (by trivial) fun _ => .step (by trivial) fun _ => hlast
  · exact .step (by trivial) fun _ => hlast

/-- The data loop stays inside the tick. -/
lemma sendData_inner (fuse : ℕ) (s2 written : DWORD) (s : FT_STATUS) :
    (sendData fuse s2 written s).All Op.Inner := by
  induction fuse generalizing s2 written s with
  | zero => trivial
  | succ fuse ih =>
      unfold sendData
      split_ifs
      · trivial
      · exact .step (by trivial) fun _ => .step (by trivial) fun _ => ih _ _ _

/-- So does a frame. -/
lemma sendFrame_inner : sendFrame.All Op.Inner := by
  unfold sendFrame
  refine .step (by trivial) fun _ => .step (by trivial) fun _ => ?_
  split_ifs
  · refine .step (by trivial) fun _ => .step (by trivial) fun _ => .step (by trivial) fun _ =>
      .step (by trivial) fun _ => .bind (sendData_inner _ _ _ _) fun _ => ?_
    exact .step (by trivial) fun _ => .step (by trivial) fun _ => .step (by trivial) fun _ =>
      .step (by trivial) fun _ => trivial
  · trivial

/-- What a block may perform after its first operation: inner operations, and nothing at all in
the blocks that call no function. -/
def Label.Later (l : Label) (o : Op) : Prop := l.Long ∧ o.Inner

/-- A block that calls a function stays inside it after the entry. -/
lemma tail_of_inner {l l' : Label} {f : Fn} {p q : Code Unit} (hl : l.Long)
    (hp : p = (enter f >>= fun _ => q) ∧ q.All Op.Inner) :
    (p >>= fun _ => .ret l').Tail l.Later := by
  obtain ⟨rfl, hq⟩ := hp
  exact fun _ => (hq.mono fun o ho => ⟨hl, ho⟩).bind fun _ => trivial

/-- **After its first operation, no block touches the mailbox**; a block that calls no function is
done then. -/
lemma thread_tail (l : Label) : (thread l).Tail l.Later := by
  cases l with
  | connect =>
      obtain ⟨q, hq, hsetup⟩ := connect_setup
      exact tail_of_inner (by decide) ⟨hq, hsetup.mono fun _ ho => ho.inner⟩
  | disconnect =>
      obtain ⟨q, hq, hsetup⟩ := disconnect_setup
      exact tail_of_inner (by decide) ⟨hq, hsetup.mono fun _ ho => ho.inner⟩
  | disconnect3 =>
      obtain ⟨q, hq, hsetup⟩ := disconnect_setup
      exact tail_of_inner (by decide) ⟨hq, hsetup.mono fun _ ho => ho.inner⟩
  | tick => exact tail_of_inner (by decide) ⟨rfl, .bind sendFrame_inner fun _ => trivial⟩
  | _ => exact fun _ => trivial

/-! ## Steps of the worker -/

/-- The start of a block that calls no function: the block is done in one step. -/
lemma step_of_short {l : Label} (hl : ¬l.Long) (r : Reply) (w : World) :
    (Position.start l : Place).step (machine .worker) thread r w =
      (.start (l.next w.obj), ((machine .worker).exec l.firstOp r w).2) := by
  cases l with
  | connect => exact absurd (by decide) hl
  | disconnect => exact absurd (by decide) hl
  | disconnect3 => exact absurd (by decide) hl
  | tick => exact absurd (by decide) hl
  | _ => rfl

/-- The start of a block that calls a function: the function is entered. -/
lemma step_of_long {l : Label} (hl : l.Long) (r : Reply) (w : World) :
    ∃ k, (Position.start l : Place).step (machine .worker) thread r w =
      (.within l w k, ((machine .worker).exec l.firstOp r w).2) := by
  rcases hl with rfl | rfl | rfl | rfl <;> exact ⟨_, rfl⟩

/-- **Everything a step of the worker can do**, as far as the loop is concerned. -/
theorem worker_cases {p : Place} (htail : p.TailAll Label.Later) (r : Reply) (w : World) :
    (∃ l, p = .start l ∧ ¬l.Long ∧ p.step (machine .worker) thread r w =
      (.start (l.next w.obj), ((machine .worker).exec l.firstOp r w).2)) ∨
    (∃ l k, p = .start l ∧ l.Long ∧ p.step (machine .worker) thread r w =
      (.within l w k, ((machine .worker).exec l.firstOp r w).2)) ∨
    (∃ l e k o, p = .within l e k ∧ l.Long ∧ o.Inner ∧
      (p.step (machine .worker) thread r w).2 = ((machine .worker).exec o r w).2 ∧
      ((∃ k', (p.step (machine .worker) thread r w).1 = .within l e k') ∨
        ∃ l', (p.step (machine .worker) thread r w).1 = .start l')) := by
  cases p with
  | start l =>
      by_cases hl : l.Long
      · obtain ⟨k, hk⟩ := step_of_long hl r w
        exact Or.inr (Or.inl ⟨l, k, rfl, hl, hk⟩)
      · exact Or.inl ⟨l, rfl, hl, step_of_short hl r w⟩
  | within l e k =>
      obtain ⟨hsome, hall⟩ := htail
      rcases k with l' | ⟨o, k⟩
      · cases hsome
      · refine Or.inr (Or.inr ⟨l, e, _, o, rfl, hall.1.1, hall.1.2, ?_⟩)
        rw [Position.step_of_op (Position.rest_within thread l e _)]
        refine ⟨rfl, ?_⟩
        rcases hk : k ((machine .worker).exec o r w).1 with l' | ⟨o', k'⟩
        · exact Or.inr ⟨l', rfl⟩
        · exact Or.inl ⟨_, rfl⟩

/-- So it is at every moment of a run. -/
lemma Runs.tailAll {ok : Sys → Action → Prop} {s s' : Sys} (hrun : Runs ok s s')
    (h : s.worker.TailAll Label.Later) : s'.worker.TailAll Label.Later := by
  induction hrun with
  | refl => exact h
  | tail _ hstep ih =>
      obtain ⟨a, -, hstep⟩ := hstep
      obtain ⟨m, u, rfl, -, rfl⟩ | ⟨r, o, k, rfl, -, rfl⟩ | ⟨r, rfl, rfl⟩ := Sys.step_cases hstep
      · exact ih
      · exact ih
      · exact ih.step thread_tail

/-- Only posting and clearing write the mailbox. -/
lemma effect_threadAction {o : Op} (ho : ∀ action, o ≠ .setThreadAction action) (x : Obj) :
    (o.effect x).threadAction = x.threadAction := by
  cases o with
  | setThreadAction action => exact absurd rfl (ho action)
  | setData k v =>
      simp only [Op.effect, Obj.poke]
      split_ifs <;> rfl
  | _ => rfl

/-- Inside the functions nothing is posted or cleared. -/
lemma Op.Inner.ne_setThreadAction {o : Op} (ho : o.Inner) (action : Int) :
    o ≠ .setThreadAction action := by
  rintro rfl
  exact ho

/-- A calm operation posts nothing. -/
lemma Op.Calm.ne_setThreadAction {o : Op} (ho : o.Calm) (action : Int) :
    o ≠ .setThreadAction action := by
  rintro rfl
  exact ho

section forecast

variable {V : Type} (view : Session → V) (c d o : V → V)

/-- What the execution of a function does to the view. -/
def effectOf : Fn → V → V
  | .connect => c
  | .disconnect => d
  | _ => id

/-- The view that a list of executions leads to. -/
def after (fs : List Fn) (v : V) : V := fs.foldl (fun v f => effectOf c d f v) v

/-- The view the plan leads to, from the start of the block the worker is in. -/
def forecast (p : Place) (w : World) : V :=
  after c d (p.label.plan w.obj.threadAction) (view (p.entry w).session)

variable {view d o}

/-- **A block and the plan it hands over to** lead where the plan led. Switching the tick off
must not matter to a disconnection. -/
lemma after_next (hd : ∀ v, d (o v) = d v) (l : Label) (x : Obj) (v : V) :
    after c d ((l.next x).plan (l.firstOp.effect x).threadAction) (loopEffect c d o l v) =
      after c d (l.plan x.threadAction) v := by
  cases l with
  | stop3 => exact congrArg c (hd v)
  | connect => rfl
  | disconnect => rfl
  | disconnect3 => rfl
  | _ =>
      rw [Label.plan_next _ x]
      rfl

variable {c} {A : World → Op → Reply → Prop} {G : Label → World → Op → Reply → Prop}
  {J Joff Jclosed : Session → Prop}

/-- **A step of the worker** keeps the forecast. -/
lemma forecast_worker
    (hO : (loopOutline A G J Joff Jclosed view c d o).Valid (machine .worker) thread)
    (hd : ∀ v, d (o v) = d v) {p : Place} {w : World} {r : Reply}
    (h : (loopOutline A G J Joff Jclosed view c d o).Holds (machine .worker) p w)
    (htail : p.TailAll Label.Later) (hr : ∀ o, (p.rest thread).next = some o → A w o r) :
    forecast view c d (p.step (machine .worker) thread r w).1
      (p.step (machine .worker) thread r w).2 = forecast view c d p w := by
  have hpost := fun l' hstart => (Outline.holds_post hO h hr : _ = Position.start l' → _) hstart
  obtain ⟨l, rfl, hl, hs⟩ | ⟨l, k, rfl, hl, hs⟩ | ⟨l, e, k, op, rfl, hl, hop, hw, hpos⟩ :=
    worker_cases htail r w
  · obtain ⟨-, -, hview⟩ := hpost (l.next w.obj) (congrArg Prod.fst hs)
    rw [hs] at hview ⊢
    have hsame := congrArg
      (after c d ((l.next w.obj).plan (l.firstOp.effect w.obj).threadAction)) hview
    exact hsame.trans (after_next c hd l w.obj (view w.session))
  · have haction := hl.firstOp_threadAction w.obj
    rw [hs]
    simp only [forecast, Position.label_within, Position.entry_within, Position.label_start,
      Position.entry_start, machine_obj, haction]
  · have haction : (op.effect w.obj).threadAction = w.obj.threadAction :=
      effect_threadAction hop.ne_setThreadAction _
    rcases hpos with ⟨k', hk'⟩ | ⟨l', hl'⟩
    · simp only [forecast, hw, hk', Position.label_within, Position.entry_within, machine_obj,
        haction]
    · obtain ⟨hsucc, -, hview⟩ := hpost l' hl'
      have hnext : l.next w.obj = l' := l.next_of_succs hl hsucc _
      have hfirst := hl.firstOp_threadAction w.obj
      have hafter := after_next c hd l w.obj (view e.session)
      rw [hfirst, hnext] at hafter
      simp only [forecast, hl', Position.label_start, Position.entry_start, Position.label_within,
        Position.entry_within, hview]
      rw [hw, machine_obj, haction]
      exact hafter

/-- **A step of the host** that posts nothing keeps the forecast. -/
lemma forecast_host {op : Op} (hcalm : op.Calm) (r : Reply) (p : Place) (w : World) :
    forecast view c d p ((machine .host).exec op r w).2 = forecast view c d p w := by
  have haction : (op.effect w.obj).threadAction = w.obj.threadAction :=
    effect_threadAction hcalm.ne_setThreadAction _
  simp only [forecast, machine_obj, haction]
  cases p with
  | start l => rw [Position.entry_start, session_host hcalm.host, Position.entry_start]
  | within l e k => rfl

/-- Steps with allowed replies in which no message is delivered. -/
def Undisturbed (A : World → Op → Reply → Prop) (s : Sys) (a : Action) : Prop :=
  s.Allowed A a ∧ a.message? = none

instance (A : World → Op → Reply → Prop) [∀ w o r, Decidable (A w o r)] (s : Sys) (a : Action) :
    Decidable (Undisturbed A s a) :=
  inferInstanceAs (Decidable (_ ∧ _))

/-- **The forecast comes true**: it stays the same until the next message, if nothing is left to
be posted. -/
theorem Runs.forecast
    (hO : (loopOutline A G J Joff Jclosed view c d o).Valid (machine .worker) thread)
    (hd : ∀ v, d (o v) = d v) {s s' : Sys} (hrun : Runs (Undisturbed A) s s')
    (h : s.Holds (loopOutline A G J Joff Jclosed view c d o))
    (htail : s.worker.TailAll Label.Later) (hcalm : s.host.All Op.Calm) :
    forecast view c d s'.worker s'.world = forecast view c d s.worker s.world := by
  have hinv : s'.Holds (loopOutline A G J Joff Jclosed view c d o) ∧
      s'.worker.TailAll Label.Later ∧ s'.host.All Op.Calm ∧
      Dmx485.forecast view c d s'.worker s'.world = Dmx485.forecast view c d s.worker s.world := by
    induction hrun with
    | refl => exact ⟨h, htail, hcalm, rfl⟩
    | tail _ hstep ih =>
        rename_i s₁ s₂ _
        obtain ⟨a, ⟨hallowed, hmessage⟩, hstep⟩ := hstep
        obtain ⟨hholds, htail₁, hcalm₁, hsame⟩ := ih
        have hholds₂ := hholds.step hO hallowed hstep
        obtain ⟨m, u, rfl, -⟩ | ⟨r, op, k, rfl, hhost, rfl⟩ | ⟨r, rfl, rfl⟩ := Sys.step_cases hstep
        · cases hmessage
        · rw [hhost] at hcalm₁
          exact ⟨hholds₂, htail₁, hcalm₁.2 _, (forecast_host hcalm₁.1 r _ _).trans hsame⟩
        · exact ⟨hholds₂, htail₁.step thread_tail, hcalm₁,
            (forecast_worker hO hd hholds.1 htail₁ hallowed).trans hsame⟩
  exact hinv.2.2.2

end forecast

end Dmx485
