import Dmx485.Protocol
import Dmx485.Interaction.Bounds

/-!
# How soon requests are served

Every function of the worker takes a bounded number of steps, whatever it is answered, and so does
every way through the loop. That gives two bounds for runs in which the host goes on sending
messages and the driver answers as it likes; they count the steps of the worker only.

* `connect_bounded`, `disconnect_bounded`, `timer_bounded`: the functions; `thread_bounding`,
  `thread_ranking`: the blocks.
* `Runs.reaches`: a run is at the goal of a ranking before the rank is used up.
* `iteration_bounded`: the loop head is reached within 97 steps.
* `Runs.confined`: where the worker can be, with what in the mailbox.
* `Runs.settles`, `served_soon`: 129 steps after the last request has been posted, nothing is left
  to be served.

The first bound adds up all blocks, as if all three requests were served in one iteration: each
can be posted while the one before is being served. For the second the contents of the mailbox are
followed as well: a refresh is served in one iteration and its reposted connect request in the next.
-/

namespace Dmx485

open Interaction Relation

/-! ## How long the functions take -/

/-- A failure of `connect` takes two steps. -/
lemma failed_bounded (c : Console) (format : String) (args : List Arg) :
    (do console c format args; setDmxPointer none).Bounded (fun _ => True) 2 :=
  .step fun _ => .single

/-- The line setup takes at most 27 steps. -/
lemma configure_bounded (t : FT_HANDLE) : (configure t).Bounded (fun _ => True) 27 := by
  unfold configure
  refine .step fun _ => ?_
  split_ifs
  · exact Prog.Bounded.mono (fun _ => id) (by decide) (.step fun _ => failed_bounded _ _ _)
  refine .step fun _ => .step fun _ => .step fun _ => ?_
  split_ifs
  · exact (failed_bounded _ _ _).mono (fun _ => id) (by decide)
  refine .step fun _ => .step fun _ => .step fun _ => .step fun _ => .step fun _ =>
    .step fun _ => .step fun _ => ?_
  split_ifs
  · exact (failed_bounded _ _ _).mono (fun _ => id) (by decide)
  refine .step fun _ => .step fun _ => .step fun _ => .step fun _ => .step fun _ =>
    .step fun _ => .step fun _ => .step fun _ => .step fun _ => .step fun _ => ?_
  split_ifs
  · exact (failed_bounded _ _ _).mono (fun _ => id) (by decide)
  exact .step fun _ => .step fun _ => .step fun _ => .step fun _ => .step fun _ => .single

/-- `connect` takes at most 39 steps after it has been entered. -/
lemma connect_bounded :
    ∃ p : Code Unit, connect = (enter .connect >>= fun _ => p) ∧ p.Bounded (fun _ => True) 39 := by
  have hcount : getDeviceCount.Bounded (fun _ => True) 2 := by
    unfold getDeviceCount
    refine .step fun r => ?_
    dsimp only
    split_ifs
    · exact .step fun _ => .ret trivial 0
    · exact .step fun _ => .ret trivial 0
  have hmay : ∀ n, (mayOpen n).Bounded (fun _ => True) 1 := by
    intro n
    unfold mayOpen
    split_ifs
    · exact .step fun _ => .ret trivial 0
    · exact .ret trivial 1
  have hopen : openDevice.Bounded (fun _ => True) 4 :=
    .step fun _ => .step fun _ => .step fun _ => .step fun _ => .ret trivial 0
  refine ⟨_, rfl, hcount.bind (n := 37) fun n _ => (hmay _).bind (n := 36) fun free _ => ?_⟩
  cases free with
  | true =>
      refine .step fun _ => .step fun _ => .step fun _ => .step fun _ => .step fun _ => ?_
      split_ifs
      · exact hopen.bind fun t _ => configure_bounded t
      · exact (failed_bounded _ _ _).mono (fun _ => id) (by decide)
  | false => exact (failed_bounded _ _ _).mono (fun _ => id) (by decide)

/-- `disconnect` takes at most 7. -/
lemma disconnect_bounded : ∃ p : Code Unit,
    disconnect = (enter .disconnect >>= fun _ => p) ∧ p.Bounded (fun _ => True) 7 := by
  have hlast : (do if (← getStatus) ≠ FT_OK then
                     console .object_error "dmx485: error disconnecting: %u"
                       [.long (← getStatus).toNat]
                   else
                     setDmxPointer none
                     console .object_post "dmx485: disconnected" []).Bounded (fun _ => True) 3 := by
    refine .step fun _ => ?_
    split_ifs
    · exact .step fun _ => .single
    · exact .step fun _ => .single
  refine ⟨_, rfl, .step fun _ => .step fun p => ?_⟩
  split_ifs
  · exact .step fun _ => .step fun _ => hlast
  · exact .step fun _ => hlast.mono (fun _ => id) (by decide)

/-- The data loop takes two steps for each turn its fuse allows. -/
lemma sendData_bounded (fuse : ℕ) (s2 written : DWORD) (s : FT_STATUS) :
    (sendData fuse s2 written s).Bounded (fun _ => True) (2 * fuse) := by
  induction fuse generalizing s2 written s with
  | zero => exact .ret trivial _
  | succ fuse ih =>
      unfold sendData
      split_ifs
      · exact .ret trivial _
      · exact .step fun _ => .step fun _ => ih _ _ _

/-- A tick takes at most 30. -/
lemma timer_bounded : ∃ p : Code Unit,
    timer_action = (enter .timer_action >>= fun _ => p) ∧ p.Bounded (fun _ => True) 30 := by
  have hframe : sendFrame.Bounded (fun _ => True) 30 := by
    unfold sendFrame
    refine .step fun _ => .step fun _ => ?_
    split_ifs
    · show Prog.Bounded _ _ (2 * 10 + 4 + 4)
      -- With a variable for the fuse the loop is not unfolded.
      generalize 10 = fuse
      refine .step fun _ => .step fun _ => .step fun _ => .step fun _ =>
        (sendData_bounded fuse _ _ _).bind (n := 4) fun _ _ => ?_
      exact .step fun _ => .step fun _ => .step fun _ => .step fun _ => .ret trivial 0
    · exact .ret trivial _
  exact ⟨_, rfl, hframe.bind (n := 0) fun _ _ => .ret trivial 0⟩

/-! ## How long the blocks take -/

namespace Label

/-- The steps a block takes after its first. -/
def body : Label → ℕ
  | connect => 39
  | disconnect | disconnect3 => 7
  | tick => 30
  | _ => 0

end Label

/-- After its first operation, a block is bounded and hands over to its successor. -/
lemma thread_first (l : Label) : ∃ k, thread l = .op l.firstOp k ∧
    ∀ r w, (k ((machine .worker).exec l.firstOp r w).1).Bounded (· = l.next w.obj) l.body := by
  have hlong : ∀ {f : Fn} {p q : Code Unit} {n : ℕ} (l' : Label),
      p = (enter f >>= fun _ => q) ∧ q.Bounded (fun _ => True) n →
      ∃ k : Unit → Code Label, (p >>= fun _ => .ret l') = .op (.enter f) k ∧
        ∀ a, (k a).Bounded (· = l') n := by
    rintro f p q n l' ⟨rfl, hq⟩
    refine ⟨_, rfl, fun _ => hq.bind (n := 0) fun _ _ => ?_⟩
    show (Prog.ret l' : Code Label).Bounded (· = l') 0
    rfl
  cases l with
  | connect =>
      obtain ⟨p, hp⟩ := connect_bounded
      obtain ⟨k, hk, hbounded⟩ := hlong .test2 hp
      exact ⟨k, hk, fun r w => hbounded _⟩
  | disconnect =>
      obtain ⟨p, hp⟩ := disconnect_bounded
      obtain ⟨k, hk, hbounded⟩ := hlong .test3 hp
      exact ⟨k, hk, fun r w => hbounded _⟩
  | disconnect3 =>
      obtain ⟨p, hp⟩ := disconnect_bounded
      obtain ⟨k, hk, hbounded⟩ := hlong .clear3 hp
      exact ⟨k, hk, fun r w => hbounded _⟩
  | tick =>
      obtain ⟨p, hp⟩ := timer_bounded
      obtain ⟨k, hk, hbounded⟩ := hlong .pause hp
      exact ⟨k, hk, fun r w => hbounded _⟩
  | _ => exact ⟨_, rfl, fun r w => rfl⟩

/-- A block hands over to one of its successors. -/
lemma next_mem_succs (l : Label) (x : Obj) : l.next x ∈ l.succs := by
  cases l <;> simp [Label.next, Label.succs, or_not]

/-- Inside a block, its bound is kept. -/
lemma thread_bounding :
    Bounding (machine .worker) thread (fun l l' => l' ∈ l.succs) Label.body := by
  intro l r w
  obtain ⟨k, hk, hbounded⟩ := thread_first l
  refine ⟨_, k, hk, (hbounded r w).mono ?_ (Nat.le_refl _)⟩
  rintro l' rfl
  exact next_mem_succs l w.obj

/-- Inside a block the rest is bounded, and leads to a successor. -/
def Bounded (p : Place) : Prop := p.Inside (fun l l' => l' ∈ l.succs) Label.body

section ranking

variable {τ : Type} {view : World → τ} {rank : Label → τ → ℕ} {goal : Label → τ → Prop}

/-- A rank of places that pays for the block and the place it leads to. -/
lemma thread_ranking
    (hview : ∀ o r w, o.Inner → view ((machine .worker).exec o r w).2 = view w)
    (hrank : ∀ (l : Label) r w, ¬goal l (view w) →
      rank (l.next w.obj) (view ((machine .worker).exec l.firstOp r w).2) + l.body + 1 ≤
        rank l (view w)) :
    Ranking (machine .worker) thread view rank goal where
  first l w r hgoal := by
    obtain ⟨k, hk, hbounded⟩ := thread_first l
    refine ⟨_, k, l.body, _, hk, hrank l r w hgoal, (hbounded r w).mono ?_ (Nat.le_refl _)⟩
    rintro l' rfl
    exact Nat.le_refl _
  later l := by
    have htail := thread_tail l
    obtain ⟨k, hk, -⟩ := thread_first l
    rw [hk] at htail ⊢
    exact fun a => (htail a).mono fun o ho r w => hview o r w ho.2

end ranking

/-- The steps the worker has taken. -/
def World.steps (w : World) : ℕ := w.log.countP fun e => decide (e.party = .worker)

/-- The steps of the worker are counted. -/
lemma steps_exec (party : Party) (o : Op) (r : Reply) (w : World) :
    ((machine party).exec o r w).2.steps = w.steps + if party = .worker then 1 else 0 := by
  simp only [World.steps, machine_log, List.countP_cons, decide_eq_true_eq]

section reaches

variable {τ : Type} {view : World → τ} {rank : Label → τ → ℕ} {goal : Label → τ → Prop}
  {K : Op → Prop} {ok : Sys → Action → Prop} {s s' : Sys} {n : ℕ}

/-- The worker stands at the start of a block in the goal. -/
def Sys.At (goal : Label → τ → Prop) (view : World → τ) (s : Sys) : Prop :=
  ∃ l, s.worker = .start l ∧ goal l (view s.world)

/-- **A run reaches the goal while the worker pays**, if the host does not change the view: it has
been at the goal, or what was due has gone down by the steps the worker has taken. -/
theorem Runs.reaches
    (hview : ∀ o r w, o.Inner → view ((machine .worker).exec o r w).2 = view w)
    (hrank : Ranking (machine .worker) thread view rank goal)
    (hmessage : ∀ s m, ok s (.message m) → (handle m).All K)
    (hhost : ∀ o r w, K o → view ((machine .host).exec o r w).2 = view w)
    (hdue : s.worker.Due view rank s.world n) (htail : s.worker.TailAll Label.Later)
    (hcalm : s.host.All K) (hrun : Runs ok s s') :
    (∃ s₁, Runs ok s s₁ ∧ Runs ok s₁ s' ∧ s₁.At goal view ∧
      s₁.world.steps ≤ s.world.steps + n) ∨
    ∃ n', s'.worker.Due view rank s'.world n' ∧ s'.world.steps + n' = s.world.steps + n := by
  have hinv : s'.host.All K ∧ ((∃ s₁, Runs ok s s₁ ∧ Runs ok s₁ s' ∧ s₁.At goal view ∧
      s₁.world.steps ≤ s.world.steps + n) ∨
      ∃ n', s'.worker.Due view rank s'.world n' ∧ s'.world.steps + n' = s.world.steps + n) := by
    induction hrun with
    | refl => exact ⟨hcalm, Or.inr ⟨n, hdue, rfl⟩⟩
    | tail hbefore hstep ih =>
        rename_i s₁ s₂
        obtain ⟨hcalm₁, ih⟩ := ih
        have htail₁ := Runs.tailAll hbefore htail
        obtain ⟨a, ha, hstep⟩ := hstep
        have hlast : Runs ok s₁ s₂ := ReflTransGen.single ⟨a, ha, hstep⟩
        have hcalm₂ : s₂.host.All K := by
          obtain ⟨m, u, rfl, -, rfl⟩ | ⟨r, o, k, rfl, hop, rfl⟩ | ⟨r, rfl, rfl⟩ :=
            Sys.step_cases hstep
          · exact hmessage s₁ m ha
          · rw [hop] at hcalm₁
            exact hcalm₁.2 _
          · exact hcalm₁
        refine ⟨hcalm₂, ?_⟩
        obtain ⟨s₀, hto, hfrom, hat⟩ | ⟨n', hdue', hsteps⟩ := ih
        · exact Or.inl ⟨s₀, hto, hfrom.trans hlast, hat⟩
        by_cases hat : s₁.At goal view
        · exact Or.inl ⟨s₁, hbefore, hlast, hat, by omega⟩
        refine Or.inr ?_
        obtain ⟨m, u, rfl, -, rfl⟩ | ⟨r, o, k, rfl, hop, rfl⟩ | ⟨r, rfl, rfl⟩ :=
          Sys.step_cases hstep
        · exact ⟨n', hdue', hsteps⟩
        · rw [hop] at hcalm₁
          refine ⟨n', hdue'.env (hhost o r _ hcalm₁.1), ?_⟩
          simp only [steps_exec, reduceCtorEq, if_false]
          omega
        · have hkeeps : s₁.worker.TailAll fun _ o =>
              ∀ r w, view ((machine .worker).exec o r w).2 = view w :=
            htail₁.imp fun _ o ho r w => hview o r w ho.2
          obtain ⟨o, k, n₂, hop, rfl, hdue₂⟩ := hdue'.step hrank
            (fun l hl hgoal => hat ⟨l, hl, hgoal⟩) hkeeps r
          refine ⟨n₂, hdue₂, ?_⟩
          rw [Position.step_of_op hop]
          simp only [steps_exec, if_true]
          omega
  exact hinv.2

end reaches

/-- The host keeps to its operations. -/
lemma Runs.host {ok : Sys → Action → Prop} {s s' : Sys} (hrun : Runs ok s s')
    (h : s.host.All Op.Host) : s'.host.All Op.Host := by
  induction hrun with
  | refl => exact h
  | tail _ hstep ih =>
      obtain ⟨a, -, hstep⟩ := hstep
      obtain ⟨m, u, rfl, -, rfl⟩ | ⟨r, o, k, rfl, hop, rfl⟩ | ⟨r, rfl, rfl⟩ := Sys.step_cases hstep
      · exact handle_host m
      · rw [hop] at ih
        exact ih.2 _
      · exact ih

/-- In a run from the beginning, what is left of a block is bounded. -/
lemma Runs.inside {ok : Sys → Action → Prop} {s s' : Sys} (hrun : Runs ok s s')
    (h : Bounded s.worker) : Bounded s'.worker := by
  induction hrun with
  | refl => exact h
  | tail _ hstep ih =>
      obtain ⟨a, -, hstep⟩ := hstep
      obtain ⟨m, u, rfl, -, rfl⟩ | ⟨r, o, k, rfl, -, rfl⟩ | ⟨r, rfl, rfl⟩ := Sys.step_cases hstep
      · exact ih
      · exact ih
      · exact Position.Inside.step thread_bounding ih r _

/-! ## How soon the loop head is reached -/

/-- The steps the worker takes at most from the start of a block to the loop head. -/
def Label.toHead : Label → ℕ
  | head => 0
  | clear1 => 97
  | connect => 96
  | test2 => 56
  | clear2 => 55
  | disconnect => 54
  | test3 => 46
  | stop3 => 45
  | disconnect3 => 44
  | clear3 => 36
  | pause3 => 35
  | repost3 => 34
  | testOn => 33
  | tick => 32
  | pause => 1

/-- Every block but the one at the head pays for its successor. -/
lemma toHead_pays (l : Label) (hl : l ≠ .head) :
    ∀ l' ∈ l.succs, l'.toHead + l.body + 1 ≤ l.toHead := by
  cases l with
  | head => exact absurd rfl hl
  | _ => decide

/-- The steps to the loop head are a ranking. -/
lemma toHead_ranking :
    Ranking (machine .worker) thread (fun _ => ()) (fun l _ => l.toHead) fun l _ => l = .head :=
  thread_ranking (fun _ _ _ _ => rfl) fun l _ w hl => toHead_pays l hl _ (next_mem_succs l w.obj)

/-- **An iteration is bounded**: whatever the host sends and the driver answers, the worker is at
its loop head once in any 98 configurations between its steps. -/
theorem iteration_bounded {s s' : Sys} (hreach : Runs (fun _ _ => True) Sys.initial s)
    (hrun : Runs (fun _ _ => True) s s') (hsteps : s.world.steps + 97 ≤ s'.world.steps) :
    ∃ s₁, Runs (fun _ _ => True) s s₁ ∧ Runs (fun _ _ => True) s₁ s' ∧
      s₁.worker = .start .head ∧ s₁.world.steps ≤ s.world.steps + 97 := by
  have htail : s.worker.TailAll Label.Later := hreach.tailAll trivial
  have hdue : s.worker.Due (fun _ => ()) (fun l _ => l.toHead) s.world 97 := by
    have hinside : Bounded s.worker := hreach.inside trivial
    refine hinside.due (fun l => by cases l <;> decide) (fun l l' hl' => ?_)
      fun l => by cases l <;> decide
    revert l'
    cases l <;> decide
  obtain ⟨s₁, hto, hfrom, ⟨l, hl, rfl⟩, hbound⟩ | ⟨n, hdue', hn⟩ := hrun.reaches
    (K := fun _ => True) (fun _ _ _ _ => rfl) toHead_ranking (fun _ m _ => (handle_host m).mono
    fun _ _ => trivial) (fun _ _ _ _ => rfl) hdue htail
    ((hreach.host trivial).mono fun _ _ => trivial)
  · exact ⟨s₁, hto, hfrom, hl, hbound⟩
  · obtain rfl : n = 0 := by omega
    obtain ⟨l, hl, hzero⟩ := hdue'.zero (hrun.tailAll htail)
    have hhead : l = .head := by
      revert hzero
      cases l <;> decide
    exact ⟨s', hrun, ReflTransGen.refl, hhead ▸ hl, by omega⟩

/-- From the middle of a `connect`, with a message being handled. -/
theorem iteration_bounded_connecting : ∃ s s₁ : Sys, s.worker.label = .connect ∧
    Runs (fun _ _ => True) s s₁ ∧ s₁.worker = .start .head ∧
    s₁.world.steps ≤ s.world.steps + 97 := by
  obtain ⟨s, hreach, hconnect, hplays⟩ := Runs.of_plays (fun _ _ => True)
    (fun s => s.worker.label = .connect ∧ s.plays (fun _ _ => True)
      (fun s' => s.world.steps + 97 ≤ s'.world.steps) (workerSteps 97) = true)
    Sys.initial (request .connect 4 ++ workerSteps 10 ++ request .refresh 1) (by decide +kernel)
  obtain ⟨s', hrun, hsteps⟩ := Runs.of_plays _ _ _ _ hplays
  obtain ⟨s₁, hto, -, hhead, hbound⟩ := iteration_bounded hreach hrun hsteps
  exact ⟨s, s₁, hconnect, hto, hhead, hbound⟩

/-! ## Places and mailbox contents -/

/-- **Where the worker can be, with what in the mailbox**: a relation that the blocks keep and that
the posts in `K` keep holds throughout a run. -/
theorem Runs.confined {J : Label → Int → Prop} {K : Op → Prop} {ok : Sys → Action → Prop}
    (hblock : ∀ (l : Label) (x : Obj), J l x.threadAction →
      J (l.next x) (l.firstOp.effect x).threadAction)
    (hpost : ∀ (l : Label) (o : Op) (x : Obj), K o → J l x.threadAction →
      J l (o.effect x).threadAction)
    (hmessage : ∀ s m, ok s (.message m) → (handle m).All K) {s s' : Sys} (hrun : Runs ok s s')
    (htail : s.worker.TailAll Label.Later) (hinside : Bounded s.worker) (hhost : s.host.All K)
    (hJ : J s.worker.label s.world.obj.threadAction) :
    J s'.worker.label s'.world.obj.threadAction ∧ s'.host.All K := by
  induction hrun with
  | refl => exact ⟨hJ, hhost⟩
  | tail hbefore hstep ih =>
      rename_i s₁ s₂
      obtain ⟨hJ₁, hhost₁⟩ := ih
      have htail₁ := Runs.tailAll hbefore htail
      have hinside₁ := Runs.inside hbefore hinside
      obtain ⟨a, ha, hstep⟩ := hstep
      obtain ⟨m, u, rfl, -, rfl⟩ | ⟨r, o, k, rfl, hop, rfl⟩ | ⟨r, rfl, rfl⟩ := Sys.step_cases hstep
      · exact ⟨hJ₁, hmessage s₁ m ha⟩
      · rw [hop] at hhost₁
        exact ⟨hpost _ o _ hhost₁.1 hJ₁, hhost₁.2 _⟩
      · refine ⟨?_, hhost₁⟩
        obtain ⟨l, hl, hshort, hs⟩ | ⟨l, k, hl, hlong, hs⟩ | ⟨l, e, k, o, hl, hlong, ho, hw, -⟩ :=
          worker_cases htail₁ r s₁.world
        · rw [hl] at hJ₁
          rw [hs]
          exact hblock l _ hJ₁
        · rw [hl] at hJ₁
          rw [hs]
          show J l (l.firstOp.effect s₁.world.obj).threadAction
          rwa [hlong.firstOp_threadAction]
        · have haction : (o.effect s₁.world.obj).threadAction = s₁.world.obj.threadAction :=
            effect_threadAction ho.ne_setThreadAction _
          rw [hl] at hJ₁ hinside₁ hw ⊢
          show J _ (((Position.within l e k : Place).step (machine .worker) thread r
            s₁.world).2.obj).threadAction
          rw [hw, machine_obj, haction]
          obtain ⟨k', hk'⟩ | ⟨l', hl', hstart⟩ := Position.Inside.handover hinside₁ r s₁.world
          · show J ((Position.within l e k : Place).step (machine .worker) thread r
              s₁.world).1.label _
            rw [hk']
            exact hJ₁
          · show J ((Position.within l e k : Place).step (machine .worker) thread r
              s₁.world).1.label _
            rw [hstart]
            have hnext := hblock l s₁.world.obj hJ₁
            rwa [hlong.firstOp_threadAction, l.next_of_succs hlong hl'] at hnext

/-- What the mailbox can contain. -/
def Request (action : Int) : Prop := action = 0 ∨ action = 1 ∨ action = 2 ∨ action = 3

/-- In every reachable configuration the mailbox is empty or holds one of the three requests. -/
lemma mailbox_request {s : Sys} (hrun : Runs (fun _ _ => True) Sys.initial s) :
    Request s.world.obj.threadAction := by
  have hpost : ∀ (l : Label) (o : Op) (x : Obj), o.Host → Request x.threadAction →
      Request (o.effect x).threadAction := by
    intro l o x ho hx
    obtain hcalm | ⟨action, rfl, haction⟩ := ho.calm_or_post
    · rwa [effect_threadAction hcalm.ne_setThreadAction]
    · exact Or.inr haction
  refine (hrun.confined (J := fun _ => Request) (fun l x hx => ?_) hpost
    (fun _ m _ => handle_host m) trivial trivial trivial (Or.inl rfl)).1
  cases l with
  | clear1 => exact Or.inl rfl
  | clear2 => exact Or.inl rfl
  | clear3 => exact Or.inl rfl
  | repost3 => exact Or.inr (Or.inl rfl)
  | _ => exact hx

/-! ## How soon the mailbox stays empty -/

/-- One number for each request. -/
def pending (connect disconnect refresh : ℕ) (action : Int) : ℕ :=
  if action = 1 then connect
  else if action = 2 then disconnect
  else if action = 3 then refresh
  else 0

/-- The steps the worker takes at most until the plan is empty. -/
def Label.toSettled : Label → Int → ℕ
  | head, action => pending 42 11 90 action
  | clear1, _ => 41
  | connect, action => 40 + pending 77 10 89 action
  | test2, action => pending 77 10 89 action
  | clear2, _ => 9
  | disconnect, action => 8 + pending 76 45 88 action
  | test3, action => pending 76 45 88 action
  | stop3, _ => 87
  | disconnect3, _ => 86
  | clear3, _ => 78
  | pause3, _ => 77
  | repost3, _ => 76
  | testOn, action => pending 75 44 123 action
  | tick, action => pending 74 43 122 action
  | pause, action => pending 43 12 91 action

/-- While something is planned, every block pays for the next. -/
lemma toSettled_pays (l : Label) (x : Obj) (hplan : l.plan x.threadAction ≠ []) :
    (l.next x).toSettled (l.firstOp.effect x).threadAction + l.body + 1 ≤
      l.toSettled x.threadAction := by
  have hserved : served x.threadAction ≠ [] →
      x.threadAction = 1 ∨ x.threadAction = 2 ∨ x.threadAction = 3 := by
    intro h
    by_contra hnone
    simp only [not_or] at hnone
    exact h (by simp [served, hnone])
  cases l with
  | connect =>
      show pending 77 10 89 x.threadAction + 39 + 1 ≤ 40 + pending 77 10 89 x.threadAction
      omega
  | disconnect =>
      show pending 76 45 88 x.threadAction + 7 + 1 ≤ 8 + pending 76 45 88 x.threadAction
      omega
  | clear1 | clear2 | clear3 | stop3 | disconnect3 | pause3 | repost3 =>
      simp [Label.next, Label.firstOp, Op.effect, Label.toSettled, Label.body, pending]
  | testOn =>
      obtain haction | haction | haction := hserved hplan <;> cases hon : x.threadOn <;>
        simp [Label.next, Label.firstOp, Op.effect, Label.toSettled, Label.body, pending, haction,
          hon]
  | head | test2 | test3 | tick | pause =>
      obtain haction | haction | haction := hserved hplan <;>
        simp [Label.next, Label.firstOp, Op.effect, Label.toSettled, Label.body, pending, haction]

/-- The steps until nothing is planned are one too. -/
lemma toSettled_ranking : Ranking (machine .worker) thread (fun w => w.obj.threadAction)
    Label.toSettled fun l action => l.plan action = [] :=
  thread_ranking (fun _ _ w ho => effect_threadAction ho.ne_setThreadAction w.obj)
    fun l _ w => toSettled_pays l w.obj

/-- Where nothing is left to pay, nothing is planned. -/
lemma plan_of_toSettled {l : Label} {action : Int} (h : l.toSettled action = 0) :
    l.plan action = [] := by
  by_contra hplan
  have hpays := toSettled_pays l { Obj.initial with threadAction := action } hplan
  simp only at hpays
  omega

/-- No plan takes more than 129 steps, also from inside a block. -/
lemma toSettled_le (l : Label) (action : Int) : l.toSettled action ≤ 129 ∧
    ∀ l' ∈ l.succs, l'.toSettled action + l.body ≤ 129 := by
  have hcases : action = 1 ∨ action = 2 ∨ action = 3 ∨
      (action ≠ 1 ∧ action ≠ 2 ∧ action ≠ 3) := by omega
  obtain rfl | rfl | rfl | ⟨h₁, h₂, h₃⟩ := hcases
  · cases l <;> decide
  · cases l <;> decide
  · cases l <;> decide
  · cases l <;> simp [Label.toSettled, Label.succs, Label.body, pending, h₁, h₂, h₃]

/-- Once nothing is planned, nothing will be, until something is posted. -/
lemma plan_next_nil {l : Label} {x : Obj} (h : l.plan x.threadAction = []) :
    (l.next x).plan (l.firstOp.effect x).threadAction = [] := by
  rw [l.plan_next x] at h
  exact (List.append_eq_nil_iff.mp h).2

/-- With nothing planned, a request in the mailbox is none. -/
lemma Request.eq_zero {l : Label} {action : Int} (h : Request action) (hplan : l.plan action = []) :
    action = 0 := by
  obtain rfl | rfl | rfl | rfl := h
  · rfl
  · cases l <;> cases hplan
  · cases l <;> cases hplan
  · cases l <;> cases hplan

/-- A message that is no request, or no message. -/
def NoRequest (_ : Sys) (a : Action) : Prop := ∀ m ∈ a.message?, ¬m.IsRequest

instance (s : Sys) (a : Action) : Decidable (NoRequest s a) :=
  inferInstanceAs (Decidable (∀ m ∈ a.message?, ¬m.IsRequest))

/-- A message that requests nothing is handled by calm operations. -/
lemma NoRequest.calm {s : Sys} {m : Message} (h : NoRequest s (.message m)) :
    (handle m).All Op.Calm :=
  handle_calm m (h m rfl)

/-- After 129 steps of the worker in which nothing is requested, nothing is planned. -/
lemma Runs.settles {s s' : Sys} (hreach : Runs (fun _ _ => True) Sys.initial s)
    (hcalm : s.host.All Op.Calm) (hrun : Runs NoRequest s s')
    (hsteps : s.world.steps + 129 ≤ s'.world.steps) :
    s'.worker.label.plan s'.world.obj.threadAction = [] := by
  have htail : s.worker.TailAll Label.Later := hreach.tailAll trivial
  have hinside : Bounded s.worker := hreach.inside trivial
  have hdue : s.worker.Due (fun w => w.obj.threadAction) Label.toSettled s.world 129 :=
    hinside.due (fun l => (toSettled_le l _).1) (fun l l' hl' => (toSettled_le l _).2 l' hl')
      fun l => by cases l <;> decide
  have hkept : ∀ {o : Op} r w, o.Calm →
      ((machine .host).exec o r w).2.obj.threadAction = w.obj.threadAction :=
    fun _ w ho => effect_threadAction ho.ne_setThreadAction w.obj
  obtain ⟨s₁, hto, hfrom, ⟨l, hl, hnil⟩, -⟩ | ⟨n, hdue', hn⟩ := hrun.reaches
    (fun _ _ w ho => effect_threadAction ho.ne_setThreadAction w.obj) toSettled_ranking
    (fun _ _ hm => NoRequest.calm hm) (fun _ r w ho => hkept r w ho) hdue htail hcalm
  · have hcalm₁ := (hto.confined (J := fun _ _ => True) (fun _ _ _ => trivial)
      (fun _ _ _ _ _ => trivial) (fun _ _ hm => NoRequest.calm hm) htail hinside hcalm trivial).2
    refine (hfrom.confined (J := fun l action => l.plan action = []) (fun l x => plan_next_nil)
      (fun l o x ho hx => ?_) (fun _ _ hm => NoRequest.calm hm) (hto.tailAll htail)
      (hto.inside hinside) hcalm₁ ?_).1
    · rwa [effect_threadAction ho.ne_setThreadAction]
    · rw [hl]
      exact hnil
  · obtain rfl : n = 0 := by omega
    obtain ⟨l, hl, hzero⟩ := hdue'.zero (hrun.tailAll htail)
    rw [hl]
    exact plan_of_toSettled hzero

/-- **Requests are served soon**: from any reachable configuration in which the host has nothing
left to post, whatever else it sends and whatever the driver answers, after 129 steps of the worker
the mailbox is empty and nothing is left to be executed. -/
theorem served_soon {s s' : Sys} (hreach : Runs (fun _ _ => True) Sys.initial s)
    (hcalm : s.host.All Op.Calm) (hrun : Runs NoRequest s s')
    (hsteps : s.world.steps + 129 ≤ s'.world.steps) :
    s'.world.obj.threadAction = 0 ∧ s'.worker.label.plan 0 = [] := by
  have hplan := hreach.settles hcalm hrun hsteps
  have hzero := (mailbox_request (hreach.trans (hrun.mono fun _ _ _ => trivial))).eq_zero hplan
  exact ⟨hzero, hzero ▸ hplan⟩

/-- A refresh request of a connected object, with another message meanwhile. -/
theorem served_soon_refresh : ∃ s s' : Sys, s.world.obj.threadAction = 3 ∧
    Runs NoRequest s s' ∧ s'.world.obj.threadAction = 0 ∧ s'.worker.label.plan 0 = [] := by
  obtain ⟨s, hreach, hidle, hposted, hplays⟩ := Runs.of_plays (fun _ _ => True)
    (fun s => s.host = .ret () ∧ s.world.obj.threadAction = 3 ∧ s.plays NoRequest
      (fun s' => s.world.steps + 129 ≤ s'.world.steps)
      (workerSteps 70 ++ request .version 1 ++ workerSteps 59) = true)
    Sys.initial (request .connect 4 ++ workerSteps 59 ++ request .refresh 4) (by decide +kernel)
  obtain ⟨s', hrun, hsteps⟩ := Runs.of_plays _ _ _ _ hplays
  exact ⟨s, s', hposted, hrun, served_soon hreach (by rw [hidle]; trivial) hrun hsteps⟩

end Dmx485
