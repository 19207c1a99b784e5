import Dmx485.Persistence

/-!
# The stream of frames

While a device is connected, the tick is on and nothing is requested, the worker sends one frame
after another, with one sleep of 10 ms between any two. How fast the frames come is counted in
steps of the worker, so that this is more than a statement about a worker that may have stopped.

No more is asked of the driver than that it answers. A frame whose writes fail is a frame still:
its calls are made, from the break to the purge, and the next one follows.

* `rounds`, `prefix_rounds`: frames with a sleep after each, and the beginnings of such words.
* `Streamed`, `move_streamed`: the shape of the dialogue, move by move, and `streamed_of_path`: of
  the dialogue along a path from the loop head.
* `toSleep_ranking`, `sleeps_pay`: an iteration takes at most 36 steps.
* `frames_keep_coming`: the shape and the pace together, for every run without requests.
-/

namespace Dmx485

open Interaction Relation

/-! ## Frames and sleeps -/

/-- The act is a sleep. -/
def Act.isSleep : Act → Bool
  | .slept _ => true
  | .asked .. => false

/-- The frames, with a sleep after each. -/
def rounds (frames : List (List Act)) : List Act :=
  frames.flatMap fun frame => frame ++ [.slept 10000]

/-- Rounds of frames, then rounds of others. -/
lemma rounds_append (frames frames' : List (List Act)) :
    rounds (frames ++ frames') = rounds frames ++ rounds frames' :=
  List.flatMap_append

/-- One round. -/
lemma rounds_singleton (frame : List Act) : rounds [frame] = frame ++ [.slept 10000] :=
  List.flatMap_singleton _ _

/-- There is no sleep in a frame. -/
lemma Framing.countP_isSleep {p : FT_HANDLE} {frame : List Act} (h : Framing p frame) :
    frame.countP Act.isSleep = 0 := by
  refine List.countP_eq_zero.mpr fun x hx => ?_
  obtain ⟨c, r, rfl, -, -⟩ := h.forall_mem x hx
  exact Bool.false_ne_true

/-- There is one sleep for each frame. -/
lemma countP_rounds {p : FT_HANDLE} {frames : List (List Act)}
    (h : ∀ frame ∈ frames, Framing p frame) :
    (rounds frames).countP Act.isSleep = frames.length := by
  induction frames using List.reverseRecOn with
  | nil => rfl
  | append_singleton frames frame ih =>
      have hframe := (h frame (by simp)).countP_isSleep
      rw [rounds_append, rounds_singleton, List.countP_append, List.countP_append, hframe,
        ih fun f hf => h f (List.mem_append_left _ hf), List.length_append]
      rfl

/-- A beginning of a word of frames ends in the last of some of them. -/
lemma prefix_rounds {d : List Act} {frames : List (List Act)} (h : d <+: rounds frames) :
    ∃ some, some <+: frames ∧ rounds some.dropLast <+: d ∧ d <+: rounds some := by
  induction frames using List.reverseRecOn with
  | nil => exact ⟨[], List.prefix_rfl, List.nil_prefix, h⟩
  | append_singleton frames frame ih =>
      have hfull : rounds frames <+: rounds (frames ++ [frame]) := by
        rw [rounds_append]
        exact List.prefix_append _ _
      obtain hle | hle := List.prefix_or_prefix_of_prefix h hfull
      · obtain ⟨some, hsome, hlast, hd⟩ := ih hle
        exact ⟨some, hsome.trans (List.prefix_append _ _), hlast, hd⟩
      · refine ⟨frames ++ [frame], List.prefix_rfl, ?_, h⟩
        rwa [List.dropLast_concat]

/-! ## The shape of the dialogue -/

/-- The frames on `h` that have been followed by a sleep, and before the next sleep one frame
more. -/
def Streamed (h : Handle) (l : Label) (d : List Act) : Prop :=
  ∃ frames, (∀ frame ∈ frames, Framing (some h) frame) ∧
    if l = .pause then ∃ frame, Framing (some h) frame ∧ d = rounds frames ++ frame
    else d = rounds frames

/-- **A move of a connection in use** adds a frame or a sleep, in turn. -/
theorem move_streamed {h : Handle} {a : Link} (hptr : a.ptr = some h) (hon : a.on = true)
    {c c' : Label × Link} {d e : List Act} (hc : Unasked a c) (hd : Streamed h c.1 d)
    (hmove : Move (· = 0) c e c') : Streamed h c'.1 (d ++ e) := by
  obtain ⟨l, b⟩ := c
  obtain ⟨rfl, hplan, -⟩ := hc
  obtain ⟨frames, hframes, hd⟩ := hd
  cases hmove with
  | head v hv =>
      obtain rfl := hv
      exact ⟨frames, hframes, by simpa using hd⟩
  | test2 v hv =>
      obtain rfl := hv
      exact ⟨frames, hframes, by simpa using hd⟩
  | test3 v hv =>
      obtain rfl := hv
      exact ⟨frames, hframes, by simpa using hd⟩
  | testOn => exact ⟨frames, hframes, by simpa [hon] using hd⟩
  | tick hframe =>
      rw [hptr] at hframe
      have hd : d = rounds frames := by simpa using hd
      refine ⟨frames, hframes, ?_⟩
      rw [if_pos rfl, hd]
      exact ⟨e, hframe, rfl⟩
  | pause =>
      obtain ⟨frame, hframe, rfl⟩ :
          ∃ frame, Framing (some h) frame ∧ d = rounds frames ++ frame := by
        simpa using hd
      refine ⟨frames ++ [frame], ?_, ?_⟩
      · simpa [or_imp, forall_and] using ⟨hframes, hframe⟩
      · rw [if_neg (by simp), rounds_append, rounds_singleton, List.append_assoc]
  | _ => exact absurd hplan (by decide)

/-- Along a path from the loop head, the word is made of rounds. -/
lemma streamed_of_path {h : Handle} {a : Link} (hptr : a.ptr = some h) (hon : a.on = true)
    {c c' : Label × Link} {d : List Act} (hc : Unasked a c) (hhead : c.1 = .head)
    (hpath : Path (Move (· = 0)) c d c') : Unasked a c' ∧ Streamed h c'.1 d := by
  induction hpath with
  | refl => exact ⟨hc, [], by simp, by rw [hhead]; rfl⟩
  | tail _ hmove ih => exact ⟨(move_unasked ih.1 hmove).1, move_streamed hptr hon ih.1 ih.2 hmove⟩

/-- All that has been said is a beginning of a word of frames. -/
lemma Streamed.begins {h : Handle} {l : Label} {d : List Act} (hd : Streamed h l d) :
    ∃ frames, (∀ frame ∈ frames, Framing (some h) frame) ∧ d <+: rounds frames := by
  obtain ⟨frames, hframes, hd⟩ := hd
  split_ifs at hd with hl
  · obtain ⟨frame, hframe, rfl⟩ := hd
    refine ⟨frames ++ [frame], ?_, ?_⟩
    · simpa [or_imp, forall_and] using ⟨hframes, hframe⟩
    · rw [rounds_append, rounds_singleton, ← List.append_assoc]
      exact List.prefix_append _ _
  · exact ⟨frames, hframes, hd ▸ List.prefix_rfl⟩

/-! ## How fast they come -/

/-- The sleeps of the worker so far. -/
def World.sleeps (w : World) : ℕ := w.acts.countP Act.isSleep

/-- The steps to the next sleep. -/
def Label.toSleep : Label → ℕ
  | head => 35
  | test2 => 34
  | test3 => 33
  | testOn => 32
  | tick => 31
  | _ => 0

/-- The steps to the next sleep are a ranking, as long as nothing is requested. -/
lemma toSleep_ranking : Ranking (machine .worker) thread (fun w => w.obj.threadAction)
    (fun l _ => l.toSleep) fun l action => l = .pause ∨ ¬Quiet l action := by
  refine thread_ranking (fun _ _ w ho => effect_threadAction ho.ne_setThreadAction w.obj) ?_
  intro l r w hgoal
  rw [not_or, not_not] at hgoal
  obtain ⟨hpause, haction, hplan⟩ := hgoal
  cases l with
  | head | test2 | test3 => simp [Label.next, Label.toSleep, Label.body, haction]
  | testOn =>
      cases hon : w.obj.threadOn <;> simp [Label.next, Label.toSleep, Label.body, hon]
  | tick => simp [Label.next, Label.toSleep, Label.body]
  | pause => exact absurd rfl hpause
  | _ =>
      rw [haction] at hplan
      exact absurd hplan (by decide)

/-- A configuration in which nothing is requested, and nothing is going to be. -/
structure Sys.Quiet (s : Sys) : Prop where
  tail : s.worker.TailAll Label.Later
  host : s.host.All Op.Calm
  place : Dmx485.Quiet s.worker.label s.world.obj.threadAction

/-- **Every sleep pays for 36 steps.** -/
theorem sleeps_pay {s s' : Sys} (hrun : Runs (fun s a => NoRequest s a ∧ s.Quiet) s s')
    (hhead : s.worker = .start .head) :
    ∃ n, s'.worker.Due (fun w => w.obj.threadAction) (fun l _ => l.toSleep) s'.world n ∧
      s'.world.steps + n + 36 * s.world.sleeps ≤ s.world.steps + 35 + 36 * s'.world.sleeps := by
  induction hrun with
  | refl =>
      refine ⟨35, ?_, by omega⟩
      rw [hhead]
      exact Nat.le_refl 35
  | tail _ hstep ih =>
      rename_i s₁ s₂ _
      obtain ⟨a, ⟨ha, hquiet⟩, hstep⟩ := hstep
      obtain ⟨n, hdue, hpaid⟩ := ih
      obtain ⟨m, u, rfl, -, rfl⟩ | ⟨r, o, k, rfl, hop, rfl⟩ | ⟨r, rfl, rfl⟩ := Sys.step_cases hstep
      · exact ⟨n, hdue, hpaid⟩
      · have hcalm := hquiet.host
        rw [hop] at hcalm
        refine ⟨n, hdue.env (effect_threadAction hcalm.1.ne_setThreadAction _), ?_⟩
        simp only [steps_exec, World.sleeps, (link_host hcalm.1.host r s₁.world).2] at hpaid ⊢
        simpa using hpaid
      · by_cases hpause : s₁.worker = .start .pause
        · -- The sleep itself.
          rw [hpause, step_of_short (by decide)]
          refine ⟨35, Nat.le_refl 35, ?_⟩
          have hsleeps : ((machine .worker).exec (.usleep 10000) r s₁.world).2.sleeps =
              s₁.world.sleeps + 1 := by
            unfold World.sleeps
            rw [acts_exec, List.countP_append]
            rfl
          simp only [Label.firstOp, steps_exec, if_true, hsleeps]
          omega
        · have hgoal : ∀ l, s₁.worker = .start l →
              ¬(l = .pause ∨ ¬Dmx485.Quiet l s₁.world.obj.threadAction) := by
            intro l hl
            have hplace := hquiet.place
            rw [hl] at hplace
            rw [not_or, not_not]
            exact ⟨fun h => hpause (h ▸ hl), hplace⟩
          obtain ⟨o, k, n', hop, rfl, hdue'⟩ := hdue.step toSleep_ranking hgoal
            (hquiet.tail.imp fun _ _ ho _ (w : World) =>
              effect_threadAction ho.2.ne_setThreadAction w.obj) r
          refine ⟨n', hdue', ?_⟩
          have hsleeps : s₁.world.sleeps ≤ ((machine .worker).exec o r s₁.world).2.sleeps := by
            unfold World.sleeps
            rw [acts_exec, List.countP_append]
            exact Nat.le_add_right _ _
          rw [Position.step_of_op hop]
          simp only [steps_exec, if_true]
          omega

/-- **Frames keep coming.** From the loop head, with a handle, the tick on and an empty mailbox, in
any run without requests and against any driver: what the worker says is one frame on the handle
after another, with one sleep of 10 ms between any two, as far as it has come; and for every 36
steps of the worker there is a frame. -/
theorem frames_keep_coming {s s' : Sys} {h : Handle} (hrun : Runs NoRequest s s')
    (hhead : s.worker = .start .head) (hempty : s.world.obj.threadAction = 0)
    (hcalm : s.host.All Op.Calm) (hptr : s.world.obj.dmxPointer = some h)
    (hon : s.world.obj.threadOn = true) :
    ∃ (d : List Act) (frames : List (List Act)), s'.world.acts = s.world.acts ++ d ∧
      (∀ frame ∈ frames, Framing (some h) frame) ∧
      rounds frames.dropLast <+: d ∧ d <+: rounds frames ∧
      s'.world.steps < s.world.steps + 36 * (frames.length + 1) := by
  have hquiet : ∀ s₁, Runs NoRequest s s₁ → s₁.Quiet := by
    intro s₁ hrun₁
    obtain ⟨hplace, hhost⟩ := hrun₁.quiet hhead hempty hcalm
    refine ⟨hrun₁.tailAll ?_, hhost, hplace⟩
    rw [hhead]
    trivial
  obtain ⟨d, hd, -, e, c, hpath⟩ := hrun.quiet_dialogue hhead hempty hcalm
  obtain ⟨-, hstreamed⟩ := streamed_of_path hptr hon (unasked_head _) rfl hpath
  obtain ⟨all, hall, hbeginning⟩ := hstreamed.begins
  obtain ⟨frames, hframes, hlast, hbegins⟩ :=
    prefix_rounds ((List.prefix_append d e).trans hbeginning)
  have hframing : ∀ frame ∈ frames, Framing (some h) frame :=
    fun frame hframe => hall frame (hframes.subset hframe)
  refine ⟨d, frames, hd, hframing, hlast, hbegins, ?_⟩
  obtain ⟨n, -, hpaid⟩ := sleeps_pay (hrun.under hquiet) hhead
  have hsleeps : s'.world.sleeps = s.world.sleeps + d.countP Act.isSleep := by
    unfold World.sleeps
    rw [hd, List.countP_append]
  have hle : d.countP Act.isSleep ≤ frames.length := by
    rw [← countP_rounds hframing]
    exact hbegins.sublist.countP_le
  omega

/-- The first two frames after a device has been connected. -/
theorem frames_keep_coming_twice : ∃ s s' : Sys, s.world.steps + 70 = s'.world.steps ∧
    ∃ (d : List Act) (frames : List (List Act)), s'.world.acts = s.world.acts ++ d ∧
      (∀ frame ∈ frames, Framing (some 7) frame) ∧
      rounds frames.dropLast <+: d ∧ d <+: rounds frames ∧
      s'.world.steps < s.world.steps + 36 * (frames.length + 1) := by
  obtain ⟨s, hrun, ⟨hhead, hempty, hidle, hptr, hon⟩, hplays⟩ := Runs.of_plays (fun _ _ => True)
    (fun s => (s.worker = .start .head ∧ s.world.obj.threadAction = 0 ∧ s.host = .ret () ∧
      s.world.obj.dmxPointer = some 7 ∧ s.world.obj.threadOn = true) ∧ s.plays NoRequest
      (fun s' => s.world.steps + 70 = s'.world.steps)
      (request (.frame [1, 2]) 1 ++ workerSteps 70) = true)
    Sys.initial (request .connect 4 ++ workerSteps 59) (by decide +kernel)
  obtain ⟨s', hrun', hsteps⟩ := Runs.of_plays _ _ _ _ hplays
  exact ⟨s, s', hsteps, frames_keep_coming hrun' hhead hempty (by rw [hidle]; trivial) hptr hon⟩

end Dmx485
