import Dmx485.Mailbox

/-!
# When a command is carried out

With a driver that never fails, the effect of the last command is known the moment it is issued:
the plan lists what the worker is still going to execute, `connect` turns a stored handle into
`NULL` and `NULL` into a handle, `disconnect` leaves `NULL`. So a command is carried out exactly
if the worker does not stand where it is about to overwrite or to undo it.

The runs are those in which only the three requests are delivered, in any number and order, each
at any moment at which the host is done with the one before. The command looked at is the last, and
its effect is asked for at any later visit of the loop head with an empty mailbox.

* `Through`: the step of the handler that decides, between two parts of a run; `Runs.through` finds
  it in every run in which the handler gets to its end.
* `Sound`, `Runs.sound`: along such a run no failure is on record, and a stored handle is live.
* `Runs.outcome`: at the end the forecast made at the deciding step has come true.
* `stop_kept_iff`: a disconnect message; `stop_request_lost` is a run in which it is overwritten.
* `start_kept_iff`: a connect or refresh message; `start_request_lost` is a run in which a second
  connect request, posted while the first is being served, undoes it.
-/

namespace Dmx485

open Interaction Relation

/-! ## Runs with a driver that never fails -/

/-- A stored handle is live and the tick is on, and no failure is on record. -/
def Sound (a : Session) : Prop :=
  a.status = FT_OK ∧ ∀ h, a.ptr = some h → a.on = true ∧ Live h a.history

/-- In the rest of a restart, there is moreover no handle. -/
def SoundClosed (a : Session) : Prop := Sound a ∧ a.ptr = none

section sound

variable {A : World → Op → Reply → Prop} {a b : Session}

/-- With a good driver, `connect` keeps a sound session sound. -/
lemma sound_connects (hA : ∀ w o r, A w o r → DriverOk w o r) (ha : Sound a)
    (h : Connects A a b) : Sound b := by
  rcases connects_cases hA ha.1 h with ⟨-, rfl⟩ | ⟨-, w, i, r, -, rfl⟩
  · exact ⟨ha.1, fun h hptr => by cases hptr⟩
  · exact ⟨rfl, fun h hptr => ⟨rfl, Or.inl ⟨rfl, hptr⟩⟩⟩

/-- With a good driver, `disconnect` leaves no handle and the tick off. -/
lemma soundClosed_disconnects (hA : ∀ w o r, A w o r → DriverOk w o r) (h : Disconnects A a b) :
    SoundClosed b ∧ b.on = false := by
  rw [disconnects_eq hA h]
  exact ⟨⟨⟨rfl, fun h hptr => by cases hptr⟩, rfl⟩, rfl⟩

end sound

/-- Whether the tick is on: `connect` switches it on, `disconnect` off. -/
lemma sending_spec : SessionSpec DriverOk (fun _ _ _ _ => True) Sound (fun _ => True) SoundClosed
    Session.on (fun _ => true) (fun _ => false) (fun _ => false) where
  guarantee := fun _ _ _ _ _ => trivial
  guarantee_tick := fun _ _ _ _ _ _ => trivial
  closed := fun _ h => h.1
  stop := fun _ _ => ⟨trivial, rfl⟩
  connect := by
    intro w _ b ha _ hrel
    refine ⟨sound_connects (fun _ _ _ h => h) ha hrel, ?_⟩
    rcases connects_cases (fun _ _ _ h => h) ha.1 hrel with ⟨hptr, rfl⟩ | ⟨-, w', i, r, -, rfl⟩
    · obtain ⟨h, hh⟩ := Option.ne_none_iff_exists'.mp hptr
      exact (ha.2 h hh).1
    · rfl
  disconnect := by
    intro a b _ hrel
    have hb := soundClosed_disconnects (fun _ _ _ h => h) hrel
    exact ⟨hb.1.1, hb.2⟩
  disconnect3 := fun _ _ _ hrel => soundClosed_disconnects (fun _ _ _ h => h) hrel

/-- Whether a handle is stored: `connect` changes that, `disconnect` ends it. -/
lemma held_spec : SessionSpec DriverOpens (fun _ _ _ _ => True) Sound (fun _ => True) SoundClosed
    (fun a => a.ptr.isSome) not (fun _ => false) id where
  guarantee := fun _ _ _ _ _ => trivial
  guarantee_tick := fun _ _ _ _ _ _ => trivial
  closed := fun _ h => h.1
  stop := fun _ _ => ⟨trivial, rfl⟩
  connect := by
    intro w _ b ha _ hrel
    refine ⟨sound_connects (fun _ _ _ h => h.1) ha hrel, ?_⟩
    rcases connects_cases (fun _ _ _ h => h.1) ha.1 hrel with
      ⟨hptr, rfl⟩ | ⟨hptr, w', i, r, hr, rfl⟩
    · rw [Option.isSome_iff_ne_none.mpr hptr]
      rfl
    · rw [hptr]
      exact Option.isSome_iff_ne_none.mpr (hr.2 rfl)
  disconnect := by
    intro a b _ hrel
    have hb := soundClosed_disconnects (fun _ _ _ h => h.1) hrel
    refine ⟨hb.1.1, ?_⟩
    rw [hb.1.2]
    rfl
  disconnect3 := by
    intro a b _ hrel
    have hb := soundClosed_disconnects (fun _ _ _ h => h.1) hrel
    refine ⟨hb.1, ?_⟩
    rw [hb.1.2]
    rfl

/-! ## The step that decides -/

/-- Steps with allowed replies in which only the three requests are delivered. -/
def Commanded (A : World → Op → Reply → Prop) (s : Sys) (a : Action) : Prop :=
  s.Allowed A a ∧ ∀ m ∈ a.message?, m.IsRequest

instance (A : World → Op → Reply → Prop) [∀ w o r, Decidable (A w o r)] (s : Sys) (a : Action) :
    Decidable (Commanded A s a) :=
  inferInstanceAs (Decidable (_ ∧ ∀ m ∈ a.message?, m.IsRequest))

/-- From `s` to `s'` no message is delivered, and the host takes the step from `s₀` to `s₁`. -/
structure Through (A : World → Op → Reply → Prop) (s s₀ s₁ s' : Sys) : Prop where
  before : Runs (Undisturbed A) s s₀
  step : ∃ r, s₀.Allowed A (.host r) ∧ s₀.step (.host r) = some s₁
  after : Runs (Undisturbed A) s₁ s'

/-- A step of the host is a step of the run. -/
lemma Through.run {A : World → Op → Reply → Prop} {s s₀ s₁ s' : Sys}
    (h : Through A s s₀ s₁ s') : Runs (Undisturbed A) s s₁ := by
  obtain ⟨r, hallowed, hstep⟩ := h.step
  exact ReflTransGen.tail h.before ⟨_, ⟨hallowed, rfl⟩, hstep⟩

/-- **A handler that gets to its end takes its next step on the way.** -/
lemma Runs.through {A : World → Op → Reply → Prop} {s s' : Sys} {o : Op}
    {k : o.Ans → Code Unit} (hrun : Runs (Undisturbed A) s s') (hhost : s.host = .op o k)
    (hend : s'.host = .ret ()) :
    ∃ s₀ s₁ r, Through A s s₀ s₁ s' ∧ s₀.host = .op o k ∧
      s₁.host = k (o.answer r s₀.world.obj) := by
  induction hrun using ReflTransGen.head_induction_on with
  | refl =>
      rw [hhost] at hend
      cases hend
  | head hstep hrest ih =>
      obtain ⟨a, ha, hstep⟩ := hstep
      obtain ⟨m, u, rfl, -⟩ | ⟨r, o', k', rfl, hhost', hs₁⟩ | ⟨r, rfl, hs₁⟩ := Sys.step_cases hstep
      · cases ha.2
      · rw [hhost] at hhost'
        cases hhost'
        refine ⟨_, _, r, ⟨ReflTransGen.refl, ⟨r, ha.1, hstep⟩, hrest⟩, hhost, ?_⟩
        rw [hs₁]
        rfl
      · obtain ⟨s₀, s₁, r', hthrough, hs₀, hk⟩ := ih (by rw [hs₁]; exact hhost)
        exact ⟨s₀, s₁, r', ⟨ReflTransGen.head ⟨_, ha, hstep⟩ hthrough.before, hthrough.step,
          hthrough.after⟩, hs₀, hk⟩

/-- The rest of a run through a step, after it. -/
lemma Through.from {A : World → Op → Reply → Prop} {s s₀ s₁ s₂ s₃ s' : Sys}
    (h : Through A s s₀ s₁ s') (h' : Through A s₁ s₂ s₃ s') : Through A s s₂ s₃ s' :=
  ⟨h.run.trans h'.before, h'.step, h'.after⟩

/-- A run of requests, a message, and a run without messages. -/
lemma Runs.allowed {A : World → Op → Reply → Prop} {s c c' s' : Sys} {m : Message}
    (hrun : Runs (Commanded A) s c) (hmessage : c.step (.message m) = some c')
    (hrest : Runs (Undisturbed A) c' s') : Runs (Sys.Allowed A) s s' := by
  have hstep : Runs (Sys.Allowed A) c c' :=
    ReflTransGen.single ⟨.message m, (fun o ho => by cases ho), hmessage⟩
  exact ((hrun.mono fun _ _ h => h.1).trans hstep).trans (hrest.mono fun _ _ h => h.1)

section outcome

variable {V : Type} {A : World → Op → Reply → Prop} {view : Session → V} {c d o : V → V}

/-- The outline of a view holds in every run. -/
lemma Runs.sound
    (hspec : SessionSpec A (fun _ _ _ _ => True) Sound (fun _ => True) SoundClosed view c d o)
    {s : Sys} (hrun : Runs (Sys.Allowed A) Sys.initial s) :
    s.Holds (loopOutline A (fun _ _ _ _ => True) Sound (fun _ => True) SoundClosed view c d o) := by
  refine hrun.holds hspec.loopSpec.valid (fun _ _ h => h) ⟨⟨rfl, fun h hptr => ?_⟩, trivial⟩
  cases hptr

/-- In the rest of a restart there is no handle. -/
lemma Runs.closed
    (hspec : SessionSpec A (fun _ _ _ _ => True) Sound (fun _ => True) SoundClosed view c d o)
    {s : Sys} (hrun : Runs (Sys.Allowed A) Sys.initial s)
    (hl : s.worker.label = .clear3 ∨ s.worker.label = .pause3 ∨ s.worker.label = .repost3) :
    (s.worker.entry s.world).obj.dmxPointer = none := by
  have hholds := (hrun.sound hspec).1
  have htail := hrun.tailAll trivial
  cases hp : s.worker with
  | start l =>
      rw [hp] at hl hholds
      have hclosed : SoundClosed s.world.session := by
        rcases hl with rfl | rfl | rfl <;> exact hholds
      exact hclosed.2
  | within l e k =>
      rw [hp] at hl htail
      obtain ⟨hsome, hall⟩ := htail
      rcases k with l' | ⟨op, k⟩
      · cases hsome
      · rcases hl with rfl | rfl | rfl <;> exact absurd hall.1.1 (by decide)

/-- **What a view is in the end**, once nothing is left to be posted and the worker is at its loop
head with an empty mailbox: the forecast. -/
lemma Runs.outcome
    (hspec : SessionSpec A (fun _ _ _ _ => True) Sound (fun _ => True) SoundClosed view c d o)
    (hd : ∀ v, d (o v) = d v) {s s' : Sys} (hrun : Runs (Sys.Allowed A) Sys.initial s)
    (hcalm : s.host.All Op.Calm) (hafter : Runs (Undisturbed A) s s')
    (hhead : s'.worker = .start .head) (hempty : s'.world.obj.threadAction = 0) :
    Sound s'.world.session ∧
      view s'.world.session = Dmx485.forecast view c d s.worker s.world := by
  have hvalid := hspec.loopSpec.valid
  have hholds := hrun.sound hspec
  have hend := hafter.holds hvalid (fun _ _ h => h.1) hholds
  have hforecast := hafter.forecast hvalid hd hholds (hrun.tailAll trivial) hcalm
  rw [hhead] at hforecast
  refine ⟨?_, ?_⟩
  · have hsound := hend.1
    rw [hhead] at hsound
    exact hsound
  · rw [← hforecast, Dmx485.forecast, hempty]
    rfl

end outcome

/-! ## A disconnect message -/

/-- What is left of `disable` when it is about to post. -/
def stopping : Code Unit := do
  setThreadAction 2
  console .post "dmx485: stopping..." []

/-- Where a disconnect request is lost: the worker is about to clear the mailbox for a connect
request, or to repost one. -/
def Label.Overwrites (l : Label) : Prop :=
  l = clear1 ∨ l = stop3 ∨ l = disconnect3 ∨ l = clear3 ∨ l = pause3 ∨ l = repost3

/-- A disconnect message posts. -/
lemma disable_through {A : World → Op → Reply → Prop} {s s' : Sys}
    (hrun : Runs (Undisturbed A) s s') (hhost : s.host = disable) (hend : s'.host = .ret ()) :
    ∃ s₀ s₁, Through A s s₀ s₁ s' ∧ s₀.host = stopping := by
  obtain ⟨s₀, s₁, r, henter, -, hs₁⟩ := hrun.through hhost hend
  obtain ⟨s₂, s₃, r', hpost, hs₂, -⟩ := henter.after.through hs₁ hend
  exact ⟨s₂, s₃, henter.from hpost, hs₂⟩

/-- The tick is on after the plan that begins where a disconnect request is posted, exactly if the
request gets lost. -/
lemma after_stop (l : Label) (on : Bool) :
    after (fun _ => true) (fun _ => false) (l.plan 2) on = true ↔ l.Overwrites := by
  cases l <;> simp [Label.plan, served, after, effectOf, Label.Overwrites]

/-- **When a disconnect message is carried out.** In any run of the three requests with a good
driver in which the last message is a disconnect, once the worker is at its loop head with an
empty mailbox, the device is disconnected exactly if the worker was not about to overwrite the
mailbox when the request was posted. -/
theorem stop_kept_iff {c c' c₂ : Sys} (hrun : Runs (Commanded DriverOk) Sys.initial c)
    (hmessage : c.step (.message .disconnect) = some c') (hrest : Runs (Undisturbed DriverOk) c' c₂)
    (hdone : c₂.host = .ret ()) (hhead : c₂.worker = .start .head)
    (hempty : c₂.world.obj.threadAction = 0) :
    (∃ s₀ s₁, Through DriverOk c' s₀ s₁ c₂ ∧ s₀.host = stopping) ∧
      ∀ s₀ s₁, Through DriverOk c' s₀ s₁ c₂ → s₀.host = stopping →
        ((c₂.world.obj.dmxPointer = none ∧ c₂.world.obj.threadOn = false) ↔
          ¬s₀.worker.label.Overwrites) := by
  refine ⟨?_, fun s₀ s₁ hthrough hstopping => ?_⟩
  · exact disable_through hrest (congrArg Sys.host (Sys.step_message hmessage)) hdone
  obtain ⟨r, -, hstep⟩ := hthrough.step
  obtain ⟨o, k, hhost, rfl⟩ := Sys.step_host hstep
  rw [hstopping] at hhost
  cases hhost
  have hreached : Runs (Sys.Allowed DriverOk) Sys.initial _ := hrun.allowed hmessage hthrough.run
  obtain ⟨hsound, hon⟩ := hreached.outcome sending_spec (fun _ => rfl)
    (.single (by trivial)) hthrough.after hhead hempty
  have hlost : c₂.world.session.on = true ↔ s₀.worker.label.Overwrites := by
    rw [hon]
    exact after_stop s₀.worker.label _
  rw [← hlost]
  constructor
  · rintro ⟨-, hoff⟩ hsending
    exact absurd (hoff.symm.trans hsending) Bool.false_ne_true
  · intro hoff
    have hoff' : c₂.world.session.on = false := Bool.eq_false_iff.mpr hoff
    refine ⟨?_, hoff'⟩
    by_contra hheld
    obtain ⟨h, hh⟩ := Option.ne_none_iff_exists'.mp hheld
    exact hoff (hsound.2 h hh).1

/-- A disconnect message to an object that is connected and sending. -/
theorem stop_kept_when_connected : ∃ c c' c₂ : Sys, Runs (Commanded DriverOk) Sys.initial c ∧
    c.world.obj.dmxPointer = some 7 ∧ c.world.obj.threadOn = true ∧
    (∃ s₀ s₁, Through DriverOk c' s₀ s₁ c₂ ∧ s₀.host = stopping) ∧
      ∀ s₀ s₁, Through DriverOk c' s₀ s₁ c₂ → s₀.host = stopping →
        ((c₂.world.obj.dmxPointer = none ∧ c₂.world.obj.threadOn = false) ↔
          ¬s₀.worker.label.Overwrites) := by
  obtain ⟨c, hrun, hptr, hon, c', hmessage, hplays⟩ := Runs.of_plays (Commanded DriverOk)
    (fun s => s.world.obj.dmxPointer = some 7 ∧ s.world.obj.threadOn = true ∧
      ∃ s' ∈ s.step (.message .disconnect), s'.plays (Undisturbed DriverOk)
        (fun s => s.host = .ret () ∧ s.worker = .start .head ∧ s.world.obj.threadAction = 0)
        (workerSteps 5 ++ List.replicate 3 (.host .fine) ++ workerSteps 27) = true)
    Sys.initial (request .connect 4 ++ workerSteps 59) (by decide +kernel)
  obtain ⟨c₂, hrest, hdone, hhead, hempty⟩ := Runs.of_plays _ _ _ _ hplays
  exact ⟨c, c', c₂, hrun, hptr, hon, stop_kept_iff hrun hmessage hrest hdone hhead hempty⟩

/-- **A stop request is lost** when it is posted between the worker's test of the mailbox and its
clearing, for a connect request. -/
theorem stop_request_lost : ∃ c c' c₂ : Sys, Runs (Commanded DriverOk) Sys.initial c ∧
    c.step (.message .disconnect) = some c' ∧ Runs (Undisturbed DriverOk) c' c₂ ∧
    c₂.host = .ret () ∧ c₂.worker = .start .head ∧ c₂.world.obj.threadAction = 0 ∧
    ¬(c₂.world.obj.dmxPointer = none ∧ c₂.world.obj.threadOn = false) := by
  obtain ⟨c, hrun, c', hmessage, hplays⟩ := Runs.of_plays (Commanded DriverOk)
    (fun s => ∃ s' ∈ s.step (.message .disconnect), s'.plays (Undisturbed DriverOk)
      (fun s => s.host = .ret () ∧ s.worker = .start .head ∧ s.world.obj.threadAction = 0 ∧
        ¬(s.world.obj.dmxPointer = none ∧ s.world.obj.threadOn = false))
      (List.replicate 3 (.host .fine) ++ workerSteps 58) = true)
    Sys.initial (request .connect 4 ++ workerSteps 1) (by decide +kernel)
  obtain ⟨c₂, hrest, hend⟩ := Runs.of_plays _ _ _ _ hplays
  exact ⟨c, c', c₂, hrun, hmessage, hrest, hend⟩

/-! ## A connect or refresh message -/

/-- Whether serving `action` leaves a handle stored, if one is stored before (`held`) or not. -/
def ServedHeld (held : Bool) (action : Int) : Prop :=
  if held = true then action ≠ 1 ∧ action ≠ 2 else action = 1 ∨ action = 3

/-- Where a start request is carried out, when it leaves `action` in the mailbox and finds the
worker in a block that was entered with a handle stored (`held`) or without one. -/
def Label.Starts (held : Bool) (action : Int) : Label → Prop
  | clear1 => held = false
  | clear2 => False
  | connect => ServedHeld (!held) action
  | disconnect => ServedHeld false action
  | stop3 | disconnect3 | clear3 | pause3 | repost3 => True
  | head | test2 | test3 | testOn | tick | pause => ServedHeld held action

/-- The start request that led to this configuration is carried out. -/
def Sys.Starts (s : Sys) : Prop :=
  s.worker.label.Starts (s.worker.entry s.world).obj.dmxPointer.isSome s.world.obj.threadAction

/-- Whether a handle is stored after the requests of a mailbox have been served. -/
lemma after_served (held : Bool) (action : Int) :
    after not (fun _ => false) (served action) held = true ↔ ServedHeld held action := by
  unfold served ServedHeld
  split_ifs with h₁ h₂ h₃ <;> cases held <;> simp_all [after, effectOf]

/-- A handle is stored after the plan exactly if the request is carried out. In the rest of a
restart there is none before. -/
lemma after_start (l : Label) (held : Bool) (action : Int)
    (hclosed : l = .clear3 ∨ l = .pause3 ∨ l = .repost3 → held = false) :
    after not (fun _ => false) (l.plan action) held = true ↔ l.Starts held action := by
  cases l with
  | clear1 => cases held <;> simp [Label.plan, Label.Starts, after, effectOf]
  | clear2 => simp [Label.plan, Label.Starts, after, effectOf]
  | connect => exact after_served (!held) action
  | disconnect => exact after_served false action
  | stop3 => simp [Label.plan, Label.Starts, after, effectOf]
  | disconnect3 => simp [Label.plan, Label.Starts, after, effectOf]
  | clear3 => simp [Label.plan, Label.Starts, after, effectOf, hclosed (Or.inl rfl)]
  | pause3 => simp [Label.plan, Label.Starts, after, effectOf, hclosed (Or.inr (Or.inl rfl))]
  | repost3 => simp [Label.plan, Label.Starts, after, effectOf, hclosed (Or.inr (Or.inr rfl))]
  | _ => exact after_served held action

/-- The host is about to post a refresh or a connect request, or to find that `enable` has
nothing to post. -/
def Sys.DecidesStart (s : Sys) : Prop :=
  s.host = setThreadAction 3 ∨ s.host = setThreadAction 1 ∨
    (s.host = enableTest ∧ s.world.obj.dmxPointer ≠ none)

/-- A refresh message posts. -/
lemma refresh_through {A : World → Op → Reply → Prop} {s s' : Sys}
    (hrun : Runs (Undisturbed A) s s') (hhost : s.host = dmx_refresh) (hend : s'.host = .ret ()) :
    ∃ s₀ s₁, Through A s s₀ s₁ s' ∧ s₀.DecidesStart := by
  obtain ⟨s₀, s₁, r₁, h₁, -, hs₁⟩ := hrun.through hhost hend
  obtain ⟨s₂, s₃, r₂, h₂, -, hs₃⟩ := h₁.after.through hs₁ hend
  obtain ⟨s₄, s₅, r₃, h₃, -, hs₅⟩ := h₂.after.through hs₃ hend
  obtain ⟨s₆, s₇, r₄, h₄, hs₆, -⟩ := h₃.after.through hs₅ hend
  exact ⟨s₆, s₇, ((h₁.from h₂).from h₃).from h₄, Or.inl hs₆⟩

/-- A connect message posts, or finds a handle stored. -/
lemma enable_through {A : World → Op → Reply → Prop} {s s' : Sys}
    (hrun : Runs (Undisturbed A) s s') (hhost : s.host = enable) (hend : s'.host = .ret ()) :
    ∃ s₀ s₁, Through A s s₀ s₁ s' ∧ s₀.DecidesStart := by
  obtain ⟨s₀, s₁, r₁, h₁, -, hs₁⟩ := hrun.through hhost hend
  obtain ⟨s₂, s₃, r₂, h₂, -, hs₃⟩ := h₁.after.through hs₁ hend
  obtain ⟨s₄, s₅, r₃, h₃, hs₄, hs₅⟩ := h₂.after.through hs₃ hend
  cases hptr : s₄.world.obj.dmxPointer with
  | some h =>
      have hheld : s₄.world.obj.dmxPointer ≠ none := hptr ▸ Option.some_ne_none h
      exact ⟨s₄, s₅, (h₁.from h₂).from h₃, Or.inr (Or.inr ⟨hs₄, hheld⟩)⟩
  | none =>
      have hpost : s₅.host = setThreadAction 1 := by
        rw [hs₅]
        simp only [Op.answer, hptr]
        rfl
      obtain ⟨s₆, s₇, r₄, h₄, hs₆, -⟩ := h₃.after.through hpost hend
      exact ⟨s₆, s₇, ((h₁.from h₂).from h₃).from h₄, Or.inr (Or.inl hs₆)⟩

/-- Once it is decided, nothing is left to be done by the host. -/
lemma Sys.DecidesStart.done {s s' : Sys} {r : Reply} (h : s.DecidesStart)
    (hstep : s.step (.host r) = some s') : s'.host = .ret () := by
  obtain ⟨o, k, hhost, rfl⟩ := Sys.step_host hstep
  rcases h with h | h | ⟨h, hheld⟩
  · rw [h] at hhost
    cases hhost
    rfl
  · rw [h] at hhost
    cases hhost
    rfl
  · rw [h] at hhost
    cases hhost
    obtain ⟨p, hp⟩ := Option.ne_none_iff_exists'.mp hheld
    simp only [machine_answer, Op.answer, hp]
    rfl

/-- **When a start message is carried out.** In any run of the three requests with a good driver
in which the last message is a connect or a refresh, once the worker is at its loop head with an
empty mailbox, the device is open and transmitting exactly if `Sys.Starts` held when the request
was posted or found unnecessary. -/
theorem start_kept_iff {c c' c₂ : Sys} {m : Message} (hm : m = .connect ∨ m = .refresh)
    (hrun : Runs (Commanded DriverOpens) Sys.initial c) (hmessage : c.step (.message m) = some c')
    (hrest : Runs (Undisturbed DriverOpens) c' c₂) (hdone : c₂.host = .ret ())
    (hhead : c₂.worker = .start .head) (hempty : c₂.world.obj.threadAction = 0) :
    (∃ s₀ s₁, Through DriverOpens c' s₀ s₁ c₂ ∧ s₀.DecidesStart) ∧
      ∀ s₀ s₁, Through DriverOpens c' s₀ s₁ c₂ → s₀.DecidesStart →
        ((∃ h, c₂.world.obj.dmxPointer = some h ∧ Live h c₂.world.session.history ∧
          c₂.world.obj.threadOn = true) ↔ s₁.Starts) := by
  have hhost := congrArg Sys.host (Sys.step_message hmessage)
  refine ⟨?_, fun s₀ s₁ hthrough hdecides => ?_⟩
  · rcases hm with rfl | rfl
    · exact enable_through hrest hhost hdone
    · exact refresh_through hrest hhost hdone
  obtain ⟨r, -, hstep⟩ := hthrough.step
  have hcalm : s₁.host.All Op.Calm := by
    rw [hdecides.done hstep]
    trivial
  have hreached : Runs (Sys.Allowed DriverOpens) Sys.initial s₁ :=
    hrun.allowed hmessage hthrough.run
  obtain ⟨hsound, hheld⟩ := hreached.outcome held_spec (fun _ => rfl) hcalm hthrough.after
    hhead hempty
  have hclosed : s₁.worker.label = .clear3 ∨ s₁.worker.label = .pause3 ∨
      s₁.worker.label = .repost3 → (s₁.worker.entry s₁.world).obj.dmxPointer.isSome = false := by
    intro hl
    rw [hreached.closed held_spec hl]
    rfl
  have hstarts : c₂.world.session.ptr.isSome = true ↔ s₁.Starts := by
    rw [hheld]
    exact after_start _ _ _ hclosed
  rw [← hstarts]
  constructor
  · rintro ⟨h, hh, -⟩
    exact Option.isSome_iff_exists.mpr ⟨h, hh⟩
  · intro hsome
    obtain ⟨h, hh⟩ := Option.isSome_iff_exists.mp hsome
    exact ⟨h, hh, (hsound.2 h hh).2, (hsound.2 h hh).1⟩

/-- A connect message to an idle object. -/
theorem start_kept_when_idle : ∃ c' c₂ : Sys,
    (∃ s₀ s₁, Through DriverOpens c' s₀ s₁ c₂ ∧ s₀.DecidesStart) ∧
      ∀ s₀ s₁, Through DriverOpens c' s₀ s₁ c₂ → s₀.DecidesStart →
        ((∃ h, c₂.world.obj.dmxPointer = some h ∧ Live h c₂.world.session.history ∧
          c₂.world.obj.threadOn = true) ↔ s₁.Starts) := by
  obtain ⟨c₂, hrest, hdone, hhead, hempty⟩ := Runs.of_plays (Undisturbed DriverOpens)
    (fun s => s.host = .ret () ∧ s.worker = .start .head ∧ s.world.obj.threadAction = 0)
    { Sys.initial with host := handle .connect }
    (List.replicate 4 (.host .fine) ++ workerSteps 59) (by decide +kernel)
  exact ⟨_, c₂, start_kept_iff (Or.inl rfl) ReflTransGen.refl rfl hrest hdone hhead hempty⟩

/-- **A start request is lost**, and undoes an earlier one, when it is posted while the worker is
connecting for the earlier one. -/
theorem start_request_lost : ∃ c c' c₂ : Sys, Runs (Commanded DriverOpens) Sys.initial c ∧
    c.step (.message .connect) = some c' ∧ Runs (Undisturbed DriverOpens) c' c₂ ∧
    c₂.host = .ret () ∧ c₂.worker = .start .head ∧ c₂.world.obj.threadAction = 0 ∧
    ¬∃ h, c₂.world.obj.dmxPointer = some h ∧ Live h c₂.world.session.history ∧
      c₂.world.obj.threadOn = true := by
  obtain ⟨c, hrun, c', hmessage, hplays⟩ := Runs.of_plays (Commanded DriverOpens)
    (fun s => ∃ s' ∈ s.step (.message .connect), s'.plays (Undisturbed DriverOpens)
      (fun s => s.host = .ret () ∧ s.worker = .start .head ∧ s.world.obj.threadAction = 0 ∧
        s.world.obj.dmxPointer = none)
      (List.replicate 4 (.host .fine) ++ workerSteps 71) = true)
    Sys.initial (request .connect 4 ++ workerSteps 3) (by decide +kernel)
  obtain ⟨c₂, hrest, hdone, hhead, hempty, hnone⟩ := Runs.of_plays _ _ _ _ hplays
  refine ⟨c, c', c₂, hrun, hmessage, hrest, hdone, hhead, hempty, ?_⟩
  rintro ⟨h, hh, -⟩
  rw [hnone] at hh
  cases hh

end Dmx485
