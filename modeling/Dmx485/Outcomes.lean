import Dmx485.Commands
import Dmx485.Settling
import Dmx485.Interaction.Entries

/-!
# What requests come to, and when

With a driver that never fails, the forecast says what the connection is going to be
(`Mailbox.lean`), and the bounds on the loop say when (`Settling.lean`). Here the two are put
together, for a host that goes on sending messages that request nothing: from a fixed number of
steps on, in the middle of a tick as well as at the loop head, the connection is the one that the
plan leads to.

Safety alone would be true of a worker that has stopped, and the bounds alone would not say what is
served; together they are total correctness. The answer is an equivalence, so it says of every
configuration whether the requests made until then lead to a connection.

* `resting_session`: a block with nothing planned leaves the session alone.
* `Runs.resting`, `Runs.entered`: what is known inside such a block.
* `Runs.forecast_unrequested`: messages that are no requests do not change the forecast.
* `decided_soon`: within 129 steps the connection is what the plan said, and it stays so.
  `decided_soon_undone` is a start that is undone: a second connect message, posted while the first
  is being served.
-/

namespace Dmx485

open Interaction Relation

/-! ## Inside a block -/

/-- An operation of a tick leaves the session alone. -/
lemma session_ticking {o : Op} (ho : o.Ticking) (r : Reply) (w : World) :
    ((machine .worker).exec o r w).2.session = w.session := by
  cases o with
  | call c =>
      obtain ⟨h, hc⟩ := ho
      exact session_quiet hc.quiet r w
  | enter f => rfl
  | getDmxPointer => rfl
  | indeterminate => rfl
  | _ => exact ho.elim

/-- With an empty mailbox, nothing is planned from this block on. -/
def Label.Resting (l : Label) : Prop := l.plan 0 = []

/-- Where the worker rests, it leaves the session alone. -/
lemma resting_session (l : Label) (hl : l.Resting) : (thread l).All fun o => ∀ r w,
    ((machine .worker).exec o r w).2.session = w.session := by
  cases l with
  | head | test2 | test3 | testOn | pause => exact .step (fun _ _ => rfl) fun _ => trivial
  | tick => exact .bind (timer_ticking.mono fun _ => session_ticking) fun _ => trivial
  | _ => cases hl

/-- The session inside a block with nothing planned is the one it was entered in. -/
lemma Runs.resting {ok : Sys → Action → Prop} {s s' : Sys} (hrun : Runs ok s s')
    (hhost : s.host.All Op.Host)
    (h : s.worker.Keeps (machine .worker) thread World.session Label.Resting s.world) :
    s'.worker.Keeps (machine .worker) thread World.session Label.Resting s'.world := by
  induction hrun with
  | refl => exact h
  | tail hbefore hstep ih =>
      obtain ⟨a, -, hstep⟩ := hstep
      obtain ⟨m, u, rfl, -, rfl⟩ | ⟨r, o, k, rfl, hop, rfl⟩ | ⟨r, rfl, rfl⟩ := Sys.step_cases hstep
      · exact ih
      · have hhost₁ := Runs.host hbefore hhost
        rw [hop] at hhost₁
        exact ih.env (session_host hhost₁.1 r _)
      · exact ih.step resting_session r

section entered

variable {A : World → Op → Reply → Prop} {G : Label → World → Op → Reply → Prop}
  {pre : Label → World → Prop} {post : Label → World → Label → World → Prop}

/-- In a run, every block has been entered in a state that satisfied its assertion. -/
lemma Runs.entered (hO : (workerOutline A G pre post).Valid (machine .worker) thread)
    {ok : Sys → Action → Prop} (hok : ∀ s a, ok s a → s.Allowed A a) {s s' : Sys}
    (hrun : Runs ok s s') (h : s.Holds (workerOutline A G pre post))
    (hentered : (workerOutline A G pre post).Entered s.worker s.world) :
    pre s'.worker.label (s'.worker.entry s'.world) := by
  have hinv : (workerOutline A G pre post).Entered s'.worker s'.world := by
    induction hrun with
    | refl => exact hentered
    | tail hbefore hstep ih =>
        have hholds := Runs.holds hO hok hbefore h
        obtain ⟨a, ha, hstep⟩ := hstep
        have hholds' := hholds.step hO (hok _ a ha) hstep
        obtain ⟨m, u, rfl, -, rfl⟩ | ⟨r, o, k, rfl, hop, rfl⟩ | ⟨r, rfl, rfl⟩ :=
          Sys.step_cases hstep
        · exact ih
        · exact Outline.entered_env ih hholds'.1
        · exact Outline.entered_step ih hholds'.1
  exact hinv

end entered

/-! ## The forecast -/

/-- Steps with allowed replies in which nothing is requested. -/
def Unrequested (A : World → Op → Reply → Prop) (s : Sys) (a : Action) : Prop :=
  s.Allowed A a ∧ NoRequest s a

instance (A : World → Op → Reply → Prop) [∀ w o r, Decidable (A w o r)] (s : Sys) (a : Action) :
    Decidable (Unrequested A s a) :=
  inferInstanceAs (Decidable (_ ∧ _))

section outcome

variable {V : Type} {A : World → Op → Reply → Prop} {view : Session → V} {c d o : V → V}

/-- **Messages that request nothing leave the forecast as it is.** -/
theorem Runs.forecast_unrequested
    (hspec : SessionSpec A (fun _ _ _ _ => True) Sound (fun _ => True) SoundClosed view c d o)
    (hd : ∀ v, d (o v) = d v) {s s' : Sys} (hreach : Runs (Sys.Allowed A) Sys.initial s)
    (hcalm : s.host.All Op.Calm) (hrun : Runs (Unrequested A) s s') :
    Dmx485.forecast view c d s'.worker s'.world = Dmx485.forecast view c d s.worker s.world := by
  have hinv : s'.host.All Op.Calm ∧ Dmx485.forecast view c d s'.worker s'.world =
      Dmx485.forecast view c d s.worker s.world := by
    induction hrun with
    | refl => exact ⟨hcalm, rfl⟩
    | tail hbefore hstep ih =>
        have hreach₁ := hreach.trans (Runs.mono (fun _ _ ha => ha.1) hbefore)
        obtain ⟨a, ⟨hallowed, hmessage⟩, hstep⟩ := hstep
        obtain ⟨hcalm₁, hsame⟩ := ih
        obtain ⟨m, u, rfl, -, rfl⟩ | ⟨r, op, k, rfl, hop, rfl⟩ | ⟨r, rfl, rfl⟩ :=
          Sys.step_cases hstep
        · exact ⟨NoRequest.calm hmessage, hsame⟩
        · rw [hop] at hcalm₁
          exact ⟨hcalm₁.2 _, (forecast_host hcalm₁.1 r _ _).trans hsame⟩
        · have hholds := Runs.sound hspec hreach₁
          have htail := Runs.tailAll hreach₁ trivial
          exact ⟨hcalm₁, (forecast_worker hspec.loopSpec.valid hd hholds.1 htail hallowed).trans
            hsame⟩
  exact hinv.2

/-- Once nothing is planned, the session is sound and its view the one forecast. -/
lemma Runs.comes_true
    (hspec : SessionSpec A (fun _ _ _ _ => True) Sound (fun _ => True) SoundClosed view c d o)
    (hd : ∀ v, d (o v) = d v) {s s' : Sys} (hreach : Runs (Sys.Allowed A) Sys.initial s)
    (hcalm : s.host.All Op.Calm) (hrun : Runs (Unrequested A) s s')
    (hsteps : s.world.steps + 129 ≤ s'.world.steps) :
    Sound s'.world.session ∧
      view s'.world.session = Dmx485.forecast view c d s.worker s.world := by
  have hreach' : Runs (Sys.Allowed A) Sys.initial s' := hreach.trans (hrun.mono fun _ _ ha => ha.1)
  have hplan : s'.worker.label.plan s'.world.obj.threadAction = [] :=
    (hreach.mono fun _ _ _ => trivial).settles hcalm (hrun.mono fun _ _ ha => ha.2) hsteps
  have hresting : s'.worker.label.Resting := by
    have hzero := (mailbox_request (hreach'.mono fun _ _ _ => trivial)).eq_zero hplan
    rwa [hzero] at hplan
  have hsame : s'.world.session = (s'.worker.entry s'.world).session :=
    (hreach'.resting trivial (Position.keeps_start resting_session _ _)).same hresting
  have hentry : loopPre Sound (fun _ => True) SoundClosed s'.worker.label
      (s'.worker.entry s'.world).session := by
    have hinit : Sys.initial.Holds (loopOutline A (fun _ _ _ _ => True) Sound (fun _ => True)
        SoundClosed view c d o) := Runs.sound hspec ReflTransGen.refl
    exact hreach'.entered hspec.loopSpec.valid (fun _ _ h => h) hinit hinit.1
  constructor
  · rw [hsame]
    revert hentry hresting
    cases s'.worker.label with
    | head | test2 | test3 | testOn | pause => exact fun _ hsound => hsound
    | tick => exact fun _ hsound => hsound.1
    | _ => exact fun hresting => by cases hresting
  · rw [← hreach.forecast_unrequested hspec hd hcalm hrun, Dmx485.forecast, hplan, hsame]
    rfl

end outcome

/-- Whether a handle is going to be stored. -/
def Sys.willHold (s : Sys) : Bool :=
  forecast (fun a => a.ptr.isSome) not (fun _ => false) s.worker s.world

/-- Whether the tick is going to be on. -/
def Sys.willSend (s : Sys) : Bool :=
  forecast Session.on (fun _ => true) (fun _ => false) s.worker s.world

/-- **Requests come to what the plan says, and soon.** With a driver that lists a device and never
fails, from any configuration reached by whatever messages, in which the host has nothing left to
post: in every configuration from 129 steps of the worker on, until the next request, a live handle
is stored and the tick is on exactly if the plan leaves a handle, and without a handle the tick is
as the plan leaves it. -/
theorem decided_soon {s s' : Sys} (hreach : Runs (Sys.Allowed DriverOpens) Sys.initial s)
    (hcalm : s.host.All Op.Calm) (hrun : Runs (Unrequested DriverOpens) s s')
    (hsteps : s.world.steps + 129 ≤ s'.world.steps) :
    ((∃ h, s'.world.obj.dmxPointer = some h ∧ Live h s'.world.session.history ∧
        s'.world.obj.threadOn = true) ↔ s.willHold = true) ∧
      (s'.world.obj.dmxPointer = none ↔ s.willHold = false) ∧
      s'.world.obj.threadOn = s.willSend := by
  have hok : ∀ (s : Sys) a, s.Allowed DriverOpens a → s.Allowed DriverOk a :=
    fun _ _ ha o ho => (ha o ho).1
  obtain ⟨hsound, hheld⟩ := hreach.comes_true held_spec (fun _ => rfl) hcalm hrun hsteps
  obtain ⟨-, hon⟩ := (hreach.mono hok).comes_true sending_spec (fun _ => rfl) hcalm
    (hrun.mono fun s a ha => ⟨hok s a ha.1, ha.2⟩) hsteps
  have hheld : s'.world.obj.dmxPointer.isSome = s.willHold := hheld
  refine ⟨?_, ?_, hon⟩
  · rw [← hheld, Option.isSome_iff_exists]
    constructor
    · rintro ⟨h, hh, -⟩
      exact ⟨h, hh⟩
    · rintro ⟨h, hh⟩
      exact ⟨h, hh, (hsound.2 h hh).2, (hsound.2 h hh).1⟩
  · rw [← hheld, Option.isSome_eq_false_iff, Option.isNone_iff_eq_none]

/-- A second connect message, posted while the worker is serving the first, undoes it: no handle is
left and the tick is on, also in the middle of a later tick. -/
theorem decided_soon_undone : ∃ s s' : Sys, s.world.obj.threadAction = 1 ∧
    Runs (Unrequested DriverOpens) s s' ∧ s'.worker ≠ .start s'.worker.label ∧
    s'.world.obj.dmxPointer = none ∧ s'.world.obj.threadOn = true := by
  obtain ⟨s, hreach, ⟨hidle, hposted, hheld, hon⟩, hplays⟩ := Runs.of_plays
    (Sys.Allowed DriverOpens)
    (fun s => (s.host = .ret () ∧ s.world.obj.threadAction = 1 ∧ s.willHold = false ∧
      s.willSend = true) ∧ s.plays (Unrequested DriverOpens)
      (fun s' => s.world.steps + 129 ≤ s'.world.steps ∧ s'.worker ≠ .start s'.worker.label)
      (workerSteps 70 ++ request .version 1 ++ workerSteps 62) = true)
    Sys.initial (request .connect 4 ++ workerSteps 3 ++ request .connect 4) (by decide +kernel)
  obtain ⟨s', hrun, hsteps, hinside⟩ := Runs.of_plays _ _ _ _ hplays
  obtain ⟨-, hnone, hsend⟩ := decided_soon hreach (by rw [hidle]; trivial) hrun hsteps
  exact ⟨s, s', hposted, hrun, hinside, hnone.mpr hheld, hsend.trans hon⟩

end Dmx485
