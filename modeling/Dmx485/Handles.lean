import Dmx485.System

/-!
# Handles over whole runs

Three results about every run from the initial state, for every interleaving and every sequence
of driver answers.

* `frames_on_live_handle`: a tick only ever uses a live handle.
* `changed_only_by_close`: as long as `connect` is not entered on an object that has a handle, a
  handle is given up only when closing it succeeded. Entered so, it abandons the handle
  (`connect_abandons`); `handle_abandoned` is a run in which this happens.
* `sending_iff_connected`: under the same condition, with closing always successful and no `NULL`
  handle configured, the two flags agree whenever the worker is at its loop head;
  `agree_of_opened` says so of the driver's answers alone. `sending_without_handle` is a run in
  which the flags do not agree.

All three are proof outlines of the loop whose assertions are about the session, so each needs no
more than the session relations of `Session.lean`, one small lemma for each function. The
conditions of the second and third are conditions on the steps of a run: `enable` looks at the
handle before it posts, but a second request, posted while the first is being served, is enough to
enter `connect` with a handle.
-/

namespace Dmx485

open Interaction

/-! ## Frames are sent on live handles -/

/-- `FT_Open` stores a handle only when it returns `FT_OK`. -/
def OpenStoresOnOk (_ : World) (o : Op) (r : Reply) : Prop :=
  o.isOpen = true → r.status ≠ FT_OK → r.handle = none

instance (w : World) (o : Op) (r : Reply) : Decidable (OpenStoresOnOk w o r) :=
  inferInstanceAs (Decidable (_ → _))

/-- While the tick is on, the stored handle, if any, is live. -/
def SendsLive (a : Session) : Prop :=
  ∀ h, a.ptr = some h → a.on = true → Live h a.history

/-- In a tick, a driver call is made on a live handle. -/
def TickOnLive (l : Label) (w : World) (o : Op) (_ : Reply) : Prop :=
  l = .tick → ∀ c, o = .call c → ∃ h, c.handle? = some (some h) ∧ Live h w.session.history

/-- A call of a tick is made on the handle of the tick. -/
lemma FtCall.Tick.handle? {h : FT_HANDLE} {c : FtCall} (hc : c.Tick h) : c.handle? = some h := by
  cases c <;> first | exact congrArg some hc | exact hc.elim

/-- After `disconnect` the tick is off. -/
lemma sendsLive_disconnects {A : World → Op → Reply → Prop} {a b : Session}
    (hrel : Disconnects A a b) : SendsLive b := by
  intro h _ hon
  cases hrel <;> cases hon

/-- The annotation of the loop: a handle is live as long as the tick is on. -/
lemma sendsLive_spec : SessionSpec OpenStoresOnOk TickOnLive SendsLive SendsLive SendsLive
    (fun _ => ()) id id id where
  guarantee := fun l hl _ _ _ htick => absurd htick hl
  guarantee_tick := by
    rintro w o r hJ hon ho _ c rfl
    obtain ⟨h, hptr, htick⟩ := ho
    exact ⟨h, htick.handle?, hJ h hptr hon⟩
  closed := fun _ h => h
  stop := fun _ _ => ⟨fun _ _ hon => Bool.noConfusion hon, rfl⟩
  connect := by
    intro w _ b _ _ hrel
    refine ⟨?_, rfl⟩
    intro h hptr hon
    cases hrel with
    | cleared => cases hptr
    | failed => cases hptr
    | done w i r hnone hopen =>
        have hstatus : r.status = FT_OK := by
          by_contra hbad
          have hstored : r.handle = none := hopen rfl hbad
          exact Option.some_ne_none h (hptr.symm.trans hstored)
        exact Or.inl ⟨hstatus, hptr⟩
  disconnect := fun _ _ _ hrel => ⟨sendsLive_disconnects hrel, rfl⟩
  disconnect3 := fun _ _ _ hrel => ⟨sendsLive_disconnects hrel, rfl⟩

/-- **Frames are only ever sent on a live handle**: in every run, whatever the driver answers as
long as `FT_Open` stores a handle only with `FT_OK`, each driver call of a tick is made on a
handle that an `FT_Open` returned with `FT_OK` and that has not been passed to `FT_Close` since. -/
theorem frames_on_live_handle {s : Sys} (hrun : Runs (Sys.Allowed OpenStoresOnOk) Sys.initial s)
    (htick : s.worker.label = .tick) {c : FtCall}
    (hnext : (s.worker.rest thread).next = some (.call c)) :
    ∃ h, c.handle? = some (some h) ∧ Live h s.world.session.history := by
  have hinit : Sys.initial.Holds (loopOutline OpenStoresOnOk TickOnLive SendsLive SendsLive
      SendsLive (fun _ => ()) id id id) := by
    refine ⟨?_, trivial⟩
    intro h hptr
    cases hptr
  have hvalid := sendsLive_spec.loopSpec.valid
  have hholds := hrun.holds hvalid (fun _ _ h => h) hinit
  have hreply : OpenStoresOnOk s.world (.call c) {} := fun _ hbad => absurd rfl hbad
  exact Outline.holds_guarantee hvalid hholds.1 hnext {} hreply htick c rfl

/-- A tick after a successful connection. -/
theorem frame_on_opened_handle :
    ∃ (s : Sys) (c : FtCall), (s.worker.rest thread).next = some (.call c) ∧
      ∃ h, c.handle? = some (some h) ∧ Live h s.world.session.history := by
  obtain ⟨s, hrun, htick, hnext⟩ := Runs.of_plays (Sys.Allowed OpenStoresOnOk)
    (fun s => s.worker.label = .tick ∧
      (s.worker.rest thread).next = some (.call (.FT_SetBreakOff (some 7))))
    Sys.initial (request .connect 4 ++ workerSteps 49) (by decide +kernel)
  exact ⟨s, _, hnext, frames_on_live_handle hrun htick hnext⟩

/-! ## A handle is given up only when it has been closed -/

/-- `connect` is not entered on an object that has a handle. -/
def EntersFree (w : World) (o : Op) (_ : Reply) : Prop :=
  o = .enter .connect → w.obj.dmxPointer = none

instance (w : World) (o : Op) (r : Reply) : Decidable (EntersFree w o r) :=
  inferInstanceAs (Decidable (_ → _))

/-- The last driver call of the worker, with its status. -/
def lastCall : List Event → Option (FtCall × FT_STATUS)
  | [] => none
  | ⟨.worker, .call c, r, _⟩ :: _ => some (c, r.status)
  | _ :: es => lastCall es

/-- A handle is overwritten only when the last driver call closed it, with `FT_OK`. -/
def GivesUpClosed (_ : Label) (w : World) (o : Op) (_ : Reply) : Prop :=
  ∀ p h, o = .setDmxPointer p → w.obj.dmxPointer = some h → p ≠ some h →
    lastCall w.log = some (.FT_Close (some h), FT_OK)

/-- Other operations owe nothing. -/
lemma givesUpClosed_of_ne {l : Label} {w : World} {o : Op} {r : Reply}
    (ho : ∀ p, o ≠ .setDmxPointer p) : GivesUpClosed l w o r :=
  fun p _ hp _ _ => absurd hp (ho p)

/-- Nor does a store over `NULL`. -/
lemma givesUpClosed_of_none {l : Label} {w : World} {o : Op} {r : Reply}
    (hw : w.session.ptr = none) : GivesUpClosed l w o r :=
  fun _ h _ hptr _ => absurd (hptr.symm.trans hw) (Option.some_ne_none h)

/-- A quiet operation does not store a handle. -/
lemma Op.Quiet.ne_setDmxPointer {o : Op} (ho : o.Quiet) (p : FT_HANDLE) : o ≠ .setDmxPointer p := by
  rintro rfl
  exact ho

/-- What is said of the session outlasts quiet operations, which owe nothing. -/
lemma givesUpClosed_quietly {l : Label} (F : Session → Prop) :
    Quietly Op.Host EntersFree (GivesUpClosed l) fun w => F w.session :=
  session_quietly (fun _ => id) (fun _ _ _ ho => givesUpClosed_of_ne ho.ne_setDmxPointer) F

/-- The last call is the closing of the stored handle, if there is one, with status `s`. -/
def ClosedWith (s : FT_STATUS) (w : World) : Prop :=
  ∀ h, w.session.ptr = some h → lastCall w.log = some (.FT_Close (some h), s)

/-- The host makes no call that could come after the closing. -/
lemma closedWith_stable {l : Label} (s : FT_STATUS) :
    Stable (around Op.Host EntersFree (GivesUpClosed l)) (ClosedWith s) := by
  rintro w w' hw ⟨o, r, ho, -, rfl⟩ h hptr
  rw [session_host ho] at hptr
  exact hw h hptr

/-- Nor do the silent operations of the worker. -/
lemma closedWith_silently {l : Label} (s : FT_STATUS) :
    Silently Op.Host EntersFree (GivesUpClosed l) (ClosedWith s) where
  stable := closedWith_stable s
  keeps := by
    intro w o r ho hw _
    refine ⟨givesUpClosed_of_ne ho.quiet.ne_setDmxPointer, fun h hptr => ?_⟩
    rw [session_quiet ho.quiet] at hptr
    have hlast := hw h hptr
    cases o with
    | getStatus => exact hlast
    | console => exact hlast
    | _ => exact ho.elim

/-- Entered on an object without a handle, `connect` gives none up. -/
lemma givesUpClosed_connect :
    Triple (machine .worker) (around Op.Host EntersFree (GivesUpClosed .connect))
      (fun _ => True) connect fun _ _ => True := by
  have hfree : Quietly Op.Host EntersFree (GivesUpClosed .connect) fun w => w.session.ptr = none :=
    givesUpClosed_quietly fun a => a.ptr = none
  have hnil : Quietly Op.Host EntersFree (GivesUpClosed .connect) fun _ => True :=
    givesUpClosed_quietly fun _ => True
  refine connect_triple (fun _ => id) hnil.stable
    (fun w r _ hfree => ⟨givesUpClosed_of_ne fun p => Op.noConfusion, hfree rfl⟩) hfree
    (fun w r hw _ _ => ⟨givesUpClosed_of_none hw, trivial⟩)
    (fun w i r hw _ _ => ⟨givesUpClosed_of_ne fun p => Op.noConfusion, ?_⟩)
    (fun _ => hfree) (fun _ w c r r' hw _ _ => ⟨givesUpClosed_of_ne fun p => Op.noConfusion, hw⟩)
    (fun _ w r hw _ _ => ⟨givesUpClosed_of_none hw, trivial⟩)
    (fun _ w r hw _ _ _ => ⟨givesUpClosed_of_none hw, trivial⟩) (fun _ => hnil)
    (fun _ w r _ _ => ⟨givesUpClosed_of_ne fun p => Op.noConfusion, trivial⟩)
  exact hw

/-- `disconnect` gives a handle up only after closing it. -/
lemma givesUpClosed_disconnect (l : Label) :
    Triple (machine .worker) (around Op.Host EntersFree (GivesUpClosed l))
      (fun _ => True) disconnect fun _ _ => True := by
  have hnil : Quietly Op.Host EntersFree (GivesUpClosed l) fun _ => True :=
    givesUpClosed_quietly fun _ => True
  refine disconnect_triple (fun _ => id) hnil.stable
    (fun w r _ _ => ⟨givesUpClosed_of_ne fun p => Op.noConfusion, trivial⟩) hnil.stable
    (fun w r _ _ => ⟨givesUpClosed_of_ne fun p => Op.noConfusion, trivial⟩) hnil
    (fun w h r _ hptr _ => ⟨givesUpClosed_of_ne fun p => Op.noConfusion, ?_⟩)
    (fun s => closedWith_stable s)
    (fun s w r hw _ => ⟨givesUpClosed_of_ne fun p => Op.noConfusion, hw⟩)
    (fun w r _ hptr _ => ⟨givesUpClosed_of_ne fun p => Op.noConfusion, ?_⟩)
    (fun s => closedWith_silently s) (fun _ _ _ _ => trivial)
    (fun w r hw _ => ⟨fun p h _ hptr _ => hw h hptr, trivial⟩) hnil.silently
  · intro h' hptr'
    have hh : h = h' := Option.some.inj (hptr.symm.trans hptr')
    rw [hh]
    rfl
  · intro h' hptr'
    exact absurd (hptr'.symm.trans hptr) (Option.some_ne_none h')

/-- The annotation of the loop: nothing is asserted, a closing is owed. -/
lemma givesUpClosed_spec : LoopSpec EntersFree GivesUpClosed (fun _ => True) (fun _ => True)
    (fun _ => True) (fun _ => ()) id id id where
  guarantee := by
    intro l _ w o r ho
    refine givesUpClosed_of_ne ?_
    rintro p rfl
    exact ho
  guarantee_stop := fun _ _ => givesUpClosed_of_ne fun p => Op.noConfusion
  closed := fun _ h => h
  stop := fun _ _ => ⟨trivial, rfl⟩
  connect := fun _ => givesUpClosed_connect.conseq (fun _ _ => trivial) fun _ _ _ => ⟨trivial, rfl⟩
  disconnect := fun _ =>
    (givesUpClosed_disconnect _).conseq (fun _ _ => trivial) fun _ _ _ => ⟨trivial, rfl⟩
  disconnect3 := fun _ =>
    (givesUpClosed_disconnect _).conseq (fun _ _ => trivial) fun _ _ _ => ⟨trivial, rfl⟩
  tick := by
    intro v
    refine (timer_session (fun _ => id) (fun _ => True) fun w o r _ ho => ?_).conseq
      (fun _ _ => trivial) fun _ _ _ => ⟨trivial, rfl⟩
    refine givesUpClosed_of_ne ?_
    rintro p rfl
    exact ho

/-- Only a store to `dmxPointer` changes it. -/
lemma effect_dmxPointer (o : Op) (x : Obj) :
    (o.effect x).dmxPointer = x.dmxPointer ∨ o = .setDmxPointer (o.effect x).dmxPointer := by
  cases o with
  | setDmxPointer p => exact Or.inr rfl
  | setData k v =>
      left
      simp only [Op.effect, Obj.poke]
      split_ifs <;> rfl
  | _ => exact Or.inl rfl

/-- **A handle is given up only when it has been closed**, in every run in which `connect` is not
entered on an object that has one. -/
theorem changed_only_by_close {s s' : Sys} (hrun : Runs (Sys.Allowed EntersFree) Sys.initial s)
    {a : Action} (ha : s.Allowed EntersFree a) (hstep : s.step a = some s') {h : Handle}
    (hh : s.world.obj.dmxPointer = some h) (hne : s'.world.obj.dmxPointer ≠ some h) :
    lastCall s.world.log = some (.FT_Close (some h), FT_OK) := by
  have hvalid := givesUpClosed_spec.valid
  have hinit : Sys.initial.Holds (loopOutline EntersFree GivesUpClosed (fun _ => True)
      (fun _ => True) (fun _ => True) (fun _ => ()) id id id) := ⟨trivial, trivial⟩
  have hholds := hrun.holds hvalid (fun _ _ h => h) hinit
  obtain ⟨m, u, rfl, -, rfl⟩ | ⟨r, o, k, rfl, hhost, rfl⟩ | ⟨r, rfl, rfl⟩ := Sys.step_cases hstep
  · exact absurd hh hne
  · have hall := hholds.2
    rw [hhost] at hall
    have hown := congrArg Prod.fst (own_host hall.1 r s.world)
    exact absurd (hown.trans hh) hne
  · rcases hrest : s.worker.rest thread with l' | ⟨o, k⟩
    · rw [Position.step_of_ret hrest] at hne
      exact absurd hh hne
    · rw [Position.step_of_op hrest] at hne
      rcases effect_dmxPointer o s.world.obj with hsame | hstore
      · exact absurd (hsame.trans hh) hne
      · have hnext : (s.worker.rest thread).next = some o := congrArg Prog.next hrest
        exact Outline.holds_guarantee hvalid hholds.1 hnext r (ha o hnext) _ h hstore hh hne

/-- Connecting and disconnecting, up to the store of `NULL`. -/
theorem changed_after_close :
    ∃ s : Sys, s.world.obj.dmxPointer = some 7 ∧
      lastCall s.world.log = some (.FT_Close (some 7), FT_OK) := by
  obtain ⟨s, hrun, hallowed, s', hstep, hheld, hgone⟩ := Runs.of_plays (Sys.Allowed EntersFree)
    (fun s => s.Allowed EntersFree (.worker .fine) ∧ ∃ s' ∈ s.step (.worker .fine),
      s.world.obj.dmxPointer = some 7 ∧ s'.world.obj.dmxPointer ≠ some 7)
    Sys.initial (request .connect 4 ++ workerSteps 80 ++ request .disconnect 3 ++ workerSteps 24)
    (by decide +kernel)
  exact ⟨s, hheld, changed_only_by_close hrun hallowed hstep hheld hgone⟩

/-- **Entered on an object that has a handle, `connect` abandons it**: whatever the driver answers
and the host does meanwhile, it ends with `NULL` stored, and nothing has been opened or closed. So a
run that breaks the condition of `changed_only_by_close` breaks its conclusion too, once this
execution of `connect` is at its end. -/
theorem connect_abandons {a : Session} (hptr : a.ptr ≠ none) :
    Triple (machine .worker) (around Op.Host (fun _ _ _ => True) fun _ _ _ => True)
      (fun w => w.session = a) connect fun _ w => w.session = { a with ptr := none } := by
  refine (connect_session (fun _ => id) (fun _ _ _ => trivial) a).conseq (fun _ hw => hw) ?_
  rintro - w ⟨-, hconnects⟩
  generalize w.session = b at hconnects
  cases hconnects with
  | cleared => rfl
  | failed w' i r status hnone => exact absurd hnone hptr
  | done w' i r hnone => exact absurd hnone hptr

/-- **A handle is abandoned** when a second connect request is posted while the first is being
served: the second execution of `connect` finds the handle of the first and overwrites it. Every
driver call succeeds. -/
theorem handle_abandoned :
    ∃ (s s' : Sys) (a : Action) (h : Handle), Runs (fun _ _ => True) Sys.initial s ∧
      s.step a = some s' ∧ s.world.obj.dmxPointer = some h ∧ s'.world.obj.dmxPointer ≠ some h ∧
      lastCall s.world.log ≠ some (.FT_Close (some h), FT_OK) := by
  obtain ⟨s, hrun, s', hstep, hheld, hgone, hlast⟩ := Runs.of_plays (fun _ _ => True)
    (fun s => ∃ s' ∈ s.step (.worker .fine), s.world.obj.dmxPointer = some 7 ∧
      s'.world.obj.dmxPointer ≠ some 7 ∧
      lastCall s.world.log ≠ some (.FT_Close (some 7), FT_OK))
    Sys.initial
    (request .connect 4 ++ workerSteps 3 ++ request .connect 4 ++ workerSteps 63)
    (by decide +kernel)
  exact ⟨s, s', _, 7, hrun, hstep, hheld, hgone, hlast⟩

/-! ## The two views of being connected -/

/-- Whether an operation configures a `NULL` handle to its end. -/
def Op.isNullConfigured : Op → Bool
  | call (.FT_GetDeviceInfo none) => true
  | _ => false

/-- The closing of a device. -/
def Op.isClose : Op → Bool
  | call (.FT_Close _) => true
  | _ => false

/-- `connect` is not entered on an object that has a handle and does not get to the end with a
`NULL` handle, and closing succeeds. -/
def KeepsAgreement (w : World) (o : Op) (r : Reply) : Prop :=
  EntersFree w o r ∧ (o.isClose = true → r.status = FT_OK) ∧ o.isNullConfigured = false

instance (w : World) (o : Op) (r : Reply) : Decidable (KeepsAgreement w o r) :=
  inferInstanceAs (Decidable (_ ∧ _ ∧ _))

/-- The two flags agree. -/
def Agree (a : Session) : Prop := a.on = true ↔ a.ptr ≠ none

/-- Without a handle and with the tick off the flags agree. -/
lemma agree_of_off {a : Session} (hptr : a.ptr = none) (hon : a.on = false) : Agree a := by
  unfold Agree
  rw [hptr, hon]
  simp

/-- The answers that keep the flags in agreement: `connect` is entered without a handle, closing
succeeds, and a handle that `FT_Open` leaves and that is set up to its end is not `NULL`. -/
structure AgreeableAnswers (A : World → Op → Reply → Prop) : Prop where
  free : ∀ {w r}, A w (.enter .connect) r → w.obj.dmxPointer = none
  closes : ∀ {w h r}, A w (.call (.FT_Close h)) r → r.status = FT_OK
  opens : ∀ {w i r w' r'}, A w (.call (.FT_Open i)) r →
    A w' (.call (.FT_GetDeviceInfo r.handle)) r' → r.handle ≠ none

section agreement

variable {A : World → Op → Reply → Prop} (hA : AgreeableAnswers A)

include hA

/-- A successful closing leaves the flags in agreement, whatever they were. -/
lemma agree_of_disconnects {a b : Session} (h : Disconnects A a b) : Agree b := by
  cases h with
  | idle => exact agree_of_off rfl rfl
  | closed => exact agree_of_off rfl rfl
  | failed h w r hptr hclose hbad => exact absurd (hA.closes hclose) hbad

/-- The flags agree at every label but inside a restart. -/
lemma agree_spec : SessionSpec A (fun _ _ _ _ => True) Agree (fun _ => True) Agree
    (fun _ => ()) id id id where
  guarantee := fun _ _ _ _ _ => trivial
  guarantee_tick := fun _ _ _ _ _ _ => trivial
  closed := fun _ h => h
  stop := fun _ _ => ⟨trivial, rfl⟩
  connect := by
    intro w r b hJ henter hrel
    refine ⟨?_, rfl⟩
    have hfree : w.session.ptr = none := hA.free henter
    have hoff : w.session.on = false := by
      rw [← Bool.not_eq_true]
      intro hon
      exact hJ.mp hon hfree
    cases hrel with
    | cleared => exact agree_of_off rfl hoff
    | failed => exact agree_of_off rfl hoff
    | done w' i r' _ hopen _ hinfo =>
        obtain ⟨w₁, r₁, hinfo⟩ := hinfo
        constructor
        · intro _
          exact hA.opens hopen hinfo
        · intro _
          rfl
  disconnect := fun _ _ _ hrel => ⟨agree_of_disconnects hA hrel, rfl⟩
  disconnect3 := fun _ _ _ hrel => ⟨agree_of_disconnects hA hrel, rfl⟩

/-- The flags agree at the loop head of every run with such answers. -/
lemma agree_of_runs {s : Sys} (hrun : Runs (Sys.Allowed A) Sys.initial s)
    (hhead : s.worker = .start .head) :
    s.world.obj.threadOn = true ↔ s.world.obj.dmxPointer ≠ none := by
  have hinit : Sys.initial.Holds (loopOutline A (fun _ _ _ _ => True) Agree
      (fun _ => True) Agree (fun _ => ()) id id id) := ⟨agree_of_off rfl rfl, trivial⟩
  have hholds := (hrun.holds (agree_spec hA).loopSpec.valid (fun _ _ h => h) hinit).1
  rw [hhead] at hholds
  exact hholds

end agreement

/-- **The two flags agree** whenever the worker is at its loop head, as long as `connect` is not
entered on an object that has a handle, closing succeeds, and `connect` does not get to the end
with a `NULL` handle, that is, `FT_Open` does not leave one on which every tested call then returns
`FT_OK`. The condition is enough, for every run that meets it; one that does not can still bring the
flags together again before the worker is back at its loop head. -/
theorem sending_iff_connected {s : Sys} (hrun : Runs (Sys.Allowed KeepsAgreement) Sys.initial s)
    (hhead : s.worker = .start .head) :
    s.world.obj.threadOn = true ↔ s.world.obj.dmxPointer ≠ none := by
  refine agree_of_runs ⟨fun h => h.1 rfl, fun h => h.2.1 rfl, fun _ hinfo hnone => ?_⟩ hrun hhead
  have hconfigured := hinfo.2.2
  rw [hnone] at hconfigured
  cases hconfigured

/-- Connecting once. -/
theorem sending_when_connected :
    ∃ s : Sys, s.worker = .start .head ∧ s.world.obj.threadOn = true ∧
      (s.world.obj.threadOn = true ↔ s.world.obj.dmxPointer ≠ none) := by
  obtain ⟨s, hrun, hhead, hon⟩ := Runs.of_plays (Sys.Allowed KeepsAgreement)
    (fun s => s.worker = .start .head ∧ s.world.obj.threadOn = true) Sys.initial
    (request .connect 4 ++ workerSteps 59) (by decide +kernel)
  exact ⟨s, hhead, hon, sending_iff_connected hrun hhead⟩

/-- `connect` is not entered on an object that has a handle, closing succeeds, and `FT_Open` never
leaves a `NULL` handle. -/
def AnswersAgreeably (w : World) (o : Op) (r : Reply) : Prop :=
  EntersFree w o r ∧ (o.isClose = true → r.status = FT_OK) ∧ (o.isOpen = true → r.handle ≠ none)

/-- **On the answers alone**: a driver whose `FT_Open` never leaves a `NULL` handle and whose
`FT_Close` succeeds keeps the flags in agreement, as long as `connect` is entered without a
handle. -/
theorem agree_of_opened {s : Sys} (hrun : Runs (Sys.Allowed AnswersAgreeably) Sys.initial s)
    (hhead : s.worker = .start .head) :
    s.world.obj.threadOn = true ↔ s.world.obj.dmxPointer ≠ none :=
  agree_of_runs ⟨fun h => h.1 rfl, fun h => h.2.1 rfl, fun h _ => h.2.2 rfl⟩ hrun hhead

/-- **An object without a device is marked as sending** after a second connect request has been
posted while the first was being served. Every driver call succeeds. -/
theorem sending_without_handle :
    ∃ s : Sys, Runs (fun _ _ => True) Sys.initial s ∧ s.worker = .start .head ∧
      ¬(s.world.obj.threadOn = true ↔ s.world.obj.dmxPointer ≠ none) :=
  Runs.of_plays (fun _ _ => True)
    (fun s => s.worker = .start .head ∧
      ¬(s.world.obj.threadOn = true ↔ s.world.obj.dmxPointer ≠ none))
    Sys.initial
    (request .connect 4 ++ workerSteps 3 ++ request .connect 4 ++ workerSteps 71)
    (by decide +kernel)

end Dmx485
