import Dmx485.Rules

/-!
# The device session

What `connect` and `disconnect` are about: the three fields only the worker writes, and the
openings and closings so far. Both functions are described here once, by relations between the
session they find and the session they leave, with every guard and every driver answer the
outcome depends on; the results about runs only use these descriptions.

* `Session`, `World.session`: the view; `session_host`, `session_quiet` say what leaves it alone.
* `Live`: opened, and not closed since.
* `Connects`, `connect_session`: `connect` stores `NULL` at once, or opens a device and then stores
  `NULL` or the handle. It never closes one.
* `Disconnects`, `disconnect_session`: the tick goes off, and a handle is closed and given up, or
  kept if closing failed.
* `DriverOk`, `DriverOpens`: a driver that never fails, and one that moreover lists a device and
  opens it. `connects_cases`, `disconnects_eq`: the outcomes left with such a driver.

That these relations are what the functions do holds under any interference by the host, since the
host writes none of the fields; alone they are read off the same rules.
-/

namespace Dmx485

open Interaction

/-! ## The view -/

/-- The opening of a device. -/
def Op.isOpen : Op → Bool
  | call (.FT_Open _) => true
  | _ => false

/-- An opening or a closing, with the driver's answer. -/
inductive DeviceEvent
  | opened (status : FT_STATUS) (handle : FT_HANDLE)
  | closed (handle : FT_HANDLE) (status : FT_STATUS)
  deriving DecidableEq, Repr

/-- The opening or closing an event is, if any. -/
def Event.device? (e : Event) : Option DeviceEvent :=
  match e.op with
  | .call (.FT_Open _) => some (.opened e.reply.status e.reply.handle)
  | .call (.FT_Close h) => some (.closed h e.reply.status)
  | _ => none

/-- The fields the worker writes, and the openings and closings, newest first. -/
structure Session where
  ptr : FT_HANDLE
  status : FT_STATUS
  on : Bool
  history : List DeviceEvent

/-- The session of a world. -/
def World.session (w : World) : Session :=
  ⟨w.obj.dmxPointer, w.obj.ftdiPortStatus, w.obj.threadOn, w.log.filterMap Event.device?⟩

/-- `h` came from an `FT_Open` that returned `FT_OK`, and no `FT_Close` has been called on it
since, successful or not. -/
def Live (h : Handle) : List DeviceEvent → Prop
  | [] => False
  | .opened status t :: es => (status = FT_OK ∧ t = some h) ∨ Live h es
  | .closed t _ :: es => t ≠ some h ∧ Live h es

instance (h : Handle) : (es : List DeviceEvent) → Decidable (Live h es)
  | [] => inferInstanceAs (Decidable False)
  | .opened status t :: es =>
    have := instDecidableLive h es
    inferInstanceAs (Decidable ((status = FT_OK ∧ t = some h) ∨ Live h es))
  | .closed t _ :: es =>
    have := instDecidableLive h es
    inferInstanceAs (Decidable (t ≠ some h ∧ Live h es))

/-! ## What leaves the session alone -/

/-- An operation that writes none of the three fields and is no opening or closing. -/
lemma session_exec {party : Party} {o : Op} {r : Reply} {w : World}
    (hown : ((machine party).exec o r w).2.own = w.own)
    (hdevice : Event.device? ⟨party, o, r, o.payload w.obj⟩ = none) :
    ((machine party).exec o r w).2.session = w.session := by
  simp only [World.own, Prod.mk.injEq] at hown
  simp only [World.session, machine_log, List.filterMap_cons, hdevice, hown.1, hown.2.1, hown.2.2]

/-- The host leaves the session alone. -/
lemma session_host {o : Op} (ho : o.Host) (r : Reply) (w : World) :
    ((machine .host).exec o r w).2.session = w.session := by
  refine session_exec (own_host ho r w) ?_
  cases o with
  | call c =>
      cases c with
      | FT_ListDevices arg flags => rfl
      | _ => exact ho.elim
  | _ => rfl

/-- So do quiet operations. -/
lemma session_quiet {o : Op} (ho : o.Quiet) (r : Reply) (w : World) :
    ((machine .worker).exec o r w).2.session = w.session := by
  refine session_exec ?_ ?_
  · simp only [World.own, machine_obj, effect_quiet ho]
  · cases o with
    | call c =>
        cases c with
        | FT_Open i => exact ho.elim
        | FT_Close h => exact ho.elim
        | _ => rfl
    | _ => rfl

/-! ## What storing the status and closing do to it -/

/-- A store to the status. -/
@[simp] lemma session_setStatus (s : FT_STATUS) (r : Reply) (w : World) :
    ((machine .worker).exec (.setStatus s) r w).2.session = { w.session with status := s } := rfl

/-- A closing is recorded; the fields stay. -/
@[simp] lemma session_close (h : FT_HANDLE) (r : Reply) (w : World) :
    ((machine .worker).exec (.call (.FT_Close h)) r w).2.session =
      { w.session with history := .closed h r.status :: w.session.history } := rfl

section rules

variable {E : Op → Prop} {A : World → Op → Reply → Prop} {G : World → Op → Reply → Prop}

/-- An assertion about the session is undisturbed by the host. -/
lemma session_stable (hE : ∀ o, E o → o.Host) (F : Session → Prop) :
    Stable (around E A G) fun w => F w.session := by
  rintro w w' hw ⟨o, r, ho, hr, rfl⟩
  rwa [session_host (hE o ho)]

/-- An assertion about the session survives quiet steps. -/
lemma session_quietly (hE : ∀ o, E o → o.Host) (hG : ∀ w (o : Op) r, o.Quiet → G w o r)
    (F : Session → Prop) : Quietly E A G fun w => F w.session where
  stable := session_stable hE F
  keeps w o r ho hw hr := ⟨hG w o r ho, by rwa [session_quiet ho]⟩

/-! ## Connecting -/

/-- An answer of the driver to one of the calls that set the line up. -/
def SetupAnswer (A : World → Op → Reply → Prop) (status : FT_STATUS) : Prop :=
  ∃ w c r, (Op.call c).Quiet ∧ A w (.call c) r ∧ r.status = status

/-- What one execution of `connect` can do to a session.
* `cleared`: there is a handle already, or no device; `NULL` is stored and nothing is opened.
* `failed`: a device was opened, but a tested status, the one left from before or one of the
  line setup, was not `FT_OK`; `NULL` is stored.
* `done`: a device was opened, its handle, which may be `NULL`, is stored, and the tick is on. -/
inductive Connects (A : World → Op → Reply → Prop) (a : Session) : Session → Prop
  | cleared
      (hcause : a.ptr ≠ none ∨ ∃ w r, A w countQuery r ∧ r.devices = 0) :
      Connects A a { a with ptr := none }
  | failed (w : World) (i : Int) (r : Reply) (status : FT_STATUS) (hptr : a.ptr = none)
      (hopen : A w (.call (.FT_Open i)) r) (hstatus : status = a.status ∨ SetupAnswer A status)
      (hbad : status ≠ FT_OK) :
      Connects A a ⟨none, status, a.on, .opened r.status r.handle :: a.history⟩
  | done (w : World) (i : Int) (r : Reply) (hptr : a.ptr = none)
      (hopen : A w (.call (.FT_Open i)) r)
      (hok : FT_OK = a.status ∨ SetupAnswer A FT_OK)
      (hinfo : ∃ w' r', A w' (.call (.FT_GetDeviceInfo r.handle)) r') :
      Connects A a ⟨r.handle, FT_OK, true, .opened r.status r.handle :: a.history⟩

/-- The session while the line is set up for handle `t`. -/
def SettingUp (A : World → Op → Reply → Prop) (a : Session) (t : FT_HANDLE) (b : Session) : Prop :=
  a.ptr = none ∧ b.ptr = none ∧ b.on = a.on ∧ (b.status = a.status ∨ SetupAnswer A b.status) ∧
    ∃ w i r, A w (.call (.FT_Open i)) r ∧ r.handle = t ∧
      b.history = .opened r.status r.handle :: a.history

/-- `connect` is entered on a session. -/
def EntersConnect (A : World → Op → Reply → Prop) (a : Session) : Prop :=
  ∃ (w₀ : World) (r : Reply), w₀.session = a ∧ A w₀ (.enter .connect) r

/-- **What `connect` does**, whatever the host does meanwhile. -/
theorem connect_session (hE : ∀ o, E o → o.Host) (hG : ∀ w o r, G w o r) (a : Session) :
    Triple (machine .worker) (around E A G) (fun w => w.session = a) connect
      fun _ w => EntersConnect A a ∧ Connects A a w.session := by
  have hkept : ∀ F : Session → Prop, Quietly E A G fun w => F w.session :=
    session_quietly hE fun w o r _ => hG w o r
  show Triple (machine .worker) (around E A G) (fun w => w.session = a) connect
    fun _ w => (fun b => EntersConnect A a ∧ Connects A a b) w.session
  refine connect_triple hE (session_stable hE (· = a))
    (fun w r hw hr => ⟨hG _ _ _, ?_⟩)
    (hkept fun b => b = a ∧ EntersConnect A a)
    (fun w r hw hcause _ => ⟨hG _ _ _, ?_⟩)
    (fun w i r hw hptr hr => ⟨hG _ _ _, ?_⟩)
    (fun t => hkept fun b => EntersConnect A a ∧ SettingUp A a t b)
    (fun t w c r r' hw hc hr => ⟨hG _ _ _, hw.1, ?_⟩)
    (fun t w r hw hbad _ => ⟨hG _ _ _, ?_⟩)
    (fun t w r hw hok hinfo _ => ⟨hG _ _ _, ?_⟩)
    (fun t => hkept fun b => EntersConnect A a ∧ Connects A a { b with on := true })
    (fun t w r hw _ => ⟨hG _ _ _, hw⟩)
  · exact ⟨hw, w, r, hw, hr⟩
  · obtain ⟨rfl, hin⟩ := hw
    exact ⟨hin, Connects.cleared hcause⟩
  · obtain ⟨rfl, hin⟩ := hw
    exact ⟨hin, hptr, hptr, rfl, Or.inl rfl, w, i, r, hr, rfl, rfl⟩
  · obtain ⟨w₀, hr⟩ := hr
    obtain ⟨-, hptr, hnone, hon, -, hopen⟩ := hw
    exact ⟨hptr, hnone, hon, Or.inr ⟨w₀, c, r, hc, hr, rfl⟩, hopen⟩
  · obtain ⟨hin, hptr, hnone, hon, hstatus, w', i, r', hopen, -, hhist⟩ := hw
    refine ⟨hin, ?_⟩
    have hfailed := Connects.failed w' i r' w.session.status hptr hopen hstatus hbad
    rwa [← hhist, ← hon] at hfailed
  · obtain ⟨hin, hptr, hnone, hon, hstatus, w', i, r', hopen, rfl, hhist⟩ := hw
    refine ⟨hin, ?_⟩
    have hs : w.session.status = FT_OK := hok
    rw [hs] at hstatus
    have hdone := Connects.done w' i r' hptr hopen hstatus hinfo
    rwa [← hhist, ← hs] at hdone

/-! ## Disconnecting -/

/-- What one execution of `disconnect` can do to a session.
* `idle`: there is no handle; the status is reset.
* `closed`: the handle is closed and `NULL` stored.
* `failed`: closing fails; handle and failure status stay. -/
inductive Disconnects (A : World → Op → Reply → Prop) (a : Session) : Session → Prop
  | idle (hptr : a.ptr = none) : Disconnects A a ⟨none, FT_OK, false, a.history⟩
  | closed (h : Handle) (w : World) (r : Reply) (hptr : a.ptr = some h)
      (hclose : A w (.call (.FT_Close (some h))) r) (hok : r.status = FT_OK) :
      Disconnects A a ⟨none, FT_OK, false, .closed (some h) FT_OK :: a.history⟩
  | failed (h : Handle) (w : World) (r : Reply) (hptr : a.ptr = some h)
      (hclose : A w (.call (.FT_Close (some h))) r) (hbad : r.status ≠ FT_OK) :
      Disconnects A a ⟨some h, r.status, false, .closed (some h) r.status :: a.history⟩

/-- **What `disconnect` does**, whatever the host does meanwhile. -/
theorem disconnect_session (hE : ∀ o, E o → o.Host) (hG : ∀ w o r, G w o r) (a : Session) :
    Triple (machine .worker) (around E A G) (fun w => w.session = a) disconnect
      fun _ w => Disconnects A a w.session := by
  have hkept : ∀ F : Session → Prop, Quietly E A G fun w => F w.session :=
    session_quietly hE fun w o r _ => hG w o r
  refine disconnect_triple hE (session_stable hE (· = a)) (fun w r hw _ => ⟨hG _ _ _, hw⟩)
    (session_stable hE (· = a)) (fun w r hw _ => ⟨hG _ _ _, ?_⟩)
    (hkept fun b => b = { a with on := false })
    (fun w h r hw hptr hr => ⟨hG _ _ _, ?_⟩)
    (fun s => session_stable hE fun b => Disconnects A a
      { b with ptr := if s = FT_OK then none else b.ptr, status := s })
    (fun s w r hw _ => ⟨hG _ _ _, ?_⟩)
    (fun w r hw hptr _ => ⟨hG _ _ _, ?_⟩)
    (fun s => (hkept fun b => b.status = s ∧ Disconnects A a
      { b with ptr := if s = FT_OK then none else b.ptr }).silently)
    (fun s w hw hbad => ?_)
    (fun w r hw _ => ⟨hG _ _ _, ?_⟩)
    (hkept fun b => Disconnects A a b).silently
  · exact congrArg (fun b : Session => { b with on := false }) hw
  · have hheld : a.ptr = some h := (congrArg Session.ptr hw).symm.trans hptr
    rw [session_close, hw]
    by_cases hs : r.status = FT_OK
    · rw [if_pos hs, hs]
      exact Disconnects.closed h w r hheld hr hs
    · rw [if_neg hs]
      exact hheld ▸ Disconnects.failed h w r hheld hr hs
  · exact ⟨rfl, hw⟩
  · have hnone : a.ptr = none := (congrArg Session.ptr hw).symm.trans hptr
    rw [session_setStatus, hw]
    refine ⟨rfl, ?_⟩
    rw [if_pos rfl]
    exact Disconnects.idle hnone
  · have h := hw.2
    rwa [if_neg hbad] at h
  · have h := hw.2
    rwa [if_pos rfl] at h

/-! ## The tick -/

/-- The operations of a tick while `dmxPointer` is `p`. -/
def Op.InTick (p : FT_HANDLE) : Op → Prop
  | enter f => f = .timer_action
  | getDmxPointer | indeterminate => True
  | call c => ∃ h, p = some h ∧ c.Tick (some h)
  | _ => False

/-- The tick leaves the session alone, and calls the driver on the stored handle only. -/
theorem timer_session (hE : ∀ o, E o → o.Host) (F : Session → Prop)
    (hG : ∀ w o r, F w.session → o.InTick w.session.ptr → G w o r) :
    Triple (machine .worker) (around E A G) (fun w => F w.session) timer_action
      fun _ w => F w.session := by
  have hkept : TickKept E A G fun w => F w.session := by
    refine ⟨session_stable hE F, fun w o r ho hw _ => ?_, fun w h c r hw hptr hc _ => ?_⟩
    · rcases ho with rfl | rfl
      · exact ⟨hG w _ r hw trivial, hw⟩
      · exact ⟨hG w _ r hw trivial, hw⟩
    · exact ⟨hG w _ r hw ⟨h, hptr, hc⟩, by rwa [session_quiet hc.quiet]⟩
  have henter : Triple (machine .worker) (around E A G) (fun w => F w.session)
      (enter .timer_action) fun _ w => F w.session :=
    store_last (session_stable hE F) (fun _ => ⟨(), rfl⟩) fun w r hw _ => ⟨hG w _ r hw rfl, hw⟩
  unfold timer_action
  exact henter.bind fun _ => (sendFrame_triple hE hkept).bind fun _ => Triple.ret fun _ h => h

end rules

/-! ## With a driver that never fails -/

/-- Every call returns `FT_OK`, and there is a device. -/
def DriverOk (_ : World) (o : Op) (r : Reply) : Prop :=
  r.status = FT_OK ∧ (o = countQuery → r.devices ≠ 0)

/-- Moreover `FT_Open` stores a handle that is not `NULL`. -/
def DriverOpens (w : World) (o : Op) (r : Reply) : Prop :=
  DriverOk w o r ∧ (o.isOpen = true → r.handle ≠ none)

instance (w : World) (o : Op) (r : Reply) : Decidable (DriverOk w o r) :=
  inferInstanceAs (Decidable (_ ∧ (_ → _)))

instance (w : World) (o : Op) (r : Reply) : Decidable (DriverOpens w o r) :=
  inferInstanceAs (Decidable (_ ∧ (_ → _)))

/-- The closing of a handle, if there is one. -/
def closing : FT_HANDLE → List DeviceEvent
  | some h => [.closed (some h) FT_OK]
  | none => []

section good

variable {A : World → Op → Reply → Prop} {a b : Session}

/-- With a good driver no status of the line setup is a failure. -/
lemma setupAnswer_ok (hA : ∀ w o r, A w o r → DriverOk w o r) {s : FT_STATUS}
    (h : s = FT_OK ∨ SetupAnswer A s) : s = FT_OK := by
  rcases h with h | ⟨w, c, r, -, hr, rfl⟩
  · exact h
  · exact (hA w _ r hr).1

/-- With a good driver, `connect` either finds a handle and drops it, or opens a device. -/
lemma connects_cases (hA : ∀ w o r, A w o r → DriverOk w o r) (ha : a.status = FT_OK)
    (h : Connects A a b) :
    (a.ptr ≠ none ∧ b = { a with ptr := none }) ∨
    (a.ptr = none ∧ ∃ w i r, A w (.call (.FT_Open i)) r ∧
      b = ⟨r.handle, FT_OK, true, .opened FT_OK r.handle :: a.history⟩) := by
  cases h with
  | cleared hcause =>
      rcases hcause with hptr | ⟨w, r, hr, hzero⟩
      · exact Or.inl ⟨hptr, rfl⟩
      · exact absurd hzero ((hA w _ r hr).2 rfl)
  | failed w i r status hptr hopen hstatus hbad =>
      rw [ha] at hstatus
      exact absurd (setupAnswer_ok hA hstatus) hbad
  | done w i r hptr hopen =>
      refine Or.inr ⟨hptr, w, i, r, hopen, ?_⟩
      rw [(hA w _ r hopen).1]

/-- With a good driver, `disconnect` closes the handle it finds and resets everything. -/
lemma disconnects_eq (hA : ∀ w o r, A w o r → DriverOk w o r) (h : Disconnects A a b) :
    b = ⟨none, FT_OK, false, closing a.ptr ++ a.history⟩ := by
  cases h with
  | idle hptr =>
      rw [hptr]
      rfl
  | closed h w r hptr =>
      rw [hptr]
      rfl
  | failed h w r hptr hclose hbad => exact absurd (hA w _ r hclose).1 hbad

end good

end Dmx485
