import Dmx485.Recovery

/-!
# The objects of a patch

All `dmx485` objects share the driver object, and what they do to it when they are created and
freed is to post a connect and a disconnect. Nothing counts them, so the device goes off with the
first that is freed (`deletion_stops_other`), and on again with the next that is created.

The iterations between two events are any number after which the mailbox is empty at the loop head,
with any replies of a driver that lists a device and opens it. Only a live object is freed.

* `Settles`: creations and deletions, each followed by iterations until the mailbox is empty.
* `Heading`: what the session and the mailbox are like in between; `Heading.polls` is its step.
* `connected_iff_last_created`: in each idle state the last creation or deletion decides.
-/

namespace Dmx485

open Interaction

/-- A creation or a deletion of an object. -/
inductive Lifecycle
  | new
  | free
  deriving DecidableEq, Repr

/-- What it does to the driver object. -/
def Lifecycle.code : Lifecycle → Code Unit
  | new => dmx_new
  | free => dmx_free

/-- How many objects are alive after the creations and deletions listed. -/
def alive (events : List Lifecycle) : ℕ := events.count .new - events.count .free

/-- Iterations one after the other, each with its script. -/
def iterations (fs : List (Script Dm Reply)) (w : World) : World :=
  fs.foldl (fun w f => (machine .worker).after threadBody f w) w

/-- The worlds reached from the initial one by creations and deletions, each followed by
iterations that end with an empty mailbox. Only a live object is freed, and the driver answers. -/
inductive Settles : List Lifecycle → World → Prop
  | start : Settles [] ⟨Obj.initial, []⟩
  | event {events : List Lifecycle} {w : World} (h : Settles events w) (e : Lifecycle)
      (hfree : e = .free → 0 < alive events) (f : Script Dm Reply) (fs : List (Script Dm Reply))
      (hfs : ∀ g ∈ fs, Answers g)
      (hidle : (iterations fs ((machine .host).after e.code f w)).obj.threadAction = 0) :
      Settles (events ++ [e]) (iterations fs ((machine .host).after e.code f w))

/-- Connected and transmitting. -/
def World.Connected (w : World) : Prop := w.obj.dmxPointer ≠ none ∧ w.obj.threadOn = true

instance (w : World) : Decidable w.Connected :=
  inferInstanceAs (Decidable (_ ∧ _))

/-! ## Towards the next idle state -/

/-- Where session and mailbox are heading: to a connection (`true`) or away from it. -/
inductive Heading : Bool → Session → Int → Prop
  | up {a : Session} (hstatus : a.status = FT_OK) (hptr : a.ptr ≠ none) (hon : a.on = true) :
      Heading true a 0
  | connecting {a : Session} (hstatus : a.status = FT_OK) (hptr : a.ptr = none) : Heading true a 1
  | down {a : Session} (hstatus : a.status = FT_OK) (hptr : a.ptr = none) (hon : a.on = false) :
      Heading false a 0
  | disconnecting {a : Session} (hstatus : a.status = FT_OK) : Heading false a 2

/-- **An iteration** stays on course. -/
lemma Heading.polls {up : Bool} {a b : Session} {t t' : Int} (h : Heading up a t)
    (hpolls : Polls DriverOpens a t b t') : Heading up b t' := by
  cases h with
  | up hstatus hptr hon =>
      cases hpolls
      exact .up hstatus hptr hon
  | connecting hstatus hptr =>
      obtain ⟨h, rfl, rfl⟩ := polls_connect hptr hstatus hpolls
      exact .up rfl (Option.some_ne_none h) rfl
  | down hstatus hptr hon =>
      cases hpolls
      exact .down hstatus hptr hon
  | disconnecting hstatus =>
      obtain ⟨rfl, rfl⟩ := polls_disconnect hpolls
      exact .down rfl rfl rfl

/-- So do any number of them. -/
lemma Heading.iterations {up : Bool} {fs : List (Script Dm Reply)} (hfs : ∀ g ∈ fs, Answers g)
    {w : World} (h : Heading up w.session w.obj.threadAction) :
    Heading up (iterations fs w).session (iterations fs w).obj.threadAction := by
  induction fs generalizing w with
  | nil => exact h
  | cons f fs ih =>
      have hstep := h.polls (iteration_iterates (hfs f List.mem_cons_self) w).polls
      exact ih (fun g hg => hfs g (List.mem_cons_of_mem f hg)) hstep

/-- With an empty mailbox the heading is where the object is. -/
lemma Heading.connected_iff {up : Bool} {w : World} (h : Heading up w.session w.obj.threadAction)
    (hidle : w.obj.threadAction = 0) : w.Connected ↔ up = true := by
  rw [hidle] at h
  generalize hsession : w.session = a at h
  cases h with
  | up hstatus hptr hon =>
      subst hsession
      constructor
      · intro _
        rfl
      · intro _
        exact ⟨hptr, hon⟩
  | down hstatus hptr hon =>
      subst hsession
      constructor
      · intro hw
        exact absurd hptr hw.1
      · intro hup
        cases hup

/-- On the way and at the end, no failure is on record. -/
lemma Heading.status {up : Bool} {a : Session} {t : Int} (h : Heading up a t) :
    a.status = FT_OK := by
  cases h <;> assumption

/-- With an empty mailbox a stored handle has the tick on. -/
lemma Heading.on {up : Bool} {a : Session} (h : Heading up a 0) (hptr : a.ptr ≠ none) :
    a.on = true := by
  cases h with
  | up _ _ hon => exact hon
  | down _ hnone _ => exact absurd hnone hptr

/-- A creation heads for a connection: it posts a connect unless there is one. -/
lemma Heading.new {up : Bool} {w : World} (h : Heading up w.session w.obj.threadAction)
    (hidle : w.obj.threadAction = 0) (f : Script Dm Reply) :
    Heading true ((machine .host).after dmx_new f w).session
      ((machine .host).after dmx_new f w).obj.threadAction := by
  have hnew : ∀ w', w'.obj = w.obj → w'.session = w.session → Heading true
      ((machine .host).after (if w.obj.dmxPointer.isNone then setThreadAction 1 else pure ())
        f.rest.rest.rest w').session
      ((machine .host).after (if w.obj.dmxPointer.isNone then setThreadAction 1 else pure ())
        f.rest.rest.rest w').obj.threadAction := by
    intro w' hobj hsession
    rw [hidle] at h
    cases hptr : w.obj.dmxPointer with
    | none => exact .connecting (hsession ▸ h.status) ((congrArg Session.ptr hsession).trans hptr)
    | some handle =>
        have hheld : w.session.ptr ≠ none := fun hnone => by
          cases hptr.symm.trans hnone
        have hup : Heading true w.session 0 := .up h.status hheld (h.on hheld)
        rw [← hsession, ← hidle, ← hobj] at hup
        exact hup
  exact hnew _ rfl rfl

/-- A deletion heads away from it. -/
lemma Heading.free {up : Bool} {w : World} (h : Heading up w.session w.obj.threadAction)
    (f : Script Dm Reply) :
    Heading false ((machine .host).after dmx_free f w).session
      ((machine .host).after dmx_free f w).obj.threadAction :=
  .disconnecting h.status

/-! ## The idle states -/

/-- In each idle state the session heads where the last creation or deletion points. -/
lemma Settles.heading {events : List Lifecycle} {w : World} (h : Settles events w) :
    w.obj.threadAction = 0 ∧
      Heading (decide (events.getLast? = some .new)) w.session w.obj.threadAction := by
  induction h with
  | start => exact ⟨rfl, .down rfl rfl rfl⟩
  | event _ e _ f fs hfs hidle ih =>
      refine ⟨hidle, ?_⟩
      rw [List.getLast?_concat]
      cases e with
      | new => exact (ih.2.new ih.1 f).iterations hfs
      | free => exact (ih.2.free f).iterations hfs

/-- **The last creation or deletion decides**, however many objects are alive: the device is
connected and transmitting exactly if it was a creation. -/
theorem connected_iff_last_created {events : List Lifecycle} {w : World} (h : Settles events w) :
    w.Connected ↔ events.getLast? = some .new := by
  obtain ⟨hidle, hheading⟩ := h.heading
  rw [hheading.connected_iff hidle, decide_eq_true_eq]

/-- One iteration after each event, with every call answered well. -/
def settle (events : List Lifecycle) : World :=
  events.foldl (fun w e => iterations [fun _ _ => .fine] ((machine .host).after e.code
    (fun _ _ => .fine) w)) ⟨Obj.initial, []⟩

/-- After a creation, a deletion and another creation the device is connected. -/
theorem connected_after_creation : (settle [.new, .free, .new]).Connected := by
  have hfine : ∀ g ∈ [(fun _ _ => .fine : Script Dm Reply)], Answers g := by
    simpa using Answers.fine
  have hsettles : Settles ([] ++ [.new] ++ [.free] ++ [.new]) (settle [.new, .free, .new]) :=
    .event (.event (.event .start .new (fun h => by cases h) _ _ hfine (by decide +kernel)) .free
      (fun _ => by decide) _ _ hfine (by decide +kernel)) .new (fun h => by cases h) _ _ hfine
      (by decide +kernel)
  exact (connected_iff_last_created hsettles).mpr rfl

/-- Two objects, one of which is freed: the other is left without output. -/
theorem deletion_stops_other : ∃ w, Settles [.new, .new, .free] w ∧
    ¬(w.Connected ↔ 0 < alive [.new, .new, .free]) := by
  have hfine : ∀ g ∈ [(fun _ _ => .fine : Script Dm Reply)], Answers g := by
    simpa using Answers.fine
  have hsettles : Settles ([] ++ [.new] ++ [.new] ++ [.free]) (settle [.new, .new, .free]) :=
    .event (.event (.event .start .new (fun h => by cases h) _ _ hfine (by decide +kernel)) .new
      (fun h => by cases h) _ _ hfine (by decide +kernel)) .free (fun _ => by decide) _ _ hfine
      (by decide +kernel)
  refine ⟨_, hsettles, fun hiff => ?_⟩
  have hconnected : ¬(settle [.new, .new, .free]).Connected := by decide
  exact hconnected (hiff.mpr (by decide))

end Dmx485
