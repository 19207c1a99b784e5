import Dmx485.System

/-!
# Starting the worker

The first call of `dm2xx::instance`, which starts the worker from inside the constructor and only
then stores the address the worker goes through. The worker reaches the object through `dm2xx_obj`
and not through an argument, so whether that address is there when it is first needed depends on
who is faster. Nothing makes the worker wait.

The call is given as its list of steps, the 512 stores of zeros among them, each of which can be
followed by steps of the worker from the moment `pthread_create` has been made.

* `Boot.step`: an interleaving of that call with the worker; going through `NULL` ends it.
* `Boot.Ready`: what holds while the worker has waited; `Ready.main`, `Ready.worker` are its steps,
  `Ready.early` is what happens when it has not.
* `published_iff_worker_waits`: every dereference finds the finished object exactly if the worker
  takes no step during the call. A worker that starts at once goes through `NULL` in its first step
  (`first_test_through_null`).
* `boot_runs`: a start in which it waits leads to `Sys.initial` and on from there, so that the
  results about runs are about the program from its beginning.
-/

namespace Dmx485

open Interaction Relation

/-! ## The first call of `dm2xx::instance` -/

/-- Its steps, in the thread that loads the class. -/
inductive InstanceStep
  | setDeviceNumber
  | setFtDeviceID
  | setFtSerialNumber
  | setFtDeviceDescription
  | clearData (i : Fin 512)
  | setDmxPointer
  | pthread_create
  /-- The constructor returns. -/
  | constructed
  /-- `dm2xx_obj = &instance`. -/
  | publish
  deriving DecidableEq

/-- Source: `dmxObjectD2xx.cpp`, `dm2xx::dm2xx` -/
def constructorSteps : List InstanceStep :=
  [.setDeviceNumber, .setFtDeviceID, .setFtSerialNumber, .setFtDeviceDescription] ++
    (List.finRange 512).map .clearData ++ [.setDmxPointer, .pthread_create, .constructed]

/-- Source: `dmxObjectD2xx.cpp`, `dm2xx::instance` -/
def instanceSteps : List InstanceStep := constructorSteps ++ [.publish]

/-- The store a step makes; the three device descriptions belong to no modelled field. -/
def InstanceStep.store : InstanceStep → Obj → Obj
  | setDeviceNumber, x => { x with deviceNumber := 0 }
  | clearData i, x => { x with dmx_data := Function.update x.dmx_data i 0 }
  | setDmxPointer, x => { x with dmxPointer := none }
  | _, x => x

/-! ## Interleaved with the worker -/

/-- Whether the next step of the worker goes through `dm2xx_obj`. Inside the member functions the
object is reached through `this`.
Source: `dmxObjectD2xx.cpp`, `dm2xx::thread` -/
def dereferences : Place → Bool
  | .start .pause | .start .pause3 => false
  | .start _ => true
  | .within .. => false

/-- What a dereference found. -/
structure Deref where
  /-- `dm2xx_obj` is not `NULL`. -/
  published : Bool
  /-- The constructor has returned. -/
  constructed : Bool
  deriving DecidableEq, Repr

/-- Registration while the worker is already running. -/
structure Boot where
  /-- What is left of the call. -/
  todo : List InstanceStep
  constructed : Bool
  /-- Whether `dm2xx_obj` has been stored. -/
  dm2xx_obj : Bool
  world : World
  /-- The place of the worker, once it exists. -/
  worker : Option Place
  /-- The dereferences so far, newest first. -/
  derefs : List Deref
  /-- The worker has gone through `NULL`. -/
  crashed : Bool

/-- The module is loaded. The object is a static variable, so its fields are zero. -/
def Boot.load : Boot where
  todo := instanceSteps
  constructed := false
  dm2xx_obj := false
  world := ⟨Obj.initial, []⟩
  worker := none
  derefs := []
  crashed := false

/-- One step of the start-up: of the registering thread, or of the worker it has created. -/
inductive BootAction
  | main
  | worker (r : Reply)
  deriving DecidableEq, Repr

/-- The effect of a step of the call. -/
def Boot.perform (s : Boot) : InstanceStep → Boot
  | .pthread_create => { s with worker := some (.start .head) }
  | .constructed => { s with constructed := true }
  | .publish => { s with dm2xx_obj := true }
  | b => { s with world := { s.world with obj := b.store s.world.obj } }

/-- The transition function. -/
def Boot.step (s : Boot) (a : BootAction) : Option Boot :=
  if s.crashed then none else
  match a with
  | .main =>
    match s.todo with
    | [] => none
    | b :: todo => some (Boot.perform { s with todo := todo } b)
  | .worker r =>
    match s.worker with
    | none => none
    | some p =>
      if dereferences p && !s.dm2xx_obj then
        some { s with derefs := ⟨false, s.constructed⟩ :: s.derefs, crashed := true }
      else some
        { s with
          derefs := if dereferences p then ⟨true, s.constructed⟩ :: s.derefs else s.derefs
          worker := some (p.step (machine .worker) thread r s.world).1
          world := (p.step (machine .worker) thread r s.world).2 }

/-- Everything an action can do. -/
theorem Boot.step_cases {s s' : Boot} {a : BootAction} (h : s.step a = some s') :
    s.crashed = false ∧
    ((∃ b todo, a = .main ∧ s.todo = b :: todo ∧ s' = Boot.perform { s with todo := todo } b) ∨
    (∃ r p, a = .worker r ∧ s.worker = some p ∧ dereferences p = true ∧ s.dm2xx_obj = false ∧
      s' = { s with derefs := ⟨false, s.constructed⟩ :: s.derefs, crashed := true }) ∨
    (∃ r p, a = .worker r ∧ s.worker = some p ∧ (dereferences p = true → s.dm2xx_obj = true) ∧
      s' = { s with
        derefs := if dereferences p then ⟨true, s.constructed⟩ :: s.derefs else s.derefs
        worker := some (p.step (machine .worker) thread r s.world).1
        world := (p.step (machine .worker) thread r s.world).2 })) := by
  unfold Boot.step at h
  split_ifs at h with hcrashed
  refine ⟨Bool.eq_false_iff.mpr hcrashed, ?_⟩
  cases a with
  | main =>
      cases htodo : s.todo with
      | nil =>
          simp only [htodo] at h
          cases h
      | cons b todo =>
          simp only [htodo] at h
          exact Or.inl ⟨b, todo, rfl, rfl, (Option.some.inj h).symm⟩
  | worker r =>
      cases hworker : s.worker with
      | none =>
          simp only [hworker] at h
          cases h
      | some p =>
          simp only [hworker] at h
          by_cases hnull : (dereferences p && !s.dm2xx_obj) = true
          · rw [if_pos hnull] at h
            rw [Bool.and_eq_true, Bool.not_eq_true'] at hnull
            exact Or.inr (Or.inl ⟨r, p, rfl, rfl, hnull.1, hnull.2, (Option.some.inj h).symm⟩)
          · rw [if_neg hnull] at h
            refine Or.inr (Or.inr ⟨r, p, rfl, rfl, fun hp => ?_, (Option.some.inj h).symm⟩)
            rwa [hp, Bool.true_and, Bool.not_eq_true', Bool.not_eq_false] at hnull

/-- A step of registration does not crash. -/
@[simp] lemma Boot.perform_crashed (s : Boot) (b : InstanceStep) :
    (s.perform b).crashed = s.crashed := by
  cases b <;> rfl

/-- Nor does it dereference the pointer the worker goes through. -/
@[simp] lemma Boot.perform_derefs (s : Boot) (b : InstanceStep) :
    (s.perform b).derefs = s.derefs := by
  cases b <;> rfl

/-- What is left to do is not changed by doing a step. -/
@[simp] lemma Boot.perform_todo (s : Boot) (b : InstanceStep) :
    (s.perform b).todo = s.todo := by
  cases b <;> rfl

/-- An interleaving. -/
def Boot.play : List BootAction → Boot → Option Boot
  | [], s => some s
  | a :: actions, s => (s.step a).bind (Boot.play actions)

/-- With `left` steps of the call to go, the worker takes none before they are done. -/
def WorkerWaits : ℕ → List BootAction → Prop
  | _, [] => True
  | left, .main :: actions => WorkerWaits (left - 1) actions
  | left, .worker _ :: actions => left = 0 ∧ WorkerWaits left actions

instance : (left : ℕ) → (actions : List BootAction) → Decidable (WorkerWaits left actions)
  | _, [] => inferInstanceAs (Decidable True)
  | left, .main :: actions => instDecidableWorkerWaits (left - 1) actions
  | left, .worker _ :: actions =>
    have := instDecidableWorkerWaits left actions
    inferInstanceAs (Decidable (left = 0 ∧ WorkerWaits left actions))

/-! ## While the worker waits -/

/-- During the call: `dm2xx_obj` is not stored, and the worker, if it exists, is at its start. -/
structure Boot.Starting (s : Boot) : Prop where
  unpublished : s.dm2xx_obj = false
  todo : ∃ early, .publish ∉ early ∧ s.todo = early ++ [.publish]
  constructed : .constructed ∉ s.todo → s.constructed = true
  created : .pthread_create ∉ s.todo → s.worker ≠ none
  worker : ∀ p, s.worker = some p → p = .start .head
  world : s.world = ⟨Obj.initial, []⟩

/-- After the call: the worker runs as from `Sys.initial`. -/
structure Boot.Running (s : Boot) : Prop where
  published : s.dm2xx_obj = true
  todo : s.todo = []
  constructed : s.constructed = true
  worker : ∃ p, s.worker = some p ∧ Runs (fun _ _ => True) Sys.initial ⟨s.world, p, .ret ()⟩

/-- What holds as long as the worker has waited. -/
structure Boot.Ready (s : Boot) : Prop where
  crashed : s.crashed = false
  derefs : ∀ d ∈ s.derefs, d = ⟨true, true⟩
  phase : s.Starting ∨ s.Running

/-- Where the class is loaded, the worker does not exist yet. -/
lemma ready_load : Boot.load.Ready where
  crashed := rfl
  derefs d hd := by cases hd
  phase := by
    refine Or.inl ⟨rfl, ⟨constructorSteps, ?_, rfl⟩, fun h => absurd ?_ h, fun h => absurd ?_ h,
      fun p hp => ?_, rfl⟩
    · simp [constructorSteps]
    · simp [Boot.load, instanceSteps, constructorSteps]
    · simp [Boot.load, instanceSteps, constructorSteps]
    · cases hp

/-- The constructor stores what static storage holds anyway. -/
lemma store_initial (b : InstanceStep) : b.store Obj.initial = Obj.initial := by
  cases b with
  | clearData i =>
      have hslots : Function.update Obj.initial.dmx_data i 0 = Obj.initial.dmx_data :=
        Function.update_eq_self_iff.mpr rfl
      exact congrArg (fun data => { Obj.initial with dmx_data := data }) hslots
  | _ => rfl

/-- A step of the call before the last. -/
lemma Boot.Starting.perform {s : Boot} (h : s.Starting) {b : InstanceStep}
    {todo early : List InstanceStep} (htodo : s.todo = b :: todo) (hb : b ≠ .publish)
    (hearly : .publish ∉ early) (hrest : todo = early ++ [.publish]) :
    (Boot.perform { s with todo := todo } b).Starting := by
  have hconstructed := h.constructed
  have hcreated := h.created
  rw [htodo, List.mem_cons, not_or] at hconstructed hcreated
  cases b with
  | publish => exact absurd rfl hb
  | pthread_create =>
      exact ⟨h.unpublished, ⟨early, hearly, hrest⟩, fun hc => hconstructed ⟨by simp, hc⟩,
        fun _ => Option.some_ne_none _, fun p hp => (Option.some.inj hp).symm, h.world⟩
  | constructed =>
      exact ⟨h.unpublished, ⟨early, hearly, hrest⟩, fun _ => rfl,
        fun hc => hcreated ⟨by simp, hc⟩, h.worker, h.world⟩
  | _ =>
      refine ⟨h.unpublished, ⟨early, hearly, hrest⟩, fun hc => hconstructed ⟨by simp, hc⟩,
        fun hc => hcreated ⟨by simp, hc⟩, h.worker, ?_⟩
      show (⟨InstanceStep.store _ s.world.obj, s.world.log⟩ : World) = _
      rw [h.world]
      exact congrArg (fun x => (⟨x, []⟩ : World)) (store_initial _)

/-- The last step of the call. -/
lemma Boot.Starting.publish {s : Boot} (h : s.Starting) (htodo : s.todo = [.publish]) :
    (Boot.perform { s with todo := [] } .publish).Running := by
  have hcreated : s.worker ≠ none := h.created (by simp [htodo])
  obtain ⟨p, hp⟩ := Option.ne_none_iff_exists'.mp hcreated
  refine ⟨rfl, rfl, h.constructed (by simp [htodo]), p, hp, ?_⟩
  show Runs _ Sys.initial ⟨s.world, p, .ret ()⟩
  rw [h.world, h.worker p hp]
  exact ReflTransGen.refl

/-- **A step of the call** keeps it. -/
lemma Boot.Ready.main {s s' : Boot} (h : s.Ready) (hstep : s.step .main = some s') :
    s'.Ready ∧ s'.todo.length = s.todo.length - 1 := by
  obtain ⟨-, ⟨b, todo, -, htodo, rfl⟩ | ⟨r, p, ha, -⟩ | ⟨r, p, ha, -⟩⟩ := Boot.step_cases hstep
  · refine ⟨⟨by simp [h.crashed], by simpa using h.derefs, ?_⟩, by simp [htodo]⟩
    rcases h.phase with hstarting | hrunning
    · obtain ⟨early, hearly, hall⟩ := hstarting.todo
      rw [htodo] at hall
      cases early with
      | nil =>
          obtain ⟨rfl, rfl⟩ := List.cons.inj hall
          exact Or.inr (hstarting.publish htodo)
      | cons e early =>
          obtain ⟨rfl, hrest⟩ := List.cons.inj hall
          rw [List.mem_cons, not_or] at hearly
          exact Or.inl (hstarting.perform htodo (Ne.symm hearly.1) hearly.2 hrest)
    · rw [hrunning.todo] at htodo
      cases htodo
  · cases ha
  · cases ha

/-- **A step of the worker** after the call keeps it. -/
lemma Boot.Ready.worker {s s' : Boot} {r : Reply} (h : s.Ready) (hdone : s.todo = [])
    (hstep : s.step (.worker r) = some s') : s'.Ready ∧ s'.todo = [] := by
  have hrunning : s.Running := by
    rcases h.phase with hstarting | hrunning
    · obtain ⟨early, -, hall⟩ := hstarting.todo
      rw [hdone] at hall
      simp at hall
    · exact hrunning
  obtain ⟨-, ⟨b, todo, ha, -⟩ | ⟨r', p, -, -, -, hnull, -⟩ | ⟨r', p, ha, hp, -, rfl⟩⟩ :=
    Boot.step_cases hstep
  · cases ha
  · rw [hrunning.published] at hnull
    cases hnull
  · obtain ⟨p', hp', hruns⟩ := hrunning.worker
    obtain rfl : p' = p := Option.some.inj (hp'.symm.trans hp)
    refine ⟨⟨h.crashed, fun d hd => ?_, Or.inr ⟨hrunning.published, hrunning.todo,
      hrunning.constructed, _, rfl, hruns.tail ⟨.worker r', trivial, rfl⟩⟩⟩, hdone⟩
    have hgood : d = ⟨true, s.constructed⟩ ∨ d ∈ s.derefs := by
      dsimp only at hd
      split_ifs at hd
      · exact List.mem_cons.mp hd
      · exact Or.inr hd
    rcases hgood with rfl | hd
    · rw [hrunning.constructed]
    · exact h.derefs d hd

/-- During the call a step of the worker goes through `NULL`: it can only be its first. -/
lemma Boot.Ready.early {s s' : Boot} {r : Reply} (h : s.Ready) (hleft : s.todo ≠ [])
    (hstep : s.step (.worker r) = some s') :
    s'.crashed = true ∧ ∃ d ∈ s'.derefs, d.published = false := by
  have hstarting : s.Starting := by
    rcases h.phase with hstarting | hrunning
    · exact hstarting
    · exact absurd hrunning.todo hleft
  obtain ⟨-, ⟨b, todo, ha, -⟩ | ⟨r', p, -, -, -, -, rfl⟩ | ⟨r', p, -, hp, hderef, -⟩⟩ :=
    Boot.step_cases hstep
  · cases ha
  · exact ⟨rfl, _, List.mem_cons_self, rfl⟩
  · rw [hstarting.worker p hp] at hderef
    have hpublished := hderef rfl
    rw [hstarting.unpublished] at hpublished
    cases hpublished

/-! ## Whole runs -/

/-- After the worker has gone through `NULL` nothing happens. -/
lemma Boot.play_crashed {s s' : Boot} {actions : List BootAction} (hs : s.crashed = true)
    (h : Boot.play actions s = some s') : s' = s := by
  cases actions with
  | nil => exact (Option.some.inj h).symm
  | cons a actions =>
      obtain ⟨s₁, hstep, -⟩ := Option.bind_eq_some_iff.mp h
      rw [(Boot.step_cases hstep).1] at hs
      cases hs

/-- A run from a ready configuration stays ready exactly if the worker waits. -/
lemma Boot.Ready.play {s s' : Boot} {actions : List BootAction} (hs : s.Ready)
    (h : Boot.play actions s = some s') :
    (WorkerWaits s.todo.length actions ∧ s'.Ready) ∨
      (¬WorkerWaits s.todo.length actions ∧ ∃ d ∈ s'.derefs, d.published = false) := by
  induction actions generalizing s with
  | nil =>
      obtain rfl := Option.some.inj h
      exact Or.inl ⟨trivial, hs⟩
  | cons a actions ih =>
      obtain ⟨s₁, hstep, hrest⟩ := Option.bind_eq_some_iff.mp h
      cases a with
      | main =>
          obtain ⟨hs₁, hlength⟩ := hs.main hstep
          unfold WorkerWaits
          rw [← hlength]
          exact ih hs₁ hrest
      | worker r =>
          unfold WorkerWaits
          by_cases hdone : s.todo = []
          · obtain ⟨hs₁, hdone₁⟩ := hs.worker hdone hstep
            have hall := ih hs₁ hrest
            rw [hdone₁] at hall
            simpa [hdone] using hall
          · obtain ⟨hcrashed, hnull⟩ := hs.early hdone hstep
            obtain rfl := Boot.play_crashed hcrashed hrest
            exact Or.inr ⟨fun hwaits => hdone (List.length_eq_zero_iff.mp hwaits.1), hnull⟩

/-- **Every dereference finds the finished object exactly if the worker waits**: in every run from
the loading of the module, the worker only goes through `dm2xx_obj` after the constructor has
returned and the address has been stored, if and only if it takes no step before the call of
`dm2xx::instance` has made all of its own. -/
theorem published_iff_worker_waits {actions : List BootAction} {s : Boot}
    (h : Boot.play actions Boot.load = some s) :
    (∀ d ∈ s.derefs, d.published = true ∧ d.constructed = true) ↔
      WorkerWaits instanceSteps.length actions := by
  obtain ⟨hwaits, hready⟩ | ⟨hearly, d, hd, hnull⟩ := ready_load.play h
  · constructor
    · intro _
      exact hwaits
    · intro _ d hd
      rw [hready.derefs d hd]
      exact ⟨rfl, rfl⟩
  · constructor
    · intro hall
      rw [(hall d hd).1] at hnull
      cases hnull
    · intro hwaits
      exact absurd hwaits hearly

/-- The call without interruption, then the worker. -/
def waitingStart : List BootAction :=
  List.replicate instanceSteps.length .main ++ [.worker .fine, .worker .fine]

/-- There the two tests of the worker find the object. -/
theorem published_when_waited : ∃ s, Boot.play waitingStart Boot.load = some s ∧
    ∀ d ∈ s.derefs, d.published = true ∧ d.constructed = true := by
  obtain ⟨s, hs⟩ := Option.isSome_iff_exists.mp
    (show (Boot.play waitingStart Boot.load).isSome = true by decide +kernel)
  exact ⟨s, hs, (published_iff_worker_waits hs).mpr (by decide +kernel)⟩

/-- The worker is scheduled as soon as it is created. -/
def earlyStart : List BootAction :=
  List.replicate (instanceSteps.length - 2) .main ++ [.worker .fine]

/-- Its first test goes through `NULL`, before the constructor has returned. -/
theorem first_test_through_null : ∃ s, Boot.play earlyStart Boot.load = some s ∧
    ¬∀ d ∈ s.derefs, d.published = true ∧ d.constructed = true := by
  have hderefs : (Boot.play earlyStart Boot.load).map Boot.derefs = some [⟨false, false⟩] := by
    decide +kernel
  obtain ⟨s, hs, hnull⟩ := Option.map_eq_some_iff.mp hderefs
  refine ⟨s, hs, fun hall => ?_⟩
  rw [hnull] at hall
  exact absurd (hall _ List.mem_cons_self).1 (by decide)

/-- **A start in which the worker waits leads to `Sys.initial`**, and on from there. -/
theorem boot_runs {actions : List BootAction} {s : Boot}
    (h : Boot.play actions Boot.load = some s) (hwaits : WorkerWaits instanceSteps.length actions)
    (hdone : s.todo = []) : ∃ p, s.worker = some p ∧
      Runs (fun _ _ => True) Sys.initial ⟨s.world, p, .ret ()⟩ := by
  obtain ⟨-, hready⟩ | ⟨hearly, -⟩ := ready_load.play h
  · rcases hready.phase with hstarting | hrunning
    · obtain ⟨early, -, hall⟩ := hstarting.todo
      rw [hdone] at hall
      simp at hall
    · exact hrunning.worker
  · exact absurd hwaits hearly

end Dmx485
