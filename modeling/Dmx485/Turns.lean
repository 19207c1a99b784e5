import Dmx485.Mailbox

/-!
# Histories of whole turns

Messages and iterations of the worker loop, one after the other and each against its own script
of driver answers. Much of what the code does in one call, or from one iteration to the next, is
asked for when nobody interferes; this is the setting in which it is stated.

* `Turn`, `History`, and `History.runs`: a history is one of the interleavings of the two threads,
  the one in which each party waits for the other to finish. So a history in which something goes
  wrong is a run in which it does.
* `Op.Fixed`, `threadBody_fixed`: an iteration leaves alone what messages write, the array and the
  device number.
* `written_after`: such a program leaves them as they were, whatever it is answered.
* `run_call` and its like: the first operation of a program, run. With them a program is run step
  by step against a script that is not known.
-/

namespace Dmx485

open Interaction Relation

/-- A message handled, or one iteration of the worker loop. -/
inductive Turn
  | message (m : Message)
  | iteration
  deriving DecidableEq, Repr

/-- A turn against a script. -/
def Turn.run (f : Script Dm Reply) (w : World) : Turn → World
  | message m => (machine .host).after (handle m) f w
  | iteration => (machine .worker).after threadBody f w

/-- A history: its turns, oldest first, each with its script. -/
abbrev History := List (Turn × Script Dm Reply)

/-- The world after a history. -/
def History.play (history : History) (w : World) : World :=
  history.foldl (fun w turn => turn.1.run turn.2 w) w

/-! ## Histories are interleavings -/

/-- Left alone, the host finishes its message. -/
lemma host_runs (p : Code Unit) (f : Script Dm Reply) (w : World) (place : Place) :
    Runs (fun _ _ => True) ⟨w, place, p⟩ ⟨(machine .host).after p f w, place, .ret ()⟩ := by
  induction p generalizing f w with
  | ret u => exact ReflTransGen.refl
  | op o k ih => exact ReflTransGen.head ⟨.host (f 0 o), trivial, rfl⟩ (ih _ f.rest _)

/-- Steps of the worker alone are a run. -/
lemma worker_runs {c c' : Place × World} (h : Alone (machine .worker) thread c c')
    (host : Code Unit) : Runs (fun _ _ => True) ⟨c.2, c.1, host⟩ ⟨c'.2, c'.1, host⟩ := by
  induction h with
  | refl => exact ReflTransGen.refl
  | tail _ hstep ih =>
      obtain ⟨r, rfl⟩ := hstep
      exact ih.tail ⟨.worker r, trivial, rfl⟩

/-- **A turn** is a run from one idle configuration at the loop head to another. -/
theorem Turn.runs (t : Turn) (f : Script Dm Reply) (w : World) :
    Runs (fun _ _ => True) ⟨w, .start .head, .ret ()⟩ ⟨t.run f w, .start .head, .ret ()⟩ := by
  cases t with
  | message m =>
      exact ReflTransGen.head ⟨.message m, trivial, rfl⟩ (host_runs (handle m) f w _)
  | iteration =>
      have halone : Alone (machine .worker) thread _ _ := alone_follow .head 15 .head f w
      rw [← threadBody_eq_follow, Machine.run_bind, Machine.after_bind] at halone
      exact worker_runs halone _

/-- **A history is an interleaving**: what holds in every run holds after every history. -/
theorem History.runs (history : History) (w : World) :
    Runs (fun _ _ => True) ⟨w, .start .head, .ret ()⟩
      ⟨history.play w, .start .head, .ret ()⟩ := by
  induction history generalizing w with
  | nil => exact ReflTransGen.refl
  | cons turn history ih => exact (turn.1.runs turn.2 w).trans (ih _)

/-! ## What the worker leaves alone -/

/-- Operations that write none of the fields that messages write. -/
def Op.Fixed : Op → Prop
  | setData .. | setDeviceNumber _ | setAutoConnect _ => False
  | _ => True

/-- Inner operations are fixed ones. -/
lemma Op.Inner.fixed {o : Op} (ho : o.Inner) : o.Fixed := by
  cases o <;> trivial

/-- `connect` changes nothing that messages write. -/
lemma connect_fixed : connect.All Op.Fixed := by
  obtain ⟨q, hq, hsetup⟩ := connect_setup
  rw [hq]
  exact .step (by trivial) fun _ => hsetup.mono fun _ ho => ho.inner.fixed

/-- Nor does `disconnect`. -/
lemma disconnect_fixed : disconnect.All Op.Fixed := by
  obtain ⟨q, hq, hsetup⟩ := disconnect_setup
  rw [hq]
  exact .step (by trivial) fun _ => hsetup.mono fun _ ho => ho.inner.fixed

/-- Nor does a tick. -/
lemma timer_fixed : timer_action.All Op.Fixed :=
  .step (by trivial) fun _ => .bind (sendFrame_inner.mono fun _ ho => ho.fixed) fun _ => trivial

/-- Nor does serving the mailbox. -/
lemma pollMailbox_fixed : pollMailbox.All Op.Fixed := by
  refine .bind ?_ fun _ => .bind ?_ fun _ => ?_
  · refine .step (by trivial) fun _ => ?_
    split_ifs
    · exact .step (by trivial) fun _ => connect_fixed
    · trivial
  · refine .step (by trivial) fun _ => ?_
    split_ifs
    · exact .step (by trivial) fun _ => disconnect_fixed
    · trivial
  · refine .step (by trivial) fun _ => ?_
    split_ifs
    · exact .step (by trivial) fun _ => .bind disconnect_fixed fun _ =>
        .step (by trivial) fun _ => .step (by trivial) fun _ => .single (by trivial)
    · trivial

/-- **An iteration** writes none of the fields that messages write. -/
lemma threadBody_fixed : threadBody.All Op.Fixed := by
  refine .bind pollMailbox_fixed fun _ => .step (by trivial) fun on => ?_
  split_ifs
  · exact .bind timer_fixed fun _ => .single (by trivial)
  · exact .single (by trivial)

/-- What messages write: the slots and the device number. -/
def World.written (w : World) : (Fin 512 → UInt8) × UInt8 :=
  (w.obj.dmx_data, w.obj.deviceNumber)

/-- A fixed operation leaves what messages write. -/
lemma written_exec {o : Op} (ho : o.Fixed) (party : Party) (r : Reply) (w : World) :
    ((machine party).exec o r w).2.written = w.written := by
  cases o <;> first | rfl | exact ho.elim

/-- A program of such operations leaves the slots and the device number alone. -/
lemma written_after {p : Code Unit} (hp : p.All Op.Fixed) (party : Party) (f : Script Dm Reply)
    (w : World) : ((machine party).after p f w).written = w.written :=
  Machine.after_of_all (fun _ r w ho => written_exec ho party r w) hp f w

/-! ## Running one operation -/

/-- The event of an operation of the worker. -/
def workerEvent (o : Op) (r : Reply) (x : Obj) : Event := ⟨.worker, o, r, o.payload x⟩

section runs
variable {α : Type} (f : Script Dm Reply) (w : World)

/-- The beginning of a function, run. -/
lemma run_enter (fn : Fn) (k : Unit → Code α) :
    (machine .worker).run (enter fn >>= k) f w = (machine .worker).run (k ()) f.rest
      ⟨w.obj, workerEvent (.enter fn) (f 0 (.enter fn)) w.obj :: w.log⟩ := rfl

/-- An uninitialised variable, run. -/
lemma run_indeterminate (k : Reply → Code α) :
    (machine .worker).run (indeterminate >>= k) f w =
      (machine .worker).run (k (f 0 .indeterminate)) f.rest
        ⟨w.obj, workerEvent .indeterminate (f 0 .indeterminate) w.obj :: w.log⟩ := rfl

/-- A load of the handle, run. -/
lemma run_getDmxPointer (k : FT_HANDLE → Code α) :
    (machine .worker).run (getDmxPointer >>= k) f w =
      (machine .worker).run (k w.obj.dmxPointer) f.rest
        ⟨w.obj, workerEvent .getDmxPointer (f 0 .getDmxPointer) w.obj :: w.log⟩ := rfl

/-- A load of the tick, run. -/
lemma run_getThreadOn (k : Bool → Code α) :
    (machine .worker).run (getThreadOn >>= k) f w =
      (machine .worker).run (k w.obj.threadOn) f.rest
        ⟨w.obj, workerEvent .getThreadOn (f 0 .getThreadOn) w.obj :: w.log⟩ := rfl

/-- A driver call, run. -/
lemma run_call (c : FtCall) (k : Reply → Code α) :
    (machine .worker).run (call c >>= k) f w = (machine .worker).run (k (f 0 (.call c))) f.rest
      ⟨w.obj, workerEvent (.call c) (f 0 (.call c)) w.obj :: w.log⟩ := rfl

end runs

end Dmx485
