import Dmx485.Handles
import Dmx485.Requests
import Dmx485.Selection
import Dmx485.Interaction.Bounds

/-!
# Nothing is opened unasked

An execution of `connect` opens at most one device and one of `disconnect` closes at most one;
with the executions counted by the requests, so are the openings and closings. Every attempt is
counted here, also one that the driver refuses.

* `Charges f q`: the calls `q` are paid for by executions of `f`. Openings are charged to `connect`,
  closings to `disconnect`.
* `Affords`, `thread_affords`: every block pays for its calls, with credit from no other block.
* `Paying`, `Paying.step`: the calls so far have been paid for by the executions entered, and what
  is left over pays for those that the current block still makes.
* `opened_on_request`: with the accounts of `Requests.lean`, openings and closings are bounded by
  the requests of the host.
-/

namespace Dmx485

open Interaction Relation

/-! ## The blocks -/

/-- An execution of `connect` pays for an `FT_Open`, one of `disconnect` for an `FT_Close`. -/
def Charges (f : Fn) (q : Op → Bool) : Prop :=
  (f = .connect ∧ q = Op.isOpen) ∨ (f = .disconnect ∧ q = Op.isClose)

/-- One for entering `f`. -/
def Op.credit (f : Fn) (o : Op) : ℕ := if o = .enter f then 1 else 0

/-- One for a call in `q`. -/
def Op.charge (q : Op → Bool) (o : Op) : ℕ := if q o = true then 1 else 0

/-- The program enters `f` before each call in `q`, counting from a credit. -/
def Affords {α : Type} (f : Fn) (q : Op → Bool) (p : Code α) (n : ℕ) : Prop :=
  p.Solvent (Op.credit f) (Op.charge q) n

/-- Neither an opening nor a closing. -/
def Op.Free (o : Op) : Prop := o.isOpen = false ∧ o.isClose = false

/-- What is free costs nothing. -/
lemma Op.Free.charge {o : Op} (ho : o.Free) {f : Fn} {q : Op → Bool} (hq : Charges f q) :
    o.charge q = 0 := by
  obtain ⟨-, rfl⟩ | ⟨-, rfl⟩ := hq
  · exact if_neg (by simp [ho.1])
  · exact if_neg (by simp [ho.2])

/-- Calls on a handle that leave it open are free. -/
lemma Op.OnHandle.free {o : Op} (ho : o.OnHandle) : o.Free := by
  cases o with
  | call c => cases c <;> first | exact ⟨rfl, rfl⟩ | exact ho.elim | cases ho
  | _ => exact ⟨rfl, rfl⟩

section blocks

variable {f : Fn} {q : Op → Bool} {α β : Type}

/-- One operation, then the rest. -/
lemma affords_step {o : Op} {g : o.Ans → Code β} {n : ℕ} (ho : o.charge q ≤ n + o.credit f)
    (hg : ∀ a, Affords f q (g a) (n + o.credit f - o.charge q)) :
    Affords f q (Prog.op o .ret >>= g) n :=
  .step ho hg

variable (hq : Charges f q)

include hq

/-- What is neither pays for nothing. -/
lemma affords_free {p : Code α} (hp : p.All Op.Free) (n : ℕ) : Affords f q p n :=
  Prog.Solvent.of_all (hp.mono fun _ ho => ho.charge hq) n

/-- It leaves the credit to the rest. -/
lemma affords_after {p : Code α} {g : α → Code β} {n : ℕ} (hp : p.All Op.Free)
    (hg : ∀ a, Affords f q (g a) n) : Affords f q (p >>= g) n :=
  Prog.Solvent.after_all (hp.mono fun _ ho => ho.charge hq) hg

/-- `connect` pays for its `FT_Open` on being entered. -/
lemma connect_affords : Affords f q connect 0 := by
  have hpay : ∀ i, (Op.call (.FT_Open i)).charge q ≤ (Op.enter .connect).credit f := by
    obtain ⟨rfl, rfl⟩ | ⟨rfl, rfl⟩ := hq
    · exact fun _ => Nat.le_refl 1
    · exact fun _ => Nat.le_refl 0
  have henter : (Op.enter .connect).charge q = 0 := Op.Free.charge ⟨rfl, rfl⟩ hq
  have hfail : ∀ c format args, (do console c format args; setDmxPointer none).All Op.Free :=
    fun c format args => (failed_onHandle c format args).mono fun _ ho => ho.free
  have hcount : getDeviceCount.All Op.Free := getDeviceCount_asking.mono fun o ho => by
    cases o with
    | call c => cases c <;> first | exact ⟨rfl, rfl⟩ | exact ho.elim
    | _ => exact ⟨rfl, rfl⟩
  unfold connect
  refine affords_step (by omega) fun _ => ?_
  rw [henter, Nat.sub_zero, Nat.zero_add]
  refine affords_after hq hcount fun n => affords_after hq ?_ fun free => ?_
  · unfold mayOpen
    split_ifs
    · exact .step ⟨rfl, rfl⟩ fun _ => trivial
    · trivial
  cases free with
  | false => exact affords_free hq (hfail _ _ _) _
  | true =>
      refine affords_after hq (.single ⟨rfl, rfl⟩) fun _ => ?_
      refine affords_after hq (.step ⟨rfl, rfl⟩ fun _ => .step ⟨rfl, rfl⟩ fun _ => trivial)
        fun _ => ?_
      refine affords_after hq (.single ⟨rfl, rfl⟩) fun _ => ?_
      refine affords_after hq (.single ⟨rfl, rfl⟩) fun p => ?_
      split_ifs
      · refine Prog.Solvent.bind (affords_after hq (.single ⟨rfl, rfl⟩) fun _ => ?_)
          fun t => affords_free hq ((configure_onHandle t).mono fun _ ho => ho.free) 0
        refine affords_after hq (.single ⟨rfl, rfl⟩) fun i => ?_
        refine affords_step (Nat.le_add_right_of_le (hpay _)) fun r => ?_
        refine affords_free hq ?_ _
        exact .step ⟨rfl, rfl⟩ fun _ => trivial
      · exact affords_free hq (hfail _ _ _) _

/-- `disconnect` pays for its `FT_Close`. -/
lemma disconnect_affords : Affords f q disconnect 0 := by
  have hpay : ∀ h, (Op.call (.FT_Close h)).charge q ≤ (Op.enter .disconnect).credit f := by
    obtain ⟨rfl, rfl⟩ | ⟨rfl, rfl⟩ := hq
    · exact fun _ => Nat.le_refl 0
    · exact fun _ => Nat.le_refl 1
  have henter : (Op.enter .disconnect).charge q = 0 := Op.Free.charge ⟨rfl, rfl⟩ hq
  have hlast : (do if (← getStatus) ≠ FT_OK then
                     console .object_error "dmx485: error disconnecting: %u"
                       [.long (← getStatus).toNat]
                   else
                     setDmxPointer none
                     console .object_post "dmx485: disconnected" []).All Op.Free := by
    refine .step ⟨rfl, rfl⟩ fun _ => ?_
    split_ifs
    · exact .step ⟨rfl, rfl⟩ fun _ => .single ⟨rfl, rfl⟩
    · exact .step ⟨rfl, rfl⟩ fun _ => .single ⟨rfl, rfl⟩
  unfold disconnect
  refine affords_step (by omega) fun _ => ?_
  rw [henter, Nat.sub_zero, Nat.zero_add]
  refine affords_after hq (.single ⟨rfl, rfl⟩) fun _ => affords_after hq (.single ⟨rfl, rfl⟩)
    fun p => ?_
  split_ifs
  · refine affords_step (Nat.le_add_right_of_le (hpay _)) fun r => ?_
    exact affords_free hq (.step ⟨rfl, rfl⟩ fun _ => hlast) _
  · exact affords_free hq (.step ⟨rfl, rfl⟩ fun _ => hlast) _

/-- **Every block pays for its openings and closings.** -/
theorem thread_affords (l : Label) : Affords f q (thread l) 0 := by
  have hblock : ∀ {p : Code Unit} {l' : Label}, Affords f q p 0 →
      Affords f q (p >>= fun _ => .ret l') 0 :=
    fun hp => Prog.Solvent.bind hp fun _ => trivial
  cases l with
  | connect => exact hblock (connect_affords hq)
  | disconnect => exact hblock (disconnect_affords hq)
  | disconnect3 => exact hblock (disconnect_affords hq)
  | tick => exact hblock (affords_free hq (timer_onHandle.mono fun _ ho => ho.free) 0)
  | _ =>
      refine affords_free hq ?_ 0
      exact ⟨⟨rfl, rfl⟩, fun _ => trivial⟩

end blocks

/-! ## Runs -/

/-- The calls in `q` made so far, by either party. -/
def World.calls (q : Op → Bool) (w : World) : ℕ := w.log.countP fun e => q e.op

/-- An operation adds what it is charged. -/
lemma calls_exec (q : Op → Bool) (party : Party) (o : Op) (r : Reply) (w : World) :
    ((machine party).exec o r w).2.calls q = w.calls q + o.charge q := by
  simp only [World.calls, machine_log, List.countP_cons, Op.charge]

/-- The calls have been paid for by executions, and those to come are. -/
def Paying (f : Fn) (q : Op → Bool) (s : Sys) : Prop :=
  s.world.calls q ≤ s.world.count .worker (.enter f) ∧
    Affords f q (s.worker.rest thread) (s.world.count .worker (.enter f) - s.world.calls q)

/-- The host neither opens nor closes a device. -/
lemma Op.Host.free {o : Op} (ho : o.Host) : o.Free := by
  cases o with
  | call c => cases c <;> first | exact ⟨rfl, rfl⟩ | exact ho.elim
  | _ => exact ⟨rfl, rfl⟩

/-- **One action.** -/
lemma Paying.step {f : Fn} {q : Op → Bool} (hq : Charges f q) {s s' : Sys} {a : Action}
    (h : Paying f q s) (hhost : s.host.All Op.Host) (hstep : s.step a = some s') :
    Paying f q s' := by
  obtain ⟨m, u, rfl, -, rfl⟩ | ⟨r, o, k, rfl, hop, rfl⟩ | ⟨r, rfl, rfl⟩ := Sys.step_cases hstep
  · exact h
  · rw [hop] at hhost
    unfold Paying
    rw [calls_exec, count_exec, hhost.1.free.charge hq, if_neg (by simp)]
    exact h
  · obtain ⟨hle, haffords⟩ := h
    rcases hrest : s.worker.rest thread with l | ⟨o, k⟩
    · rw [Position.step_of_ret hrest]
      exact ⟨hle, (thread_affords hq l).mono (Nat.zero_le _)⟩
    · obtain ⟨hcost, hnext⟩ := Position.solvent_step (thread_affords hq) hrest haffords r s.world
        (M := machine .worker)
      rw [Position.step_of_op hrest] at hnext ⊢
      have hcredit : (if Party.worker = .worker ∧ o = .enter f then 1 else 0) = o.credit f := by
        simp [Op.credit]
      unfold Paying
      rw [calls_exec, count_exec, hcredit]
      exact ⟨by omega, Prog.Solvent.mono (by omega) hnext⟩

/-- **Nothing is opened or closed unasked.** In every run that starts with an empty mailbox, against
every driver: `FT_Open` is called at most as often as enable requests have been posted and `refresh`
has been called, and `FT_Close` at most as often as `disable` and `refresh` have been called. -/
theorem opened_on_request (x : Obj) (hx : x.threadAction = 0) {s : Sys}
    (hrun : Runs (fun _ _ => True) ⟨⟨x, []⟩, .start .head, .ret ()⟩ s) :
    s.world.calls Op.isOpen ≤
        s.world.count .host (.setThreadAction 1) + s.world.count .host (.enter .refresh) ∧
      s.world.calls Op.isClose ≤
        s.world.count .host (.enter .disable) + s.world.count .host (.enter .refresh) := by
  have hpaying : ∀ {f q}, Charges f q → Paying f q s := by
    intro f q hq
    induction hrun with
    | refl => exact ⟨Nat.zero_le _, (thread_affords hq .head).mono (Nat.zero_le _)⟩
    | tail hbefore hstep ih =>
        obtain ⟨a, -, hstep⟩ := hstep
        exact ih.step hq (accounted_of_runs hx hbefore).holds.2 hstep
  obtain ⟨hconnect, hdisconnect⟩ := (accounted_of_runs hx hrun).executions
  exact ⟨Nat.le_trans (hpaying (Or.inl ⟨rfl, rfl⟩)).1 hconnect,
    Nat.le_trans (hpaying (Or.inr ⟨rfl, rfl⟩)).1 hdisconnect⟩

/-- One connect request, served. -/
theorem opened_on_request_once : ∃ s : Sys, s.world.calls Op.isOpen = 1 ∧
    s.world.calls Op.isOpen ≤
      s.world.count .host (.setThreadAction 1) + s.world.count .host (.enter .refresh) := by
  obtain ⟨s, hrun, hs⟩ := Runs.of_plays (fun _ _ => True)
    (fun s => s.world.calls Op.isOpen = 1) ⟨⟨Obj.initial, []⟩, .start .head, .ret ()⟩
    (request .connect 4 ++ workerSteps 30) (by decide +kernel)
  exact ⟨s, hs, (opened_on_request Obj.initial rfl hrun).1⟩

end Dmx485
