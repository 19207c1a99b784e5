import Dmx485.Wire

/-!
# One tick as an exchange with the driver

A tick reads one object and asks the driver up to fourteen things. Here it is taken apart into the
answers it gets and what it does with them, for answers of every kind. What the code keeps in local
variables decides where the next write begins and how long it is; so they are made visible.

* `Locals`, `sendLoop`, `tickLocals`: the tick with its local variables returned.
  `timer_action_eq` and `sendFrame_eq` say that it is the tick of the source.
* `ticked`: the variables a tick ends with, and its exchange with the driver, oldest call first.
* `Exchange`: the answers a tick gets. `Exchange.Plays` says when the loop asks for exactly these.
* `ticked_answers`: every tick with a handle is the exchange of some answers, and one without a
  handle brings nothing but the uninitialised counter (`ticked_none`).
* `timer_action_exchange`: in a longer run, what a tick adds to the log is such an exchange.
-/

namespace Dmx485

open Interaction

/-! ## The tick with its variables -/

/-- The variables of `timer_action` that change. -/
structure Locals where
  s2 : DWORD
  bytesWrittenOrRead : DWORD
  qftdiPortStatus : FT_STATUS
  deriving DecidableEq, Repr

/-- The variables after a turn of the loop whose write got this reply. -/
def Locals.after (l : Locals) (r : Reply) : Locals where
  s2 := l.s2 - r.dword.getD l.bytesWrittenOrRead
  bytesWrittenOrRead := r.dword.getD l.bytesWrittenOrRead
  qftdiPortStatus := r.status

/-- The write of a turn. -/
def Locals.write (l : Locals) (h : FT_HANDLE) : FtCall :=
  .FT_Write h (.dmx_data (512 * (512 - l.s2).toNat)) l.s2

/-- The data loop.
Source: `dmxObjectD2xx.cpp`, `dm2xx::timer_action`, the `while` loop -/
def sendLoop : (fuse : ℕ) → Locals → Code Locals
  | 0, l => return l
  | fuse + 1, l =>
    if l.s2 = 0 then return l else do
      let r ← call (l.write (← getDmxPointer))
      sendLoop fuse (l.after r)

/-- The end of a tick, after the loop.
Source: `dmxObjectD2xx.cpp`, `dm2xx::timer_action` -/
def endFrame (l : Locals) : Code Locals := do
  let _ ← call (.FT_SetBreakOn (← getDmxPointer))
  let r ← call (.FT_Purge (← getDmxPointer) (FT_PURGE_RX ||| FT_PURGE_TX))
  return { l with qftdiPortStatus := r.status }

/-- A tick, with its variables as it leaves them.
Source: `dmxObjectD2xx.cpp`, `dm2xx::timer_action` -/
def tickLocals : Code Locals := do
  enter .timer_action
  let bytesWrittenOrRead := (← indeterminate).dword.getD 0
  if (← getDmxPointer).isSome then
    let _ ← call (.FT_SetBreakOff (← getDmxPointer))
    let r ← call (.FT_Write (← getDmxPointer) (.start 0) 1)
    endFrame (← sendLoop 10 ⟨512, r.dword.getD bytesWrittenOrRead, r.status⟩)
  else
    return ⟨512, bytesWrittenOrRead, -1⟩

/-- The loop of the tick, with its variables. -/
lemma sendData_eq (fuse : ℕ) (l : Locals) :
    sendData fuse l.s2 l.bytesWrittenOrRead l.qftdiPortStatus =
      sendLoop fuse l >>= fun l' => pure l'.qftdiPortStatus := by
  induction fuse generalizing l with
  | zero => rfl
  | succ fuse ih =>
      unfold sendData sendLoop
      split_ifs with hs2
      · rfl
      · simp only [Prog.bind_assoc]
        refine bind_congr fun p => bind_congr fun r => ?_
        exact ih (l.after r)

/-- **The tick of the source** is this tick, of which it returns the last status. -/
theorem sendFrame_eq :
    (enter .timer_action >>= fun _ => sendFrame) =
      tickLocals >>= fun l => pure l.qftdiPortStatus := by
  unfold sendFrame tickLocals
  simp only [Prog.bind_assoc]
  refine bind_congr fun _ => bind_congr fun u => bind_congr fun p => ?_
  cases p with
  | none => rfl
  | some h =>
      simp only [Option.isSome_some, if_true, Prog.bind_assoc]
      refine bind_congr fun _ => bind_congr fun _ => bind_congr fun _ => bind_congr fun r => ?_
      have hloop := sendData_eq 10 ⟨512, r.dword.getD (u.dword.getD 0), r.status⟩
      dsimp only at hloop
      rw [hloop, Prog.bind_assoc]
      rfl

/-- The tick of the source, without the status. -/
theorem timer_action_eq : timer_action = tickLocals >>= fun _ => pure () := by
  have hframe := congrArg (fun p : Code FT_STATUS => p >>= fun _ => (pure () : Code Unit))
    sendFrame_eq
  simp only [Prog.bind_assoc] at hframe
  exact hframe

/-! ## What passes between a tick and the driver -/

/-- The event brings something from outside: the reply of a driver call, or the content of storage
that was not initialised. -/
def Event.outside (e : Event) : Bool :=
  match e.op with
  | .call _ | .indeterminate => true
  | _ => false

/-- What came from outside, oldest first. -/
def World.exchange (w : World) : List Event := (w.log.filter Event.outside).reverse

/-- An event that brings something from outside is added to the exchange. -/
lemma exchange_outside {e : Event} (he : e.outside = true) (x : Obj) (log : List Event) :
    World.exchange ⟨x, e :: log⟩ = World.exchange ⟨x, log⟩ ++ [e] := by
  unfold World.exchange
  rw [List.filter_cons_of_pos he, List.reverse_cons]

/-- Any other event leaves the exchange as it is. -/
lemma exchange_inside {e : Event} (he : e.outside = false) (x : Obj) (log : List Event) :
    World.exchange ⟨x, e :: log⟩ = World.exchange ⟨x, log⟩ := by
  unfold World.exchange
  rw [List.filter_cons_of_neg (by rw [he]; decide)]

/-- The variables a tick on object `x` ends with, and its exchange with the driver. -/
def ticked (f : Script Dm Reply) (x : Obj) : Locals × List Event :=
  (((machine .worker).run tickLocals f ⟨x, []⟩).1,
    ((machine .worker).after tickLocals f ⟨x, []⟩).exchange)

/-- The answers of a tick. -/
structure Exchange where
  /-- What is in `bytesWrittenOrRead` before anything is stored there. -/
  junk : Reply
  off : Reply
  start : Reply
  /-- The answers to the data writes. -/
  data : List Reply
  on : Reply
  purge : Reply

/-- The variables before the loop. -/
def Exchange.entered (e : Exchange) : Locals :=
  ⟨512, e.start.dword.getD (e.junk.dword.getD 0), e.start.status⟩

/-- The variables after the loop. -/
def Exchange.left (e : Exchange) : Locals := e.data.foldl Locals.after e.entered

/-- The data writes that get these answers, from variables `l` on. -/
def dataEvents (x : Obj) (h : Handle) : Locals → List Reply → List Event
  | _, [] => []
  | l, r :: rs => workerEvent (.call (l.write (some h))) r x :: dataEvents x h (l.after r) rs

/-- The exchange of a tick that gets these answers. -/
def Exchange.events (e : Exchange) (x : Obj) (h : Handle) : List Event :=
  workerEvent .indeterminate e.junk x ::
  workerEvent (.call (.FT_SetBreakOff (some h))) e.off x ::
  workerEvent (startWrite h) e.start x ::
  (dataEvents x h e.entered e.data ++
    [workerEvent (.call (.FT_SetBreakOn (some h))) e.on x,
     workerEvent (.call (.FT_Purge (some h) (FT_PURGE_RX ||| FT_PURGE_TX))) e.purge x])

/-- With `fuse` turns left and variables `l`, the loop asks for exactly these answers; `ok` tells
which answers a write of a given length can get. -/
def Turns (ok : DWORD → Reply → Prop) : (fuse : ℕ) → Locals → List Reply → Prop
  | 0, _, rs => rs = []
  | _ + 1, l, [] => l.s2 = 0
  | fuse + 1, l, r :: rs => l.s2 ≠ 0 ∧ ok l.s2 r ∧ Turns ok fuse (l.after r) rs

/-- The tick asks for exactly these answers. -/
def Exchange.Plays (ok : DWORD → Reply → Prop) (e : Exchange) : Prop :=
  ok 1 e.start ∧ Turns ok 10 e.entered e.data

/-- A script whose writes are answered so. -/
def Answering (ok : DWORD → Reply → Prop) (f : Script Dm Reply) : Prop :=
  ∀ i h buffer n, ok n (f i (.call (.FT_Write h buffer n)))

/-- Any answers at all. -/
def AnyAnswer : DWORD → Reply → Prop := fun _ _ => True

/-- Without a condition on the answers, every script is one that answers so. -/
lemma answering_any (f : Script Dm Reply) : Answering AnyAnswer f := fun _ _ _ _ => trivial

/-- The data loop, run. -/
lemma sendLoop_run {ok : DWORD → Reply → Prop} {h : Handle} (fuse : ℕ) (l : Locals)
    {f : Script Dm Reply} (hf : Answering ok f) {w : World} (hptr : w.obj.dmxPointer = some h) :
    ∃ rs g w', Turns ok fuse l rs ∧
      (machine .worker).run (sendLoop fuse l) f w = (rs.foldl Locals.after l, g, w') ∧
      w'.obj = w.obj ∧ w'.exchange = w.exchange ++ dataEvents w.obj h l rs := by
  induction fuse generalizing l f w with
  | zero => exact ⟨[], f, w, rfl, rfl, rfl, (List.append_nil _).symm⟩
  | succ fuse ih =>
      unfold sendLoop
      split_ifs with hs2
      · exact ⟨[], f, w, hs2, rfl, rfl, (List.append_nil _).symm⟩
      · rw [run_getDmxPointer, hptr, run_call, Script.rest_apply]
        have hrest : Answering ok f.rest.rest := fun i => hf (i + 2)
        have hreply : ok l.s2 (f 1 (.call (l.write (some h)))) := hf 1 _ _ _
        obtain ⟨rs, g, w', hturns, hrun, hobj, hlog⟩ := ih
          (l.after (f 1 (.call (l.write (some h))))) hrest
          (w := ⟨w.obj, workerEvent (.call (l.write (some h))) (f 1 (.call (l.write (some h))))
            w.obj :: workerEvent .getDmxPointer (f 0 .getDmxPointer) w.obj :: w.log⟩) hptr
        refine ⟨_ :: rs, g, w', ⟨hs2, hreply, hturns⟩, hrun, hobj, ?_⟩
        rw [hlog, exchange_outside rfl, exchange_inside rfl, List.append_assoc]
        rfl

/-- The end of a tick, run. -/
lemma endFrame_run (l : Locals) (f : Script Dm Reply) {w : World} {h : Handle}
    (hptr : w.obj.dmxPointer = some h) :
    ∃ on purge : Reply,
      ((machine .worker).run (endFrame l) f w).1 = { l with qftdiPortStatus := purge.status } ∧
      ((machine .worker).after (endFrame l) f w).exchange = w.exchange ++
        [workerEvent (.call (.FT_SetBreakOn (some h))) on w.obj,
         workerEvent (.call (.FT_Purge (some h) (FT_PURGE_RX ||| FT_PURGE_TX))) purge w.obj] := by
  refine ⟨f 1 (.call (.FT_SetBreakOn (some h))),
    f 3 (.call (.FT_Purge (some h) (FT_PURGE_RX ||| FT_PURGE_TX))), ?_⟩
  unfold Machine.after endFrame
  rw [run_getDmxPointer, hptr, run_call, run_getDmxPointer, hptr, run_call]
  refine ⟨rfl, ?_⟩
  show World.exchange ⟨w.obj, _ :: _ :: _ :: _ :: w.log⟩ = _
  rw [exchange_outside rfl, exchange_inside rfl, exchange_outside rfl, exchange_inside rfl,
    List.append_assoc]
  rfl

/-- **A tick with a handle** is the exchange of its answers, and ends with the variables these
leave and the status of the purge. -/
theorem ticked_answers {ok : DWORD → Reply → Prop} {f : Script Dm Reply} (hf : Answering ok f)
    {x : Obj} {h : Handle} (hptr : x.dmxPointer = some h) :
    ∃ e : Exchange, e.Plays ok ∧
      ticked f x = ({ e.left with qftdiPortStatus := e.purge.status }, e.events x h) := by
  -- The world in which the loop is entered.
  obtain ⟨log, hstart, hentered⟩ : ∃ log,
      (machine .worker).run tickLocals f ⟨x, []⟩ =
        (machine .worker).run (sendLoop 10 ⟨512, (f 6 (startWrite h)).dword.getD
          ((f 1 .indeterminate).dword.getD 0), (f 6 (startWrite h)).status⟩ >>= endFrame)
          (fun n => f (n + 7)) ⟨x, log⟩ ∧
      World.exchange ⟨x, log⟩ = [workerEvent .indeterminate (f 1 .indeterminate) x,
        workerEvent (.call (.FT_SetBreakOff (some h))) (f 4 (.call (.FT_SetBreakOff (some h)))) x,
        workerEvent (startWrite h) (f 6 (startWrite h)) x] := by
    unfold tickLocals
    rw [run_enter, run_indeterminate, run_getDmxPointer, hptr]
    simp only [Option.isSome_some, if_true]
    rw [run_getDmxPointer, hptr, run_call, run_getDmxPointer, hptr, run_call]
    exact ⟨_, rfl, rfl⟩
  obtain ⟨data, g, w', hturns, hloop, hobj, hdata⟩ := sendLoop_run (w := ⟨x, log⟩) 10
    ⟨512, (f 6 (startWrite h)).dword.getD ((f 1 .indeterminate).dword.getD 0),
      (f 6 (startWrite h)).status⟩ (fun i => hf (i + 7)) hptr
  have hw' : w'.obj.dmxPointer = some h := by
    rw [hobj]
    exact hptr
  obtain ⟨on, purge, hlocals, hexchange⟩ := endFrame_run
    (data.foldl Locals.after ⟨512, (f 6 (startWrite h)).dword.getD
      ((f 1 .indeterminate).dword.getD 0), (f 6 (startWrite h)).status⟩) g hw'
  refine ⟨⟨f 1 .indeterminate, f 4 (.call (.FT_SetBreakOff (some h))), f 6 (startWrite h), data, on,
    purge⟩, ⟨hf 6 _ _ _, hturns⟩, ?_⟩
  unfold ticked Machine.after
  rw [hstart, Machine.run_bind, hloop]
  apply Prod.ext hlocals
  unfold Machine.after at hexchange
  rw [hexchange, hdata, hentered, hobj]
  rfl

/-- A tick without a handle asks the driver nothing. -/
theorem ticked_none (f : Script Dm Reply) {x : Obj} (hptr : x.dmxPointer = none) :
    ∃ junk b, ticked f x = (⟨512, b, -1⟩, [workerEvent .indeterminate junk x]) := by
  refine ⟨f 1 .indeterminate, (f 1 .indeterminate).dword.getD 0, ?_⟩
  unfold ticked Machine.after tickLocals
  rw [run_enter, run_indeterminate, run_getDmxPointer, hptr]
  rfl

/-! ## Ticks in a longer run -/

/-- What was logged before does not matter to a run. -/
lemma run_log {α : Type} (p : Code α) (f : Script Dm Reply) (x : Obj) (new log : List Event) :
    (machine .worker).run p f ⟨x, new ++ log⟩ =
      (((machine .worker).run p f ⟨x, new⟩).1, ((machine .worker).run p f ⟨x, new⟩).2.1,
        ⟨((machine .worker).run p f ⟨x, new⟩).2.2.obj,
          ((machine .worker).run p f ⟨x, new⟩).2.2.log ++ log⟩) := by
  induction p generalizing f x new with
  | ret a => rfl
  | op o k ih => exact ih _ f.rest _ (workerEvent o (f 0 o) x :: new)

/-- **Every tick**, whatever went before it, has the exchange `ticked` describes. -/
theorem timer_action_exchange (f : Script Dm Reply) (w : World) :
    ((machine .worker).after timer_action f w).exchange = w.exchange ++ (ticked f w.obj).2 := by
  have hlog : ((machine .worker).after timer_action f w).log =
      ((machine .worker).after tickLocals f ⟨w.obj, []⟩).log ++ w.log := by
    have hrun := run_log tickLocals f w.obj [] w.log
    rw [timer_action_eq, Machine.after_bind]
    unfold Machine.after
    rw [List.nil_append] at hrun
    rw [hrun]
    rfl
  unfold ticked World.exchange
  rw [hlog, List.filter_append, List.reverse_append]

end Dmx485
