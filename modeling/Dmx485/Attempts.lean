import Dmx485.Session
import Dmx485.Turns

/-!
# One call of `connect`, answer by answer

What `connect` does when nobody interferes, as a function of the driver's answers and of the three
fields it looks at: `dmxPointer`, `deviceNumber` and `ftdiPortStatus`. The answers are a script,
which gives the n-th operation of the call its reply; so the replies to two calls can be related,
or the same replies be given to two calls on different objects.

* `outcome`: what a piece of the worker leaves behind, asks of the driver and decides about the
  tick; `outcome_run` says that every run does this.
* `openAnswer`, `openedHandle`: the reply to `FT_Open`, and the handle it leaves.
* `configured`, `attempted`: the calls of `configure` and `connect`, with their replies, and whether
  they end with the tick switched on; `configure_outcome` and `connect_outcome`.

Four statuses are tested on the way: the one that was left from before, and those of
`FT_SetBitMode`, `FT_SetBaudRate` and `FT_SetLatencyTimer`. The first that is not `FT_OK` ends the
call; the statuses between them are stored and overwritten, or not looked at.
-/

namespace Dmx485

open Interaction

/-! ## Outcomes -/

/-- A driver call and its answer. -/
abbrev Asked := FtCall × Reply

/-- The call an event is. -/
def Event.asked? (e : Event) : Option Asked :=
  match e.op with
  | .call c => some (c, e.reply)
  | _ => none

/-- The calls made so far, oldest first. -/
def World.asked (w : World) : List Asked := (w.log.filterMap Event.asked?).reverse

/-- One event more. -/
lemma asked_cons (e : Event) (x : Obj) (w : World) :
    World.asked ⟨x, e :: w.log⟩ = w.asked ++ e.asked?.toList := by
  unfold World.asked
  rw [List.filterMap_cons]
  cases e.asked? with
  | none => exact (List.append_nil _).symm
  | some q => exact List.reverse_cons

/-- The event switches the tick on. -/
def Event.turnsOn (e : Event) : Bool :=
  match e.op with
  | .setThreadOn on => on
  | _ => false

/-- What a piece of the worker comes to. -/
structure Attempt where
  /-- The object it leaves. -/
  obj : Obj
  /-- Its driver calls, oldest first. -/
  asked : List Asked
  /-- It has switched the tick on. -/
  turnedOn : Bool

/-- The same with an event before it. -/
def Attempt.since (a : Attempt) (e : Event) : Attempt where
  obj := a.obj
  asked := e.asked?.toList ++ a.asked
  turnedOn := e.turnsOn || a.turnedOn

/-- What a program does against a script of answers. -/
def outcome {α : Type} : Code α → Script Dm Reply → Obj → Attempt
  | .ret _, _, x => ⟨x, [], false⟩
  | .op o k, f, x =>
    (outcome (k (o.answer (f 0 o) x)) f.rest (o.effect x)).since (workerEvent o (f 0 o) x)

/-- **Every run does it**, whatever went before. -/
theorem outcome_run {α : Type} (p : Code α) (f : Script Dm Reply) (w : World) :
    ((machine .worker).after p f w).obj = (outcome p f w.obj).obj ∧
    ((machine .worker).after p f w).asked = w.asked ++ (outcome p f w.obj).asked ∧
    ((machine .worker).after p f w).log.any Event.turnsOn =
      (w.log.any Event.turnsOn || (outcome p f w.obj).turnedOn) := by
  induction p generalizing f w with
  | ret a => exact ⟨rfl, (List.append_nil _).symm, (Bool.or_false _).symm⟩
  | op o k ih =>
      obtain ⟨hobj, hasked, hon⟩ := ih (o.answer (f 0 o) w.obj) f.rest
        ⟨o.effect w.obj, workerEvent o (f 0 o) w.obj :: w.log⟩
      refine ⟨hobj, hasked.trans ?_, hon.trans ?_⟩
      · rw [asked_cons, List.append_assoc]
        rfl
      · rw [List.any_cons, Bool.or_comm (Event.turnsOn _), Bool.or_assoc]
        rfl

/-! ## Setting the line up -/

/-- The `i`-th operation of a script, a driver call, with its answer. -/
def asking (f : Script Dm Reply) (i : ℕ) (c : FtCall) : Asked := (c, f i (.call c))

/-- The calls of `configure` with the status left from before, and whether it comes to switching the
tick on. -/
def configured (t : FT_HANDLE) (f : Script Dm Reply) (ftdiPortStatus : FT_STATUS) :
    List Asked × Bool :=
  let bitMode := asking f 1 (.FT_SetBitMode t 0x00 0)
  let reset := asking f 4 (.FT_ResetDevice t)
  let purge := asking f 6 (.FT_Purge t (FT_PURGE_RX ||| FT_PURGE_TX))
  let baudRate := asking f 8 (.FT_SetBaudRate t 250000)
  let timeouts := asking f 11 (.FT_SetTimeouts t 1000 1000)
  let format := asking f 13 (.FT_SetDataCharacteristics t FT_BITS_8 FT_STOP_BITS_2 FT_PARITY_NONE)
  let flow := asking f 15 (.FT_SetFlowControl t FT_FLOW_NONE 0 0)
  let rts := asking f 17 (.FT_ClrRts t)
  let latency := asking f 18 (.FT_SetLatencyTimer t 2)
  let escape := asking f 21 (.FT_W32_EscapeCommFunction t CLRRTS)
  let info := asking f 22 (.FT_GetDeviceInfo t)
  if ftdiPortStatus ≠ FT_OK then ([], false)
  else if bitMode.2.status ≠ FT_OK then ([bitMode], false)
  else if baudRate.2.status ≠ FT_OK then ([bitMode, reset, purge, baudRate], false)
  else if latency.2.status ≠ FT_OK then
    ([bitMode, reset, purge, baudRate, timeouts, format, flow, rts, latency], false)
  else
    ([bitMode, reset, purge, baudRate, timeouts, format, flow, rts, latency, escape, info], true)

/-- What an attempt comes to, as far as it can be seen from outside. -/
structure Attempt.Is (a : Attempt) (x : Obj) (c : List Asked × Bool) (t : FT_HANDLE) : Prop where
  asked : a.asked = c.1
  turnedOn : a.turnedOn = c.2
  dmxPointer : a.obj.dmxPointer = if c.2 then t else none
  threadOn : a.obj.threadOn = (c.2 || x.threadOn)

section steps

variable {α : Type} {f : Script Dm Reply} {x x₀ : Obj} {t : FT_HANDLE} {cs : List Asked} {b : Bool}

/-- An operation that is no call and does not switch the tick on is not seen. -/
lemma Attempt.Is.unseen {o : Op} {k : o.Ans → Code α}
    (hasked : (workerEvent o (f 0 o) x).asked? = none)
    (hon : (workerEvent o (f 0 o) x).turnsOn = false)
    (hrest : (outcome (k (o.answer (f 0 o) x)) f.rest (o.effect x)).Is x₀ (cs, b) t) :
    (outcome (.op o k) f x).Is x₀ (cs, b) t := by
  obtain ⟨h₁, h₂, h₃, h₄⟩ := hrest
  refine ⟨?_, ?_, h₃, h₄⟩
  · show (workerEvent o (f 0 o) x).asked?.toList ++ _ = cs
    rw [hasked]
    exact h₁
  · show ((workerEvent o (f 0 o) x).turnsOn || _) = b
    rw [hon]
    exact h₂

/-- Quiet operations that are no calls are not seen either, and change nothing. -/
lemma Attempt.Is.skip {o : Op} {k : o.Ans → Code α}
    (hseen : (workerEvent o (f 0 o) x).asked? = none ∧
      (workerEvent o (f 0 o) x).turnsOn = false ∧ o.effect x = x)
    (hrest : (outcome (k (o.answer (f 0 o) x)) f.rest x).Is x₀ (cs, b) t) :
    (outcome (.op o k) f x).Is x₀ (cs, b) t :=
  .unseen hseen.1 hseen.2.1 (hseen.2.2.symm ▸ hrest)

/-- A call is seen, with the answer the script has for it. -/
lemma Attempt.Is.call {c : FtCall} {k : Reply → Code α}
    (hrest : (outcome (k (f 0 (.call c))) f.rest x).Is x₀ (cs, b) t) :
    (outcome (call c >>= k) f x).Is x₀ ((c, f 0 (.call c)) :: cs, b) t :=
  ⟨congrArg (_ :: ·) hrest.asked, hrest.turnedOn, hrest.dmxPointer, hrest.threadOn⟩

/-- A call whose status is stored. -/
lemma Attempt.Is.setup {c : FtCall} {k : Unit → Code α}
    (hrest : (outcome (k ()) f.rest.rest
      { x with ftdiPortStatus := (f 0 (.call c)).status }).Is x₀ (cs, b) t) :
    (outcome (Dmx485.call c >>= fun r => setStatus r.status >>= k) f x).Is x₀
      ((c, f 0 (.call c)) :: cs, b) t :=
  .call (.unseen rfl rfl hrest)

/-- A test of the status. -/
lemma Attempt.Is.test {fail go : Code α} {c : List Asked × Bool}
    (hfail : x.ftdiPortStatus ≠ FT_OK → (outcome fail f.rest x).Is x₀ c t)
    (hgo : x.ftdiPortStatus = FT_OK → (outcome go f.rest x).Is x₀ c t) :
    (outcome (getStatus >>= fun s => if s ≠ FT_OK then fail else go) f x).Is x₀ c t := by
  refine Attempt.Is.skip ⟨rfl, rfl, rfl⟩ ?_
  show (outcome (if x.ftdiPortStatus ≠ FT_OK then fail else go) f.rest x).Is x₀ c t
  split_ifs with hs
  · exact hfail hs
  · exact hgo (not_ne_iff.mp hs)

end steps

/-- **What `configure` comes to.** -/
theorem configure_outcome (t : FT_HANDLE) (f : Script Dm Reply) (x : Obj) :
    (outcome (configure t) f x).Is x (configured t f x.ftdiPortStatus) t := by
  unfold configure configured
  dsimp only
  refine .test (fun hs => ?_) fun hs => ?_
  · rw [if_pos hs]
    exact ⟨rfl, rfl, rfl, rfl⟩
  rw [if_neg (not_ne_iff.mpr hs)]
  -- One case for each return, with the tests before it passed.
  split_ifs with hbit hbaud hlatency
  · exact .setup (.test (fun _ => ⟨rfl, rfl, rfl, rfl⟩) fun hs => absurd hs hbit)
  · refine .setup (.test (fun hs => absurd hs hbit) fun _ => ?_)
    refine .setup (.setup (.setup (.test (fun _ => ⟨rfl, rfl, rfl, rfl⟩) fun hs => ?_)))
    exact absurd hs hbaud
  · refine .setup (.test (fun hs => absurd hs hbit) fun _ => ?_)
    refine .setup (.setup (.setup (.test (fun hs => absurd hs hbaud) fun _ => ?_)))
    refine .setup (.setup (.setup (.call (.setup ?_))))
    exact .test (fun _ => ⟨rfl, rfl, rfl, rfl⟩) fun hs => absurd hs hlatency
  · refine .setup (.test (fun hs => absurd hs hbit) fun _ => ?_)
    refine .setup (.setup (.setup (.test (fun hs => absurd hs hbaud) fun _ => ?_)))
    refine .setup (.setup (.setup (.call (.setup ?_))))
    exact .test (fun hs => absurd hs hlatency) fun _ => ⟨rfl, rfl, rfl, rfl⟩

/-! ## Connecting -/

/-- The answer to `FT_Open`. -/
def openAnswer (f : Script Dm Reply) (x : Obj) : Reply :=
  f 11 (.call (.FT_Open x.deviceNumber.toNat))

/-- The handle `connect` has from it. -/
def openedHandle (f : Script Dm Reply) (x : Obj) : FT_HANDLE := (openAnswer f x).handle

/-- The calls of `connect`, and whether it comes to switching the tick on. -/
def attempted (f : Script Dm Reply) (x : Obj) : List Asked × Bool :=
  let count := asking f 1 (.FT_ListDevices .numDevs FT_LIST_NUMBER_ONLY)
  let name := asking f 5 (.FT_ListDevices (.index x.deviceNumber.toNat) FT_LIST_BY_INDEX)
  let description := asking f 7
    (.FT_ListDevices .deviceNumberAddress (FT_LIST_BY_INDEX ||| FT_OPEN_BY_DESCRIPTION))
  let opened : Asked := (.FT_Open x.deviceNumber.toNat, openAnswer f x)
  let setup := configured (openedHandle f x) (fun i => f (i + 13)) x.ftdiPortStatus
  if count.2.devices = 0 ∨ x.dmxPointer ≠ none then ([count], false)
  else (count :: name :: description :: opened :: setup.1, setup.2)

/-- The count query, run. -/
lemma Attempt.Is.count {α : Type} {f : Script Dm Reply} {x x₀ : Obj} {t : FT_HANDLE}
    {cs : List Asked} {b : Bool} {k : Int32 → Code α}
    (hrest : ∀ n : Int32, n.toUInt32 = (f 0 countQuery).devices →
      (outcome (k n) f.rest.rest x).Is x₀ (cs, b) t) :
    (outcome (getDeviceCount >>= k) f x).Is x₀
      ((.FT_ListDevices .numDevs FT_LIST_NUMBER_ONLY, f 0 countQuery) :: cs, b) t := by
  unfold getDeviceCount
  rw [Prog.bind_assoc]
  refine .call ?_
  unfold Reply.devices countQuery at hrest
  dsimp only
  split_ifs with hs
  · exact .skip ⟨rfl, rfl, rfl⟩ (hrest _ (if_pos hs).symm)
  · exact .skip ⟨rfl, rfl, rfl⟩ (hrest _ (if_neg hs).symm)

/-- The outer test of `connect`. -/
lemma Attempt.Is.mayOpen {α : Type} {f : Script Dm Reply} {x x₀ : Obj} {t : FT_HANDLE}
    {c : List Asked × Bool} {numDevs : DWORD} {k : Bool → Code α}
    (hzero : numDevs = 0 → (outcome (k false) f x).Is x₀ c t)
    (hload : numDevs ≠ 0 → (outcome (k x.dmxPointer.isNone) f.rest x).Is x₀ c t) :
    (outcome (Dmx485.mayOpen numDevs >>= k) f x).Is x₀ c t := by
  unfold Dmx485.mayOpen
  split_ifs with hpos
  · refine .skip ⟨rfl, rfl, rfl⟩ (hload fun hnone => ?_)
    rw [hnone] at hpos
    exact absurd hpos (by decide)
  · exact hzero (UInt32.le_zero_iff.mp (UInt32.not_lt.mp hpos))

/-- **What `connect` comes to.** -/
theorem connect_outcome (f : Script Dm Reply) (x : Obj) :
    (outcome connect f x).Is x (attempted f x) (openedHandle f x) := by
  unfold connect attempted
  dsimp only
  split_ifs with hclear
  · refine .skip ⟨rfl, rfl, rfl⟩ (.count fun n hn => .mayOpen (fun _ => ?_) fun hne => ?_)
    · exact ⟨rfl, rfl, rfl, rfl⟩
    · have hheld : x.dmxPointer.isNone = false := by
        rw [Option.isNone_eq_false_iff, Option.isSome_iff_ne_none]
        exact hclear.resolve_left fun hzero => hne (hn.trans hzero)
      rw [hheld]
      exact ⟨rfl, rfl, rfl, rfl⟩
  · obtain ⟨hcount, hnone⟩ := not_or.mp hclear
    have hfree : x.dmxPointer.isNone = true := by
      rw [not_ne_iff.mp hnone]
      rfl
    refine .skip ⟨rfl, rfl, rfl⟩ (.count fun n hn => .mayOpen (fun hzero => ?_) fun _ => ?_)
    · exact absurd (hn.symm.trans hzero) hcount
    rw [hfree]
    refine .skip ⟨rfl, rfl, rfl⟩ (.call (.skip ⟨rfl, rfl, rfl⟩ (.call (.skip ⟨rfl, rfl, rfl⟩ ?_))))
    show (outcome (if x.dmxPointer.isNone = true then openDevice >>= configure else _) _ x).Is _ _ _
    rw [if_pos hfree]
    refine .skip ⟨rfl, rfl, rfl⟩ (.skip ⟨rfl, rfl, rfl⟩ (.call (.skip ⟨rfl, rfl, rfl⟩ ?_)))
    exact configure_outcome _ _ x

/-- The object and the calls after an undisturbed run of `connect`. -/
lemma connect_run (f : Script Dm Reply) (w : World) :
    ((machine .worker).after connect f w).asked = w.asked ++ (attempted f w.obj).1 ∧
    ((machine .worker).after connect f w).log.any Event.turnsOn =
      (w.log.any Event.turnsOn || (attempted f w.obj).2) ∧
    ((machine .worker).after connect f w).obj.dmxPointer =
      (if (attempted f w.obj).2 then openedHandle f w.obj else none) ∧
    ((machine .worker).after connect f w).obj.threadOn =
      ((attempted f w.obj).2 || w.obj.threadOn) := by
  obtain ⟨hobj, hasked, hon⟩ := outcome_run connect f w
  have hconnect := connect_outcome f w.obj
  rw [hconnect.asked] at hasked
  rw [hconnect.turnedOn] at hon
  rw [hobj]
  exact ⟨hasked, hon, hconnect.dmxPointer, hconnect.threadOn⟩

end Dmx485
