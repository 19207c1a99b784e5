import Dmx485.Session
import Dmx485.Thread
import Dmx485.Interaction.Abstraction

/-!
# The worker's dialogue with the driver

What the worker asks of the driver, and how long it sleeps, block by block: a labelled transition
system over the places of the loop and the three fields only the worker writes, with the calls and
their replies as the words along the moves. The moves are stated as a protocol, stage by stage;
that the code makes these moves, against every reply, is proved here for the code run alone, and
`Protocol.lean` carries it to every interleaving.

The protocol does not mention the code. It says which calls may follow which, on which handle, and
what has become of handle, status and tick at the end of a block, as a function of the replies;
what the host can change, the device number among it, is left open.

* `Act`, `World.acts`: the calls of the worker with their replies, and its sleeps, in order.
* `Link`: `dmxPointer`, `ftdiPortStatus` and `threadOn`.
* `Staged`: a dialogue in stages, each of calls made one after the other, whose last status is
  tested. `Configuring`: the line setup, whose stages are `stages`; what is tested before the first
  of them is the status left from an earlier call.
* `Connecting`, `Closing`, `Framing`: the dialogues of `connect`, `disconnect` and a tick.
* `Move`: the dialogues of the blocks of the loop. `thread_moves`: each block makes a move.
-/

namespace Dmx485

open Interaction

/-! ## What is seen -/

/-- A call of the worker with its reply, or a sleep. -/
inductive Act
  | asked (c : FtCall) (r : Reply)
  | slept (useconds : ℕ)
  deriving DecidableEq

/-- What an event is of that, if anything. -/
def Event.act? (e : Event) : Option Act :=
  match e.party, e.op with
  | .worker, .call c => some (.asked c e.reply)
  | .worker, .usleep n => some (.slept n)
  | _, _ => none

/-- The worker's calls and sleeps so far, oldest first. -/
def World.acts (w : World) : List Act := (w.log.filterMap Event.act?).reverse

/-- The fields only the worker writes. -/
structure Link where
  ptr : FT_HANDLE
  status : FT_STATUS
  on : Bool
  deriving DecidableEq

/-- Those fields of a world. -/
def World.link (w : World) : Link := ⟨w.obj.dmxPointer, w.obj.ftdiPortStatus, w.obj.threadOn⟩

/-- The worker as far as it is seen. Of the mailbox nothing is known but that its contents are
in `T`. -/
def seen (T : Int → Prop) : Abstraction Dm Link Act where
  allows
    | .getDmxPointer, a, h => h = a.ptr
    | .getStatus, a, s => s = a.status
    | .getThreadOn, a, on => on = a.on
    | .getThreadAction, _, v => T v
    | _, _, _ => True
  next
    | .setDmxPointer h, _, a => { a with ptr := h }
    | .setStatus s, _, a => { a with status := s }
    | .setThreadOn on, _, a => { a with on := on }
    | _, _, a => a
  shows
    | .call c, r => [.asked c r]
    | .usleep n, _ => [.slept n]
    | _, _ => []

/-- The mailbox is only read with a content in `T`. -/
def Reads (T : Int → Prop) (w : World) (o : Op) (_ : Reply) : Prop :=
  o = .getThreadAction → T w.obj.threadAction

instance (T : Int → Prop) [DecidablePred T] (w : World) (o : Op) (r : Reply) :
    Decidable (Reads T w o r) :=
  inferInstanceAs (Decidable (_ → _))

/-- An operation adds what is seen of it. -/
lemma acts_exec (party : Party) (o : Op) (r : Reply) (w : World) :
    ((machine party).exec o r w).2.acts =
      w.acts ++ (Event.act? ⟨party, o, r, o.payload w.obj⟩).toList := by
  simp only [World.acts, machine_log, List.filterMap_cons]
  cases Event.act? ⟨party, o, r, o.payload w.obj⟩ with
  | none => exact (List.append_nil _).symm
  | some x => exact List.reverse_cons

/-- The abstraction is one of the worker. -/
lemma seen_abstracts (T : Int → Prop) :
    (seen T).Abstracts (machine .worker) (Reads T) World.link World.acts where
  allows o r w hr := by
    cases o with
    | getThreadAction => exact hr rfl
    | getDmxPointer => rfl
    | getStatus => rfl
    | getThreadOn => rfl
    | _ => trivial
  next o r w := by
    cases o with
    | setData k v =>
        simp only [World.link, machine_obj, Op.effect, Obj.poke]
        split_ifs <;> rfl
    | _ => rfl
  shows o r w := by
    rw [acts_exec]
    cases o <;> rfl

/-- The host neither writes these fields nor shows anything. -/
lemma link_host {o : Op} (ho : o.Host) (r : Reply) (w : World) :
    ((machine .host).exec o r w).2.link = w.link ∧
      ((machine .host).exec o r w).2.acts = w.acts := by
  constructor
  · have hown := own_host ho r w
    simp only [World.own, Prod.mk.injEq] at hown
    simp only [World.link, hown.1, hown.2.1, hown.2.2]
  · rw [acts_exec]
    exact List.append_nil _

/-! ## The protocol -/

/-- The calls `calls` were made, one after the other, and the last of them returned `s`. -/
def Answered (calls : List FtCall) (s : FT_STATUS) (d : List Act) : Prop :=
  ∃ rs : List Reply, rs.length = calls.length ∧ d = List.zipWith Act.asked calls rs ∧
    rs.getLast?.map Reply.status = some s

/-- A stage that ends with `FT_OK`. -/
lemma Answered.ok {calls : List FtCall} {s : FT_STATUS} {d : List Act} (h : Answered calls s d)
    (hs : s = FT_OK) : Answered calls FT_OK d := hs ▸ h

/-- The first stage of the line setup for handle `t`. -/
def bitMode (t : FT_HANDLE) : List FtCall := [.FT_SetBitMode t 0x00 0]

/-- The stage from the reset to the baud rate. -/
def baudRate (t : FT_HANDLE) : List FtCall :=
  [.FT_ResetDevice t, .FT_Purge t (FT_PURGE_RX ||| FT_PURGE_TX), .FT_SetBaudRate t 250000]

/-- The stage from the timeouts to the latency timer. -/
def latencyTimer (t : FT_HANDLE) : List FtCall :=
  [.FT_SetTimeouts t 1000 1000,
   .FT_SetDataCharacteristics t FT_BITS_8 FT_STOP_BITS_2 FT_PARITY_NONE,
   .FT_SetFlowControl t FT_FLOW_NONE 0 0, .FT_ClrRts t, .FT_SetLatencyTimer t 2]

/-- Its stages: after each, the status of the last call is tested. -/
def stages (t : FT_HANDLE) : List (List FtCall) := [bitMode t, baudRate t, latencyTimer t]

/-- A dialogue in stages, from one status to another: a stage is only entered with `FT_OK`. -/
inductive Staged : List (List FtCall) → FT_STATUS → List Act → FT_STATUS → Prop
  | refused {cs : List (List FtCall)} {s : FT_STATUS} (hs : s ≠ FT_OK) : Staged cs s [] s
  | done : Staged [] FT_OK [] FT_OK
  | stage {calls : List FtCall} {cs : List (List FtCall)} {s s' : FT_STATUS} {d e : List Act}
      (hcalls : Answered calls s d) (hrest : Staged cs s e s') :
      Staged (calls :: cs) FT_OK (d ++ e) s'

/-- What `connect` says after `FT_Open` has left `t`. The first status tested is the one from
before. -/
inductive Configuring (t : FT_HANDLE) (a : Link) : List Act → Link → Prop
  | failed {d : List Act} {s : FT_STATUS} (hstages : Staged (stages t) a.status d s)
      (hs : s ≠ FT_OK) : Configuring t a d ⟨none, s, a.on⟩
  | done {d : List Act} (hstages : Staged (stages t) a.status d FT_OK) (escape info : Reply) :
      Configuring t a (d ++ [.asked (.FT_W32_EscapeCommFunction t CLRRTS) escape,
        .asked (.FT_GetDeviceInfo t) info, .slept 10000]) ⟨t, FT_OK, true⟩

/-- The dialogue of `connect`. The device number is read twice, and may have changed. -/
inductive Connecting (a : Link) : List Act → Link → Prop
  | cleared (count : Reply) (hcause : count.devices = 0 ∨ a.ptr ≠ none) :
      Connecting a [.asked (.FT_ListDevices .numDevs FT_LIST_NUMBER_ONLY) count]
        { a with ptr := none }
  | opened {d : List Act} {b : Link} (count name description opened : Reply) (i j : UInt8)
      (hcount : count.devices ≠ 0) (hptr : a.ptr = none)
      (hconf : Configuring opened.handle a d b) :
      Connecting a (.asked (.FT_ListDevices .numDevs FT_LIST_NUMBER_ONLY) count ::
        .asked (.FT_ListDevices (.index i.toNat) FT_LIST_BY_INDEX) name ::
        .asked (.FT_ListDevices .deviceNumberAddress
          (FT_LIST_BY_INDEX ||| FT_OPEN_BY_DESCRIPTION)) description ::
        .asked (.FT_Open j.toNat) opened :: d) b

/-- The dialogue of `disconnect`. -/
inductive Closing (a : Link) : List Act → Link → Prop
  | idle (hptr : a.ptr = none) : Closing a [] ⟨none, FT_OK, false⟩
  | asked {h : Handle} (hptr : a.ptr = some h) (r : Reply) :
      Closing a [.asked (.FT_Close (some h)) r]
        ⟨if r.status = FT_OK then none else some h, r.status, false⟩

/-- The data writes of a tick on `h`, with `fuse` turns and `s2` bytes left. -/
inductive Writing (h : FT_HANDLE) : ℕ → DWORD → DWORD → List Act → Prop
  | stop {fuse : ℕ} {s2 written : DWORD} (hstop : fuse = 0 ∨ s2 = 0) :
      Writing h fuse s2 written []
  | write {fuse : ℕ} {s2 written : DWORD} {d : List Act} (r : Reply) (hs2 : s2 ≠ 0)
      (hrest : Writing h fuse (s2 - r.dword.getD written) (r.dword.getD written) d) :
      Writing h (fuse + 1) s2 written
        (.asked (.FT_Write h (.dmx_data (512 * (512 - s2).toNat)) s2) r :: d)

/-- The dialogue of a tick: nothing without a handle, and otherwise one frame. -/
inductive Framing : FT_HANDLE → List Act → Prop
  | idle : Framing none []
  | frame {h : Handle} {written : DWORD} {d : List Act} (off start on purge : Reply)
      (hdata : Writing (some h) 10 512 (start.dword.getD written) d) :
      Framing (some h) (.asked (.FT_SetBreakOff (some h)) off ::
        .asked (.FT_Write (some h) (.start 0) 1) start ::
        (d ++ [.asked (.FT_SetBreakOn (some h)) on,
          .asked (.FT_Purge (some h) (FT_PURGE_RX ||| FT_PURGE_TX)) purge]))

/-- The moves of the worker, one for each block of the loop, when the contents of the mailbox are
in `T`. -/
inductive Move (T : Int → Prop) : Label × Link → List Act → Label × Link → Prop
  | head {a : Link} (v : Int) (hv : T v) :
      Move T (.head, a) [] (if v = 1 then .clear1 else .test2, a)
  | clear1 {a : Link} : Move T (.clear1, a) [] (.connect, a)
  | connect {a b : Link} {d : List Act} (h : Connecting a d b) :
      Move T (.connect, a) d (.test2, b)
  | test2 {a : Link} (v : Int) (hv : T v) :
      Move T (.test2, a) [] (if v = 2 then .clear2 else .test3, a)
  | clear2 {a : Link} : Move T (.clear2, a) [] (.disconnect, a)
  | disconnect {a b : Link} {d : List Act} (h : Closing a d b) :
      Move T (.disconnect, a) d (.test3, b)
  | test3 {a : Link} (v : Int) (hv : T v) :
      Move T (.test3, a) [] (if v = 3 then .stop3 else .testOn, a)
  | stop3 {a : Link} : Move T (.stop3, a) [] (.disconnect3, { a with on := false })
  | disconnect3 {a b : Link} {d : List Act} (h : Closing a d b) :
      Move T (.disconnect3, a) d (.clear3, b)
  | clear3 {a : Link} : Move T (.clear3, a) [] (.pause3, a)
  | pause3 {a : Link} : Move T (.pause3, a) [.slept 10000] (.repost3, a)
  | repost3 {a : Link} : Move T (.repost3, a) [] (.testOn, a)
  | testOn {a : Link} : Move T (.testOn, a) [] (if a.on then .tick else .pause, a)
  | tick {a : Link} {d : List Act} (h : Framing a.ptr d) : Move T (.tick, a) d (.pause, a)
  | pause {a : Link} : Move T (.pause, a) [.slept 10000] (.head, a)

/-! ## The code follows the protocol -/

section code

variable {T : Int → Prop} {α : Type} {a : Link} {Q : α → List Act → Link → Prop}

/-- An operation of which nothing is seen. -/
lemma always_skip {o : Op} {k : o.Ans → Code α}
    (hunseen : ∀ r, (seen T).shows o r = [] ∧ (seen T).next o r a = a)
    (h : ∀ r, Always (seen T) (k r) Q a) : Always (seen T) (.op o .ret >>= k) Q a := by
  refine Always.step fun r _ => ?_
  obtain ⟨hshow, hnext⟩ := hunseen r
  rw [hshow, hnext]
  exact h r

/-- The beginning of a function is not seen. -/
lemma always_enter {f : Fn} {k : Unit → Code α} (h : Always (seen T) (k ()) Q a) :
    Always (seen T) (enter f >>= k) Q a :=
  always_skip (fun _ => ⟨rfl, rfl⟩) fun _ => h

/-- Nor is a console line. -/
lemma always_console {c : Console} {format : String} {args : List Arg} {k : Unit → Code α}
    (h : Always (seen T) (k ()) Q a) : Always (seen T) (console c format args >>= k) Q a :=
  always_skip (fun _ => ⟨rfl, rfl⟩) fun _ => h

/-- A load of the device number may find any: the host can change it. -/
lemma always_getDeviceNumber {k : UInt8 → Code α} (h : ∀ i, Always (seen T) (k i) Q a) :
    Always (seen T) (getDeviceNumber >>= k) Q a :=
  always_skip (fun _ => ⟨rfl, rfl⟩) h

/-- A call is seen with its reply, whatever that is. -/
lemma always_call {c : FtCall} {k : Reply → Code α}
    (h : ∀ r, Always (seen T) (k r) (fun b d t => Q b (.asked c r :: d) t) a) :
    Always (seen T) (call c >>= k) Q a :=
  fun r _ => h r

/-- A load of the status finds the one the worker stored. -/
lemma always_getStatus {k : FT_STATUS → Code α} (h : Always (seen T) (k a.status) Q a) :
    Always (seen T) (getStatus >>= k) Q a := by
  rintro s rfl
  exact h

/-- A load of the handle finds the one the worker stored. -/
lemma always_getDmxPointer {k : FT_HANDLE → Code α} (h : Always (seen T) (k a.ptr) Q a) :
    Always (seen T) (getDmxPointer >>= k) Q a := by
  rintro p rfl
  exact h

/-- A store to the status is what the next load finds. -/
lemma always_setStatus {s : FT_STATUS} {k : Unit → Code α}
    (h : Always (seen T) (k ()) Q { a with status := s }) :
    Always (seen T) (setStatus s >>= k) Q a :=
  fun _ _ => h

/-- So is a store to the tick. -/
lemma always_setThreadOn {on : Bool} {k : Unit → Code α}
    (h : Always (seen T) (k ()) Q { a with on := on }) :
    Always (seen T) (setThreadOn on >>= k) Q a :=
  fun _ _ => h

/-- So is a store to the handle. -/
lemma always_setDmxPointer {p : FT_HANDLE} {k : Unit → Code α}
    (h : Always (seen T) (k ()) Q { a with ptr := p }) :
    Always (seen T) (setDmxPointer p >>= k) Q a :=
  fun _ _ => h

/-- A call whose status is stored. -/
lemma always_setup {c : FtCall} {k : Unit → Code α}
    (h : ∀ r, Always (seen T) (k ()) (fun b d t => Q b (.asked c r :: d) t)
      { a with status := r.status }) :
    Always (seen T) (call c >>= fun r => setStatus r.status >>= k) Q a :=
  always_call fun r => always_setStatus (h r)

/-- A test of the status. -/
lemma always_test {fail go : Code α}
    (hfail : a.status ≠ FT_OK → Always (seen T) fail Q a)
    (hgo : a.status = FT_OK → Always (seen T) go Q a) :
    Always (seen T) (getStatus >>= fun s => if s ≠ FT_OK then fail else go) Q a := by
  refine always_getStatus ?_
  split_ifs with hs
  · exact hfail hs
  · exact hgo (not_ne_iff.mp hs)

/-- An error line and the store of `NULL`. -/
lemma always_fail {c : Console} {format : String} {args : List Arg}
    {Q : Unit → List Act → Link → Prop} (h : Q () [] { a with ptr := none }) :
    Always (seen T) (console c format args >>= fun _ => setDmxPointer none) Q a :=
  always_console fun _ _ => h

/-- **`configure` follows the protocol.** -/
theorem configure_always (t : FT_HANDLE) (a : Link) :
    Always (seen T) (configure t) (fun _ => Configuring t a) a := by
  obtain ⟨ptr, status, on⟩ := a
  unfold configure
  refine always_test (fun hs => always_getStatus (always_fail (.failed (.refused hs) hs)))
    fun hs => ?_
  obtain rfl : status = FT_OK := hs
  refine always_setup fun r₁ => ?_
  have hbit : Answered (bitMode t) r₁.status _ := ⟨[r₁], rfl, rfl, rfl⟩
  refine always_test (fun h₁ => always_fail (.failed (.stage hbit (.refused h₁)) h₁)) fun h₁ => ?_
  replace hbit := hbit.ok h₁
  refine always_setup fun r₂ => always_setup fun r₃ => always_setup fun r₄ => ?_
  have hbaud : Answered (baudRate t) r₄.status _ := ⟨[r₂, r₃, r₄], rfl, rfl, rfl⟩
  refine always_test (fun h₄ => always_fail
    (.failed (.stage hbit (.stage hbaud (.refused h₄))) h₄)) fun h₄ => ?_
  replace hbaud := hbaud.ok h₄
  refine always_setup fun r₅ => always_setup fun r₆ => always_setup fun r₇ =>
    always_call fun r₈ => always_setup fun r₉ => ?_
  have hlatency : Answered (latencyTimer t) r₉.status _ := ⟨[r₅, r₆, r₇, r₈, r₉], rfl, rfl, rfl⟩
  refine always_test (fun h₉ => always_fail
    (.failed (.stage hbit (.stage hbaud (.stage hlatency (.refused h₉)))) h₉)) fun h₉ => ?_
  replace hlatency := hlatency.ok h₉
  refine always_call fun escape => always_call fun info => always_console ?_
  refine always_setDmxPointer fun _ _ _ _ => ?_
  have hstages : Staged (stages t) FT_OK _ FT_OK :=
    .stage hbit (.stage hbaud (.stage hlatency .done))
  show Configuring t ⟨ptr, FT_OK, on⟩ _ ⟨t, r₉.status, true⟩
  rw [show r₉.status = FT_OK from h₉]
  exact Configuring.done (a := ⟨ptr, FT_OK, on⟩) hstages escape info

/-- The count query and its console line. -/
lemma always_getDeviceCount {k : Int32 → Code α}
    (h : ∀ (n : Int32) (r : Reply), n.toUInt32 = r.devices → Always (seen T) (k n) (fun b d t =>
      Q b (.asked (.FT_ListDevices .numDevs FT_LIST_NUMBER_ONLY) r :: d) t) a) :
    Always (seen T) (getDeviceCount >>= k) Q a := by
  unfold getDeviceCount
  rw [Prog.bind_assoc]
  refine always_call fun r => ?_
  dsimp only
  split_ifs with hs
  · exact always_console (h (-1) r (if_pos hs).symm)
  · exact always_console (h (r.dword.getD 0).toInt32 r (if_neg hs).symm)

/-- The outer test of `connect`. -/
lemma always_mayOpen {numDevs : DWORD} {k : Bool → Code α}
    (hno : numDevs = 0 ∨ a.ptr ≠ none → Always (seen T) (k false) Q a)
    (hyes : numDevs ≠ 0 → a.ptr = none → Always (seen T) (k true) Q a) :
    Always (seen T) (mayOpen numDevs >>= k) Q a := by
  unfold mayOpen
  split_ifs with hn
  · have hne : numDevs ≠ 0 := by
      rintro rfl
      exact absurd hn (by decide)
    refine always_getDmxPointer ?_
    cases hptr : a.ptr with
    | none => exact hyes hne hptr
    | some h => exact hno (Or.inr (hptr ▸ Option.some_ne_none h))
  · exact hno (Or.inl (UInt32.le_zero_iff.mp (UInt32.not_lt.mp hn)))

/-- **`connect` follows the protocol.** -/
theorem connect_always (a : Link) :
    Always (seen T) connect (fun _ => Connecting a) a := by
  unfold connect
  refine always_enter (always_getDeviceCount fun n count hcount =>
    always_mayOpen (fun hcause => ?_) fun hne hptr => ?_)
  · exact always_fail (.cleared count (hcause.imp (fun h => hcount.symm.trans h) id))
  · refine always_getDeviceNumber fun i => ?_
    unfold getDeviceNameForIndex
    refine always_call fun name => always_console (always_call fun description => ?_)
    refine always_getDmxPointer ?_
    rw [hptr]
    refine always_console (always_getDeviceNumber fun j => always_call fun opened => ?_)
    refine always_console ((configure_always opened.handle a).mono fun _ d b hconf => ?_)
    exact .opened count name description opened i j (hcount ▸ hne) hptr hconf

/-- **`disconnect` follows the protocol.** -/
theorem disconnect_always (a : Link) :
    Always (seen T) disconnect (fun _ => Closing a) a := by
  obtain ⟨ptr, status, on⟩ := a
  unfold disconnect
  refine always_enter (always_setThreadOn (always_getDmxPointer ?_))
  cases ptr with
  | none =>
      refine always_setStatus (always_test (fun hs => absurd rfl hs) fun _ => ?_)
      exact always_setDmxPointer fun _ _ => .idle rfl
  | some h =>
      refine always_setup fun r => ?_
      have hclosing := Closing.asked (a := ⟨some h, status, on⟩) rfl r
      refine always_test (fun hs => ?_) fun hs => ?_
      · have hs : r.status ≠ FT_OK := hs
        rw [if_neg hs] at hclosing
        exact always_getStatus fun _ _ => hclosing
      · have hs : r.status = FT_OK := hs
        rw [if_pos hs] at hclosing
        exact always_setDmxPointer fun _ _ => hclosing

/-- The operations of a tick. -/
def Op.Ticking : Op → Prop
  | enter f => f = .timer_action
  | getDmxPointer | indeterminate => True
  | call c => ∃ h, c.Tick h
  | _ => False

/-- The data loop loads the handle and writes on it. -/
lemma sendData_ticking (fuse : ℕ) (s2 written : DWORD) (s : FT_STATUS) :
    (sendData fuse s2 written s).All Op.Ticking := by
  induction fuse generalizing s2 written s with
  | zero => trivial
  | succ fuse ih =>
      unfold sendData
      split_ifs
      · trivial
      · exact .step (by trivial) fun _ => .step ⟨_, rfl⟩ fun _ => ih _ _ _

/-- A tick does nothing else than such operations. -/
lemma timer_ticking : timer_action.All Op.Ticking := by
  unfold timer_action sendFrame
  refine .step rfl fun _ => .bind (.step (by trivial) fun _ => .step (by trivial) fun p => ?_)
    fun _ => trivial
  split_ifs
  · refine .step (by trivial) fun _ => .step ⟨_, rfl⟩ fun _ => .step (by trivial) fun _ =>
      .step ⟨_, rfl⟩ fun _ => .bind (sendData_ticking _ _ _ _) fun _ => ?_
    exact .step (by trivial) fun _ => .step ⟨_, rfl⟩ fun _ => .step (by trivial) fun _ =>
      .step ⟨_, rfl⟩ fun _ => trivial
  · trivial

/-- The data loop follows the protocol. -/
lemma sendData_always (fuse : ℕ) (s2 written : DWORD) (s : FT_STATUS) :
    Always (seen T) (sendData fuse s2 written s)
      (fun _ d b => Writing a.ptr fuse s2 written d ∧ b = a) a := by
  induction fuse generalizing s2 written s with
  | zero => exact ⟨.stop (Or.inl rfl), rfl⟩
  | succ fuse ih =>
      unfold sendData
      split_ifs with hs2
      · exact ⟨.stop (Or.inr hs2), rfl⟩
      · refine always_getDmxPointer (always_call fun r => ?_)
        refine (ih _ _ r.status).mono fun _ d b hrest => ?_
        exact ⟨.write r hs2 hrest.1, hrest.2⟩

/-- **A tick follows the protocol.** -/
theorem timer_always (a : Link) :
    Always (seen T) timer_action (fun _ d b => Framing a.ptr d ∧ b = a) a := by
  have hframe : Always (seen T) sendFrame (fun _ d b => Framing a.ptr d ∧ b = a) a := by
    unfold sendFrame
    refine always_skip (fun _ => ⟨rfl, rfl⟩) fun junk => always_getDmxPointer ?_
    cases hptr : a.ptr with
    | none => exact ⟨.idle, rfl⟩
    | some h =>
        -- With a variable for the fuse the loop is not unfolded.
        generalize hfuse : 10 = fuse
        refine always_getDmxPointer (always_call fun off => ?_)
        refine always_getDmxPointer (always_call fun start => ?_)
        refine Always.bind ((sendData_always _ _ _ start.status).mono fun _ d b hdata => ?_)
        subst hfuse
        obtain ⟨hdata, rfl⟩ := hdata
        refine always_getDmxPointer (always_call fun on => ?_)
        refine always_getDmxPointer (always_call fun purge => ?_)
        rw [hptr] at hdata ⊢
        exact ⟨.frame off start on purge hdata, rfl⟩
  unfold timer_action
  refine always_enter (Always.bind (hframe.mono fun _ d b h => ?_))
  show Framing a.ptr (d ++ []) ∧ b = a
  rwa [List.append_nil]

/-- A block that calls a function makes the move of the function. -/
lemma always_block {l l' : Label} {p : Code Unit} {D : List Act → Link → Prop}
    (hp : Always (seen T) p (fun _ => D) a)
    (hmove : ∀ d b, D d b → Move T (l, a) d (l', b)) :
    Always (seen T) (p >>= fun _ => .ret l') (fun l' d b => Move T (l, a) d (l', b)) a := by
  refine Always.bind (hp.mono fun _ d b h => ?_)
  show Move T (l, a) (d ++ []) (l', b)
  rw [List.append_nil]
  exact hmove d b h

/-- **Each block of the loop makes a move of the protocol.** -/
theorem thread_moves (l : Label) (a : Link) :
    Always (seen T) (thread l) (fun l' d b => Move T (l, a) d (l', b)) a := by
  cases l with
  | head => exact fun v hv => .head v hv
  | clear1 => exact fun _ _ => .clear1
  | connect => exact always_block (connect_always a) fun _ _ h => .connect h
  | test2 => exact fun v hv => .test2 v hv
  | clear2 => exact fun _ _ => .clear2
  | disconnect => exact always_block (disconnect_always a) fun _ _ h => .disconnect h
  | test3 => exact fun v hv => .test3 v hv
  | stop3 => exact fun _ _ => .stop3
  | disconnect3 => exact always_block (disconnect_always a) fun _ _ h => .disconnect3 h
  | clear3 => exact fun _ _ => .clear3
  | pause3 => exact fun _ _ => .pause3
  | repost3 => exact fun _ _ => .repost3
  | testOn =>
      rintro on rfl
      exact .testOn
  | tick =>
      refine always_block (timer_always a) fun d b h => ?_
      obtain ⟨h, rfl⟩ := h
      exact .tick h
  | pause => exact fun _ _ => .pause

end code

end Dmx485
