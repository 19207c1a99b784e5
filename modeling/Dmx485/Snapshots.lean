import Dmx485.Mailbox
import Dmx485.Wire
import Mathlib.Data.List.Infix

/-!
# What a packet shows of a frame

`dmx_frame` stores its items one by one into the array from which the worker transmits, and
nothing keeps the two apart. Every message and every reply is allowed here, except that a write
takes everything it is given.

* `packet_of_one_moment`: a packet is the array at one moment, and at every moment the array is a
  universe with a beginning of one frame stored over it.
* `frame_torn`: that beginning can be neither empty nor the whole frame.

With full writes a tick makes one write of the array, so that a packet is not put together from
several moments (`wire_spec`, `Runs.wire`). What the array is at a moment does not depend on the
worker at all: it is followed through the deliveries of the host (`Sys.Stores`), of which at most
the last is still being handled. The packets are all those in the log, each from a break to the
next (`packets`); one that is not finished yet is not among them.
-/

namespace Dmx485

open Interaction Relation

/-! ## Interleavings in which every write is taken in full -/

/-- The number of bytes an operation asks the driver to write. -/
def Op.bytesToWrite? : Op → Option DWORD
  | call (.FT_Write _ _ n) => some n
  | _ => none

/-- The driver accepts everything it is given. -/
def TakesAll (_ : World) (o : Op) (r : Reply) : Prop := ∀ n ∈ o.bytesToWrite?, r.Full n

instance (w : World) (o : Op) (r : Reply) : Decidable (TakesAll w o r) :=
  Option.decidableForallMem (p := r.Full) o.bytesToWrite?

/-- What an action does to the world: nothing, or one operation of one party. -/
lemma Sys.step_world {s s' : Sys} {a : Action} (h : s.step a = some s') :
    s'.world = s.world ∨
    (∃ o r, s.host.next = some o ∧ s'.world = ((machine .host).exec o r s.world).2) ∨
    (∃ o r, a = .worker r ∧ (s.worker.rest thread).next = some o ∧
      s'.world = ((machine .worker).exec o r s.world).2) := by
  obtain ⟨m, u, rfl, -, rfl⟩ | ⟨r, o, k, rfl, hhost, rfl⟩ | ⟨r, rfl, rfl⟩ := Sys.step_cases h
  · exact Or.inl rfl
  · exact Or.inr (Or.inl ⟨o, r, congrArg Prog.next hhost, rfl⟩)
  · rcases hrest : s.worker.rest thread with l | ⟨o, k⟩
    · apply Or.inl
      rw [Position.step_of_ret hrest]
    · refine Or.inr (Or.inr ⟨o, r, rfl, rfl, ?_⟩)
      rw [Position.step_of_op hrest]

/-! ## What is on the line since the break -/

/-- The packets of a log, the last one first. -/
def packets : List Event → List (List (Option UInt8))
  | [] => []
  | e :: log => if e.breaksOn then lastPacket (e :: log) :: packets log else packets log

/-- The bytes taken since the last `FT_SetBreakOff`. -/
def openPacket (log : List Event) : List (Option UInt8) :=
  (log.takeWhile fun e => !e.breaksOff).reverse.flatMap Event.accepted

/-- The operations that put something on the line. -/
def Op.onLine : Op → Bool
  | call c => c.ofFrame
  | _ => false

/-- The write of the whole array. -/
def Op.WritesArray (o : Op) : Prop := ∃ p, o = .call (.FT_Write p (.dmx_data 0) 512)

/-- Since the break, the start byte and what one write of the array read were taken. -/
def OnePass (log : List Event) : Prop :=
  ∃ e ∈ log, e.op.WritesArray ∧ openPacket log = some 0 :: e.payload

/-- With the break nothing has been sent yet. -/
lemma openPacket_breaksOff {e : Event} (he : e.breaksOff = true) (log : List Event) :
    openPacket (e :: log) = [] := by
  unfold openPacket
  rw [List.takeWhile_cons_of_neg]
  · rfl
  · rw [he]
    exact Bool.false_ne_true

/-- Any other event adds the bytes the driver took. -/
lemma openPacket_cons {e : Event} (he : e.breaksOff = false) (log : List Event) :
    openPacket (e :: log) = openPacket log ++ e.accepted := by
  unfold openPacket
  rw [List.takeWhile_cons_of_pos]
  · rw [List.reverse_cons, List.flatMap_append, List.flatMap_singleton]
  · rw [he]
    rfl

/-- A packet is closed with what is on the line. -/
lemma lastPacket_breaksOn {e : Event} (he : e.breaksOn = true) (hoff : e.breaksOff = false)
    (htaken : e.accepted = []) (log : List Event) : lastPacket (e :: log) = openPacket log := by
  have hopen := openPacket_cons hoff log
  unfold openPacket at hopen
  unfold lastPacket
  rw [List.dropWhile_cons_of_neg, hopen, htaken, List.append_nil]
  · rfl
  · rw [he]
    exact Bool.false_ne_true

/-- What is off the line breaks nothing and carries nothing. -/
lemma Op.off_line {o : Op} (ho : o.onLine = false) (party : Party) (r : Reply)
    (payload : List (Option UInt8)) :
    (⟨party, o, r, payload⟩ : Event).breaksOff = false ∧
      (⟨party, o, r, payload⟩ : Event).breaksOn = false ∧
      (⟨party, o, r, payload⟩ : Event).accepted = [] := by
  cases o with
  | call c =>
      cases c with
      | FT_SetBreakOff p => cases ho
      | FT_SetBreakOn p => cases ho
      | FT_Write p b n => cases ho
      | _ => exact ⟨rfl, rfl, rfl⟩
  | _ => exact ⟨rfl, rfl, rfl⟩

/-- The host puts nothing on the line. -/
lemma Op.Host.off_line {o : Op} (ho : o.Host) : o.onLine = false := by
  cases o with
  | call c =>
      cases c with
      | FT_ListDevices arg flags => rfl
      | _ => exact ho.elim
  | _ => rfl

/-- Nor do `connect` and `disconnect`. -/
lemma Op.Setup.off_line {o : Op} (ho : o.Setup) : o.onLine = false := by
  cases o with
  | call c => exact ho
  | _ => rfl

/-- An assertion about the log that does not look at what is off the line. -/
def OnLineOnly (P : List Event → Prop) : Prop :=
  ∀ party o r payload log, o.onLine = false → P log → P (⟨party, o, r, payload⟩ :: log)

/-- What is off the line adds nothing. -/
lemma openPacket_off_line {party : Party} {o : Op} {r : Reply} {payload : List (Option UInt8)}
    (ho : o.onLine = false) (log : List Event) :
    openPacket (⟨party, o, r, payload⟩ :: log) = openPacket log := by
  obtain ⟨hoff, -, htaken⟩ := Op.off_line ho party r payload
  rw [openPacket_cons hoff, htaken, List.append_nil]

/-- The bytes on the line are such an assertion. -/
lemma onLineOnly_openPacket (bytes : List (Option UInt8)) :
    OnLineOnly fun log => openPacket log = bytes := by
  intro party o r payload log ho hlog
  rw [openPacket_off_line ho, hlog]

/-- So is the pass made. -/
lemma onLineOnly_onePass : OnLineOnly OnePass := by
  intro party o r payload log ho hlog
  obtain ⟨e, he, hwrites, hopen⟩ := hlog
  refine ⟨e, List.mem_cons_of_mem _ he, hwrites, ?_⟩
  rw [openPacket_off_line ho, hopen]

/-! ## The worker sends the array in one pass -/

/-- Before the break is set, one pass has been made. -/
def Op.Owes (o : Op) (log : List Event) : Prop :=
  (∃ p, o = .call (.FT_SetBreakOn p)) → OnePass log

/-- What is off the line owes nothing. -/
lemma Op.owes_off_line {o : Op} (ho : o.onLine = false) (log : List Event) : o.Owes log := by
  rintro ⟨p, rfl⟩
  cases ho

/-- The worker on the line, whatever the host does. -/
abbrev wire : Context Dm World Reply := around Op.Host TakesAll fun w o _ => o.Owes w.log

section tick

variable {α : Type} {P : List Event → Prop} {R : α → World → Prop}

/-- Such an assertion is undisturbed by the host. -/
lemma OnLineOnly.stable (hP : OnLineOnly P) : Stable wire fun w => P w.log := by
  rintro w w' hw ⟨o, r, ho, -, rfl⟩
  exact hP _ _ _ _ _ ho.off_line hw

/-- An operation off the line. -/
lemma OnLineOnly.then (hP : OnLineOnly P) {o : Op} (ho : o.onLine = false) {k : o.Ans → Code α}
    (hk : ∀ a, Triple (machine .worker) wire (fun w => P w.log) (k a) R) :
    Triple (machine .worker) wire (fun w => P w.log) (.op o k) R :=
  Triple.op hP.stable fun w _ hw _ => ⟨Op.owes_off_line ho w.log, hk _ _ (hP _ _ _ _ _ ho hw)⟩

/-- A load of the handle, and a call on it. -/
lemma OnLineOnly.call_then (hP : OnLineOnly P) {Q : Reply → List Event → Prop}
    (c : FT_HANDLE → FtCall) {k : Reply → Code α}
    (hc : ∀ p w r, P w.log → TakesAll w (.call (c p)) r → (Op.call (c p)).Owes w.log ∧
      Q r (⟨.worker, .call (c p), r, (Op.call (c p)).payload w.obj⟩ :: w.log))
    (hk : ∀ r, Triple (machine .worker) wire (fun w => Q r w.log) (k r) R) :
    Triple (machine .worker) wire (fun w => P w.log) (getDmxPointer >>= fun p => call (c p) >>= k)
      R := by
  apply hP.then (o := .getDmxPointer) rfl
  intro p
  apply Triple.op hP.stable
  intro w r hw hr
  obtain ⟨howes, hafter⟩ := hc p w r hw hr
  exact ⟨howes, hk r _ hafter⟩

/-- The assertion that says nothing. -/
lemma onLineOnly_true : OnLineOnly fun _ => True := fun _ _ _ _ _ _ _ => trivial

/-- A write owes nothing. -/
lemma Op.owes_write (p : FT_HANDLE) (b : Buffer) (n : DWORD) (log : List Event) :
    (Op.call (.FT_Write p b n)).Owes log := by
  rintro ⟨q, hq⟩
  cases hq

/-- The data loop is one write. -/
lemma sendData_wire (written : DWORD) (s : FT_STATUS) :
    Triple (machine .worker) wire (fun w => openPacket w.log = [some 0]) (sendData 10 512 written s)
      fun _ w => OnePass w.log := by
  have hoffset : 512 * ((512 : DWORD) - 512).toNat = 0 := by decide
  unfold sendData
  rw [if_neg (by decide)]
  dsimp only
  rw [hoffset]
  refine (onLineOnly_openPacket [some 0]).call_then
    (Q := fun r log => r.dword = some 512 ∧ OnePass log) (fun p => .FT_Write p (.dmx_data 0) 512)
    (fun p w r hw hr => ⟨Op.owes_write p _ _ _, (hr 512 rfl).2, ?_⟩) fun r w hw => ?_
  · refine ⟨_, List.mem_cons_self, ⟨p, rfl⟩, ?_⟩
    rw [openPacket_cons rfl, hw, List.singleton_append, accepted_full (hr 512 rfl)]
  · rw [hw.1, Option.getD_some, UInt32.sub_self]
    exact hw.2

/-- **A tick sets the break after one pass.** -/
lemma timer_wire : Triple (machine .worker) wire (fun _ => True) timer_action fun _ _ => True := by
  have hbody : ∀ written : DWORD, Triple (machine .worker) wire (fun _ => True)
      (do let _ ← call (.FT_SetBreakOff (← getDmxPointer))
          let r ← call (.FT_Write (← getDmxPointer) (.start 0) 1)
          let _ ← sendData 10 512 (r.dword.getD written) r.status
          let _ ← call (.FT_SetBreakOn (← getDmxPointer))
          return (← call (.FT_Purge (← getDmxPointer) (FT_PURGE_RX ||| FT_PURGE_TX))).status)
      fun _ _ => True := by
    intro written
    -- the break, after which nothing has been sent yet; the start byte; the array; the break again
    refine onLineOnly_true.call_then (Q := fun _ log => openPacket log = []) .FT_SetBreakOff
      (fun p w r _ _ => ⟨?_, openPacket_breaksOff rfl _⟩) fun _ => ?_
    · rintro ⟨q, hq⟩
      cases hq
    refine (onLineOnly_openPacket []).call_then (Q := fun _ log => openPacket log = [some 0])
      (fun p => .FT_Write p (.start 0) 1)
      (fun p w r hw hr => ⟨Op.owes_write p _ _ _, ?_⟩) fun r => ?_
    · rw [openPacket_cons rfl, hw]
      exact accepted_full (hr 1 rfl) .worker w.obj
    apply (sendData_wire _ _).bind
    intro _
    refine onLineOnly_onePass.call_then (Q := fun _ _ => True) .FT_SetBreakOn
      (fun p w r hw _ => ⟨fun _ => hw, trivial⟩) fun _ => ?_
    exact onLineOnly_true.call_then (Q := fun _ _ => True) (fun p => .FT_Purge p _)
      (fun p w _ _ _ => ⟨Op.owes_off_line rfl w.log, trivial⟩) fun _ _ _ => trivial
  unfold timer_action sendFrame
  apply onLineOnly_true.then (o := .enter .timer_action) rfl
  intro _
  apply onLineOnly_true.then (o := .indeterminate) rfl
  intro r
  apply onLineOnly_true.then (o := .getDmxPointer) rfl
  intro p
  cases p with
  | none => exact fun _ _ => trivial
  | some h => exact (hbody _).bind fun _ _ _ => trivial

end tick

/-- A function that only sets the line up owes nothing. -/
lemma setup_wire {fn : Fn} {p : Code Unit}
    (hp : ∃ q : Code Unit, p = (enter fn >>= fun _ => q) ∧ q.All Op.Setup) (v : Unit) :
    Triple (machine .worker) wire (fun _ => True ∧ () = v) p fun _ _ => True ∧ () = v := by
  obtain ⟨q, rfl, hsetup⟩ := hp
  apply Triple.of_all (K := fun o : Op => o.onLine = false)
  · exact fun _ _ hw _ => hw
  · exact fun w _ _ ho hw _ => ⟨Op.owes_off_line ho w.log, hw⟩
  · exact .step rfl fun _ => hsetup.mono fun _ ho => ho.off_line

/-- The annotation of the loop: nothing is asserted, one pass is owed. -/
lemma wire_spec : LoopSpec TakesAll (fun _ w o _ => o.Owes w.log) (fun _ => True) (fun _ => True)
    (fun _ => True) (fun _ => ()) id id id where
  guarantee := by
    rintro l - w o r ho ⟨p, rfl⟩
    exact ho.elim
  guarantee_stop := fun w _ => Op.owes_off_line rfl w.log
  closed := fun _ _ => trivial
  stop := fun _ _ => ⟨trivial, rfl⟩
  connect := setup_wire connect_setup
  disconnect := setup_wire disconnect_setup
  disconnect3 := setup_wire disconnect_setup
  tick := fun _ => timer_wire.conseq (fun _ _ => trivial) fun _ _ _ => ⟨trivial, rfl⟩

/-! ## A packet is read at one moment -/

/-- The configuration that a list of actions leads to. -/
abbrev Sys.reached (actions : List Action) : Option Sys :=
  actions.foldlM (Sys.stepIf (Sys.Allowed TakesAll)) Sys.initial

/-- What is listed is a run. -/
lemma runs_of_reached {actions : List Action} {s : Sys} (hs : Sys.reached actions = some s) :
    Runs (Sys.Allowed TakesAll) Sys.initial s :=
  Runs.of_foldlM Sys.stepIf_eq_some hs

/-- The worker is about to write the whole array. -/
def Sys.ReadsArray (s : Sys) : Prop := ∃ o, (s.worker.rest thread).next = some o ∧ o.WritesArray

/-- The packet is the start byte and the array as it is in `s`. -/
def Sys.Shows (s : Sys) (packet : List (Option UInt8)) : Prop :=
  packet = some 0 :: (List.ofFn s.world.obj.dmx_data).map some

/-- The annotation holds along every run. -/
lemma Runs.wire {s : Sys} (hrun : Runs (Sys.Allowed TakesAll) Sys.initial s) :
    s.Holds (loopOutline TakesAll (fun _ w o _ => o.Owes w.log) (fun _ => True) (fun _ => True)
      (fun _ => True) (fun _ => ()) id id id) :=
  hrun.holds wire_spec.valid (fun _ _ h => h) ⟨trivial, trivial⟩

/-- An event closes a packet or leaves the packets as they are. -/
lemma mem_packets_cons {e : Event} {log : List Event} {packet : List (Option UInt8)}
    (h : packet ∈ packets (e :: log)) :
    packet ∈ packets log ∨ (e.breaksOn = true ∧ packet = lastPacket (e :: log)) := by
  rw [packets] at h
  split_ifs at h with hon
  · rcases List.mem_cons.mp h with rfl | h
    · exact Or.inr ⟨hon, rfl⟩
    · exact Or.inl h
  · exact Or.inl h

/-- An event sets the break if it is a call of `FT_SetBreakOn`. -/
lemma Event.breaksOn_iff (e : Event) :
    e.breaksOn = true ↔ ∃ p, e.op = .call (.FT_SetBreakOn p) := by
  unfold breaksOn
  constructor
  · intro h
    split at h
    · exact ⟨_, by assumption⟩
    · cases h
  · rintro ⟨p, hp⟩
    rw [hp]

/-- Every packet was closed after one pass. -/
lemma packets_onePass {s : Sys} (hrun : Runs (Sys.Allowed TakesAll) Sys.initial s)
    {packet : List (Option UInt8)} (hpacket : packet ∈ packets s.world.log) :
    ∃ e ∈ s.world.log, e.op.WritesArray ∧ packet = some 0 :: e.payload := by
  induction hrun with
  | refl => cases hpacket
  | @tail s s' hbefore hstep ih =>
      obtain ⟨a, hallowed, hstep⟩ := hstep
      have hholds := Runs.wire hbefore
      -- a packet closed before
      have hkept : ∀ e, packet ∈ packets s.world.log → ∃ e' ∈ e :: s.world.log,
          e'.op.WritesArray ∧ packet = some 0 :: e'.payload := by
        intro e hold
        obtain ⟨e', he', hpass⟩ := ih hold
        exact ⟨e', List.mem_cons_of_mem _ he', hpass⟩
      rcases Sys.step_world hstep with hw | ⟨o, r, ho, hw⟩ | ⟨o, r, rfl, ho, hw⟩
      · rw [hw] at hpacket ⊢
        exact ih hpacket
      · have hoff := (hholds.2.of_next ho).off_line
        rw [hw, machine_log] at hpacket ⊢
        rcases mem_packets_cons hpacket with hold | ⟨hon, -⟩
        · exact hkept _ hold
        · exact absurd ((Op.off_line hoff _ _ _).2.1.symm.trans hon) Bool.false_ne_true
      · rw [hw, machine_log] at hpacket ⊢
        rcases mem_packets_cons hpacket with hold | ⟨hon, rfl⟩
        · exact hkept _ hold
        obtain ⟨p, hp⟩ := (Event.breaksOn_iff _).mp hon
        have howes : o.Owes s.world.log := Outline.holds_guarantee wire_spec.valid hholds.1 ho r
          (hallowed o ho)
        obtain ⟨e, he, hwrites, hopen⟩ := howes ⟨p, hp⟩
        refine ⟨e, List.mem_cons_of_mem _ he, hwrites, ?_⟩
        cases hp
        rw [lastPacket_breaksOn rfl rfl rfl, hopen]

/-- A write of the array hands over the array. -/
lemma Op.WritesArray.payload {o : Op} (ho : o.WritesArray) (x : Obj) :
    o.payload x = (List.ofFn x.dmx_data).map some := by
  obtain ⟨p, rfl⟩ := ho
  exact payload_array p x

/-- What a write of the array hands over is the array at the moment of the write. -/
lemma payload_of_moment {actions : List Action} {s : Sys} (hs : Sys.reached actions = some s)
    {e : Event} (he : e ∈ s.world.log) (hwrites : e.op.WritesArray) :
    ∃ upto s₁, upto <+: actions ∧ Sys.reached upto = some s₁ ∧ s₁.ReadsArray ∧
      s₁.Shows (some 0 :: e.payload) := by
  induction actions using List.reverseRecOn generalizing s with
  | nil =>
      cases hs
      cases he
  | append_singleton actions a ih =>
      obtain ⟨s₁, hs₁, hlast⟩ := foldlM_last hs
      obtain ⟨-, hstep⟩ := Sys.stepIf_eq_some hlast
      have hbefore : e ∈ s₁.world.log → ∃ upto s₁, upto <+: actions ++ [a] ∧
          Sys.reached upto = some s₁ ∧ s₁.ReadsArray ∧ s₁.Shows (some 0 :: e.payload) := by
        intro he₁
        obtain ⟨upto, s₂, hupto, hmoment⟩ := ih hs₁ he₁
        exact ⟨upto, s₂, hupto.trans (List.prefix_append _ _), hmoment⟩
      rcases Sys.step_world hstep with hw | ⟨o, r, ho, hw⟩ | ⟨o, r, rfl, ho, hw⟩
      · rw [hw] at he
        exact hbefore he
      · rw [hw, machine_log] at he
        rcases List.mem_cons.mp he with rfl | he
        · obtain ⟨p, rfl⟩ := hwrites
          exact ((Runs.wire (runs_of_reached hs₁)).2.of_next ho).elim
        · exact hbefore he
      · rw [hw, machine_log] at he
        rcases List.mem_cons.mp he with rfl | he
        · refine ⟨actions, s₁, List.prefix_append _ _, hs₁, ⟨o, ho, hwrites⟩, ?_⟩
          exact congrArg (some 0 :: ·) (hwrites.payload s₁.world.obj)
        · exact hbefore he

/-! ## The array at a moment -/

/-- The array with values stored into its first slots. -/
def applied (data : Fin 512 → UInt8) (values : List Int) : Fin 512 → UInt8 := fun i =>
  match values[(i : ℕ)]? with
  | some value => unsignedChar value
  | none => data i

/-- The last message delivered. -/
def delivered (actions : List Action) : Option Message := actions.reverse.findSome? Action.message?

/-- The message is a frame. -/
def Message.isFrame : Message → Bool
  | frame _ => true
  | _ => false

/-- No frame is being handled in `s`, which `actions` led to. -/
def Sys.Whole (s : Sys) (actions : List Action) : Prop :=
  s.host = .ret () ∨ (delivered actions).any Message.isFrame = false

instance (s : Sys) (actions : List Action) : Decidable (s.Whole actions) :=
  inferInstanceAs (Decidable (_ ∨ _))

/-- The first `k` of `values` are stored in `s` over what the array held in `s₀`, where no message
was being handled. -/
structure Sys.Stores (s : Sys) (s₀ : Sys) (values : List Int) (k : ℕ) : Prop where
  idle : s₀.host = .ret ()
  bound : k ≤ values.length
  host : s.host = frameFrom k (values.drop k)
  data : s.world.obj.dmx_data = applied s₀.world.obj.dmx_data (values.take k)

/-- The last message of `actions`, which led to `s`, is a frame of which a beginning is stored. -/
def Sys.MidFrame (s : Sys) (actions : List Action) : Prop :=
  ∃ before values rest s₀ k, actions = before ++ .message (.frame values) :: rest ∧
    (∀ a ∈ rest, a.message? = none) ∧ Sys.reached before = some s₀ ∧ s.Stores s₀ values k

/-- One more value stored. -/
lemma applied_succ (data : Fin 512 → UInt8) {values : List Int} {k : ℕ} {value : Int}
    (hvalue : values[k]? = some value) (i : Fin 512) :
    applied data (values.take (k + 1)) i =
      if (i : ℕ) = k then unsignedChar value else applied data (values.take k) i := by
  unfold applied
  rw [List.getElem?_take, List.getElem?_take]
  by_cases hi : (i : ℕ) = k
  · rw [if_pos hi, if_pos (by omega), hi, hvalue]
  · by_cases hlt : (i : ℕ) < k
    · rw [if_neg hi, if_pos hlt, if_pos (by omega)]
    · rw [if_neg hi, if_neg hlt, if_neg (by omega)]

/-- Channels behind the array and its neighbour are not stored. -/
lemma frameFrom_beyond (i : ℕ) (hi : 513 ≤ i) (values : List Int) :
    frameFrom i values = .ret () := by
  induction values generalizing i with
  | nil => rfl
  | cons value values ih =>
      unfold frameFrom set_channel
      rw [if_neg (by omega)]
      exact ih (i + 1) (by omega)

/-- A frame with something left to do stores its next value. -/
lemma frameFrom_op {i : ℕ} {values : List Int} {o : Op} {k : o.Ans → Code Unit}
    (h : frameFrom i values = .op o k) :
    ∃ value rest, values = value :: rest ∧ frameFrom i values =
      .op (.setData i (unsignedChar value)) fun _ => frameFrom (i + 1) rest := by
  cases values with
  | nil => cases h
  | cons value rest =>
      refine ⟨value, rest, rfl, ?_⟩
      by_cases hi : i < 513
      · show (set_channel i (unsignedChar value) >>= fun _ => frameFrom (i + 1) rest) = _
        unfold set_channel
        rw [if_pos hi]
        rfl
      · rw [frameFrom_beyond i (by omega)] at h
        cases h

/-- **A store** of a frame. -/
lemma Sys.Stores.step {s s' s₀ : Sys} {values : List Int} {k : ℕ} {r : Reply}
    (h : s.Stores s₀ values k) (hstep : s.step (.host r) = some s') :
    s'.Stores s₀ values (k + 1) := by
  obtain ⟨o, next, hhost, rfl⟩ := Sys.step_host hstep
  rw [h.host] at hhost
  obtain ⟨value, rest, hdrop, hframe⟩ := frameFrom_op hhost
  rw [hframe] at hhost
  cases hhost
  have hvalue : values[k]? = some value := by
    have hhead : (values.drop k)[0]? = values[k + 0]? := List.getElem?_drop
    rw [hdrop] at hhead
    exact hhead.symm
  have hlt : k < values.length := (List.getElem?_eq_some_iff.mp hvalue).1
  refine ⟨h.idle, hlt, ?_, ?_⟩
  · have hrest : values.drop (k + 1) = rest := by
      rw [← List.tail_drop, hdrop, List.tail_cons]
    rw [hrest]
  · funext i
    rw [applied_succ _ hvalue, ← h.data]
    exact s.world.obj.poke_dmx_data k (unsignedChar value) i

/-- The worker stores into no slot. -/
lemma next_slotless {p : Place} (htail : p.TailAll Label.Later) {o : Op}
    (ho : (p.rest thread).next = some o) : o.Slotless := by
  cases p with
  | start l => cases l <;> cases ho <;> trivial
  | within l e k =>
      have hinner : o.Inner := (htail.2.of_next ho).2
      cases o <;> trivial

/-- It leaves the array as it is. -/
lemma Op.Slotless.data {o : Op} (ho : o.Slotless) (x : Obj) :
    (o.effect x).dmx_data = x.dmx_data := by
  cases o <;> first | rfl | exact ho.elim

/-- A step of the worker leaves the array, and what the host has to do. -/
lemma data_worker {s s' : Sys} {r : Reply} (htail : s.worker.TailAll Label.Later)
    (hstep : s.step (.worker r) = some s') :
    s'.host = s.host ∧ s'.world.obj.dmx_data = s.world.obj.dmx_data := by
  rw [Sys.step, Option.some.injEq] at hstep
  subst hstep
  refine ⟨rfl, ?_⟩
  rcases hrest : s.worker.rest thread with l | ⟨o, k⟩
  · rw [Position.step_of_ret hrest]
  · rw [Position.step_of_op hrest]
    exact (next_slotless htail (congrArg Prog.next hrest)).data _

/-- One more action. -/
lemma delivered_append (actions : List Action) (a : Action) :
    delivered (actions ++ [a]) = a.message?.or (delivered actions) := by
  unfold delivered
  rw [List.reverse_append, List.reverse_singleton, List.singleton_append, List.findSome?_cons]
  cases a.message? <;> rfl

/-- **The array at every moment**: no frame is being handled, or a beginning of one is stored. -/
theorem whole_or_midFrame {actions : List Action} {s : Sys} (hs : Sys.reached actions = some s) :
    s.Whole actions ∨ s.MidFrame actions := by
  induction actions using List.reverseRecOn generalizing s with
  | nil =>
      cases hs
      exact Or.inl (Or.inl rfl)
  | append_singleton actions a ih =>
      obtain ⟨s₁, hs₁, hlast⟩ := foldlM_last hs
      obtain ⟨-, hstep⟩ := Sys.stepIf_eq_some hlast
      have htail : s₁.worker.TailAll Label.Later := (runs_of_reached hs₁).tailAll trivial
      -- an action that delivers nothing belongs to the message before it
      have hkept : a.message? = none → delivered (actions ++ [a]) = delivered actions := by
        intro hnone
        rw [delivered_append, hnone, Option.none_or]
      have hlater : a.message? = none → (∀ s₀ values k, s₁.Stores s₀ values k →
          ∃ k', s.Stores s₀ values k') → s₁.MidFrame actions → s.MidFrame (actions ++ [a]) := by
        rintro hnone hstores ⟨before, values, rest, s₀, k, rfl, hrest, hs₀, h⟩
        obtain ⟨k', h'⟩ := hstores s₀ values k h
        refine ⟨before, values, rest ++ [a], s₀, k', by simp, ?_, hs₀, h'⟩
        intro b hb
        rcases List.mem_append.mp hb with hb | hb
        · exact hrest b hb
        · rw [List.mem_singleton.mp hb, hnone]
      cases a with
      | message m =>
          have hdelivered : delivered (actions ++ [.message m]) = some m := by
            rw [delivered_append]
            rfl
          obtain ⟨m', u, hm, hidle, rfl⟩ | ⟨r, o, k, hr, -⟩ | ⟨r, hr, -⟩ := Sys.step_cases hstep
          · cases hm
            cases m with
            | frame values =>
                exact Or.inr ⟨actions, values, [], s₁, 0, rfl, by simp, hs₁, hidle, Nat.zero_le _,
                  rfl, rfl⟩
            | _ => exact Or.inl (Or.inr (by rw [hdelivered]; rfl))
          · cases hr
          · cases hr
      | host r =>
          rcases ih hs₁ with (hidle | hother) | hmid
          · obtain ⟨o, k, hhost, -⟩ := Sys.step_host hstep
            rw [hidle] at hhost
            cases hhost
          · exact Or.inl (Or.inr ((congrArg _ (hkept rfl)).trans hother))
          · exact Or.inr (hlater rfl (fun _ _ _ h => ⟨_, h.step hstep⟩) hmid)
      | worker r =>
          obtain ⟨hhost, hdata⟩ := data_worker htail hstep
          rcases ih hs₁ with (hidle | hother) | hmid
          · exact Or.inl (Or.inl (hhost.trans hidle))
          · exact Or.inl (Or.inr ((congrArg _ (hkept rfl)).trans hother))
          · refine Or.inr (hlater rfl (fun _ _ k h => ⟨k, h.idle, h.bound, ?_, ?_⟩) hmid)
            · rw [hhost, h.host]
            · rw [hdata, h.data]

/-- **A packet is the array at one moment**, that of its one write of the array. At that moment no
frame is being handled, or the array is what it was when the frame being handled was delivered,
with a beginning of that frame stored over it. -/
theorem packet_of_one_moment {actions : List Action} {s : Sys} (hs : Sys.reached actions = some s)
    {packet : List (Option UInt8)} (hpacket : packet ∈ packets s.world.log) :
    ∃ upto s₁, upto <+: actions ∧ Sys.reached upto = some s₁ ∧ s₁.ReadsArray ∧ s₁.Shows packet ∧
      (s₁.Whole upto ∨ s₁.MidFrame upto) := by
  obtain ⟨e, he, hwrites, rfl⟩ := packets_onePass (runs_of_reached hs) hpacket
  obtain ⟨upto, s₁, hupto, hs₁, hreads, hshows⟩ := payload_of_moment hs he hwrites
  exact ⟨upto, s₁, hupto, hs₁, hreads, hshows, whole_or_midFrame hs₁⟩

/-- The device connected; the worker in a tick up to its write of the array; the frame `[1, 1]`
delivered and its first value stored; the write, the break, the second value. -/
def torn : List Action :=
  request .connect 4 ++ workerSteps 51 ++ .worker { dword := some 1 } :: workerSteps 1 ++
    request (.frame [1, 1]) 1 ++ workerSteps 3 ++ [.host .fine]

/-- The packet of `torn` is the array at one moment. -/
theorem packet_of_torn : ∃ packet upto s₁, upto <+: torn ∧ Sys.reached upto = some s₁ ∧
    s₁.ReadsArray ∧ s₁.Shows packet ∧ (s₁.Whole upto ∨ s₁.MidFrame upto) := by
  have hpacket : ∃ s ∈ Sys.reached torn, packets s.world.log ≠ [] := by decide +kernel
  obtain ⟨s, hs, hne⟩ := hpacket
  obtain ⟨packet, hpacket⟩ := List.exists_mem_of_ne_nil _ hne
  exact ⟨packet, packet_of_one_moment hs hpacket⟩

/-- **A frame is seen in part**: the packet of `torn` has the first value of the frame and not the
second. The array was never so at a moment at which no frame was being handled. -/
theorem frame_torn : ∃ s packet, Sys.reached torn = some s ∧ packet ∈ packets s.world.log ∧
    packet.take 3 = [some 0, some 1, some 0] ∧
    ∀ upto s₁, upto <+: torn → Sys.reached upto = some s₁ → s₁.Whole upto →
      packet.tail ≠ (List.ofFn s₁.world.obj.dmx_data).map some := by
  have hpacket : ∃ s ∈ Sys.reached torn, ∃ packet ∈ packets s.world.log,
      packet.take 3 = [some 0, some 1, some 0] := by decide +kernel
  have hequal : ∀ upto ∈ torn.inits, ∀ s₁ ∈ Sys.reached upto, s₁.Whole upto →
      s₁.world.obj.dmx_data 0 = s₁.world.obj.dmx_data 1 := by decide +kernel
  obtain ⟨s, hs, packet, hpacket, htake⟩ := hpacket
  refine ⟨s, packet, hs, hpacket, htake, fun upto s₁ hupto hs₁ hwhole htail => ?_⟩
  have hsame := hequal upto ((List.mem_inits upto torn).mpr hupto) s₁ hs₁ hwhole
  -- slots 0 and 1 of the packet, read off its beginning and off the array
  have hslots : ∀ i : Fin 2, packet.tail[(i : ℕ)]? = (packet.take 3)[(i : ℕ) + 1]? := by
    intro i
    rw [List.getElem?_tail, List.getElem?_take, if_pos (by omega)]
  have hfirst := hslots 0
  have hsecond := hslots 1
  rw [htake, htail, List.getElem?_map, List.getElem?_ofFn] at hfirst hsecond
  have hone : s₁.world.obj.dmx_data 0 = 1 := Option.some.inj (Option.some.inj hfirst)
  have hzero : s₁.world.obj.dmx_data 1 = 0 := Option.some.inj (Option.some.inj hsecond)
  rw [hone, hzero] at hsame
  cases hsame

end Dmx485
