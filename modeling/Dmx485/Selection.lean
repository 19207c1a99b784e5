import Dmx485.Channels
import Dmx485.Dialogue
import Dmx485.Enumeration
import Dmx485.Mailbox
import Dmx485.Interaction.Provenance

/-!
# The indices passed to the driver

An index goes a long way before it reaches the driver: it is checked against a count in one
thread, stored in `deviceNumber`, and read, twice, in the other. Here all of this is followed in
every interleaving, as a flow of values.

* `Op.index?`, `indexFlow`: which operations are given an index, and where one can come from. The
  address that `connect` passes with `FT_LIST_BY_INDEX` is not one of them.
* `thread_sourced`, `handle_sourced`: no function makes an index up.
* `Counted`: the indices known from a log: 0, and those below a number of devices that the driver
  gave with `FT_OK`. `Sys.Sourced.step` is the invariant of runs.
* `index_counted`: every index passed to the driver is 0 or was covered by a count before. That
  `deviceNumber` is a byte does no harm here, since what is below an index is covered with it.

The messages are those that stay in the array: the byte behind it is `deviceNumber`.
-/

namespace Dmx485

open Interaction Relation

/-- The index that an operation passes to the driver. In its second `FT_ListDevices`, `connect`
passes the address of `deviceNumber` where `FT_LIST_BY_INDEX` makes the driver expect an index: that
is no index of the program's, and is not followed here. -/
def Op.index? : Op → Option Int
  | call (.FT_Open index) => some index
  | call (.FT_ListDevices (.index index) _) => some index
  | _ => none

/-- An index is passed to the driver or stored as the device number; it comes from the device
number, or from below a number of devices. -/
def indexFlow : Flow Dm Int where
  needs o i := match o with
    | .setDeviceNumber index => i = index.toNat
    | .setData channel value => channel = 512 ∧ i = value.toNat
    | o => o.index? = some i
  brings o a i := match o, a with
    | .getDeviceNumber, index => i = (UInt8.toNat index : Int)
    | .call c, r => Op.call c = countQuery ∧ Reply.covers r i
    | _, _ => False

/-- Operations that are given no index. -/
def Op.Indexless (o : Op) : Prop := ∀ i, ¬indexFlow.needs o i

/-- An operation that stores no device number and passes no index. -/
lemma indexless_rfl {o : Op} (h : o.Fixed ∧ o.index? = none) : o.Indexless := by
  obtain ⟨ho, hindex⟩ := h
  intro i hi
  cases o with
  | setDeviceNumber index => exact ho
  | setData channel value => exact ho
  | call c => exact absurd (hindex.symm.trans hi) (by simp)
  | _ => cases hi

/-! ## The worker -/

/-- Operations whose calls, if any, are on a handle and leave it open. -/
def Op.OnHandle : Op → Prop
  | call (.FT_Close _) => False
  | call c => c.handle?.isSome = true
  | o => o.Fixed

/-- A call on a handle is given no index. -/
lemma Op.OnHandle.indexless {o : Op} (ho : o.OnHandle) : o.Indexless := by
  cases o with
  | call c =>
      cases c with
      | FT_ListDevices arg flags => cases ho
      | FT_Open index => cases ho
      | FT_Close h => exact ho.elim
      | _ => exact indexless_rfl ⟨trivial, rfl⟩
  | setDeviceNumber index => exact ho.elim
  | setData channel value => exact ho.elim
  | _ => exact indexless_rfl ⟨ho, rfl⟩

/-- A failure of `connect` makes no call. -/
lemma failed_onHandle (c : Console) (format : String) (args : List Arg) :
    (do console c format args; setDmxPointer none).All Op.OnHandle :=
  .step (by trivial) fun _ => .single (by trivial)

/-- The line setup is made of calls on the handle opened. -/
lemma configure_onHandle (t : FT_HANDLE) : (configure t).All Op.OnHandle := by
  unfold configure
  -- The statuses tested split the function; every operation is on `t`.
  repeat' first
    | exact failed_onHandle _ _ _
    | exact .single (by trivial)
    | refine .step (by trivial) fun _ => ?_
    | split_ifs

/-- `disconnect` is given no index. -/
lemma disconnect_indexless : disconnect.All Op.Indexless := by
  unfold disconnect
  repeat' first
    | exact .single (indexless_rfl ⟨by trivial, rfl⟩)
    | refine .step (indexless_rfl ⟨by trivial, rfl⟩) fun _ => ?_
    | split_ifs

/-- A tick is made of calls on the handle stored. -/
lemma timer_onHandle : timer_action.All Op.OnHandle := by
  refine timer_ticking.mono fun o ho => ?_
  cases o with
  | call c =>
      obtain ⟨h, hc⟩ := ho
      cases c <;> first | rfl | exact hc.elim
  | _ => trivial

section sourced

variable {K : Int → Prop} {α : Type}

/-- An operation that is given no index. -/
lemma fed_step {o : Op} {f : o.Ans → Code α} {Q : α → (Int → Prop) → Prop} (ho : o.Indexless)
    (hf : ∀ a K', (∀ i, K i → K' i) → (f a).Fed indexFlow K' Q) :
    (Prog.op o .ret >>= f).Fed indexFlow K Q :=
  .step (fun i hi => absurd hi (ho i)) fun a => hf a _ fun _ => Or.inl

/-- A load of the device number makes it known. -/
lemma fed_getDeviceNumber {f : UInt8 → Code α} {Q : α → (Int → Prop) → Prop}
    (hf : ∀ index K', (∀ i, K i → K' i) → K' (UInt8.toNat index) → (f index).Fed indexFlow K' Q) :
    (getDeviceNumber >>= f).Fed indexFlow K Q :=
  .step (fun i hi => by cases hi) fun a => hf a _ (fun _ => Or.inl) (Or.inr rfl)

/-- Everything that the reply to the query covers is known after `getDeviceCount`. -/
lemma getDeviceCount_fed {Q : Int32 → (Int → Prop) → Prop}
    (hQ : ∀ (r : Reply) (K' : Int → Prop), (∀ i, K i → K' i) → (∀ i, r.covers i → K' i) →
      Q r.count K') : getDeviceCount.Fed indexFlow K Q := by
  unfold getDeviceCount
  refine .step (fun i hi => by cases hi) fun r => ?_
  have hknown : ∀ K' : Int → Prop,
      (∀ i, (K i ∨ indexFlow.brings (.call (.FT_ListDevices .numDevs FT_LIST_NUMBER_ONLY)) r i) →
        K' i) → Q r.count K' :=
    fun K' hK' => hQ r K' (fun i hi => hK' i (Or.inl hi)) fun i hi => hK' i (Or.inr ⟨rfl, hi⟩)
  unfold Reply.count at hknown
  dsimp only
  split_ifs with hfailed
  · rw [if_pos hfailed] at hknown
    exact fed_step (indexless_rfl ⟨trivial, rfl⟩) fun _ K' hK' => hknown K' hK'
  · rw [if_neg hfailed] at hknown
    exact fed_step (indexless_rfl ⟨trivial, rfl⟩) fun _ K' hK' => hknown K' hK'

/-- A name lookup is given its index. -/
lemma getDeviceNameForIndex_fed {index : Int} {Buffer : String} {f : String → Code α}
    {Q : α → (Int → Prop) → Prop} (hindex : K index)
    (hf : ∀ s K', (∀ i, K i → K' i) → (f s).Fed indexFlow K' Q) :
    (getDeviceNameForIndex index Buffer >>= f).Fed indexFlow K Q := by
  refine Prog.Fed.bind (.step (fun i hi => ?_) fun r => ?_)
  · cases hi
    exact hindex
  · exact fed_step (indexless_rfl ⟨trivial, rfl⟩) fun _ K' hK' => hf _ K' fun i hi =>
      hK' i (Or.inl hi)

/-- What `connect` does, once it has been entered. -/
lemma connect_sourced : connect.Sourced indexFlow K := by
  unfold connect
  refine fed_step (indexless_rfl ⟨trivial, rfl⟩) fun _ K₁ _ => ?_
  refine Prog.Fed.bind (getDeviceCount_fed fun n K₂ _ _ => ?_)
  refine Prog.Sourced.bind (Prog.sourced_of_all ?_ _) fun free => ?_
  · unfold mayOpen
    split_ifs
    · exact .step (indexless_rfl ⟨trivial, rfl⟩) fun _ => trivial
    · trivial
  cases free with
  | false => exact Prog.sourced_of_all (failed_onHandle _ _ _ |>.mono fun _ ho => ho.indexless) _
  | true =>
      refine fed_getDeviceNumber fun index K₃ _ hindex => ?_
      refine getDeviceNameForIndex_fed hindex fun _ K₄ _ => ?_
      refine fed_step (indexless_rfl ⟨trivial, rfl⟩) fun _ K₅ _ => ?_
      refine fed_step (indexless_rfl ⟨trivial, rfl⟩) fun p K₆ _ => ?_
      split_ifs
      · refine Prog.Fed.bind (fed_step (indexless_rfl ⟨trivial, rfl⟩) fun _ K₇ _ => ?_)
        refine fed_getDeviceNumber fun index' K₈ _ hindex' => ?_
        refine .step (fun i hi => ?_) fun opened => ?_
        · cases hi
          exact hindex'
        refine fed_step (indexless_rfl ⟨trivial, rfl⟩) fun _ K₉ _ => ?_
        exact Prog.sourced_of_all ((configure_onHandle _).mono fun _ ho => ho.indexless) _
      · exact Prog.sourced_of_all ((failed_onHandle _ _ _).mono fun _ ho => ho.indexless) _

/-- **No block of the loop makes an index up.** -/
theorem thread_sourced (l : Label) : (thread l).Sourced indexFlow K := by
  have hcall : ∀ {p : Code Unit} {l' : Label}, p.Sourced indexFlow K →
      (p >>= fun _ => .ret l').Sourced indexFlow K :=
    fun hp => hp.bind fun _ => trivial
  have hquiet : ∀ {p : Code Unit}, p.All Op.OnHandle → p.Sourced indexFlow K :=
    fun hp => Prog.sourced_of_all (hp.mono fun _ ho => ho.indexless) K
  cases l with
  | connect => exact hcall connect_sourced
  | disconnect => exact hcall (Prog.sourced_of_all disconnect_indexless K)
  | disconnect3 => exact hcall (Prog.sourced_of_all disconnect_indexless K)
  | tick => exact hcall (hquiet timer_onHandle)
  | _ => exact ⟨fun i hi => (by cases hi), fun _ => trivial⟩

/-! ## The messages -/

/-- The rest of the menu looks up names below the count. -/
lemma printFrom_sourced (count i : ℕ) (hK : ∀ j : Int, 0 ≤ j → j ≤ (i + count : ℕ) - 1 → K j) :
    (printFrom count i).Sourced indexFlow K := by
  induction count generalizing i K with
  | zero => trivial
  | succ count ih =>
      unfold printFrom
      refine fed_step (indexless_rfl ⟨trivial, rfl⟩) fun r K₁ h₁ => ?_
      refine getDeviceNameForIndex_fed (h₁ _ (hK _ (by omega) (by omega))) fun _ K₂ h₂ => ?_
      refine fed_step (indexless_rfl ⟨trivial, rfl⟩) fun _ K₃ h₃ => ?_
      refine fed_step (indexless_rfl ⟨trivial, rfl⟩) fun _ K₄ h₄ => ?_
      exact ih (i + 1) fun j hpos hlt =>
        h₄ j (h₃ j (h₂ j (h₁ j (hK j hpos (by push_cast at hlt ⊢; omega)))))

/-- `print` looks up the names below the count it has got. -/
lemma dmx_print_sourced : dmx_print.Sourced indexFlow K := by
  refine Prog.Fed.bind (getDeviceCount_fed fun r K₁ _ hcovers => ?_)
  refine fed_step (indexless_rfl ⟨trivial, rfl⟩) fun _ K₂ h₂ => ?_
  exact printFrom_sourced _ 0 fun j hpos hlt =>
    h₂ j (hcovers j (covers_of_lt_count hpos (by omega)))

/-- An index that passes the test is one of a device; so is what it becomes as an
`unsigned char`. -/
lemma dmx_select_device_sourced (argv : List Int) :
    (dmx_select_device argv).Sourced indexFlow K := by
  unfold dmx_select_device wrongIndex
  generalize argv.headD (-1) = dev
  dsimp only
  split_ifs with hnegative
  · exact fed_step (indexless_rfl ⟨trivial, rfl⟩) fun _ _ _ => trivial
  · refine Prog.Fed.bind (Prog.Fed.bind (getDeviceCount_fed fun r K₁ _ hcovers => ?_))
    by_cases hwrong : dev > (r.count - 1).toInt
    · show Prog.Fed indexFlow (if decide (dev > (r.count - 1).toInt) = true then _ else _) K₁ _
      rw [if_pos (decide_eq_true hwrong)]
      exact fed_step (indexless_rfl ⟨trivial, rfl⟩) fun _ _ _ => trivial
    · show Prog.Fed indexFlow (if decide (dev > (r.count - 1).toInt) = true then _ else _) K₁ _
      rw [if_neg (by simpa using hwrong)]
      refine ⟨fun i hi => ?_, fun _ => trivial⟩
      have hi : i = (unsignedChar dev).toNat := hi
      have hbyte : (unsignedChar dev).toNat = (dev % 256).toNat := by
        unfold unsignedChar
        exact UInt8.toNat_ofNat_of_lt (by show (dev % 256).toNat < 256; omega)
      have hadmits : r.admits dev := ⟨by omega, by omega⟩
      obtain ⟨hok, hpos, hlt⟩ := covers_of_admits hadmits
      rw [hi, hbyte]
      exact hcovers _ ⟨hok, by omega, by omega⟩

/-- The message stays in the array. -/
def Message.InArray : Message → Prop
  | list channel _ => channel % 0x100000000 ≠ 512
  | frame items => items.length ≤ 512
  | _ => True

instance : (m : Message) → Decidable m.InArray
  | .list channel _ => inferInstanceAs (Decidable (channel % 0x100000000 ≠ 512))
  | .frame items => inferInstanceAs (Decidable (items.length ≤ 512))
  | .refresh | .print | .version | .connect | .device _ | .auto_connect _ | .disconnect =>
    isTrue trivial

/-- A store into a slot stores no device number. -/
lemma Op.SetsSlot.indexless {o : Op} (ho : o.SetsSlot) : o.Indexless := by
  intro i hi
  cases o with
  | setData k value =>
      have hlt : k < 512 := ho
      have hk : k = 512 := hi.1
      omega
  | _ => exact ho

/-- **No message makes an index up**, if it stays in the array. -/
theorem handle_sourced {m : Message} (hm : m.InArray) : (handle m).Sourced indexFlow K := by
  have hslots : ∀ {p : Code Unit}, p.All Op.SetsSlot → p.Sourced indexFlow K :=
    fun hp => Prog.sourced_of_all (hp.mono fun _ ho => ho.indexless) K
  have hnone : ∀ {p : Code Unit} {K : Int → Prop}, p.All Op.OnHandle → p.Sourced indexFlow K :=
    fun hp => Prog.sourced_of_all (hp.mono fun _ ho => ho.indexless) _
  cases m with
  | list channel value =>
      refine hslots ((set_channel_setsSlot _ _).mpr ?_)
      have hne : channel % 0x100000000 ≠ 512 := hm
      unfold unsignedInt
      omega
  | frame items =>
      have hlength : items.length ≤ 512 := hm
      exact hslots ((frameFrom_setsSlot (Nat.zero_le 512) items).mpr (by omega))
  | print => exact dmx_print_sourced
  | device argv => exact dmx_select_device_sourced argv
  | version => exact hnone (.single (by trivial))
  | auto_connect argv =>
      show (dmx_auto_connect argv).Sourced indexFlow K
      unfold dmx_auto_connect
      by_cases hcon : argv.headD (-1) ≥ 0
      · simp only [hcon, if_true]
        exact ⟨fun i hi => (by cases hi), fun _ => hnone (.single (by trivial))⟩
      · simp only [hcon, if_false]
        trivial
  | connect =>
      refine hnone (.step (by trivial) fun _ => .step (by trivial) fun _ => .step (by trivial)
        fun p => ?_)
      split_ifs
      · exact .single (by trivial)
      · trivial
  | refresh =>
      exact hnone (.step (by trivial) fun _ => .step (by trivial) fun _ => .step (by trivial)
        fun _ => .single (by trivial))
  | disconnect =>
      exact hnone (.step (by trivial) fun _ => .step (by trivial) fun _ => .single (by trivial))

end sourced

/-! ## Runs -/

/-- The index is 0, or it was one of a device when the driver was asked for their number before. -/
def Counted (log : List Event) (i : Int) : Prop :=
  i = 0 ∨ ∃ e ∈ log, e.op = countQuery ∧ e.reply.covers i

/-- What has been counted stays counted. -/
lemma Counted.cons {log : List Event} {i : Int} (h : Counted log i) (e : Event) :
    Counted (e :: log) i :=
  h.imp_right fun ⟨d, hd, hcovers⟩ => ⟨d, List.mem_cons_of_mem e hd, hcovers⟩

/-- No index has been made up so far, and none is about to be. -/
structure Sys.Sourced (s : Sys) : Prop where
  worker : (s.worker.rest thread).Sourced indexFlow (Counted s.world.log)
  host : s.host.Sourced indexFlow (Counted s.world.log)
  number : Counted s.world.log s.world.obj.deviceNumber.toNat
  past : ∀ after e before, s.world.log = after ++ e :: before →
    ∀ i, indexFlow.needs e.op i → Counted before i

/-- What an answer brings is counted. -/
lemma counted_of_brings {party : Party} {o : Op} {r : Reply} {w : World}
    (hnumber : Counted w.log w.obj.deviceNumber.toNat) {i : Int}
    (hi : indexFlow.brings o ((machine party).exec o r w).1 i) :
    Counted ((machine party).exec o r w).2.log i := by
  cases o with
  | getDeviceNumber =>
      have hi : i = (w.obj.deviceNumber.toNat : Int) := hi
      rw [hi]
      exact hnumber.cons _
  | call c => exact Or.inr ⟨_, List.mem_cons_self, hi.1, hi.2⟩
  | _ => exact hi.elim

/-- An operation given nothing but counted indices leaves a counted device number. -/
lemma counted_number {party : Party} {o : Op} {r : Reply} {w : World}
    (hnumber : Counted w.log w.obj.deviceNumber.toNat)
    (hneeds : ∀ i, indexFlow.needs o i → Counted w.log i) :
    Counted ((machine party).exec o r w).2.log
      ((machine party).exec o r w).2.obj.deviceNumber.toNat := by
  refine Counted.cons ?_ _
  cases o with
  | setDeviceNumber index => exact hneeds _ rfl
  | setData k value =>
      show Counted w.log ((w.obj.poke k value).deviceNumber.toNat : Int)
      unfold Obj.poke
      split_ifs with hlt heq
      · exact hnumber
      · exact hneeds _ ⟨heq, rfl⟩
      · exact hnumber
  | _ => exact hnumber

/-- The log after an operation given nothing but counted indices. -/
lemma past_exec {party : Party} {o : Op} {r : Reply} {w : World}
    (hpast : ∀ after e before, w.log = after ++ e :: before →
      ∀ i, indexFlow.needs e.op i → Counted before i)
    (hneeds : ∀ i, indexFlow.needs o i → Counted w.log i) :
    ∀ after e before, ((machine party).exec o r w).2.log = after ++ e :: before →
      ∀ i, indexFlow.needs e.op i → Counted before i := by
  intro after e before hlog
  rw [machine_log] at hlog
  obtain ⟨rfl, hhead⟩ | ⟨after', rfl, htail⟩ := List.cons_eq_append_iff.mp hlog
  · cases hhead
    exact hneeds
  · exact hpast after' e before htail

/-- Every message stays in the array. -/
def StaysInArray (_ : Sys) (a : Action) : Prop := ∀ m ∈ a.message?, m.InArray

instance (s : Sys) (a : Action) : Decidable (StaysInArray s a) :=
  inferInstanceAs (Decidable (∀ m ∈ a.message?, m.InArray))

/-- **One action.** -/
lemma Sys.Sourced.step {s s' : Sys} {a : Action} (h : s.Sourced) (ha : StaysInArray s a)
    (hstep : s.step a = some s') : s'.Sourced := by
  have hgrows : ∀ party o r i, Counted s.world.log i →
      Counted ((machine party).exec o r s.world).2.log i := fun _ _ _ _ hi => hi.cons _
  obtain ⟨m, u, rfl, -, rfl⟩ | ⟨r, o, k, rfl, hhost, rfl⟩ | ⟨r, rfl, rfl⟩ := Sys.step_cases hstep
  · exact ⟨h.worker, handle_sourced (ha m rfl), h.number, h.past⟩
  · have hsourced := h.host
    rw [hhost] at hsourced
    refine ⟨h.worker.mono (hgrows .host o r), ?_, counted_number h.number hsourced.1,
      past_exec h.past hsourced.1⟩
    exact Prog.Sourced.mono (fun i hi => hi.elim (hgrows .host o r i)
      (counted_of_brings h.number)) (hsourced.2 _)
  · rcases hrest : s.worker.rest thread with l | ⟨o, k⟩
    · rw [Position.step_of_ret hrest]
      exact ⟨thread_sourced l, h.host, h.number, h.past⟩
    · have hlater : ∀ l, (thread l).Sourced indexFlow
          (Counted ((machine .worker).exec o r s.world).2.log) := thread_sourced
      have hmove := Position.sourced_step (M := machine .worker) h.worker hlater r s.world
        (hgrows .worker o r)
      rw [hrest, Position.step_of_op hrest] at hmove
      obtain ⟨hneeds, hworker⟩ := hmove fun o' ho' i hi => by
        cases ho'
        exact counted_of_brings h.number hi
      rw [Position.step_of_op hrest]
      exact ⟨hworker, h.host.mono (hgrows .worker o r), counted_number h.number (hneeds o rfl),
        past_exec h.past (hneeds o rfl)⟩

/-- The invariant holds along every run. -/
lemma sourced_of_runs {s : Sys} (hrun : Runs StaysInArray Sys.initial s) : s.Sourced := by
  induction hrun with
  | refl =>
      refine ⟨thread_sourced .head, trivial, Or.inl rfl, fun after e before h => ?_⟩
      exact absurd h (by simp [Sys.initial])
  | tail _ hstep ih =>
      obtain ⟨a, ha, hstep⟩ := hstep
      exact ih.step ha hstep

/-- **Every index passed to the driver is one of a device**: in every interleaving of messages that
stay in the array, and against every driver, an index passed to `FT_Open` or to `FT_ListDevices`, by
either thread, is 0, or below the number of devices that the driver gave, with `FT_OK`, at a query
before. The address `&deviceNumber` in the second `FT_ListDevices` of `connect` is not among these
indices, although its flags ask for one. -/
theorem index_counted {s : Sys} (hrun : Runs StaysInArray Sys.initial s) {e : Event}
    {after before : List Event} (hlog : s.world.log = after ++ e :: before) {i : Int}
    (hindex : e.op.index? = some i) :
    i = 0 ∨ ∃ d ∈ before, d.op = countQuery ∧ d.reply.covers i := by
  refine (sourced_of_runs hrun).past after e before hlog i ?_
  revert hindex
  cases e.op with
  | call c => exact id
  | _ => exact fun hnone => absurd hnone (by simp [Op.index?])

/-- Device 3 selected while the driver counts 512 of them, and opened. -/
theorem index_counted_selected : ∃ s : Sys, ∃ d ∈ s.world.log, d.op = countQuery ∧
    d.reply.covers 3 := by
  have hruns := Runs.of_plays StaysInArray (fun s => ∃ e ∈ s.world.log.head?,
    e.op = .call (.FT_Open 3)) Sys.initial
    (request (.device [3]) 3 ++ request .connect 4 ++ workerSteps 14) (by decide +kernel)
  obtain ⟨s, hrun, e, he, hopen⟩ := hruns
  have hlog : s.world.log = [] ++ e :: s.world.log.tail := List.eq_cons_of_mem_head? he
  have hindex : e.op.index? = some 3 := by rw [hopen]; rfl
  obtain hzero | ⟨d, hd, hcounted⟩ := index_counted hrun hlog hindex
  · exact absurd hzero (by decide)
  · exact ⟨s, d, List.mem_of_mem_tail hd, hcounted⟩

end Dmx485
