import Dmx485.Turns
import Mathlib.Data.List.Induction

/-!
# The packets on the wire

What a tick transmits, as a function of the messages received so far and of nothing else. The
abstract model is a list of items: a list message is one, a frame is as many as it has values, and
a channel has the value of the last item for it, modulo 256, or 0.

* `Item`, `slot`: the value the history of addressed items gives a channel.
* `dmx_data_play`: after any history of messages and iterations, the array holds these values,
  whatever the driver answered.
* `Op.Slotless`: operations that store into no slot, the only ones the worker performs.
* `Event.accepted`, `lastPacket`: the bytes the driver took of a write, and of all writes since the
  break.
* `packet_refines_history`: a packet taken in full is the start byte followed by the 512 values of
  the history, for every script in which the two writes are taken in full.
-/

namespace Dmx485

open Interaction

/-! ## Addressed items -/

/-- An item of a message, with the channel it is addressed to. -/
structure Item where
  channel : Int
  value : Int
  deriving DecidableEq, Repr

/-- The items of a message. -/
def Message.items : Message → List Item
  | list channel value => [⟨channel % 0x100000000, value⟩]
  | frame values => values.zipIdx.map fun v => ⟨v.2, v.1⟩
  | _ => []

/-- The items of a turn. -/
def Turn.items : Turn → List Item
  | message m => m.items
  | iteration => []

/-- The item is addressed to channel `k`. -/
def Item.For (item : Item) (k : Fin 512) : Prop := item.channel = ((k : ℕ) : Int)

instance (item : Item) (k : Fin 512) : Decidable (item.For k) :=
  inferInstanceAs (Decidable (_ = _))

/-- The value an item gives its channel. -/
def Item.byte (item : Item) : UInt8 := UInt8.ofNat (item.value % 256).toNat

/-- The value of a channel: that of the last item addressed to it, modulo 256, or 0. -/
def slot (items : List Item) (k : Fin 512) : UInt8 :=
  match items.reverse.find? fun item => decide (item.For k) with
  | some item => item.byte
  | none => 0

/-- An item stored. -/
def Item.store (data : Fin 512 → UInt8) (item : Item) : Fin 512 → UInt8 := fun k =>
  if item.For k then item.byte else data k

/-- The last item wins: storing them one after the other gives the value of each channel. -/
lemma foldl_store (items : List Item) : items.foldl Item.store (fun _ => 0) = slot items := by
  induction items using List.reverseRecOn with
  | nil => rfl
  | append_singleton items item ih =>
      funext k
      rw [List.foldl_append, ih]
      by_cases hk : item.For k
      · simp [slot, Item.store, hk]
      · simp [slot, Item.store, hk]

/-! ## Replaying a history -/

/-- `set_channel` stores into one slot, if the channel is one. -/
lemma set_channel_data (channel : ℕ) (value : UInt8) (f : Script Dm Reply) (w : World)
    (k : Fin 512) : ((machine .host).after (set_channel channel value) f w).obj.dmx_data k =
      if (k : ℕ) = channel then value else w.obj.dmx_data k := by
  unfold set_channel
  split_ifs with hlt hk hk
  · exact (w.obj.poke_dmx_data channel value k).trans (if_pos hk)
  · exact (w.obj.poke_dmx_data channel value k).trans (if_neg hk)
  · exact absurd k.isLt (by omega)
  · rfl

/-- The two conversions of a list message's value keep it modulo 256. -/
lemma unsignedChar_unsignedInt (value : Int) :
    unsignedChar (unsignedInt value) = UInt8.ofNat (value % 256).toNat := by
  unfold unsignedChar unsignedInt
  congr 2
  omega

/-- A list message stores its item, with the channel modulo 2³². -/
lemma dmx_message_data (channel value : Int) (f : Script Dm Reply) (w : World) :
    ((machine .host).after (dmx_message channel value) f w).obj.dmx_data =
      Item.store w.obj.dmx_data ⟨channel % 0x100000000, value⟩ := by
  funext k
  unfold dmx_message
  rw [set_channel_data, unsignedChar_unsignedInt]
  unfold Item.store unsignedInt
  by_cases hk : channel % 0x100000000 = ((k : ℕ) : Int)
  · have hfor : (⟨channel % 0x100000000, value⟩ : Item).For k := hk
    rw [if_pos hfor, if_pos (by omega)]
    rfl
  · have hfor : ¬(⟨channel % 0x100000000, value⟩ : Item).For k := hk
    rw [if_neg hfor, if_neg (by omega)]

/-- An item of a frame is stored under its index. -/
lemma set_channel_store (i : ℕ) (value : Int) (f : Script Dm Reply) (w : World) :
    ((machine .host).after (set_channel i (unsignedChar value)) f w).obj.dmx_data =
      Item.store w.obj.dmx_data ⟨i, value⟩ := by
  funext k
  rw [set_channel_data]
  unfold Item.store unsignedChar
  by_cases hk : (k : ℕ) = i
  · have hfor : (⟨i, value⟩ : Item).For k := congrArg Nat.cast hk.symm
    rw [if_pos hk, if_pos hfor]
    rfl
  · have hfor : ¬(⟨i, value⟩ : Item).For k := fun h => hk (Int.ofNat.inj h).symm
    rw [if_neg hk, if_neg hfor]

/-- The rest of a frame stores its items one after the other. -/
lemma frameFrom_data (i : ℕ) (values : List Int) (f : Script Dm Reply) (w : World) :
    ((machine .host).after (frameFrom i values) f w).obj.dmx_data =
      ((values.zipIdx i).map fun v => (⟨v.2, v.1⟩ : Item)).foldl Item.store w.obj.dmx_data := by
  induction values generalizing i f w with
  | nil => rfl
  | cons value values ih =>
      unfold frameFrom
      rw [Machine.after_bind, ih, set_channel_store]
      rfl

/-- Operations that store into no slot. -/
def Op.Slotless : Op → Prop
  | setData .. => False
  | _ => True

/-- Fixed operations store into no slot. -/
lemma Op.Fixed.slotless {o : Op} (ho : o.Fixed) : o.Slotless := by
  cases o <;> trivial

/-- Nor does asking. -/
lemma Op.Asking.slotless {o : Op} (ho : o.Asking) : o.Slotless := by
  cases o <;> trivial

/-- A message without items stores into no slot. -/
lemma handle_slotless {m : Message} (hm : ∀ channel value, m ≠ .list channel value)
    (hm' : ∀ values, m ≠ .frame values) : (handle m).All Op.Slotless := by
  cases m with
  | list channel value => exact absurd rfl (hm channel value)
  | frame values => exact absurd rfl (hm' values)
  | refresh =>
      exact .step (by trivial) fun _ => .step (by trivial) fun _ => .step (by trivial) fun _ =>
        .single (by trivial)
  | print => exact dmx_print_asking.mono fun _ ho => ho.slotless
  | version => exact .single (by trivial)
  | connect =>
      refine .step (by trivial) fun _ => .step (by trivial) fun _ => .step (by trivial) fun p => ?_
      split_ifs
      · exact .single (by trivial)
      · trivial
  | device argv => exact dmx_select_device_all (fun _ ho => ho.slotless) (fun _ => trivial) argv
  | auto_connect argv =>
      exact dmx_auto_connect_all (fun _ ho => ho.slotless) (fun _ => trivial) argv
  | disconnect =>
      exact .step (by trivial) fun _ => .step (by trivial) fun _ => .single (by trivial)

/-- A program that stores into no slot leaves the array as it is. -/
lemma slotless_after {p : Code Unit} (hp : p.All Op.Slotless) (party : Party)
    (f : Script Dm Reply) (w : World) :
    ((machine party).after p f w).obj.dmx_data = w.obj.dmx_data := by
  refine Machine.after_of_all (F := fun w => w.obj.dmx_data) (fun o r w ho => ?_) hp f w
  cases o <;> first | rfl | exact ho.elim

/-- **A turn** stores its items and nothing else. -/
lemma dmx_data_turn (t : Turn) (f : Script Dm Reply) (w : World) :
    (t.run f w).obj.dmx_data = t.items.foldl Item.store w.obj.dmx_data := by
  cases t with
  | iteration => exact slotless_after (threadBody_fixed.mono fun _ ho => ho.slotless) .worker f w
  | message m =>
      cases m with
      | list channel value => exact dmx_message_data channel value f w
      | frame values => exact frameFrom_data 0 values f w
      | _ => exact slotless_after (handle_slotless (by simp) (by simp)) .host f w

/-- **The array holds the history's values**, whatever the driver answered. -/
theorem dmx_data_play (history : History) :
    (history.play ⟨Obj.initial, []⟩).obj.dmx_data =
      slot (history.flatMap fun turn => turn.1.items) := by
  rw [← foldl_store]
  induction history using List.reverseRecOn with
  | nil => rfl
  | append_singleton history turn ih =>
      rw [History.play, List.foldl_append, List.flatMap_append, List.foldl_append, ← ih]
      show (turn.1.run _ _).obj.dmx_data = _
      rw [dmx_data_turn]
      simp [History.play]

/-! ## One packet -/

/-- The bytes of an event that the driver took. -/
def Event.accepted (e : Event) : List (Option UInt8) :=
  match e.op with
  | .call (.FT_Write _ _ n) => e.payload.take (e.reply.accepted n.toNat)
  | _ => []

/-- What the driver takes of a write. -/
lemma accepted_write (party : Party) (p : FT_HANDLE) (b : Buffer) (n : DWORD) (r : Reply)
    (payload : List (Option UInt8)) :
    (⟨party, .call (.FT_Write p b n), r, payload⟩ : Event).accepted =
      payload.take (r.accepted n.toNat) := rfl

/-- A write that is taken in full is its payload. -/
lemma accepted_full {p : FT_HANDLE} {b : Buffer} {n : DWORD} {r : Reply} (hr : r.Full n)
    (party : Party) (x : Obj) :
    (⟨party, .call (.FT_Write p b n), r, (Op.call (.FT_Write p b n)).payload x⟩ :
      Event).accepted = (Op.call (.FT_Write p b n)).payload x := by
  rw [accepted_write, hr.accepted]
  exact List.take_of_length_le (Nat.le_of_eq (x.length_bytes b n.toNat))

/-- A write of the whole array hands over the array. -/
lemma payload_array (p : FT_HANDLE) (x : Obj) :
    (Op.call (.FT_Write p (.dmx_data 0) 512)).payload x = (List.ofFn x.dmx_data).map some := by
  have hlength : (512 : DWORD).toNat = 512 := by decide
  unfold Op.payload
  dsimp only
  rw [hlength, Obj.bytes_dmx_data]

/-- With nothing sent of the 512 bytes, all of them are left. -/
lemma eq_of_sub_toNat {n : DWORD} (hn : (512 - n).toNat = 0) : n = 512 := by
  rw [UInt32.toNat_sub] at hn
  have hlt := n.toNat_lt
  apply UInt32.toNat_inj.mp
  have hnumeral : (512 : DWORD).toNat = 512 := rfl
  omega

/-- The event switches the break off. -/
def Event.breaksOff (e : Event) : Bool :=
  match e.op with
  | .call (.FT_SetBreakOff _) => true
  | _ => false

/-- The event sets the break. -/
def Event.breaksOn (e : Event) : Bool :=
  match e.op with
  | .call (.FT_SetBreakOn _) => true
  | _ => false

/-- The bytes the driver took between the last `FT_SetBreakOn` and the `FT_SetBreakOff` before. -/
def lastPacket (log : List Event) : List (Option UInt8) :=
  ((log.dropWhile fun e => !e.breaksOn).takeWhile fun e => !e.breaksOff).reverse.flatMap
    Event.accepted

/-- Events after the last packet do not belong to it. -/
lemma lastPacket_cons {e : Event} (he : e.breaksOn = false) (log : List Event) :
    lastPacket (e :: log) = lastPacket log := by
  unfold lastPacket
  rw [List.dropWhile_cons_of_pos]
  rw [he]
  rfl

/-- The write of the start byte on handle `h`. -/
def startWrite (h : Handle) : Op := .call (.FT_Write (some h) (.start 0) 1)

/-- The first write of the data on handle `h`. -/
def dataWrite (h : Handle) : Op := .call (.FT_Write (some h) (.dmx_data 0) 512)

/-- The data loop after a first write that takes the whole array: it ends there. -/
lemma sendData_full (fuse : ℕ) (written : DWORD) (s : FT_STATUS) (f : Script Dm Reply) (w : World)
    {h : Handle} (hptr : w.obj.dmxPointer = some h)
    (hdata : (f 1 (dataWrite h)).dword = some 512) :
    (machine .worker).run (sendData (fuse + 1) 512 written s) f w =
      ((f 1 (dataWrite h)).status, f.rest.rest,
        ⟨w.obj, workerEvent (dataWrite h) (f 1 (dataWrite h)) w.obj ::
          workerEvent .getDmxPointer (f 0 .getDmxPointer) w.obj :: w.log⟩) := by
  have hdone : ∀ (n : ℕ) (st : FT_STATUS), sendData n 0 512 st = .ret st := by
    intro n st
    cases n with
    | zero => rfl
    | succ n => exact if_pos rfl
  have hoffset : 512 * ((512 : DWORD) - 512).toNat = 0 := by decide
  have hleft : (512 : DWORD) - 512 = 0 := by decide
  unfold dataWrite at *
  unfold sendData
  rw [if_neg (by decide), run_getDmxPointer, hptr]
  dsimp only
  rw [hoffset, run_call, Script.rest_apply, hdata, Option.getD_some, hleft, hdone]
  rfl

/-- The log of a tick whose writes are taken in full, newest first: purge, break on, data, start
byte, break off, with a load of the handle before each, and the entry. -/
lemma log_timer (g : Script Dm Reply) (w : World) {h : Handle} (hptr : w.obj.dmxPointer = some h)
    (hdata : (g 8 (dataWrite h)).Full 512) :
    ∃ purge load₁ on load₂ load₃ load₄ off before,
      ((machine .worker).after timer_action g w).log =
        ⟨.worker, .call (.FT_Purge (some h) (FT_PURGE_RX ||| FT_PURGE_TX)), purge, []⟩ ::
        ⟨.worker, .getDmxPointer, load₁, []⟩ ::
        ⟨.worker, .call (.FT_SetBreakOn (some h)), on, []⟩ ::
        ⟨.worker, .getDmxPointer, load₂, []⟩ ::
        workerEvent (dataWrite h) (g 8 (dataWrite h)) w.obj ::
        ⟨.worker, .getDmxPointer, load₃, []⟩ ::
        workerEvent (startWrite h) (g 6 (startWrite h)) w.obj ::
        ⟨.worker, .getDmxPointer, load₄, []⟩ ::
        ⟨.worker, .call (.FT_SetBreakOff (some h)), off, []⟩ :: before := by
  have hsend : ∀ written s log, (machine .worker).run (sendData 10 512 written s)
      g.rest.rest.rest.rest.rest.rest.rest ⟨w.obj, log⟩ = _ :=
    fun written s log => sendData_full 9 written s _ ⟨w.obj, log⟩ hptr hdata.2
  unfold Machine.after timer_action sendFrame
  rw [run_enter, Machine.run_bind, run_indeterminate, run_getDmxPointer, hptr]
  simp only [Option.isSome_some, if_true, run_getDmxPointer, run_call, hptr]
  rw [Machine.run_bind]
  simp only [hsend, run_getDmxPointer, run_call, hptr]
  exact ⟨_, _, _, _, _, _, _, _, rfl⟩

/-- A tick that is taken in full transmits the start byte and the array. The start write is its
sixth operation after the entry, the first data write its eighth. -/
lemma lastPacket_timer (g : Script Dm Reply) (w : World) {h : Handle}
    (hptr : w.obj.dmxPointer = some h) (hstart : (g 6 (startWrite h)).Full 1)
    (hdata : (g 8 (dataWrite h)).Full 512) :
    lastPacket ((machine .worker).after timer_action g w).log =
      some 0 :: (List.ofFn w.obj.dmx_data).map some := by
  obtain ⟨purge, load₁, on, load₂, load₃, load₄, off, before, hlog⟩ := log_timer g w hptr hdata
  have hs : (workerEvent (startWrite h) (g 6 (startWrite h)) w.obj).accepted = [some 0] :=
    accepted_full hstart .worker w.obj
  have hd : (workerEvent (dataWrite h) (g 8 (dataWrite h)) w.obj).accepted =
      (List.ofFn w.obj.dmx_data).map some := by
    unfold dataWrite at hdata ⊢
    unfold workerEvent
    rw [accepted_full hdata, payload_array]
  rw [hlog]
  show [] ++ (Event.accepted _ ++ ([] ++ (Event.accepted _ ++ ([] ++ ([] ++ []))))) = _
  rw [hs, hd]
  simp only [List.nil_append, List.append_nil, List.singleton_append]

/-- **The wire refines the message history.** Take any history of messages and iterations from the
initial object, with any driver answers, and an iteration after it, against a script `f` of which
serving the mailbox leaves `g`. If the tick then runs with a handle, and the driver takes the
start write (operation 7 of what is left: the test of `threadOn` and the entry come first) and the
first data write (operation 9) in full, the packet is the start byte 0 followed by the 512 values
of the history. -/
theorem packet_refines_history (history : History) {f g : Script Dm Reply} {w : World} {h : Handle}
    (hpoll : (machine .worker).run pollMailbox f (history.play ⟨Obj.initial, []⟩) = ((), g, w))
    (hon : w.obj.threadOn = true) (hptr : w.obj.dmxPointer = some h)
    (hstart : (g 7 (startWrite h)).Full 1) (hdata : (g 9 (dataWrite h)).Full 512) :
    lastPacket ((machine .worker).after threadBody f (history.play ⟨Obj.initial, []⟩)).log =
      some 0 :: (List.ofFn (slot (history.flatMap fun turn => turn.1.items))).map some := by
  have hslots : w.obj.dmx_data = slot (history.flatMap fun turn => turn.1.items) := by
    rw [← dmx_data_play]
    have hkept := slotless_after (pollMailbox_fixed.mono fun _ ho => ho.slotless) .worker f
      (history.play ⟨Obj.initial, []⟩)
    unfold Machine.after at hkept
    rw [hpoll] at hkept
    exact hkept
  have htick := lastPacket_timer g.rest
    ⟨w.obj, workerEvent .getThreadOn (g 0 .getThreadOn) w.obj :: w.log⟩ hptr hstart hdata
  have hiteration : ∃ e : Event, e.breaksOn = false ∧
      ((machine .worker).after threadBody f (history.play ⟨Obj.initial, []⟩)).log =
        e :: ((machine .worker).after timer_action g.rest
          ⟨w.obj, workerEvent .getThreadOn (g 0 .getThreadOn) w.obj :: w.log⟩).log := by
    unfold threadBody Machine.after
    rw [Machine.run_bind, hpoll, run_getThreadOn, hon]
    simp only [if_true, Machine.run_bind]
    exact ⟨_, rfl, rfl⟩
  obtain ⟨e, he, hlog⟩ := hiteration
  rw [hlog, ← hslots, lastPacket_cons he]
  exact htick

/-- A driver that takes every write in full. -/
def takesAll : Script Dm Reply := fun _ o =>
  if o = startWrite 7 then { dword := some 1 } else .fine

/-- Channel 3 set to 258, that is to 2, then the device connected. -/
theorem packet_of_one_message : lastPacket ((machine .worker).after threadBody takesAll
      (History.play [(.message (.list 3 258), takesAll), (.message .connect, takesAll)]
        ⟨Obj.initial, []⟩)).log =
    some 0 :: (List.ofFn (slot [⟨3, 258⟩])).map some :=
  packet_refines_history _ rfl rfl rfl (by decide) (by decide)

end Dmx485
