import Dmx485.Wire

/-!
# Where the stores of a message fall

The only guard on the way to `dmx_data` is the comparison in `set_channel`, and it lets one index
too many through. A list message reaches it with a channel reduced modulo 2³², a frame message with
its loop counter, however long the frame is. The byte behind the array is `deviceNumber`, so what
falls behind it selects another device.

* `Confined`: handling a message does nothing but store into slots of the array.
* `confined_iff`: which list and frame messages are confined, in every state. The others are lists
  with channel 512, modulo 2³², and frames long enough to reach it (`device_number_overwritten`).
* `TouchesNamed`, `touches_named_iff`: when a list message changes the slot it names and no other.
  A channel that names none can become one modulo 2³² (`channel_wraps`).
-/

namespace Dmx485

open Interaction

/-- The operation is a store into a slot of the array. -/
def Op.SetsSlot : Op → Prop
  | setData channel _ => channel < 512
  | _ => False

/-- Handling `m` only stores into slots of `dmx_data`, and changes no other field. -/
structure Confined (m : Message) (f : Script Dm Reply) (w : World) : Prop where
  /-- Every operation of the handler is a store with an index in `0..511`. -/
  stores : (handle m).All Op.SetsSlot
  /-- The object differs from what it was in `dmx_data` at most. -/
  others : { ((machine .host).after (handle m) f w).obj with dmx_data := w.obj.dmx_data } = w.obj

/-- A store into a slot changes the array only. -/
lemma Op.SetsSlot.others {o : Op} (ho : o.SetsSlot) (data : Fin 512 → UInt8) (r : Reply)
    (w : World) : { ((machine .host).exec o r w).2.obj with dmx_data := data } =
      { w.obj with dmx_data := data } := by
  cases o with
  | setData channel value =>
      have hlt : channel < 512 := ho
      simp only [machine_obj, Op.effect, Obj.poke, dif_pos hlt]
  | _ => exact ho.elim

/-- A handler that keeps to the slots is confined. -/
lemma confined_of_stores {m : Message} (hm : (handle m).All Op.SetsSlot) (f : Script Dm Reply)
    (w : World) : Confined m f w where
  stores := hm
  others := Machine.after_of_all (F := fun w' => { w'.obj with dmx_data := w.obj.dmx_data })
    (fun _ r w' ho => ho.others w.obj.dmx_data r w') hm f w

/-- `set_channel` keeps to the slots unless it is given the index behind the last one. -/
lemma set_channel_setsSlot (channel : ℕ) (value : UInt8) :
    (set_channel channel value).All Op.SetsSlot ↔ channel ≠ 512 := by
  unfold set_channel
  split_ifs with hlt
  · constructor
    · rintro ⟨hslot, -⟩
      exact Nat.ne_of_lt hslot
    · intro hne
      exact .single (show channel < 512 by omega)
  · exact ⟨fun _ => by omega, fun _ => trivial⟩

/-- The rest of a frame keeps to the slots if it ends before the index behind the last one. -/
lemma frameFrom_setsSlot {i : ℕ} (hi : i ≤ 512) (items : List Int) :
    (frameFrom i items).All Op.SetsSlot ↔ i + items.length ≤ 512 := by
  induction items generalizing i with
  | nil => exact ⟨fun _ => hi, fun _ => trivial⟩
  | cons value items ih =>
      unfold frameFrom set_channel
      rw [if_pos (Nat.lt_succ_of_le hi), List.length_cons]
      constructor
      · rintro ⟨hslot, hrest⟩
        have hlt : i < 512 := hslot
        have hlength := (ih hlt).mp (hrest ())
        omega
      · intro hlength
        have hlt : i < 512 := by omega
        exact .step hlt fun _ => (ih hlt).mpr (by omega)

/-- **Which messages stay in the array.** In every state, and whatever is answered: a list message
whose channel is not 512 modulo 2³², and a frame of at most 512 items. -/
theorem confined_iff (f : Script Dm Reply) (w : World) :
    (∀ channel value, Confined (.list channel value) f w ↔ channel % 0x100000000 ≠ 512) ∧
    ∀ items, Confined (.frame items) f w ↔ items.length ≤ 512 := by
  constructor
  · intro channel value
    have hnarrow : unsignedInt channel ≠ 512 ↔ channel % 0x100000000 ≠ 512 := by
      unfold unsignedInt
      omega
    rw [← hnarrow]
    constructor
    · intro h
      exact (set_channel_setsSlot _ _).mp h.stores
    · intro hne
      have hstores : (handle (.list channel value)).All Op.SetsSlot :=
        (set_channel_setsSlot _ _).mpr hne
      exact confined_of_stores hstores f w
  · intro items
    have hframe := frameFrom_setsSlot (Nat.zero_le 512) items
    rw [Nat.zero_add] at hframe
    constructor
    · intro h
      exact hframe.mp h.stores
    · intro hlength
      have hstores : (handle (.frame items)).All Op.SetsSlot := hframe.mpr hlength
      exact confined_of_stores hstores f w

/-- Channel 512 set to 9: the device number becomes 9. -/
theorem device_number_overwritten :
    ¬Confined (.list 512 9) (fun _ _ => default) ⟨Obj.initial, []⟩ ∧
    ((machine .host).after (handle (.list 512 9)) (fun _ _ => default)
      ⟨Obj.initial, []⟩).obj.deviceNumber = 9 := by
  have hdevice : ((machine .host).after (handle (.list 512 9)) (fun _ _ => default)
      ⟨Obj.initial, []⟩).obj.deviceNumber = 9 := rfl
  refine ⟨fun h => ?_, hdevice⟩
  have hkept : ((machine .host).after (handle (.list 512 9)) (fun _ _ => default)
      ⟨Obj.initial, []⟩).obj.deviceNumber = Obj.initial.deviceNumber :=
    congrArg Obj.deviceNumber h.others
  rw [hdevice] at hkept
  exact absurd hkept (by decide)

/-! ## The slot a list message names -/

/-- Handling the list message gives the slot with this very number the value modulo 256, and
changes no other slot. -/
def TouchesNamed (channel value : Int) (f : Script Dm Reply) (w : World) : Prop :=
  ∀ k : Fin 512, ((machine .host).after (handle (.list channel value)) f w).obj.dmx_data k =
    if channel = ((k : ℕ) : Int) then UInt8.ofNat (value % 256).toNat else w.obj.dmx_data k

/-- **When a list message touches only the slot it names.** In every state, and whatever is
answered: if and only if the slot that the channel becomes modulo 2³², if there is one, is the one
named, or holds the value already. -/
theorem touches_named_iff (channel value : Int) (f : Script Dm Reply) (w : World) :
    TouchesNamed channel value f w ↔
      ∀ k : Fin 512, channel % 0x100000000 = ((k : ℕ) : Int) →
        channel = ((k : ℕ) : Int) ∨ w.obj.dmx_data k = UInt8.ofNat (value % 256).toNat := by
  have hstored : ∀ k : Fin 512,
      ((machine .host).after (handle (.list channel value)) f w).obj.dmx_data k =
        if channel % 0x100000000 = ((k : ℕ) : Int) then UInt8.ofNat (value % 256).toNat
        else w.obj.dmx_data k :=
    fun k => congrFun (dmx_message_data channel value f w) k
  unfold TouchesNamed
  constructor
  · intro htouches k hresidue
    have hslot := htouches k
    rw [hstored, if_pos hresidue] at hslot
    by_cases hnamed : channel = ((k : ℕ) : Int)
    · exact Or.inl hnamed
    · rw [if_neg hnamed] at hslot
      exact Or.inr hslot.symm
  · intro hcause k
    rw [hstored]
    by_cases hresidue : channel % 0x100000000 = ((k : ℕ) : Int)
    · rw [if_pos hresidue]
      rcases hcause k hresidue with hnamed | hsame
      · rw [if_pos hnamed]
      · rw [hsame, ite_self]
    · -- a channel that is a slot is its own residue
      have hother : channel ≠ ((k : ℕ) : Int) := by
        intro hnamed
        have hlt := k.isLt
        omega
      rw [if_neg hresidue, if_neg hother]

/-- Channel 2³² set to 9: slot 0 becomes 9. -/
theorem channel_wraps :
    ¬TouchesNamed 0x100000000 9 (fun _ _ => default) ⟨Obj.initial, []⟩ := by
  intro htouches
  have hslot := htouches 0
  rw [if_neg (by decide)] at hslot
  have hnine : ((machine .host).after (handle (.list 0x100000000 9)) (fun _ _ => default)
      ⟨Obj.initial, []⟩).obj.dmx_data 0 = 9 := rfl
  rw [hnine] at hslot
  exact absurd hslot (by decide)

end Dmx485
