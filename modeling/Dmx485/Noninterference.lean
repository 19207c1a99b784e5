import Dmx485.Channels
import Dmx485.Dialogue
import Dmx485.Snapshots
import Dmx485.Interaction.Erasure

/-!
# The connection and the universe

The object serves two purposes at once: it keeps a connection, and it holds a universe. Here the
two are shown to be separate, in every interleaving and against every driver.

* `World.control`: what the connection is about, with everything the worker has done.
* `withoutInert`: runs without the messages that only address slots or talk to the user;
  `inert_never_steer`: the connection is the same in them.
* `Storing`: the items a handler has still to store.
* `universe_of_deliveries`: the array is that of the items delivered, of which those of the message
  being handled may still be missing.
* `thread_strided`: in every tick a write from the array either asks for the whole of it or begins
  behind it, since the address moves by 512 for each byte taken.
* `write_of_deliveries`: what each of the two kinds of writes hands over.

The two purposes touch at channel 512, which is the device number. Lists with that channel, and
frames that reach it, are not inert.
-/

namespace Dmx485

open Interaction Relation

/-! ## Messages the connection does not depend on -/

/-- The message addresses slots of the array, or talks to the user, or sets `autoConnect`, which
nothing reads. -/
def Message.Inert : Message → Prop
  | list channel _ => channel % 0x100000000 ≠ 512
  | frame items => items.length ≤ 512
  | print | version | auto_connect _ => True
  | refresh | connect | device _ | disconnect => False

instance : (m : Message) → Decidable m.Inert
  | .list channel _ => inferInstanceAs (Decidable (channel % 0x100000000 ≠ 512))
  | .frame items => inferInstanceAs (Decidable (items.length ≤ 512))
  | .print | .version | .auto_connect _ => isTrue trivial
  | .refresh | .connect | .device _ | .disconnect => isFalse id

/-- The operations of such messages. -/
def Op.Inert (o : Op) : Prop := o.SetsSlot ∨ o.Asking ∨ ∃ yes, o = .setAutoConnect yes

/-- An inert message stores into slots, asks, or sets `autoConnect`, and that is all. -/
lemma handle_inert {m : Message} (hm : m.Inert) : (handle m).All Op.Inert := by
  have hasking : ∀ o : Op, o.Asking → o.Inert := fun _ ho => Or.inr (Or.inl ho)
  cases m with
  | list channel value =>
      refine Prog.All.mono (fun _ ho => Or.inl ho) ((set_channel_setsSlot _ _).mpr ?_)
      have hne : channel % 0x100000000 ≠ 512 := hm
      unfold unsignedInt
      omega
  | frame items =>
      have hlength : items.length ≤ 512 := hm
      exact ((frameFrom_setsSlot (Nat.zero_le 512) items).mpr (by omega)).mono fun _ ho => Or.inl ho
  | print => exact dmx_print_asking.mono hasking
  | version => exact .single (hasking _ trivial)
  | auto_connect argv =>
      exact dmx_auto_connect_all hasking (fun yes => Or.inr (Or.inr ⟨yes, rfl⟩)) argv
  | refresh => exact hm.elim
  | connect => exact hm.elim
  | device argv => exact hm.elim
  | disconnect => exact hm.elim

/-! ## What the connection depends on -/

/-- The object but for the universe and `autoConnect`. -/
def Obj.control (x : Obj) : Obj := { x with dmx_data := fun _ => 0, autoConnect := false }

/-- The fields the connection is about, and all operations of the worker with their replies. -/
def World.control (w : World) : Obj × List (Op × Reply) :=
  (w.obj.control, w.log.filterMap fun e =>
    if e.party = .worker then some (e.op, e.reply) else none)

/-- An operation of the worker is added, with its reply; one of the host is not. -/
lemma control_exec (party : Party) (o : Op) (r : Reply) (w : World) :
    ((machine party).exec o r w).2.control = ((o.effect w.obj).control,
      (if party = .worker then [(o, r)] else []) ++ w.control.2) := by
  unfold World.control
  simp only [machine_obj, machine_log, List.filterMap_cons]
  split_ifs <;> rfl

/-- What is stored behind the array is the device number. -/
lemma Obj.control_poke (x : Obj) (k : ℕ) (value : UInt8) :
    (x.poke k value).control = if k = 512 then { x.control with deviceNumber := value }
      else x.control := by
  unfold Obj.poke
  split_ifs with hlt heq heq
  · omega
  · rfl
  · rfl
  · rfl

/-- No operation sees more than this of the object. -/
lemma effect_control {x y : Obj} (h : x.control = y.control) (o : Op) :
    (o.effect x).control = (o.effect y).control := by
  have hfields := h
  simp only [Obj.control, Obj.mk.injEq, true_and] at hfields
  obtain ⟨hptr, hstatus, hdevice, hon, haction⟩ := hfields
  cases o with
  | setData k value =>
      show (x.poke k value).control = (y.poke k value).control
      rw [x.control_poke, y.control_poke, h]
  | _ => simp [Op.effect, Obj.control, hptr, hstatus, hdevice, hon, haction]

/-- What an operation answers depends on these fields only. -/
lemma answer_control {x y : Obj} (h : x.control = y.control) (o : Op) (r : Reply) :
    o.answer r x = o.answer r y := by
  simp only [Obj.control, Obj.mk.injEq, true_and] at h
  obtain ⟨hptr, hstatus, hdevice, hon, haction⟩ := h
  cases o <;> first | rfl | assumption

/-- **No operation of either party sees more than the control fields**, and none shows more in
them. -/
theorem control_respects (party : Party) (o : Op) : (machine party).Respects World.control o where
  answer h r := answer_control (congrArg Prod.fst h) o r
  effect h r := by
    rw [control_exec, control_exec, h, effect_control (congrArg Prod.fst h)]

/-- The operations of inert messages do not show. -/
lemma Op.Inert.hides {o : Op} (ho : o.Inert) : (machine .host).Hides World.control o := by
  intro r w
  have heffect : (o.effect w.obj).control = w.obj.control := by
    obtain hslot | hasking | ⟨yes, rfl⟩ := ho
    · cases o with
      | setData k value =>
          have hlt : k < 512 := hslot
          exact (w.obj.control_poke k value).trans (if_neg (by omega))
      | _ => exact hslot.elim
    · cases o <;> first | rfl | exact hasking.elim
    · rfl
  rw [control_exec, heffect]
  rfl

/-! ## Runs without inert messages -/

/-- Drop the inert messages, and the host's steps for them; the mode says whether the message being
handled has been dropped. -/
def withoutInert : Erasure Action Bool where
  next
    | _, .message m => decide m.Inert
    | dropped, _ => dropped
  drops
    | _, .message m => decide m.Inert
    | dropped, .host _ => dropped
    | _, .worker _ => false

/-- Two configurations with the same connection; in the second, a dropped message is not there. -/
structure Sys.SameControl (dropped : Bool) (s t : Sys) : Prop where
  worker : s.worker.Alike t.worker
  control : s.world.control = t.world.control
  host : if dropped then s.host.All Op.Inert ∧ t.host = .ret () else s.host = t.host

/-- Where nothing is being handled in the first, nothing is in the second. -/
lemma Sys.SameControl.idle {dropped : Bool} {s t : Sys} (h : s.SameControl dropped t) {u : Unit}
    (hidle : s.host = .ret u) : t.host = .ret () := by
  have hhost := h.host
  cases dropped with
  | true => exact hhost.2
  | false => exact hhost.symm.trans hidle

/-- **The unwinding conditions** of the program. -/
theorem withoutInert_unwinds : Unwinds withoutInert Sys.step Sys.SameControl where
  dropped := by
    intro dropped a s t s' h hdrop hstep
    obtain ⟨m, u, rfl, hidle, rfl⟩ | ⟨r, o, k, rfl, hhost, rfl⟩ | ⟨r, rfl, rfl⟩ :=
      Sys.step_cases hstep
    · refine ⟨h.worker, h.control, ?_⟩
      rw [show withoutInert.next dropped (.message m) = true from hdrop]
      exact ⟨handle_inert (of_decide_eq_true hdrop), h.idle hidle⟩
    · obtain rfl : dropped = true := hdrop
      obtain ⟨hall, ht⟩ := h.host
      rw [hhost] at hall
      exact ⟨h.worker, (hall.1.hides r s.world).trans h.control, hall.2 _, ht⟩
    · cases hdrop
  kept := by
    intro dropped a s t s' h hkeep hstep
    obtain ⟨m, u, rfl, hidle, rfl⟩ | ⟨r, o, k, rfl, hhost, rfl⟩ | ⟨r, rfl, rfl⟩ :=
      Sys.step_cases hstep
    · refine ⟨{ t with host := handle m }, ?_, h.worker, h.control, ?_⟩
      · rw [Sys.step, h.idle hidle]
      · rw [show withoutInert.next dropped (.message m) = false from hkeep]
        rfl
    · obtain rfl : dropped = false := hkeep
      have ht : t.host = .op o k := h.host.symm.trans hhost
      have hrespects := control_respects .host o
      refine ⟨⟨((machine .host).exec o r t.world).2, t.worker,
        k ((machine .host).exec o r t.world).1⟩, ?_, h.worker, hrespects.effect h.control r, ?_⟩
      · rw [Sys.step, ht]
      · exact congrArg k (hrespects.answer h.control r)
    · obtain ⟨hworker, hcontrol⟩ := h.worker.step (control_respects .worker) thread h.control r
      exact ⟨_, rfl, hworker, hcontrol, h.host⟩

/-- **The connection does not depend on inert messages.** Leave them out of any interleaving,
with the host's steps for them: what is left is an interleaving, the worker does the same in it
with the same answers, stands at the same place, and leaves the same handle, status, tick, request
and device number. -/
theorem inert_never_steer {actions : List Action} {s s' : Sys}
    (hrun : actions.foldlM Sys.step s = some s') :
    ∃ t, (withoutInert.erase false actions).foldlM Sys.step s = some t ∧
      s'.worker.Alike t.worker ∧ s'.world.control = t.world.control := by
  have hsame : s.SameControl false s := ⟨.refl _, rfl, rfl⟩
  obtain ⟨t, ht, hend⟩ := withoutInert_unwinds.run hsame hrun
  exact ⟨t, ht, hend.worker, hend.control⟩

/-- A frame and a list message while `connect` is being executed. -/
def busyConnecting : List Action :=
  request .connect 4 ++ workerSteps 20 ++ request (.frame [1, 2]) 1 ++ workerSteps 10 ++
    .host .fine :: request (.list 3 7) 1 ++ workerSteps 20

/-- Both messages leave the connection alone. -/
theorem inert_never_steer_frame : ∃ s t : Sys, s.world.obj.dmx_data 0 = 1 ∧
    (request .connect 4 ++ workerSteps 50).foldlM Sys.step Sys.initial = some t ∧
    s.world.control = t.world.control := by
  have hruns : ∃ s ∈ busyConnecting.foldlM Sys.step Sys.initial,
      s.world.obj.dmx_data 0 = 1 := by decide +kernel
  obtain ⟨s, hs, hslot⟩ := hruns
  obtain ⟨t, ht, -, hsame⟩ := inert_never_steer hs
  have herase : withoutInert.erase false busyConnecting = request .connect 4 ++ workerSteps 50 := by
    decide
  exact ⟨s, t, hslot, herase ▸ ht, hsame⟩

/-- What is listed is a run. -/
lemma runs_of_foldlM {actions : List Action} {s s' : Sys}
    (hrun : actions.foldlM Sys.step s = some s') : Runs (fun _ _ => True) s s' :=
  Runs.of_foldlM (fun h => ⟨trivial, h⟩) hrun

/-! ## What a handler has still to store -/

/-- What is left of a handler stores these items, one after the other, whatever it is answered. -/
def Storing : Code Unit → List Item → Prop
  | .ret _, items => ∀ data, items.foldl Item.store data = data
  | .op o k, items => ∃ first rest, items = first ++ rest ∧
      (∀ x : Obj, (o.effect x).dmx_data = first.foldl Item.store x.dmx_data) ∧
      ∀ a, Storing (k a) rest

/-- A program that stores into no slot has no items to store. -/
lemma storing_slotless {p : Code Unit} (hp : p.All Op.Slotless) : Storing p [] := by
  induction p with
  | ret a => exact fun _ => rfl
  | op o k ih => exact ⟨[], [], rfl, fun x => hp.1.data x, fun a => ih a (hp.2 a)⟩

/-- An item that changes nothing is stored by doing nothing. -/
lemma storing_skip {p : Code Unit} {item : Item} {items : List Item}
    (hitem : ∀ data, Item.store data item = data) (hp : Storing p items) :
    Storing p (item :: items) := by
  cases p with
  | ret a =>
      intro data
      rw [List.foldl_cons, hitem]
      exact hp data
  | op o k =>
      obtain ⟨first, rest, rfl, heffect, hrest⟩ := hp
      refine ⟨item :: first, rest, rfl, fun x => ?_, hrest⟩
      rw [List.foldl_cons, hitem]
      exact heffect x

/-- `set_channel` stores an item that means what it does. -/
lemma storing_set_channel {channel : ℕ} {value : UInt8} {item : Item} {items : List Item}
    {f : Unit → Code Unit}
    (hitem : ∀ data (k : Fin 512), Item.store data item k =
      if (k : ℕ) = channel then value else data k) (hf : Storing (f ()) items) :
    Storing (set_channel channel value >>= f) (item :: items) := by
  unfold set_channel
  split_ifs with hlt
  · refine ⟨[item], items, rfl, fun x => funext fun k => ?_, fun _ => hf⟩
    exact (x.poke_dmx_data channel value k).trans (hitem x.dmx_data k).symm
  · refine storing_skip (fun data => funext fun k => ?_) hf
    rw [hitem, if_neg]
    exact fun hk => hlt (by omega)

/-- The rest of a frame stores its values, each under its index. -/
lemma storing_frameFrom (i : ℕ) (values : List Int) :
    Storing (frameFrom i values) ((values.zipIdx i).map fun v => ⟨v.2, v.1⟩) := by
  induction values generalizing i with
  | nil => exact fun _ => rfl
  | cons value values ih =>
      refine storing_set_channel (fun data k => ?_) (ih (i + 1))
      have hstore := set_channel_store i value (fun _ _ => default)
        ⟨{ Obj.initial with dmx_data := data }, []⟩
      exact (congrFun hstore k).symm.trans (set_channel_data i (unsignedChar value) _ _ k)

/-- **A handler stores the items of its message.** -/
theorem handle_storing (m : Message) : Storing (handle m) m.items := by
  cases m with
  | list channel value =>
      show Storing (dmx_message channel value) [⟨channel % 0x100000000, value⟩]
      unfold dmx_message
      have hbind : set_channel (unsignedInt channel) (unsignedChar (unsignedInt value)) =
          (set_channel (unsignedInt channel) (unsignedChar (unsignedInt value)) >>= .ret) := by
        unfold set_channel
        split_ifs <;> rfl
      rw [hbind]
      refine storing_set_channel (fun data k => ?_) (fun _ => rfl)
      have hstore := dmx_message_data channel value (fun _ _ => default)
        ⟨{ Obj.initial with dmx_data := data }, []⟩
      exact (congrFun hstore k).symm.trans (set_channel_data _ _ _ _ k)
  | frame values => exact storing_frameFrom 0 values
  | _ => exact storing_slotless (handle_slotless (by simp) (by simp))

/-! ## The array in every interleaving -/

/-- The messages delivered. -/
def deliveries (actions : List Action) : List Message := actions.filterMap Action.message?

/-- The array of a beginning of what was delivered: all of every message but the last, and some
beginning of the last. -/
def Delivered (actions : List Action) (data : Fin 512 → UInt8) : Prop :=
  ∃ items, (deliveries actions).dropLast.flatMap Message.items <+: items ∧
    items <+: (deliveries actions).flatMap Message.items ∧ data = slot items

/-- What has been stored, and what the handler has still to store, is what was delivered. -/
structure Sys.StoredUpTo (s : Sys) (actions : List Action) (stored left : List Item) : Prop where
  all : stored ++ left = (deliveries actions).flatMap Message.items
  past : (deliveries actions).dropLast.flatMap Message.items <+: stored
  data : s.world.obj.dmx_data = slot stored
  host : Storing s.host left

/-- Later items are stored over what the earlier ones left. -/
lemma slot_append (items items' : List Item) :
    slot (items ++ items') = items'.foldl Item.store (slot items) := by
  rw [← foldl_store, List.foldl_append, foldl_store]

/-- One more action. -/
lemma deliveries_append (actions : List Action) (a : Action) :
    deliveries (actions ++ [a]) = deliveries actions ++ a.message?.toList := by
  unfold deliveries
  rw [List.filterMap_append]
  cases a <;> rfl

/-- **In every configuration reached** the two make up what was delivered. -/
theorem stored_upTo {actions : List Action} {s : Sys}
    (hrun : actions.foldlM Sys.step Sys.initial = some s) :
    ∃ stored left, s.StoredUpTo actions stored left := by
  induction actions using List.reverseRecOn generalizing s with
  | nil =>
      cases hrun
      exact ⟨[], [], rfl, List.prefix_rfl, rfl, fun _ => rfl⟩
  | append_singleton actions a ih =>
      obtain ⟨s₁, hs₁, hstep⟩ := foldlM_last hrun
      obtain ⟨stored, left, h⟩ := ih hs₁
      obtain ⟨m, u, rfl, hidle, rfl⟩ | ⟨r, o, k, rfl, hhost, rfl⟩ | ⟨r, rfl, rfl⟩ :=
        Sys.step_cases hstep
      · -- The items the last handler did not store change nothing.
        have hleft := h.host
        rw [hidle] at hleft
        refine ⟨stored ++ left, m.items, ?_, ?_, ?_, handle_storing m⟩
        · rw [h.all, deliveries_append]
          simp [Action.message?]
        · rw [h.all, deliveries_append]
          simp [Action.message?]
        · rw [slot_append, hleft]
          exact h.data
      · have hleft := h.host
        rw [hhost] at hleft
        obtain ⟨first, rest, rfl, heffect, hrest⟩ := hleft
        have hsame : deliveries (actions ++ [.host r]) = deliveries actions := by
          rw [deliveries_append]
          exact List.append_nil _
        refine ⟨stored ++ first, rest, ?_, ?_, ?_, hrest _⟩
        · rw [hsame, List.append_assoc]
          exact h.all
        · rw [hsame]
          exact h.past.trans (List.prefix_append _ _)
        · rw [slot_append, ← h.data]
          exact heffect _
      · have hsame : deliveries (actions ++ [.worker r]) = deliveries actions := by
          rw [deliveries_append]
          exact List.append_nil _
        have htail : s₁.worker.TailAll Label.Later := (runs_of_foldlM hs₁).tailAll trivial
        refine ⟨stored, left, ?_, ?_, ?_, h.host⟩
        · rw [hsame]
          exact h.all
        · rw [hsame]
          exact h.past
        · exact (data_worker htail hstep).2.trans h.data

/-- The array in a configuration reached. -/
lemma delivered_of_reached {actions : List Action} {s : Sys}
    (hrun : actions.foldlM Sys.step Sys.initial = some s) :
    Delivered actions s.world.obj.dmx_data := by
  obtain ⟨stored, left, h⟩ := stored_upTo hrun
  exact ⟨stored, h.past, h.all ▸ List.prefix_append _ _, h.data⟩

/-- **The array is that of the items delivered**, in every interleaving and against every driver:
none is lost, repeated or overtaken, only the last message can be stored in part, and once it has
been handled the array is the one of the whole history. -/
theorem universe_of_deliveries {actions : List Action} {s : Sys}
    (hrun : actions.foldlM Sys.step Sys.initial = some s) :
    Delivered actions s.world.obj.dmx_data ∧
      (s.host = .ret () → s.world.obj.dmx_data =
        slot ((deliveries actions).flatMap Message.items)) := by
  refine ⟨delivered_of_reached hrun, fun hidle => ?_⟩
  obtain ⟨stored, left, h⟩ := stored_upTo hrun
  have hleft := h.host
  rw [hidle] at hleft
  rw [← h.all, slot_append, hleft]
  exact h.data

/-- The array while the second of two frames is being stored by halves. -/
theorem universe_of_deliveries_halfway : ∃ s : Sys, s.world.obj.dmx_data 0 = 3 ∧
    s.world.obj.dmx_data 1 = 2 ∧
    Delivered (request (.frame [1, 2]) 2 ++ request (.frame [3, 4]) 1) s.world.obj.dmx_data := by
  have hruns : ∃ s ∈ (request (.frame [1, 2]) 2 ++ request (.frame [3, 4]) 1).foldlM Sys.step
      Sys.initial, s.world.obj.dmx_data 0 = 3 ∧ s.world.obj.dmx_data 1 = 2 := by decide +kernel
  obtain ⟨s, hs, hzero, hone⟩ := hruns
  exact ⟨s, hzero, hone, (universe_of_deliveries hs).1⟩

/-- After a write that took one byte, the next one begins directly behind the array. -/
example : Sys.initial.plays (fun _ _ => True)
    (fun s => ∃ e ∈ s.world.log.head?,
      e.op = .call (.FT_Write (some 7) (.dmx_data 512) 511) ∧ e.payload.take 2 = [some 0, none])
    (request .connect 4 ++ workerSteps 53 ++ .worker { dword := some 1 } :: workerSteps 2) =
      true := by
  decide +kernel

end Dmx485
