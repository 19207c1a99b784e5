import Dmx485.Code

/-!
# The messages of the Max object

`dmx485.cpp`: the handlers of the messages a `dmx485` object understands, and its constructor and
destructor as far as they reach the shared driver object. Atoms are 64-bit integers; the two
conversions they go through are `unsignedInt` and `unsignedChar`.

The loop counter of `dmx_frame` is an `int` and `argc` is a `long`. For an `argc` of at most
2³¹ − 1 the counter cannot pass it and does not overflow, so it is a natural number here and its
conversion to `unsigned int` is the identity; a longer message is not modelled.

* `handle`: the program a message runs.
* `Op.Calm`, `handle_calm`: the messages that post no request.
* `Op.Host`, `handle_host`: what any message can do to the shared object. It never writes
  `dmxPointer`, `threadOn` or `ftdiPortStatus`, and makes no driver call but enumeration.
* `Op.Asking`: the queries, which change nothing. The driver is called from two threads: `print`
  and `device` list the devices in the host's, while the worker may be in the middle of a frame.
-/

namespace Dmx485

open Interaction

/-- Conversion to `unsigned int`: modulo 2³². -/
def unsignedInt (x : Int) : ℕ := (x % 0x100000000).toNat

/-- Conversion to `unsigned char`: modulo 256. -/
def unsignedChar (x : Int) : UInt8 := UInt8.ofNat (x % 0x100).toNat

/-! ## The handlers -/

/-- Source: `dmx485.cpp`, `dmx_message` -/
def dmx_message (channel value : Int) : Code Unit :=
  set_channel (unsignedInt channel) (unsignedChar (unsignedInt value))

/-- The rest of a frame, from counter `i` on. -/
def frameFrom : ℕ → List Int → Code Unit
  | _, [] => return
  | i, value :: items => do
    set_channel i (unsignedChar value)
    frameFrom (i + 1) items

/-- Source: `dmx485.cpp`, `dmx_frame` -/
def dmx_frame (items : List Int) : Code Unit :=
  frameFrom 0 items

/-- Source: `dmx485.cpp`, `dmx_refresh` -/
def dmx_refresh : Code Unit := do
  console .object_post "dmx485: refreshing..." []
  refresh

/-- The rest of the device menu: `count` devices from index `i` on. -/
def printFrom : ℕ → ℕ → Code Unit
  | 0, _ => return
  | count + 1, i => do
    let Buffer ← getDeviceNameForIndex i ((← indeterminate).name.getD "")
    console .post "dmx485: device index: %i" [.long i]
    outlet_anything "insert" [.long 1, .sym Buffer]
    printFrom count (i + 1)

/-- Source: `dmx485.cpp`, `dmx_print` -/
def dmx_print : Code Unit := do
  let n ← getDeviceCount
  outlet_anything "clear" []
  printFrom n.toInt.toNat 0

/-- Source: `dmx485.cpp`, `dmx_connect` -/
def dmx_connect : Code Unit :=
  enable

/-- The test of `dmx_select_device`; the devices are only counted for an index that is not
negative. One is subtracted from the count as from an `int`, before the index, a `long`, is compared
with it: at the smallest `int` the subtraction wraps to the largest. -/
def wrongIndex (dev : Int) : Code Bool :=
  if dev < 0 then pure true else (fun n => decide (dev > (n - 1).toInt)) <$> getDeviceCount

/-- Source: `dmx485.cpp`, `dmx_select_device` -/
def dmx_select_device (argv : List Int) : Code Unit := do
  let dev := argv.headD (-1)
  if ← wrongIndex dev then
    console .object_error "dmx485: wrong device index!" []
  else
    select_device (unsignedChar dev)

/-- Source: `dmx485.cpp`, `dmx_auto_connect` -/
def dmx_auto_connect (argv : List Int) : Code Unit := do
  let con := argv.headD (-1)
  if con ≥ 0 then
    set_auto_connect (con > 0)
    console .object_post
      (if con > 0 then "dmx485: auto reconnect enabled" else "dmx485: auto reconnect disabled") []

/-- Source: `dmx485.cpp`, `dmx_disconnect` -/
def dmx_disconnect : Code Unit :=
  disable

/-- Source: `dmx485.cpp`, `dmx_version` -/
def dmx_version : Code Unit :=
  console .object_post "dmx485: version 0.71 beta" []

/-- Creating an object; what it allocates for itself is not shared.
Source: `dmx485.cpp`, `dmx_new` -/
def dmx_new : Code Unit :=
  enable

/-- Freeing an object.
Source: `dmx485.cpp`, `dmx_free` -/
def dmx_free : Code Unit :=
  disable

/-- The messages of the class, under the names they are registered with in `main`. -/
inductive Message
  | list (channel value : Int)
  | frame (items : List Int)
  | refresh
  | print
  | version
  | connect
  | device (argv : List Int)
  | auto_connect (argv : List Int)
  | disconnect
  deriving DecidableEq, Repr

/-- The handler of each message.
Source: `dmx485.cpp`, `main`, the `class_addmethod` table -/
def handle : Message → Code Unit
  | .list channel value => dmx_message channel value
  | .frame items => dmx_frame items
  | .refresh => dmx_refresh
  | .print => dmx_print
  | .version => dmx_version
  | .connect => dmx_connect
  | .device argv => dmx_select_device argv
  | .auto_connect argv => dmx_auto_connect argv
  | .disconnect => dmx_disconnect

/-! ## What a message can do -/

/-- The operations of message handlers, other than posting a request. -/
def Op.Calm : Op → Prop
  | enter f => f = .enable ∨ f = .disable ∨ f = .refresh
  | call (.FT_ListDevices ..) => True
  | getDmxPointer | setDeviceNumber _ | setData .. | setAutoConnect _ | indeterminate
  | console .. | outlet_anything .. => True
  | _ => False

/-- The operations of message handlers. -/
def Op.Host : Op → Prop
  | setThreadAction action => action = 1 ∨ action = 2 ∨ action = 3
  | o => o.Calm

/-- A calm operation is one of the host. -/
lemma Op.Calm.host {o : Op} (ho : o.Calm) : o.Host := by
  cases o <;> first | exact ho | exact ho.elim

/-- A handler's operation posts a request or is calm. -/
lemma Op.Host.calm_or_post {o : Op} (ho : o.Host) :
    o.Calm ∨ ∃ action, o = .setThreadAction action ∧ (action = 1 ∨ action = 2 ∨ action = 3) := by
  cases o with
  | setThreadAction action => exact Or.inr ⟨action, rfl, ho⟩
  | _ => exact Or.inl ho

/-- The operations by which handlers ask the driver and talk to the user. -/
def Op.Asking : Op → Prop
  | call (.FT_ListDevices ..) => True
  | indeterminate | console .. | outlet_anything .. => True
  | _ => False

/-- Asking is calm. -/
lemma Op.Asking.calm {o : Op} (ho : o.Asking) : o.Calm := by
  cases o with
  | call c =>
      cases c with
      | FT_ListDevices arg flags => trivial
      | _ => exact ho.elim
  | _ => trivial

/-- The count query only asks. -/
lemma getDeviceCount_asking : getDeviceCount.All Op.Asking := by
  unfold getDeviceCount
  refine .step (by trivial) fun r => ?_
  dsimp only
  split_ifs
  · exact .step (by trivial) fun _ => trivial
  · exact .step (by trivial) fun _ => trivial

/-- So does a name lookup. -/
lemma getDeviceNameForIndex_asking (index : Int) (Buffer : String) :
    (getDeviceNameForIndex index Buffer).All Op.Asking :=
  .step (by trivial) fun _ => .step (by trivial) fun _ => trivial

/-- So does the loop of `print`. -/
lemma printFrom_asking (count i : ℕ) : (printFrom count i).All Op.Asking := by
  induction count generalizing i with
  | zero => trivial
  | succ count ih =>
      exact .step (by trivial) fun _ => .bind (getDeviceNameForIndex_asking _ _) fun _ =>
        .step (by trivial) fun _ => .step (by trivial) fun _ => ih (i + 1)

/-- So does `print`. -/
lemma dmx_print_asking : dmx_print.All Op.Asking :=
  .bind getDeviceCount_asking fun _ => .step (by trivial) fun _ => printFrom_asking _ 0

section handlers

variable {P : Op → Prop}

/-- What holds of the queries and of the store holds of all that `device` does. -/
lemma dmx_select_device_all (hP : ∀ o, o.Asking → P o) (hset : ∀ index, P (.setDeviceNumber index))
    (argv : List Int) : (dmx_select_device argv).All P := by
  have hwrong : (wrongIndex (argv.headD (-1))).All P := by
    unfold wrongIndex
    split_ifs
    · trivial
    · exact .bind (getDeviceCount_asking.mono hP) fun _ => trivial
  refine .bind hwrong fun wrong => ?_
  cases wrong with
  | true => exact .single (hP _ trivial)
  | false => exact .single (hset _)

/-- The same for `auto_connect`. -/
lemma dmx_auto_connect_all (hP : ∀ o, o.Asking → P o) (hset : ∀ yes, P (.setAutoConnect yes))
    (argv : List Int) : (dmx_auto_connect argv).All P := by
  unfold dmx_auto_connect
  by_cases hcon : argv.headD (-1) ≥ 0
  · simp only [hcon, if_true]
    exact .step (hset _) fun _ => .single (hP _ trivial)
  · simp only [hcon, if_false]
    trivial

end handlers

/-- Storing into a channel is calm. -/
lemma set_channel_calm (channel : ℕ) (value : UInt8) : (set_channel channel value).All Op.Calm := by
  unfold set_channel
  split_ifs
  · exact .single (by trivial)
  · trivial

/-- So is storing the rest of a frame. -/
lemma frameFrom_calm (i : ℕ) (items : List Int) : (frameFrom i items).All Op.Calm := by
  induction items generalizing i with
  | nil => trivial
  | cons value items ih => exact .bind (set_channel_calm i _) fun _ => ih (i + 1)

/-- Whether a message is a request: only these three post anything. -/
def Message.IsRequest (m : Message) : Prop := m = .connect ∨ m = .disconnect ∨ m = .refresh

instance (m : Message) : Decidable m.IsRequest :=
  inferInstanceAs (Decidable (_ ∨ _ ∨ _))

/-- The other messages post nothing. -/
theorem handle_calm (m : Message) (hm : ¬m.IsRequest) : (handle m).All Op.Calm := by
  cases m with
  | list channel value => exact set_channel_calm _ _
  | frame items => exact frameFrom_calm 0 items
  | print => exact dmx_print_asking.mono fun _ ho => ho.calm
  | version => exact .single (by trivial)
  | device argv => exact dmx_select_device_all (fun _ ho => ho.calm) (fun _ => trivial) argv
  | auto_connect argv => exact dmx_auto_connect_all (fun _ ho => ho.calm) (fun _ => trivial) argv
  | connect => exact absurd (by decide) hm
  | disconnect => exact absurd (by decide) hm
  | refresh => exact absurd (by decide) hm

/-- `enable` keeps to the operations of the host. -/
lemma enable_host : enable.All Op.Host := by
  refine .step (Or.inl rfl) fun _ => .step (by trivial) fun _ => .step (by trivial) fun p => ?_
  split_ifs
  · exact .single (Or.inl rfl)
  · trivial

/-- So does `disable`. -/
lemma disable_host : disable.All Op.Host :=
  .step (Or.inr (Or.inl rfl)) fun _ => .step (Or.inr (Or.inl rfl)) fun _ => .single (by trivial)

/-- So does `refresh`. -/
lemma refresh_host : refresh.All Op.Host :=
  .step (Or.inr (Or.inr rfl)) fun _ => .step (by trivial) fun _ => .single (Or.inr (Or.inr rfl))

/-- **Every message keeps to the host's operations.** -/
theorem handle_host (m : Message) : (handle m).All Op.Host := by
  by_cases hm : m.IsRequest
  · rcases hm with rfl | rfl | rfl
    · exact enable_host
    · exact disable_host
    · exact .step (by trivial) fun _ => refresh_host
  · exact (handle_calm m hm).mono fun _ ho => ho.host

end Dmx485
