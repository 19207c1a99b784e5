import Dmx485.Driver
import Dmx485.Interaction.Machine

/-!
# The driver object `dm2xx` and its atomic operations

The object is shared by two threads, and everything they do to it is done in steps that nothing
can come between. What one step is, is fixed here, once, for both.

* `Obj`: the fields of `dm2xx` the modelled functions read or write. `Obj.byte` and `Obj.poke`
  are the memory at and after `dmx_data`: the array of 512 bytes and, directly behind it, the
  one-byte field `deviceNumber`, as they are declared. Farther away nothing is modelled: a byte
  there is unknown, and storing it changes no field.
* `Op`: the atomic steps of both parties, one for each access to a field, driver call, sleep,
  console line and outlet message, and one for the entry of a member function. `indeterminate` is
  the content of a local variable before anything has been stored in it.
* `World`: the object and the log of all steps so far, newest first. Each log entry carries the
  party, the operation, the reply and, for a write, the bytes handed to the driver.
* `machine`: the effect of an operation. Every operation is logged, only stores change the object,
  and only driver calls and uninitialised variables look at the reply.
-/

namespace Dmx485

open Interaction

/-! ## Fields -/

/-- The fields of `class dm2xx` (`dmxObject.h`) that the modelled code uses. -/
structure Obj where
  dmxPointer : FT_HANDLE
  ftdiPortStatus : FT_STATUS
  dmx_data : Fin 512 → UInt8
  deviceNumber : UInt8
  autoConnect : Bool
  threadOn : Bool
  threadAction : Int

/-- The object after its constructor: `deviceNumber`, `dmx_data` and `dmxPointer` are set there,
the other fields are zero because the instance is a static variable. -/
def Obj.initial : Obj where
  dmxPointer := none
  ftdiPortStatus := FT_OK
  dmx_data := fun _ => 0
  deviceNumber := 0
  autoConnect := false
  threadOn := false
  threadAction := 0

/-- The byte `k` places after the beginning of `dmx_data`; `none` for memory that is neither in
`dmx_data` nor `deviceNumber`. -/
def Obj.byte (x : Obj) (k : ℕ) : Option UInt8 :=
  if h : k < 512 then some (x.dmx_data ⟨k, h⟩)
  else if k = 512 then some x.deviceNumber
  else none

/-- Store a byte `k` places after the beginning of `dmx_data`. -/
def Obj.poke (x : Obj) (k : ℕ) (value : UInt8) : Obj :=
  if h : k < 512 then { x with dmx_data := Function.update x.dmx_data ⟨k, h⟩ value }
  else if k = 512 then { x with deviceNumber := value }
  else x

/-- The bytes a buffer holds. -/
def Obj.bytes (x : Obj) : Buffer → ℕ → List (Option UInt8)
  | .start value, n => (List.range n).map fun i => if i = 0 then some value else none
  | .dmx_data offset, n => (List.range n).map fun i => x.byte (offset + i)

/-! ## Operations -/

/-- The member functions whose executions are counted. -/
inductive Fn
  | connect | disconnect | timer_action | enable | disable | refresh
  deriving DecidableEq, Repr

/-- The console functions of the host and of `stdio`. -/
inductive Console
  | post | error | object_post | object_error | printf
  deriving DecidableEq, Repr

/-- An argument of a console format or of an outlet message. -/
inductive Arg
  | long (value : Int)
  | sym (name : String)
  deriving DecidableEq, Repr

/-- The atomic steps of the program. -/
inductive Op
  | enter (f : Fn)
  | getDmxPointer
  | setDmxPointer (h : FT_HANDLE)
  | getStatus
  | setStatus (status : FT_STATUS)
  | getDeviceNumber
  | setDeviceNumber (index : UInt8)
  | setData (channel : ℕ) (value : UInt8)
  | setAutoConnect (yesorno : Bool)
  | getThreadOn
  | setThreadOn (on : Bool)
  | getThreadAction
  | setThreadAction (action : Int)
  | call (c : FtCall)
  | indeterminate
  | usleep (useconds : ℕ)
  | console (c : Console) (format : String) (args : List Arg)
  | outlet_anything (selector : String) (atoms : List Arg)
  deriving DecidableEq, Repr

/-- What an operation answers: a load the value of the field, a driver call its reply, and
`indeterminate` the content of storage the program has not initialised. -/
@[reducible] def Op.Ans : Op → Type
  | getDmxPointer => FT_HANDLE
  | getStatus => FT_STATUS
  | getDeviceNumber => UInt8
  | getThreadOn => Bool
  | getThreadAction => Int
  | call _ => Reply
  | indeterminate => Reply
  | _ => Unit

/-- The interface of the program to its object, the driver and the host. -/
@[reducible] def Dm : Interface where
  Op := Op
  Ans := Op.Ans

/-- A piece of the program. -/
abbrev Code := Prog Dm

/-- The answer of an operation. -/
def Op.answer : (o : Op) → Reply → Obj → o.Ans
  | getDmxPointer, _, x => x.dmxPointer
  | getStatus, _, x => x.ftdiPortStatus
  | getDeviceNumber, _, x => x.deviceNumber
  | getThreadOn, _, x => x.threadOn
  | getThreadAction, _, x => x.threadAction
  | call _, r, _ => r
  | indeterminate, r, _ => r
  | enter _, _, _ | setDmxPointer _, _, _ | setStatus _, _, _ | setDeviceNumber _, _, _
  | setData .., _, _ | setAutoConnect _, _, _ | setThreadOn _, _, _ | setThreadAction _, _, _
  | usleep _, _, _ | console .., _, _ | outlet_anything .., _, _ => ()

/-- The object after an operation. -/
def Op.effect : Op → Obj → Obj
  | setDmxPointer h, x => { x with dmxPointer := h }
  | setStatus status, x => { x with ftdiPortStatus := status }
  | setDeviceNumber index, x => { x with deviceNumber := index }
  | setData channel value, x => x.poke channel value
  | setAutoConnect yesorno, x => { x with autoConnect := yesorno }
  | setThreadOn on, x => { x with threadOn := on }
  | setThreadAction action, x => { x with threadAction := action }
  | _, x => x

/-- The bytes an operation hands to the driver. -/
def Op.payload : Op → Obj → List (Option UInt8)
  | call (.FT_Write _ buffer n), x => x.bytes buffer n.toNat
  | _, _ => []

/-! ## The world -/

/-- The two threads of control: the host application, which delivers messages, and the worker
thread the object creates. -/
inductive Party
  | host | worker
  deriving DecidableEq, Repr

/-- One performed operation. -/
structure Event where
  party : Party
  op : Op
  reply : Reply
  /-- For a write, the bytes handed to the driver. -/
  payload : List (Option UInt8)
  deriving DecidableEq

/-- The object, and everything that happened so far, newest first. -/
structure World where
  obj : Obj
  log : List Event

/-- The effect of the operations of one party. -/
def machine (party : Party) : Machine Dm World Reply where
  exec o r w := (o.answer r w.obj, ⟨o.effect w.obj, ⟨party, o, r, o.payload w.obj⟩ :: w.log⟩)

/-- The answer of an operation performed. -/
@[simp] lemma machine_answer (party : Party) (o : Op) (r : Reply) (w : World) :
    ((machine party).exec o r w).1 = o.answer r w.obj := rfl

/-- The object after it. -/
@[simp] lemma machine_obj (party : Party) (o : Op) (r : Reply) (w : World) :
    ((machine party).exec o r w).2.obj = o.effect w.obj := rfl

/-- The log after it. -/
@[simp] lemma machine_log (party : Party) (o : Op) (r : Reply) (w : World) :
    ((machine party).exec o r w).2.log = ⟨party, o, r, o.payload w.obj⟩ :: w.log := rfl

/-! ## The memory at `dmx_data` -/

/-- Inside the array a byte is a slot. -/
lemma Obj.byte_of_lt (x : Obj) {k : ℕ} (hk : k < 512) : x.byte k = some (x.dmx_data ⟨k, hk⟩) :=
  dif_pos hk

/-- As many bytes are read as are asked for. -/
lemma Obj.length_bytes (x : Obj) (b : Buffer) (n : ℕ) : (x.bytes b n).length = n := by
  cases b with
  | start value => exact (List.length_map _).trans List.length_range
  | dmx_data offset => exact (List.length_map _).trans List.length_range

/-- The bytes from the beginning of the array are the array. -/
lemma Obj.bytes_dmx_data (x : Obj) :
    x.bytes (.dmx_data 0) 512 = (List.ofFn x.dmx_data).map some := by
  unfold Obj.bytes
  apply List.ext_getElem
  · simp only [List.length_map, List.length_range, List.length_ofFn]
  · intro i hi₁ hi₂
    have hi : i < 512 := by simpa only [List.length_map, List.length_range] using hi₁
    simp only [List.getElem_map, List.getElem_range, List.getElem_ofFn, Nat.zero_add,
      x.byte_of_lt hi]

/-- A store into the array changes one slot. -/
lemma Obj.poke_dmx_data (x : Obj) (k : ℕ) (value : UInt8) (i : Fin 512) :
    (x.poke k value).dmx_data i = if (i : ℕ) = k then value else x.dmx_data i := by
  unfold Obj.poke
  by_cases hk : k < 512
  · rw [dif_pos hk]
    by_cases hi : (i : ℕ) = k
    · have hik : i = ⟨k, hk⟩ := Fin.ext hi
      simp [hik]
    · have hik : i ≠ ⟨k, hk⟩ := fun h => hi (congrArg Fin.val h)
      simp [Function.update_of_ne hik, hi]
  · have hi : (i : ℕ) ≠ k := by omega
    rw [dif_neg hk, if_neg hi]
    split_ifs <;> rfl

end Dmx485
