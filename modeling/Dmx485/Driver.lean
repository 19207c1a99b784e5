import Mathlib.Data.List.Basic

/-!
# The FTDI driver as the program sees it

The D2XX library is not part of the repository; what the program can observe of it is the calls
it makes and, for each, a reply: the status returned and what was stored through the
out-parameters. Nothing relates one reply to another, so a property proved for all replies holds
for every driver; what a result needs of the driver is a predicate on single replies.

An out-parameter that a call leaves alone keeps what it held. The model has to say so, since the
program reads such variables: the number of bytes written, which it takes for that of the last
write, and the name buffers. They are options here, and the caller supplies what was there before.

* `FtCall`: the calls the program makes, with their arguments (types and constants as in
  `FTDI/ftd2xx.h` and `FTDI/WinTypes.h`). `FtCall.handle?` is the handle a call is made on.
* `ListArg`, `Buffer`: the two arguments that are addresses, or numbers passed for one.
* `Reply`, and `Reply.accepted`: how many bytes a write took. A write that fails takes none, and
  one that reports more than it was given takes what it was given.
-/

namespace Dmx485

/-- `typedef unsigned int DWORD`. -/
abbrev DWORD := UInt32

/-- `typedef ULONG FT_STATUS`, a 32-bit unsigned integer. -/
abbrev FT_STATUS := UInt32

/-- A non-NULL device handle. -/
abbrev Handle := ℕ

/-- `typedef PVOID FT_HANDLE`; `none` is `NULL`. -/
abbrev FT_HANDLE := Option Handle

/-- The status of a call that succeeded. -/
def FT_OK : FT_STATUS := 0

/-- `FT_ListDevices`: store the number of devices. -/
def FT_LIST_NUMBER_ONLY : DWORD := 0x80000000

/-- `FT_ListDevices`: the argument is the index of a device. -/
def FT_LIST_BY_INDEX : DWORD := 0x40000000

/-- `FT_ListDevices`: store the description of the device. -/
def FT_OPEN_BY_DESCRIPTION : DWORD := 2

/-- Purge what has been received. -/
def FT_PURGE_RX : DWORD := 1

/-- Purge what is still to be sent. -/
def FT_PURGE_TX : DWORD := 2

/-- Eight data bits. -/
def FT_BITS_8 : UInt8 := 8

/-- Two stop bits. -/
def FT_STOP_BITS_2 : UInt8 := 2

/-- No parity bit. -/
def FT_PARITY_NONE : UInt8 := 0

/-- No flow control. -/
def FT_FLOW_NONE : UInt16 := 0x0000

/-- `FT_W32_EscapeCommFunction`: clear the RTS line. -/
def CLRRTS : DWORD := 4

/-- The first argument of `FT_ListDevices`, whose meaning depends on the flags. -/
inductive ListArg
  /-- `&numDevs`, where the number of devices is to be stored. -/
  | numDevs
  /-- `(PVOID)index`. -/
  | index (index : Int)
  /-- `&deviceNumber`: an address, passed where an index belongs. -/
  | deviceNumberAddress
  deriving DecidableEq, Repr

/-- The memory an `FT_Write` is pointed at. -/
inductive Buffer
  /-- `&start`, a local byte with this value. -/
  | start (value : UInt8)
  /-- An address, counted in bytes from the beginning of `dmx_data`. -/
  | dmx_data (offset : ℕ)
  deriving DecidableEq, Repr

/-- The driver calls of `dmxObjectD2xx.cpp`. -/
inductive FtCall
  | FT_ListDevices (arg : ListArg) (flags : DWORD)
  | FT_Open (deviceNumber : Int)
  | FT_Close (ftHandle : FT_HANDLE)
  | FT_SetBitMode (ftHandle : FT_HANDLE) (mask enable : UInt8)
  | FT_ResetDevice (ftHandle : FT_HANDLE)
  | FT_Purge (ftHandle : FT_HANDLE) (mask : DWORD)
  | FT_SetBaudRate (ftHandle : FT_HANDLE) (baudRate : DWORD)
  | FT_SetTimeouts (ftHandle : FT_HANDLE) (readTimeout writeTimeout : DWORD)
  | FT_SetDataCharacteristics (ftHandle : FT_HANDLE) (wordLength stopBits parity : UInt8)
  | FT_SetFlowControl (ftHandle : FT_HANDLE) (flowControl : UInt16) (xonChar xoffChar : UInt8)
  | FT_ClrRts (ftHandle : FT_HANDLE)
  | FT_SetLatencyTimer (ftHandle : FT_HANDLE) (latency : UInt8)
  | FT_W32_EscapeCommFunction (ftHandle : FT_HANDLE) (func : DWORD)
  | FT_GetDeviceInfo (ftHandle : FT_HANDLE)
  | FT_SetBreakOff (ftHandle : FT_HANDLE)
  | FT_SetBreakOn (ftHandle : FT_HANDLE)
  | FT_Write (ftHandle : FT_HANDLE) (buffer : Buffer) (bytesToWrite : DWORD)
  deriving DecidableEq, Repr

/-- The handle a call is made on. -/
def FtCall.handle? : FtCall → Option FT_HANDLE
  | FT_ListDevices .. | FT_Open .. => none
  | FT_Close h | FT_SetBitMode h .. | FT_ResetDevice h | FT_Purge h _ | FT_SetBaudRate h _
  | FT_SetTimeouts h .. | FT_SetDataCharacteristics h .. | FT_SetFlowControl h ..
  | FT_ClrRts h | FT_SetLatencyTimer h _ | FT_W32_EscapeCommFunction h _ | FT_GetDeviceInfo h
  | FT_SetBreakOff h | FT_SetBreakOn h | FT_Write h .. => some h

/-- The calls that put something on the line. -/
def FtCall.ofFrame : FtCall → Bool
  | FT_SetBreakOff _ | FT_Write .. | FT_SetBreakOn _ => true
  | _ => false

/-- One reply of the driver. A call reads the fields its prototype has; the others are ignored. -/
structure Reply where
  /-- The status returned. -/
  status : FT_STATUS := FT_OK
  /-- `FT_Open`: what is in `*pHandle` when it returns, `none` if nothing was stored there. -/
  handle : FT_HANDLE := none
  /-- What was stored through a `DWORD` out-parameter (the number of devices, the number of bytes
  written); `none` if the variable was left as it was. -/
  dword : Option DWORD := none
  /-- What was stored in a name buffer; `none` if it was left as it was. -/
  name : Option String := none
  deriving DecidableEq, Repr, Inhabited

/-- How many bytes a write of `n` bytes took: the count it reports, when it succeeds and reports
one. -/
def Reply.accepted (r : Reply) (n : ℕ) : ℕ :=
  if r.status = FT_OK then min n (r.dword.getD 0).toNat else 0

/-- The write of `n` bytes succeeded and took all of them. -/
def Reply.Full (r : Reply) (n : DWORD) : Prop := r.status = FT_OK ∧ r.dword = some n

instance (r : Reply) (n : DWORD) : Decidable (r.Full n) :=
  inferInstanceAs (Decidable (_ ∧ _))

/-- A full write took every byte. -/
lemma Reply.Full.accepted {r : Reply} {n : DWORD} (h : r.Full n) :
    r.accepted n.toNat = n.toNat := by
  simp [Reply.accepted, h.1, h.2]

end Dmx485
