import Dmx485.Object

/-!
# The member functions of `dm2xx`

`dmxObjectD2xx.cpp`, function by function, as programs over `Dm`. Each access of a member that
another thread can see, each driver call and each sleep is one operation, in the order of the
source. `EXTRA_DEBUG` is `false`, so the branches under it are left out; so are the members no
modelled function reads (`ftDevice` and the three null pointers handed to `FT_GetDeviceInfo`,
`dThread`, `mClass`).

Local variables stay local: `cftdiPortStatus`, the status of `FT_Open`, is never read, and the
test after it reads the member `ftdiPortStatus`. Numbers have the widths of the source: the number
of devices is a `DWORD` that becomes an `int`, and a `DWORD` again in `connect`; the count of
remaining bytes is a `DWORD` that wraps when more is subtracted than is there.

* `getDeviceCount`, `getDeviceNameForIndex`: the queries, used by both threads.
* `connect`, `disconnect`: run by the worker only. `connect` is cut in three, at the test of
  `dmxPointer` and behind `FT_Open`, so that each part can be reasoned about on its own.
* `timer_action`: one frame, with the data loop `sendData` and its fuse of ten turns.
* `threadBody`: one turn of the worker's endless loop; the loop itself is in `Thread.lean`.
* `enable`, `disable`, `refresh` and the setters: what the handlers of the messages call.
-/

namespace Dmx485

open Interaction

/-! ## The operations as programs -/

/-- The beginning of a member function. -/
def enter (f : Fn) : Code Unit := .op (.enter f) .ret

/-- A load of `dmxPointer`. -/
def getDmxPointer : Code FT_HANDLE := .op .getDmxPointer .ret

/-- A store to `dmxPointer`. -/
def setDmxPointer (h : FT_HANDLE) : Code Unit := .op (.setDmxPointer h) .ret

/-- A load of `ftdiPortStatus`. -/
def getStatus : Code FT_STATUS := .op .getStatus .ret

/-- A store to `ftdiPortStatus`. -/
def setStatus (status : FT_STATUS) : Code Unit := .op (.setStatus status) .ret

/-- A load of `deviceNumber`. -/
def getDeviceNumber : Code UInt8 := .op .getDeviceNumber .ret

/-- A store to `deviceNumber`. -/
def setDeviceNumber (index : UInt8) : Code Unit := .op (.setDeviceNumber index) .ret

/-- A store `channel` places after the beginning of `dmx_data`. -/
def setData (channel : ℕ) (value : UInt8) : Code Unit := .op (.setData channel value) .ret

/-- A store to `autoConnect`. -/
def setAutoConnect (yesorno : Bool) : Code Unit := .op (.setAutoConnect yesorno) .ret

/-- A load of `threadOn`. -/
def getThreadOn : Code Bool := .op .getThreadOn .ret

/-- A store to `threadOn`. -/
def setThreadOn (on : Bool) : Code Unit := .op (.setThreadOn on) .ret

/-- A load of `threadAction`, the mailbox. -/
def getThreadAction : Code Int := .op .getThreadAction .ret

/-- A store to `threadAction`: a request posted, or cleared. -/
def setThreadAction (action : Int) : Code Unit := .op (.setThreadAction action) .ret

/-- A call of the driver, whose reply is the outside world's. -/
def call (c : FtCall) : Code Reply := .op (.call c) .ret

/-- The content of a local variable before anything has been stored in it. -/
def indeterminate : Code Reply := .op .indeterminate .ret

/-- A sleep of the calling thread. -/
def usleep (useconds : ℕ) : Code Unit := .op (.usleep useconds) .ret

/-- A line on the console of the host. -/
def console (c : Console) (format : String) (args : List Arg) : Code Unit :=
  .op (.console c format args) .ret

/-- A message to the outlet of the Max object. -/
def outlet_anything (selector : String) (atoms : List Arg) : Code Unit :=
  .op (.outlet_anything selector atoms) .ret

/-! ## Device enumeration -/

/-- The number of devices as an `int`, `-1` when they cannot be listed.
Source: `dmxObjectD2xx.cpp`, `dm2xx::getDeviceCount` -/
def getDeviceCount : Code Int32 := do
  let r ← call (.FT_ListDevices .numDevs FT_LIST_NUMBER_ONLY)
  let numDevs := r.dword.getD 0
  if r.status ≠ FT_OK then
    console .object_error "dmx485: unable to list devices" []
    return -1
  else
    console .post "devices: %i" [.long numDevs.toInt32.toInt]
    return numDevs.toInt32

/-- Look a device name up; the result is the content of `Buffer` afterwards.
Source: `dmxObjectD2xx.cpp`, `dm2xx::getDeviceNameForIndex` -/
def getDeviceNameForIndex (index : Int) (Buffer : String) : Code String := do
  let r ← call (.FT_ListDevices (.index index) FT_LIST_BY_INDEX)
  let Buffer := r.name.getD Buffer
  console .post "device name: %s" [.sym Buffer]
  return Buffer

/-! ## Connecting and disconnecting -/

/-- What `connect` does with the handle left by `FT_Open`: set the line up, and publish the handle
and the tick if every tested status is `FT_OK`. The line is set to two stop bits, although the
comment beside the call says `8N1`.
Source: `dmxObjectD2xx.cpp`, `dm2xx::connect`, from the test after `FT_Open` -/
def configure (tdmxPointer : FT_HANDLE) : Code Unit := do
  let ftdiPortStatus ← getStatus
  if ftdiPortStatus ≠ FT_OK then
    console .error "dmx485: electronics error: Can't open USB device: %d"
      [.long (← getStatus).toInt32.toInt]
    setDmxPointer none
  else
  setStatus (← call (.FT_SetBitMode tdmxPointer 0x00 0)).status
  if (← getStatus) ≠ FT_OK then
    console .error "dmx485: electronics error: Can't set bit bang mode" []
    setDmxPointer none
  else
  -- reset etc.
  setStatus (← call (.FT_ResetDevice tdmxPointer)).status
  setStatus (← call (.FT_Purge tdmxPointer (FT_PURGE_RX ||| FT_PURGE_TX))).status
  setStatus (← call (.FT_SetBaudRate tdmxPointer 250000)).status
  if (← getStatus) ≠ FT_OK then
    console .error "dmx485: electronics error: Can't set baud rate" []
    setDmxPointer none
  else
  -- settings
  setStatus (← call (.FT_SetTimeouts tdmxPointer 1000 1000)).status
  setStatus (← call (.FT_SetDataCharacteristics tdmxPointer
    FT_BITS_8 FT_STOP_BITS_2 FT_PARITY_NONE)).status
  setStatus (← call (.FT_SetFlowControl tdmxPointer FT_FLOW_NONE 0 0)).status
  let _ ← call (.FT_ClrRts tdmxPointer)
  setStatus (← call (.FT_SetLatencyTimer tdmxPointer 2)).status
  if (← getStatus) ≠ FT_OK then
    console .error "dmx485: electronics error: Can't set latency timer" []
    setDmxPointer none
  else
  let _ ← call (.FT_W32_EscapeCommFunction tdmxPointer CLRRTS)
  let _ ← call (.FT_GetDeviceInfo tdmxPointer)
  console .object_post "dmx485: ok" []
  setDmxPointer tdmxPointer
  usleep 10000
  setThreadOn true

/-- Source: `dmxObjectD2xx.cpp`, `dm2xx::connect`, up to and including `FT_Open` -/
def openDevice : Code FT_HANDLE := do
  console .object_post "dmx485: connecting..." []
  let idx ← getDeviceNumber
  let cftdiPortStatus ← call (.FT_Open idx.toNat)
  console .post "open" []
  return cftdiPortStatus.handle

/-- `(numDevs > 0) && (dmxPointer == NULL)`: the member is not read when there is no device.
Source: `dmxObjectD2xx.cpp`, `dm2xx::connect`, the outer test -/
def mayOpen (numDevs : DWORD) : Code Bool :=
  if numDevs > 0 then Option.isNone <$> getDmxPointer else pure false

/-- Source: `dmxObjectD2xx.cpp`, `dm2xx::connect` -/
def connect : Code Unit := do
  enter .connect
  let numDevs := (← getDeviceCount).toUInt32
  if ← mayOpen numDevs then
    let _ ← getDeviceNameForIndex (← getDeviceNumber).toNat "FT232R USB UART"
    let _ ← call (.FT_ListDevices .deviceNumberAddress
      (FT_LIST_BY_INDEX ||| FT_OPEN_BY_DESCRIPTION))
    if (← getDmxPointer).isNone then
      configure (← openDevice)
    else
      console .printf "dmx485: USB device is not connected" []
      setDmxPointer none
  else
    console .object_error "dmx485: no USB device found" []
    setDmxPointer none

/-- Source: `dmxObjectD2xx.cpp`, `dm2xx::disconnect` -/
def disconnect : Code Unit := do
  enter .disconnect
  setThreadOn false
  let cPointer ← getDmxPointer
  if cPointer.isSome then
    setStatus (← call (.FT_Close cPointer)).status
  else
    setStatus FT_OK
  if (← getStatus) ≠ FT_OK then
    console .object_error "dmx485: error disconnecting: %u" [.long (← getStatus).toNat]
  else
    setDmxPointer none
    console .object_post "dmx485: disconnected" []

/-! ## The tick -/

/-- The data loop of a tick, with `fuse` turns and `s2` bytes left and `bytesWrittenOrRead` as the
last write left it. `&dmx_data` is a pointer to an array of 512 bytes, so adding `s2_init - s2`
to it advances by that many arrays. The result is the last status, if there was a write.
Source: `dmxObjectD2xx.cpp`, `dm2xx::timer_action`, the `while` loop -/
def sendData : (fuse : ℕ) → (s2 bytesWrittenOrRead : DWORD) → FT_STATUS → Code FT_STATUS
  | 0, _, _, qftdiPortStatus => return qftdiPortStatus
  | fuse + 1, s2, bytesWrittenOrRead, qftdiPortStatus =>
    if s2 = 0 then return qftdiPortStatus else do
      let s2_init : DWORD := 512
      let r ← call (.FT_Write (← getDmxPointer) (.dmx_data (512 * (s2_init - s2).toNat)) s2)
      let bytesWrittenOrRead := r.dword.getD bytesWrittenOrRead
      sendData fuse (s2 - bytesWrittenOrRead) bytesWrittenOrRead r.status

/-- One frame, with the status that the last test of the tick looks at.
Source: `dmxObjectD2xx.cpp`, `dm2xx::timer_action` -/
def sendFrame : Code FT_STATUS := do
  let bytesWrittenOrRead := (← indeterminate).dword.getD 0
  if (← getDmxPointer).isSome then
    let _ ← call (.FT_SetBreakOff (← getDmxPointer))
    let r ← call (.FT_Write (← getDmxPointer) (.start 0) 1)
    let _ ← sendData 10 512 (r.dword.getD bytesWrittenOrRead) r.status
    let _ ← call (.FT_SetBreakOn (← getDmxPointer))
    return (← call (.FT_Purge (← getDmxPointer) (FT_PURGE_RX ||| FT_PURGE_TX))).status
  else
    return -1

/-- Source: `dmxObjectD2xx.cpp`, `dm2xx::timer_action`; the error branch is under `EXTRA_DEBUG` -/
def timer_action : Code Unit := do
  enter .timer_action
  let _qftdiPortStatus ← sendFrame

/-! ## The worker thread -/

/-- Source: `dmxObjectD2xx.cpp`, `dm2xx::thread`, the test for 1 -/
def serveConnect : Code Unit := do
  if (← getThreadAction) = 1 then
    setThreadAction 0
    connect

/-- Source: `dmxObjectD2xx.cpp`, `dm2xx::thread`, the test for 2 -/
def serveDisconnect : Code Unit := do
  if (← getThreadAction) = 2 then
    setThreadAction 0
    disconnect

/-- Source: `dmxObjectD2xx.cpp`, `dm2xx::thread`, the test for 3 -/
def serveRefresh : Code Unit := do
  if (← getThreadAction) = 3 then
    setThreadOn false
    disconnect
    setThreadAction 0
    usleep 10000
    setThreadAction 1

/-- The first part of an iteration: serve the request in the mailbox.
Source: `dmxObjectD2xx.cpp`, `dm2xx::thread`, the three tests of `threadAction` -/
def pollMailbox : Code Unit := do
  serveConnect
  serveDisconnect
  serveRefresh

/-- One iteration of the worker loop.
Source: `dmxObjectD2xx.cpp`, `dm2xx::thread`, the body of `while (true)` -/
def threadBody : Code Unit := do
  pollMailbox
  if ← getThreadOn then
    timer_action
  usleep 10000

/-! ## Requests and setters -/

/-- Source: `dmxObjectD2xx.cpp`, `dm2xx::enable`, after the console line -/
def enableTest : Code Unit := do
  if (← getDmxPointer).isNone then
    setThreadAction 1

/-- Source: `dmxObjectD2xx.cpp`, `dm2xx::enable` -/
def enable : Code Unit := do
  enter .enable
  console .post "dmx485: starting..." []
  enableTest

/-- Source: `dmxObjectD2xx.cpp`, `dm2xx::disable` -/
def disable : Code Unit := do
  enter .disable
  setThreadAction 2
  console .post "dmx485: stopping..." []

/-- Source: `dmxObjectD2xx.cpp`, `dm2xx::refresh` -/
def refresh : Code Unit := do
  enter .refresh
  console .post "dmx485: refreshing..." []
  setThreadAction 3

/-- Source: `dmxObjectD2xx.cpp`, `dm2xx::select_device` -/
def select_device (index : UInt8) : Code Unit :=
  setDeviceNumber index

/-- Source: `dmxObjectD2xx.cpp`, `dm2xx::set_channel` -/
def set_channel (channel : ℕ) (value : UInt8) : Code Unit := do
  if channel < 513 then
    setData channel value

/-- Source: `dmxObjectD2xx.cpp`, `dm2xx::set_auto_connect` -/
def set_auto_connect (yesorno : Bool) : Code Unit :=
  setAutoConnect yesorno

end Dmx485
