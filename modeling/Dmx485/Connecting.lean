import Dmx485.Attempts

/-!
# What `connect` owes and does not deliver

Three properties of an undisturbed call of `connect`, each with the exact states and answers under
which it holds.

* `decided_iff`: when the answers alone decide. The status of `FT_Open` is kept in a local that
  nothing reads, and the test behind it looks at `ftdiPortStatus`, as an earlier call left it.
* `leaves_nothing_open_iff`: when a call that stores no handle leaves none open. No return closes
  the handle.
* `configured_line_iff`: when the tick is only turned on for a line that is fully set up. Five of
  the eight statuses are overwritten before they are tested.

All three are read off `attempted`, the list of calls that `Attempts.lean` gives for any object and
any answers. Each comes with a call in which the property fails: `old_failure_decides`,
`handle_leaked`, `tick_on_without_flow_control`. The conditions are about the state before the
call and the answers to it, and in terms of the tests: `TestsPass`, `UntestedPass`, `Idle`.
-/

namespace Dmx485

open Interaction

/-! ## The tests of `connect` -/

/-- The world after `connect` has been called on an object, with nothing logged before. -/
def connected (f : Script Dm Reply) (x : Obj) : World :=
  (machine .worker).after connect f ⟨x, []⟩

/-- `connect` opens nothing: there is no device, or a handle already. -/
def Idle (f : Script Dm Reply) (x : Obj) : Prop :=
  (f 1 countQuery).devices = 0 ∨ x.dmxPointer ≠ none

/-- The statuses `connect` tests: the one left from before, and three of the driver's answers. -/
structure TestsPass (f : Script Dm Reply) (x : Obj) : Prop where
  before : x.ftdiPortStatus = FT_OK
  bitMode : (f 14 (.call (.FT_SetBitMode (openedHandle f x) 0x00 0))).status = FT_OK
  baudRate : (f 21 (.call (.FT_SetBaudRate (openedHandle f x) 250000))).status = FT_OK
  latency : (f 31 (.call (.FT_SetLatencyTimer (openedHandle f x) 2))).status = FT_OK

section tests

variable {f : Script Dm Reply} {x : Obj}

/-- An idle `connect` counts the devices, and that is all. -/
lemma attempted_idle (hidle : Idle f x) :
    attempted f x = ([asking f 1 (.FT_ListDevices .numDevs FT_LIST_NUMBER_ONLY)], false) :=
  if_pos hidle

/-- The calls of `connect` when it opens a device. -/
lemma attempted_open (hopen : ¬Idle f x) :
    attempted f x =
      (asking f 1 (.FT_ListDevices .numDevs FT_LIST_NUMBER_ONLY) ::
        asking f 5 (.FT_ListDevices (.index x.deviceNumber.toNat) FT_LIST_BY_INDEX) ::
        asking f 7 (.FT_ListDevices .deviceNumberAddress
          (FT_LIST_BY_INDEX ||| FT_OPEN_BY_DESCRIPTION)) ::
        asking f 11 (.FT_Open x.deviceNumber.toNat) ::
        (configured (openedHandle f x) (fun i => f (i + 13)) x.ftdiPortStatus).1,
      (configured (openedHandle f x) (fun i => f (i + 13)) x.ftdiPortStatus).2) :=
  if_neg hopen

/-- The calls of `connect` when it opens a device: three queries, `FT_Open`, and those of
`configure`. -/
lemma mem_attempted (hopen : ¬Idle f x) {q : Asked} :
    q ∈ (attempted f x).1 ↔
      (q = asking f 1 (.FT_ListDevices .numDevs FT_LIST_NUMBER_ONLY) ∨
        q = asking f 5 (.FT_ListDevices (.index x.deviceNumber.toNat) FT_LIST_BY_INDEX) ∨
        q = asking f 7 (.FT_ListDevices .deviceNumberAddress
          (FT_LIST_BY_INDEX ||| FT_OPEN_BY_DESCRIPTION))) ∨
      q = asking f 11 (.FT_Open x.deviceNumber.toNat) ∨
      q ∈ (configured (openedHandle f x) (fun i => f (i + 13)) x.ftdiPortStatus).1 := by
  rw [attempted_open hopen]
  simp only [List.mem_cons, or_assoc]

/-- The tick is turned on if and only if a device is opened and all tests pass. -/
lemma attempted_on : (attempted f x).2 = true ↔ ¬Idle f x ∧ TestsPass f x := by
  by_cases hidle : Idle f x
  · rw [attempted_idle hidle]
    exact ⟨fun hon => Bool.noConfusion hon, fun hboth => absurd hidle hboth.1⟩
  · rw [attempted_open hidle]
    unfold configured asking
    dsimp only
    split_ifs with hbefore hbit hbaud hlatency
    · exact ⟨fun hon => False.elim hon, fun hboth => absurd hboth.2.before hbefore⟩
    · exact ⟨fun hon => False.elim hon, fun hboth => absurd hboth.2.bitMode hbit⟩
    · exact ⟨fun hon => False.elim hon, fun hboth => absurd hboth.2.baudRate hbaud⟩
    · exact ⟨fun hon => False.elim hon, fun hboth => absurd hboth.2.latency hlatency⟩
    · exact ⟨fun _ => ⟨hidle, not_ne_iff.mp hbefore, not_ne_iff.mp hbit, not_ne_iff.mp hbaud,
        not_ne_iff.mp hlatency⟩, fun _ => rfl⟩

/-- The calls are those of `attempted`. -/
lemma connected_asked : (connected f x).asked = (attempted f x).1 :=
  (connect_run f ⟨x, []⟩).1

/-- So is the decision about the tick. -/
lemma connected_turnsOn : (connected f x).log.any Event.turnsOn = (attempted f x).2 :=
  (connect_run f ⟨x, []⟩).2.1

/-- The handle is stored if the tick is turned on, and `NULL` otherwise. -/
lemma connected_dmxPointer : (connected f x).obj.dmxPointer =
    if (attempted f x).2 then openedHandle f x else none :=
  (connect_run f ⟨x, []⟩).2.2.1

end tests

/-! ## What decides about the outcome -/

/-- The call is made on a handle. -/
def UsesHandle (w : World) : Prop := ∃ q ∈ w.asked, q.1.handle?.isSome = true

/-- A device was opened with `FT_OK`. -/
def Opened (w : World) : Prop := ∃ q ∈ w.asked, (Op.call q.1).isOpen = true ∧ q.2.status = FT_OK

/-- On `x` and on `y` the answers alone decide what `connect` does. -/
structure Decided (f : Script Dm Reply) (x y : Obj) : Prop where
  /-- The same driver calls. -/
  calls : (connected f x).asked.map Prod.fst = (connected f y).asked.map Prod.fst
  /-- The same final handle. -/
  dmxPointer : (connected f x).obj.dmxPointer = (connected f y).obj.dmxPointer
  /-- The same decision about the tick. -/
  turnsOn : (connected f x).log.any Event.turnsOn = (connected f y).log.any Event.turnsOn
  /-- The handle is used if and only if it was opened. -/
  first : UsesHandle (connected f x) ↔ Opened (connected f x)
  second : UsesHandle (connected f y) ↔ Opened (connected f y)

section decided

variable {f : Script Dm Reply} {x y : Obj}

/-- The line setup makes no call exactly if the status left from before is a failure. -/
lemma configured_eq_nil {t : FT_HANDLE} {g : Script Dm Reply} {s : FT_STATUS} :
    (configured t g s).1 = [] ↔ s ≠ FT_OK := by
  unfold configured
  dsimp only
  split_ifs with hs
  · exact ⟨fun _ => hs, fun _ => rfl⟩
  all_goals exact ⟨fun hnil => False.elim hnil, fun hne => absurd hne hs⟩

/-- All calls of `configure` are made on the handle, and none opens a device. -/
lemma all_configured (t : FT_HANDLE) (g : Script Dm Reply) (s : FT_STATUS) :
    (configured t g s).1.all (fun q => q.1.handle?.isSome && !(Op.call q.1).isOpen) = true := by
  unfold configured
  dsimp only
  split_ifs
  all_goals rfl

/-- Only the zero status matters to `configure`. -/
lemma configured_congr {t : FT_HANDLE} {g : Script Dm Reply} {s s' : FT_STATUS}
    (hs : s = FT_OK ↔ s' = FT_OK) : configured t g s = configured t g s' := by
  by_cases hok : s = FT_OK
  · rw [hok, hs.mp hok]
  · unfold configured
    dsimp only
    rw [if_pos hok, if_pos fun hok' => hok (hs.mpr hok')]

/-- The handle is used if a device is opened and the status left from before is `FT_OK`. -/
lemma usesHandle_iff : UsesHandle (connected f x) ↔ ¬Idle f x ∧ x.ftdiPortStatus = FT_OK := by
  unfold UsesHandle
  rw [connected_asked]
  by_cases hidle : Idle f x
  · rw [attempted_idle hidle]
    constructor
    · rintro ⟨q, hq, huses⟩
      rw [List.mem_singleton.mp hq] at huses
      cases huses
    · exact fun hboth => absurd hidle hboth.1
  · rw [and_iff_right hidle]
    have hempty := configured_eq_nil (t := openedHandle f x) (g := fun i => f (i + 13))
      (s := x.ftdiPortStatus)
    apply not_iff_not.mp
    apply Iff.trans _ hempty
    constructor
    · intro hnone
      rw [List.eq_nil_iff_forall_not_mem]
      intro q hq
      have hall := List.all_eq_true.mp (all_configured _ _ _) q hq
      rw [Bool.and_eq_true] at hall
      exact hnone ⟨q, (mem_attempted hidle).mpr (Or.inr (Or.inr hq)), hall.1⟩
    · rintro hnil ⟨q, hq, huses⟩
      rw [mem_attempted hidle, hnil] at hq
      rcases hq with (rfl | rfl | rfl) | rfl | hq
      · cases huses
      · cases huses
      · cases huses
      · cases huses
      · cases hq

/-- The only call that opens a device is the one `connect` makes unless it is idle. -/
lemma opening_asked {q : Asked} :
    q ∈ (connected f x).asked ∧ (Op.call q.1).isOpen = true ↔
      ¬Idle f x ∧ q = asking f 11 (.FT_Open x.deviceNumber.toNat) := by
  rw [connected_asked]
  by_cases hidle : Idle f x
  · rw [attempted_idle hidle, List.mem_singleton]
    constructor
    · rintro ⟨rfl, hopen⟩
      cases hopen
    · exact fun hboth => absurd hidle hboth.1
  · rw [mem_attempted hidle, and_iff_right hidle]
    constructor
    · rintro ⟨(rfl | rfl | rfl) | rfl | hq, hopen⟩
      · cases hopen
      · cases hopen
      · cases hopen
      · rfl
      · have hall := List.all_eq_true.mp (all_configured _ _ _) q hq
        rw [hopen] at hall
        simp at hall
    · rintro rfl
      exact ⟨Or.inr (Or.inl rfl), rfl⟩

/-- A device is opened with `FT_OK` if the driver says so when it is asked. -/
lemma opened_iff : Opened (connected f x) ↔ ¬Idle f x ∧ (openAnswer f x).status = FT_OK := by
  constructor
  · rintro ⟨q, hq, hopen, hok⟩
    obtain ⟨hidle, rfl⟩ := opening_asked.mp ⟨hq, hopen⟩
    exact ⟨hidle, hok⟩
  · rintro ⟨hidle, hok⟩
    obtain ⟨hq, hopen⟩ := opening_asked.mpr ⟨hidle, rfl⟩
    exact ⟨_, hq, hopen, hok⟩

end decided

/-- **When the answers alone decide.** Two calls of `connect` on objects without a handle and with
the same device number, against the same answers, do the same and use the handle exactly when it was
opened, if and only if no device is counted, or on both objects the status left from before is
`FT_OK` just when `FT_Open` returns `FT_OK`. -/
theorem decided_iff (f : Script Dm Reply) {x y : Obj} (hx : x.dmxPointer = none)
    (hy : y.dmxPointer = none) (hnumber : x.deviceNumber = y.deviceNumber) :
    Decided f x y ↔ (f 1 countQuery).devices = 0 ∨
      ((x.ftdiPortStatus = FT_OK ↔ (openAnswer f x).status = FT_OK) ∧
        (y.ftdiPortStatus = FT_OK ↔ (openAnswer f y).status = FT_OK)) := by
  have hidle : ∀ {z : Obj}, z.dmxPointer = none → (Idle f z ↔ (f 1 countQuery).devices = 0) :=
    fun hz => or_iff_left (not_not_intro hz)
  by_cases hcount : (f 1 countQuery).devices = 0
  · have hidle₁ : Idle f x := Or.inl hcount
    have hidle₂ : Idle f y := Or.inl hcount
    refine ⟨fun _ => Or.inl hcount, fun _ => ?_⟩
    constructor
    · rw [connected_asked, connected_asked, attempted_idle hidle₁, attempted_idle hidle₂]
    · rw [connected_dmxPointer, connected_dmxPointer, attempted_idle hidle₁,
        attempted_idle hidle₂]
      rfl
    · rw [connected_turnsOn, connected_turnsOn, attempted_idle hidle₁, attempted_idle hidle₂]
    · rw [usesHandle_iff, opened_iff]
      exact ⟨fun hboth => absurd hidle₁ hboth.1, fun hboth => absurd hidle₁ hboth.1⟩
    · rw [usesHandle_iff, opened_iff]
      exact ⟨fun hboth => absurd hidle₂ hboth.1, fun hboth => absurd hidle₂ hboth.1⟩
  · have hopen₁ : ¬Idle f x := fun hi => hcount ((hidle hx).mp hi)
    have hopen₂ : ¬Idle f y := fun hi => hcount ((hidle hy).mp hi)
    rw [or_iff_right hcount]
    constructor
    · rintro ⟨-, -, -, hfirst, hsecond⟩
      rw [usesHandle_iff, opened_iff, and_iff_right hopen₁, and_iff_right hopen₁] at hfirst
      rw [usesHandle_iff, opened_iff, and_iff_right hopen₂, and_iff_right hopen₂] at hsecond
      exact ⟨hfirst, hsecond⟩
    · rintro ⟨hfirst, hsecond⟩
      have hanswer : openAnswer f x = openAnswer f y := by
        unfold openAnswer
        rw [hnumber]
      have hhandle : openedHandle f x = openedHandle f y := congrArg Reply.handle hanswer
      have hsame : attempted f x = attempted f y := by
        rw [attempted_open hopen₁, attempted_open hopen₂, hnumber, hhandle,
          configured_congr (hfirst.trans (hanswer ▸ hsecond.symm))]
      constructor
      · rw [connected_asked, connected_asked, hsame]
      · rw [connected_dmxPointer, connected_dmxPointer, hsame, hhandle]
      · rw [connected_turnsOn, connected_turnsOn, hsame]
      · rw [usesHandle_iff, opened_iff, hfirst]
      · rw [usesHandle_iff, opened_iff, hsecond]

/-- A device that opens and is set up without an error. -/
def willing : Script Dm Reply := fun _ _ => .fine

/-- A status of 4 left by an earlier failure: the device that has just been opened is not used. -/
theorem old_failure_decides :
    ¬Decided willing Obj.initial { Obj.initial with ftdiPortStatus := 4 } := by
  intro hdecided
  have hpointer : (connected willing Obj.initial).obj.dmxPointer = some 7 := by decide +kernel
  rw [hdecided.dmxPointer] at hpointer
  have hnone : (connected willing { Obj.initial with ftdiPortStatus := 4 }).obj.dmxPointer =
      none := by
    decide +kernel
  rw [hnone] at hpointer
  cases hpointer

/-- A device that cannot be opened. -/
def unwilling : Script Dm Reply := fun _ o =>
  match o with
  | .call (.FT_Open _) => { status := 3 }
  | _ => .fine

/-- With different failures on record, and a failure now, the answers decide. -/
theorem answers_decide :
    Decided unwilling { Obj.initial with ftdiPortStatus := 3 }
      { Obj.initial with ftdiPortStatus := 4, threadOn := true } :=
  (decided_iff unwilling (x := { Obj.initial with ftdiPortStatus := 3 })
    (y := { Obj.initial with ftdiPortStatus := 4, threadOn := true }) rfl rfl rfl).mpr
      (Or.inr ⟨by decide, by decide⟩)

/-! ## What is left open -/

/-- The opening or closing a call is, if any. -/
def Asked.device? (q : Asked) : Option DeviceEvent :=
  match q.1 with
  | .FT_Open _ => some (.opened q.2.status q.2.handle)
  | .FT_Close h => some (.closed h q.2.status)
  | _ => none

/-- Openings and closings are among the calls. -/
lemma history_asked (w : World) :
    w.session.history = (w.asked.filterMap Asked.device?).reverse := by
  have hevent : ∀ e : Event, e.device? = e.asked?.bind Asked.device? := by
    intro e
    unfold Event.device? Event.asked?
    cases e.op with
    | call c => cases c <;> rfl
    | _ => rfl
  unfold World.asked
  rw [← List.filterMap_reverse, List.reverse_reverse, List.filterMap_filterMap]
  exact congrArg (fun F => w.log.filterMap F) (funext hevent)

/-- A call of `connect` that stores no handle leaves none open. -/
structure LeavesNothingOpen (f : Script Dm Reply) (w : World) : Prop where
  /-- A handle that the call opens is closed by it again, or stored. -/
  closed : ∀ h, Live h (connected f w.obj).session.history →
    (connected f w.obj).obj.dmxPointer = some h
  /-- If none is stored, the handles open afterwards are those that were open before. -/
  same : ((machine .worker).after connect f w).obj.dmxPointer = none →
    ∀ h, Live h ((machine .worker).after connect f w).session.history ↔ Live h w.session.history

section history

variable {f : Script Dm Reply} {w : World}

/-- The line setup neither opens nor closes a device. -/
lemma device?_configured (t : FT_HANDLE) (g : Script Dm Reply) (s : FT_STATUS) :
    (configured t g s).1.filterMap Asked.device? = [] := by
  unfold configured
  dsimp only
  split_ifs
  all_goals rfl

/-- An idle `connect` neither opens nor closes a device. -/
lemma history_idle (hidle : Idle f w.obj) :
    ((machine .worker).after connect f w).session.history = w.session.history := by
  rw [history_asked, history_asked w, (connect_run f w).1, attempted_idle hidle,
    List.filterMap_append, List.reverse_append]
  rfl

/-- No return of `connect` closes what it opened. -/
lemma history_open (hopen : ¬Idle f w.obj) :
    ((machine .worker).after connect f w).session.history =
      .opened (openAnswer f w.obj).status (openAnswer f w.obj).handle :: w.session.history := by
  have hcalls : (attempted f w.obj).1.filterMap Asked.device? =
      [.opened (openAnswer f w.obj).status (openAnswer f w.obj).handle] := by
    rw [attempted_open hopen]
    exact congrArg (_ :: ·) (device?_configured _ _ _)
  rw [history_asked, history_asked w, (connect_run f w).1, List.filterMap_append,
    List.reverse_append, hcalls]
  rfl

end history

/-- **When nothing is left open.** A call of `connect` on an object without a handle leaves none
open that it does not store if and only if it opens no device, `FT_Open` fails or yields no handle,
or all tests pass. -/
theorem leaves_nothing_open_iff (f : Script Dm Reply) {w : World} (hptr : w.obj.dmxPointer = none) :
    LeavesNothingOpen f w ↔ (f 1 countQuery).devices = 0 ∨
      (openAnswer f w.obj).status ≠ FT_OK ∨ (openAnswer f w.obj).handle = none ∨
        TestsPass f w.obj := by
  have hpointer := (connect_run f w).2.2.1
  by_cases hcount : (f 1 countQuery).devices = 0
  · have hidle : Idle f w.obj := Or.inl hcount
    refine ⟨fun _ => Or.inl hcount, fun _ => ⟨fun h hlive => ?_, fun _ h => ?_⟩⟩
    · have hnothing : (connected f w.obj).session.history = [] :=
        history_idle (w := ⟨w.obj, []⟩) hidle
      rw [hnothing] at hlive
      exact hlive.elim
    · rw [history_idle hidle]
  have hopen : ¬Idle f w.obj := not_or.mpr ⟨hcount, not_not_intro hptr⟩
  have honly : (connected f w.obj).session.history =
      [.opened (openAnswer f w.obj).status (openAnswer f w.obj).handle] :=
    history_open (w := ⟨w.obj, []⟩) hopen
  -- a handle that was opened is stored, if all tests pass
  have hpasses : ((openAnswer f w.obj).status ≠ FT_OK ∨ (openAnswer f w.obj).handle = none ∨
      TestsPass f w.obj) → ∀ h, (openAnswer f w.obj).status = FT_OK →
      (openAnswer f w.obj).handle = some h → (attempted f w.obj).2 = true := by
    intro hcause h hok hh
    apply attempted_on.mpr
    refine ⟨hopen, (hcause.resolve_left (not_not_intro hok)).resolve_left ?_⟩
    rw [hh]
    exact Option.some_ne_none h
  rw [or_iff_right hcount]
  constructor
  · intro hleaves
    rw [or_iff_not_imp_left, or_iff_not_imp_left]
    intro hok hsome
    obtain ⟨h, hh⟩ := Option.ne_none_iff_exists'.mp hsome
    have hstored := hleaves.closed h (by
      rw [honly]
      exact Or.inl ⟨not_ne_iff.mp hok, hh⟩)
    rw [connected_dmxPointer] at hstored
    by_cases hon : (attempted f w.obj).2 = true
    · exact (attempted_on.mp hon).2
    · rw [if_neg hon] at hstored
      cases hstored
  · intro hcause
    constructor
    · intro h hlive
      rw [honly] at hlive
      obtain ⟨hok, hh⟩ : (openAnswer f w.obj).status = FT_OK ∧
        (openAnswer f w.obj).handle = some h := hlive.resolve_right id
      rw [connected_dmxPointer, if_pos (hpasses hcause h hok hh)]
      exact hh
    · intro hnone h
      rw [history_open hopen]
      apply or_iff_right
      rintro ⟨hok, hh⟩
      rw [hpointer, if_pos (hpasses hcause h hok hh)] at hnone
      exact Option.some_ne_none h (hh.symm.trans hnone)

/-- A device that opens, and whose bit mode cannot be set. -/
def failsBitMode : Script Dm Reply := fun _ o =>
  match o with
  | .call (.FT_SetBitMode ..) => { status := 4 }
  | _ => .fine

/-- The opened device is given up without being closed. -/
theorem handle_leaked : ¬LeavesNothingOpen failsBitMode ⟨Obj.initial, []⟩ := by
  intro hleaves
  have hlive : Live 7 (connected failsBitMode Obj.initial).session.history := by decide +kernel
  have hnone : (connected failsBitMode Obj.initial).obj.dmxPointer = none := by decide +kernel
  have hstored := hleaves.closed 7 hlive
  rw [hnone] at hstored
  cases hstored

/-- A device that does not open, with an old failure on record. -/
def refusesOpen : Script Dm Reply := fun _ o =>
  match o with
  | .call (.FT_Open _) => { status := 3 }
  | _ => .fine

/-- A device that does not open is not left open. -/
theorem nothing_leaked_when_refused :
    LeavesNothingOpen refusesOpen ⟨{ Obj.initial with ftdiPortStatus := 3 }, []⟩ :=
  (leaves_nothing_open_iff refusesOpen (w := ⟨{ Obj.initial with ftdiPortStatus := 3 }, []⟩)
    rfl).mpr (Or.inr (Or.inl (by decide)))

/-! ## What the tick may start on -/

/-- The calls that set the line up and whose status is stored. -/
def lineSetup (t : FT_HANDLE) : List FtCall :=
  [.FT_SetBitMode t 0x00 0, .FT_ResetDevice t, .FT_Purge t (FT_PURGE_RX ||| FT_PURGE_TX),
    .FT_SetBaudRate t 250000, .FT_SetTimeouts t 1000 1000,
    .FT_SetDataCharacteristics t FT_BITS_8 FT_STOP_BITS_2 FT_PARITY_NONE,
    .FT_SetFlowControl t FT_FLOW_NONE 0 0, .FT_SetLatencyTimer t 2]

/-- The line of handle `t` has been set up. -/
structure LineReady (t : FT_HANDLE) (asked : List Asked) : Prop where
  /-- Each of the calls has been made. -/
  made : ∀ c ∈ lineSetup t, c ∈ asked.map Prod.fst
  /-- Each returned `FT_OK`. -/
  ok : ∀ q ∈ asked, q.1 ∈ lineSetup t → q.2.status = FT_OK

/-- The statuses that are stored and overwritten without a test. -/
structure UntestedPass (f : Script Dm Reply) (x : Obj) : Prop where
  reset : (f 17 (.call (.FT_ResetDevice (openedHandle f x)))).status = FT_OK
  purge : (f 19 (.call (.FT_Purge (openedHandle f x) (FT_PURGE_RX ||| FT_PURGE_TX)))).status = FT_OK
  timeouts : (f 24 (.call (.FT_SetTimeouts (openedHandle f x) 1000 1000))).status = FT_OK
  format : (f 26 (.call (.FT_SetDataCharacteristics (openedHandle f x)
    FT_BITS_8 FT_STOP_BITS_2 FT_PARITY_NONE))).status = FT_OK
  flow : (f 28 (.call (.FT_SetFlowControl (openedHandle f x) FT_FLOW_NONE 0 0))).status = FT_OK

/-- The calls of `connect` when all tests pass. -/
lemma attempted_pass {f : Script Dm Reply} {x : Obj} (hopen : ¬Idle f x) (hpass : TestsPass f x) :
    (attempted f x).1 =
      [asking f 1 (.FT_ListDevices .numDevs FT_LIST_NUMBER_ONLY),
        asking f 5 (.FT_ListDevices (.index x.deviceNumber.toNat) FT_LIST_BY_INDEX),
        asking f 7 (.FT_ListDevices .deviceNumberAddress
          (FT_LIST_BY_INDEX ||| FT_OPEN_BY_DESCRIPTION)),
        asking f 11 (.FT_Open x.deviceNumber.toNat),
        asking f 14 (.FT_SetBitMode (openedHandle f x) 0x00 0),
        asking f 17 (.FT_ResetDevice (openedHandle f x)),
        asking f 19 (.FT_Purge (openedHandle f x) (FT_PURGE_RX ||| FT_PURGE_TX)),
        asking f 21 (.FT_SetBaudRate (openedHandle f x) 250000),
        asking f 24 (.FT_SetTimeouts (openedHandle f x) 1000 1000),
        asking f 26 (.FT_SetDataCharacteristics (openedHandle f x)
          FT_BITS_8 FT_STOP_BITS_2 FT_PARITY_NONE),
        asking f 28 (.FT_SetFlowControl (openedHandle f x) FT_FLOW_NONE 0 0),
        asking f 30 (.FT_ClrRts (openedHandle f x)),
        asking f 31 (.FT_SetLatencyTimer (openedHandle f x) 2),
        asking f 34 (.FT_W32_EscapeCommFunction (openedHandle f x) CLRRTS),
        asking f 35 (.FT_GetDeviceInfo (openedHandle f x))] := by
  obtain ⟨hbefore, hbit, hbaud, hlatency⟩ := hpass
  rw [attempted_open hopen]
  unfold configured asking
  dsimp only
  rw [if_neg (not_not_intro hbefore), if_neg (not_not_intro hbit), if_neg (not_not_intro hbaud),
    if_neg (not_not_intro hlatency)]

/-- When all tests pass, the line has been set up if the other five statuses are `FT_OK` too. -/
lemma lineReady_iff {f : Script Dm Reply} {x : Obj} (hopen : ¬Idle f x) (hpass : TestsPass f x) :
    LineReady (openedHandle f x) (attempted f x).1 ↔ UntestedPass f x := by
  rw [attempted_pass hopen hpass]
  constructor
  · rintro ⟨-, hok⟩
    constructor
    · exact hok (asking f 17 _) (by simp) (by simp [lineSetup, asking])
    · exact hok (asking f 19 _) (by simp) (by simp [lineSetup, asking])
    · exact hok (asking f 24 _) (by simp) (by simp [lineSetup, asking])
    · exact hok (asking f 26 _) (by simp) (by simp [lineSetup, asking])
    · exact hok (asking f 28 _) (by simp) (by simp [lineSetup, asking])
  · rintro ⟨hreset, hpurge, htimeouts, hformat, hflow⟩
    obtain ⟨-, hbit, hbaud, hlatency⟩ := hpass
    constructor
    · simp [lineSetup, asking]
    · intro q hq hsetup
      simp only [List.mem_cons, List.not_mem_nil, or_false] at hq
      rcases hq with rfl | rfl | rfl | rfl | rfl | rfl | rfl | rfl | rfl | rfl | rfl | rfl | rfl |
        rfl | rfl
      all_goals first | assumption | simp [lineSetup, asking] at hsetup

/-- **When the tick starts on a line that is set up.** In every state and whatever is answered, a
call of `connect` that turns the tick on has set the line of the stored handle up without an error,
if and only if it does not turn it on (the tick is on already, nothing is opened, or a test fails),
or the five statuses it does not test are `FT_OK` as well. -/
theorem configured_line_iff (f : Script Dm Reply) (w : World) :
    (w.obj.threadOn = false → ((machine .worker).after connect f w).obj.threadOn = true →
        LineReady ((machine .worker).after connect f w).obj.dmxPointer
          (connected f w.obj).asked) ↔
      w.obj.threadOn = true ∨ Idle f w.obj ∨ ¬TestsPass f w.obj ∨ UntestedPass f w.obj := by
  obtain ⟨-, -, hpointer, hon⟩ := connect_run f w
  rw [hpointer, hon, connected_asked]
  cases hbefore : w.obj.threadOn with
  | true => exact ⟨fun _ => Or.inl rfl, fun _ hoff => Bool.noConfusion hoff⟩
  | false =>
      rw [or_iff_right Bool.false_ne_true, Bool.or_false]
      by_cases hboth : ¬Idle f w.obj ∧ TestsPass f w.obj
      · have hturned := attempted_on.mpr hboth
        rw [or_iff_right hboth.1, or_iff_right (not_not_intro hboth.2), hturned,
          if_pos rfl, lineReady_iff hboth.1 hboth.2]
        exact ⟨fun h => h rfl rfl, fun h _ _ => h⟩
      · constructor
        · intro _
          rcases not_and_or.mp hboth with hidle | hfails
          · exact Or.inl (not_not.mp hidle)
          · exact Or.inr (Or.inl hfails)
        · exact fun _ _ hturned => absurd (attempted_on.mp hturned) hboth

/-- A device that fails to set the flow control, and nothing else. -/
def failsFlowControl : Script Dm Reply := fun _ o =>
  match o with
  | .call (.FT_SetFlowControl ..) => { status := 4 }
  | _ => .fine

/-- The tick is turned on although the flow control could not be set. -/
theorem tick_on_without_flow_control :
    ¬(Obj.initial.threadOn = false →
      ((machine .worker).after connect failsFlowControl ⟨Obj.initial, []⟩).obj.threadOn = true →
        LineReady
          ((machine .worker).after connect failsFlowControl ⟨Obj.initial, []⟩).obj.dmxPointer
          (connected failsFlowControl Obj.initial).asked) := by
  intro hready
  have hline := hready rfl (by decide +kernel)
  have hasked : (FtCall.FT_SetFlowControl (some 7) FT_FLOW_NONE 0 0, { status := 4 : Reply }) ∈
      (connected failsFlowControl Obj.initial).asked := by
    decide +kernel
  have hstatus := hline.ok _ hasked (by decide +kernel)
  exact absurd hstatus (by decide)

end Dmx485
