import Dmx485.Connecting

/-!
# The number of devices, as its three readers see it

`getDeviceCount` returns an `int` that is `-1` when the devices cannot be listed. `dmx_print` uses
it as a loop bound, `dmx_select_device` compares the index with it minus one, and `connect` converts
it to an unsigned number and asks whether it is positive. The driver's number is a `DWORD`: from
2³¹ on it is a negative `int`, and one less than 2³¹ itself is the largest `int` again.

* `getDeviceCount_run`: what every caller is returned.
* `Reply.admits`, `Reply.covers`: the indices `dmx_select_device` lets pass, and those below the
  number the driver gave; `covers_of_admits` relates the two.
* `print_messages`, `select_device_run`, `triesOpen_iff`: what each of the three does with it.
* `callers_agree_iff`: when the three agree about a reply to the query. They do unless the query
  failed: then the loop of `print` is empty, every index is wrong, and `connect` sees 2³² − 1
  devices. `failed_count_opens` is such a call of `connect`.
-/

namespace Dmx485

open Interaction

/-! ## The count -/

/-- What `getDeviceCount` returns after this reply to the query. -/
def Reply.count (r : Reply) : Int32 :=
  if r.status ≠ FT_OK then -1 else (r.dword.getD 0).toInt32

/-- The message an operation sends to the outlet. -/
def Op.message : Op → Option (String × List Arg)
  | .outlet_anything selector atoms => some (selector, atoms)
  | _ => none

/-- The messages sent to the outlet, oldest first. -/
def World.messages (w : World) : List (String × List Arg) :=
  (w.log.filterMap fun e => e.op.message).reverse

/-- The selectors of the messages sent to the outlet, oldest first. -/
def World.selectors (w : World) : List String := w.messages.map Prod.fst

/-- The event stores a device number. -/
def Event.selects (e : Event) : Bool :=
  match e.op with
  | .setDeviceNumber _ => true
  | _ => false

/-- An operation adds the message it sends, if any. -/
lemma messages_exec (party : Party) (o : Op) (r : Reply) (w : World) :
    ((machine party).exec o r w).2.messages = w.messages ++ o.message.toList := by
  unfold World.messages
  rw [machine_log, List.filterMap_cons]
  cases o.message with
  | none => exact (List.append_nil _).symm
  | some m => exact List.reverse_cons

section count

variable (f : Script Dm Reply) (w : World)

/-- The query leaves nothing behind but its two events. -/
lemma getDeviceCount_run : ∃ w', (machine .host).run getDeviceCount f w =
      ((f 0 countQuery).count, f.rest.rest, w') ∧
    w'.obj = w.obj ∧ w'.messages = w.messages ∧
    w'.log.any Event.selects = w.log.any Event.selects := by
  unfold getDeviceCount Reply.count
  show ∃ w', (machine .host).run (if (f 0 countQuery).status ≠ FT_OK then _ else _) f.rest _ = _ ∧ _
  split_ifs
  · exact ⟨_, rfl, rfl, rfl, rfl⟩
  · exact ⟨_, rfl, rfl, rfl, rfl⟩

end count

/-! ## The device menu -/

/-- The query for the name at an index. -/
def nameQuery (index : ℕ) : Op := .call (.FT_ListDevices (.index index) FT_LIST_BY_INDEX)

/-- The names the loop of `print` finds in its buffers: for each index the one stored there by the
driver, or else what was there before. -/
def lookedUp : ℕ → ℕ → Script Dm Reply → List String
  | 0, _, _ => []
  | count + 1, i, f => (f 1 (nameQuery i)).name.getD ((f 0 .indeterminate).name.getD "") ::
      lookedUp count (i + 1) f.rest.rest.rest.rest.rest

/-- One name is looked up for each index. -/
lemma length_lookedUp (count i : ℕ) (f : Script Dm Reply) :
    (lookedUp count i f).length = count := by
  induction count generalizing i f with
  | zero => rfl
  | succ count ih => exact congrArg (· + 1) (ih _ _)

/-- A round of the loop sends one message: an `insert` at place 1 of the name it looked up. -/
lemma printFrom_messages (count i : ℕ) (f : Script Dm Reply) (w : World) :
    ((machine .host).after (printFrom count i) f w).messages =
      w.messages ++ (lookedUp count i f).map fun d => ("insert", [.long 1, .sym d]) := by
  induction count generalizing i f w with
  | zero => exact (List.append_nil _).symm
  | succ count ih =>
      rw [lookedUp, List.map_cons, List.append_cons]
      apply (ih (i + 1) f.rest.rest.rest.rest.rest _).trans
      apply congrArg (· ++ _)
      rw [messages_exec, messages_exec, messages_exec, messages_exec, messages_exec]
      -- the first four steps of a round send nothing
      show w.messages ++ [] ++ [] ++ [] ++ [] ++ _ = _
      rw [List.append_nil, List.append_nil, List.append_nil, List.append_nil]
      rfl

/-- **What `print` sends**: a `clear`, and the name of each device counted. -/
theorem print_messages (f : Script Dm Reply) (x : Obj) :
    ((machine .host).after dmx_print f ⟨x, []⟩).messages =
      ("clear", []) :: (lookedUp (f 0 countQuery).count.toInt.toNat 0 f.rest.rest.rest).map
        fun d => ("insert", [.long 1, .sym d]) := by
  obtain ⟨w, hrun, -, hmessages, -⟩ := getDeviceCount_run f ⟨x, []⟩
  unfold dmx_print Machine.after
  rw [Machine.run_bind, hrun]
  apply (printFrom_messages _ 0 f.rest.rest.rest _).trans
  rw [messages_exec, hmessages]
  rfl

/-- A `clear` and as many inserts as there are devices. -/
theorem print_selectors (f : Script Dm Reply) (x : Obj) :
    ((machine .host).after dmx_print f ⟨x, []⟩).selectors =
      "clear" :: List.replicate (f 0 countQuery).count.toInt.toNat "insert" := by
  unfold World.selectors
  rw [print_messages, List.map_cons, List.map_map]
  apply congrArg ("clear" :: ·)
  apply List.map_const'.trans
  rw [length_lookedUp]

/-! ## Selecting a device -/

/-- The index a `device` message asks for, `-1` if it has none. -/
def askedIndex (argv : List Int) : Int := argv.headD (-1)

/-- The index is not negative, and not above the count minus one, as an `int`. -/
def Reply.admits (r : Reply) (dev : Int) : Prop := 0 ≤ dev ∧ dev ≤ (r.count - 1).toInt

/-- The index is one of a device: the devices were listed, and there are more of them than that. -/
def Reply.covers (r : Reply) (dev : Int) : Prop :=
  r.status = FT_OK ∧ 0 ≤ dev ∧ dev < ((r.dword.getD 0).toNat : Int)

instance (r : Reply) (dev : Int) : Decidable (r.admits dev) := inferInstanceAs (Decidable (_ ∧ _))

instance (r : Reply) (dev : Int) : Decidable (r.covers dev) := inferInstanceAs (Decidable (_ ∧ _))

/-- A `DWORD` read as an `int`. -/
lemma toInt_toInt32 (d : DWORD) : d.toInt32.toInt =
    if d ≤ 0x7fffffff then (d.toNat : Int) else (d.toNat : Int) - 0x100000000 := by
  have hlt := d.toNat_lt
  have hle : d ≤ 0x7fffffff ↔ d.toNat ≤ 0x7fffffff := UInt32.le_iff_toNat_le
  have hsigned : d.toInt32.toInt = d.toBitVec.toInt := rfl
  rw [hsigned, BitVec.toInt_eq_toNat_cond]
  simp only [hle, UInt32.toNat_toBitVec]
  split_ifs <;> omega

/-- One less than that, as an `int`: the subtraction wraps at 2³¹. -/
lemma toInt_pred (d : DWORD) : (d.toInt32 - 1).toInt =
    if d = 0 then -1 else if d ≤ 0x80000000 then (d.toNat : Int) - 1
      else (d.toNat : Int) - 1 - 0x100000000 := by
  have hlt := d.toNat_lt
  have hzero : d = 0 ↔ d.toNat = 0 := UInt32.toNat_inj.symm
  have hle : d ≤ 0x80000000 ↔ d.toNat ≤ 0x80000000 := UInt32.le_iff_toNat_le
  have hpred : (d.toInt32 - 1).toInt = (d.toBitVec - 1#32).toInt := rfl
  rw [hpred, BitVec.toInt_eq_toNat_cond, BitVec.toNat_sub]
  simp only [hzero, hle, UInt32.toNat_toBitVec, BitVec.toNat_ofNat]
  split_ifs <;> omega

/-- **An index that passes the test is one of a device**, for every number the driver can give. -/
theorem covers_of_admits {r : Reply} {dev : Int} (h : r.admits dev) : r.covers dev := by
  have hlt := (r.dword.getD 0).toNat_lt
  obtain ⟨hpos, hle⟩ := h
  unfold Reply.count at hle
  by_cases hok : r.status = FT_OK
  · rw [if_neg (not_not_intro hok), toInt_pred] at hle
    refine ⟨hok, hpos, ?_⟩
    split_ifs at hle <;> omega
  · rw [if_pos hok] at hle
    have hwrong : dev ≤ -2 := hle
    omega

/-- So is an index below the count. -/
lemma covers_of_lt_count {r : Reply} {dev : Int} (hpos : 0 ≤ dev) (hlt : dev < r.count.toInt) :
    r.covers dev := by
  have hbound := (r.dword.getD 0).toNat_lt
  unfold Reply.count at hlt
  by_cases hok : r.status = FT_OK
  · rw [if_neg (not_not_intro hok), toInt_toInt32] at hlt
    refine ⟨hok, hpos, ?_⟩
    split_ifs at hlt <;> omega
  · rw [if_pos hok] at hlt
    have hwrong : dev < -1 := hlt
    omega

/-- The test rejects what is not admitted; it may make the query and stores nothing. -/
lemma wrongIndex_run (dev : Int) (f : Script Dm Reply) (w : World) :
    ∃ g w', (machine .host).run (wrongIndex dev) f w =
        (decide ¬(f 0 countQuery).admits dev, g, w') ∧
      w'.obj = w.obj ∧ w'.log.any Event.selects = w.log.any Event.selects := by
  unfold wrongIndex
  split_ifs with hnegative
  · have hwrong : ¬(f 0 countQuery).admits dev := fun hadmits => by
      have hge := hadmits.1
      omega
    rw [decide_eq_true hwrong]
    exact ⟨f, w, rfl, rfl, rfl⟩
  · obtain ⟨w', hrun, hobj, -, hselects⟩ := getDeviceCount_run f w
    refine ⟨f.rest.rest, w', ?_, hobj, hselects⟩
    show (machine .host).run
      (getDeviceCount >>= fun n => .ret (decide (dev > (n - 1).toInt))) f w = _
    rw [Machine.run_bind, hrun]
    refine congrArg (fun b => (b, f.rest.rest, w')) (decide_eq_decide.mpr ?_)
    unfold Reply.admits
    dsimp only
    omega

/-- After the test nothing is left but to store the index or to complain. -/
lemma device_run (argv : List Int) (f : Script Dm Reply) (w : World) :
    ∃ g w', (machine .host).after (handle (.device argv)) f w =
        (machine .host).after (if (f 0 countQuery).admits (askedIndex argv) then
          select_device (unsignedChar (askedIndex argv))
        else console .object_error "dmx485: wrong device index!" []) g w' ∧
      w'.obj = w.obj ∧ w'.log.any Event.selects = w.log.any Event.selects := by
  obtain ⟨g, w', hrun, hkept⟩ := wrongIndex_run (askedIndex argv) f w
  refine ⟨g, w', ?_, hkept⟩
  unfold Machine.after
  show ((machine .host).run (wrongIndex (askedIndex argv) >>= _) f w).2.2 = _
  rw [Machine.run_bind, hrun]
  by_cases hadmits : (f 0 countQuery).admits (askedIndex argv)
  · rw [if_pos hadmits, decide_eq_false (not_not_intro hadmits)]
    rfl
  · rw [if_neg hadmits, decide_eq_true hadmits]
    rfl

/-- **What `device` does**: it stores the index, modulo 256, if the test admits it, and nothing
otherwise. -/
theorem select_device_run (argv : List Int) (f : Script Dm Reply) (x : Obj) :
    (((machine .host).after (handle (.device argv)) f ⟨x, []⟩).log.any Event.selects = true ↔
      (f 0 countQuery).admits (askedIndex argv)) ∧
    (¬(f 0 countQuery).admits (askedIndex argv) →
      ((machine .host).after (handle (.device argv)) f ⟨x, []⟩).obj = x) := by
  obtain ⟨g, w, hafter, hobj, hselects⟩ := device_run argv f ⟨x, []⟩
  rw [hafter]
  by_cases hadmits : (f 0 countQuery).admits (askedIndex argv)
  · rw [if_pos hadmits]
    exact ⟨⟨fun _ => hadmits, fun _ => rfl⟩, fun hnot => absurd hadmits hnot⟩
  · rw [if_neg hadmits]
    refine ⟨⟨fun hselected => ?_, fun h => absurd h hadmits⟩, fun _ => hobj⟩
    rw [show w.log.any Event.selects = true from hselected] at hselects
    cases hselects

/-! ## Trying to open a device -/

/-- `connect` calls `FT_Open`. -/
def TriesOpen (w : World) : Prop := ∃ q ∈ w.asked, (Op.call q.1).isOpen = true

instance (w : World) : Decidable (TriesOpen w) :=
  inferInstanceAs (Decidable (∃ q ∈ w.asked, _))

/-- **What `connect` does**: it tries to open a device unless the count, read as an unsigned number,
is 0, or there is a handle. -/
theorem triesOpen_iff (f : Script Dm Reply) (x : Obj) :
    TriesOpen (connected f x) ↔ (f 1 countQuery).devices ≠ 0 ∧ x.dmxPointer = none := by
  have hattempt : (f 1 countQuery).devices ≠ 0 ∧ x.dmxPointer = none ↔ ¬Idle f x := by
    unfold Idle
    rw [not_or, not_ne_iff]
  rw [hattempt]
  constructor
  · rintro ⟨q, hq, hopen⟩
    exact (opening_asked.mp ⟨hq, hopen⟩).1
  · intro hidle
    obtain ⟨hq, hopen⟩ := opening_asked.mpr ⟨hidle, rfl⟩
    exact ⟨_, hq, hopen⟩

/-! ## Agreement -/

/-- The three callers agree about a reply to the count query, on object `x`. -/
structure CallersAgree (r : Reply) (x : Obj) : Prop where
  /-- A failure, or a count of 0: the menu is cleared and stays empty, every index is rejected, and
  nothing is opened. -/
  nothing : r.status ≠ FT_OK ∨ r.dword.getD 0 = 0 →
    (∀ f, f 0 countQuery = r →
      ((machine .host).after dmx_print f ⟨x, []⟩).selectors = ["clear"]) ∧
    (∀ f argv, f 0 countQuery = r →
      ((machine .host).after (handle (.device argv)) f ⟨x, []⟩).log.any Event.selects = false ∧
      ((machine .host).after (handle (.device argv)) f ⟨x, []⟩).obj.deviceNumber =
        x.deviceNumber) ∧
    ∀ f, f 1 countQuery = r → ¬TriesOpen (connected f x)
  /-- A count of `n` devices: the menu gets `n` items, the indices `0..n-1` are accepted, and
  without a handle a device is tried. -/
  something : ∀ n : DWORD, r.status = FT_OK → r.dword.getD 0 = n → 1 ≤ n → n ≤ 0x7fffffff →
    (∀ f, f 0 countQuery = r → ((machine .host).after dmx_print f ⟨x, []⟩).selectors =
      "clear" :: List.replicate n.toNat "insert") ∧
    (∀ f dev, f 0 countQuery = r →
      (((machine .host).after (handle (.device [dev])) f ⟨x, []⟩).log.any Event.selects = true ↔
        0 ≤ dev ∧ dev ≤ (n.toNat : Int) - 1)) ∧
    (x.dmxPointer = none → ∀ f, f 1 countQuery = r → TriesOpen (connected f x))

section replies

variable {r : Reply}

/-- A count that fits an `int` is read as it is. -/
lemma count_of_ok (hok : r.status = FT_OK) (hfits : r.dword.getD 0 ≤ 0x7fffffff) :
    r.count.toInt = (r.dword.getD 0).toNat := by
  unfold Reply.count
  rw [if_neg (not_not_intro hok), toInt_toInt32, if_pos hfits]

/-- The indices below a count that fits an `int` are admitted, and no others. -/
lemma admits_iff (hok : r.status = FT_OK) (hpos : 1 ≤ r.dword.getD 0)
    (hfits : r.dword.getD 0 ≤ 0x7fffffff) (dev : Int) :
    r.admits dev ↔ 0 ≤ dev ∧ dev ≤ ((r.dword.getD 0).toNat : Int) - 1 := by
  have hne : r.dword.getD 0 ≠ 0 := by
    intro hzero
    rw [hzero] at hpos
    exact absurd hpos (by decide)
  have hle : r.dword.getD 0 ≤ 0x80000000 := UInt32.le_trans hfits (by decide)
  unfold Reply.admits Reply.count
  rw [if_neg (not_not_intro hok), toInt_pred, if_neg hne, if_pos hle]

/-- A failure is not read as 0 by `connect`. -/
lemma devices_of_failed (hfailed : r.status ≠ FT_OK) : r.devices ≠ 0 := by
  unfold Reply.devices
  rw [if_pos hfailed]
  decide

/-- A count is read by `connect` as the driver gave it. -/
lemma devices_of_ok (hok : r.status = FT_OK) : r.devices = r.dword.getD 0 :=
  if_neg (not_not_intro hok)

/-- A failure, or a count of 0: there is nothing to list and no index to accept. -/
lemma count_of_nothing (hnothing : r.status ≠ FT_OK ∨ r.dword.getD 0 = 0) :
    r.count.toInt.toNat = 0 ∧ ∀ dev, ¬r.admits dev := by
  have hnone : ∀ dev, ¬r.covers dev := by
    rintro dev ⟨hok, hpos, hlt⟩
    rw [hnothing.resolve_left (not_not_intro hok)] at hlt
    exact absurd hlt (Int.not_lt.mpr hpos)
  refine ⟨Int.toNat_of_nonpos ?_, fun dev hadmits => hnone dev (covers_of_admits hadmits)⟩
  by_contra hcount
  exact hnone 0 (covers_of_lt_count (Int.le_refl 0) (Int.not_le.mp hcount))

end replies

/-- **When the three callers agree**: if and only if the query did not fail, or there is a handle,
so that `connect` does not get as far as the count. -/
theorem callers_agree_iff (r : Reply) (x : Obj) :
    CallersAgree r x ↔ r.status = FT_OK ∨ x.dmxPointer ≠ none := by
  constructor
  · intro hagree
    by_contra hneither
    obtain ⟨hfailed, hptr⟩ := not_or.mp hneither
    obtain ⟨-, -, hconnect⟩ := hagree.nothing (Or.inl hfailed)
    refine hconnect (fun _ _ => r) rfl ((triesOpen_iff _ x).mpr ?_)
    exact ⟨devices_of_failed hfailed, not_ne_iff.mp hptr⟩
  · intro hcause
    constructor
    · intro hnothing
      obtain ⟨hempty, hreject⟩ := count_of_nothing hnothing
      refine ⟨fun f hf => ?_, fun f argv hf => ?_, fun f hf htries => ?_⟩
      · rw [print_selectors, hf, hempty]
        rfl
      · obtain ⟨hselects, hobj⟩ := select_device_run argv f x
        rw [hf] at hselects hobj
        refine ⟨?_, congrArg Obj.deviceNumber (hobj (hreject _))⟩
        rw [← Bool.not_eq_true, hselects]
        exact hreject _
      · obtain ⟨hcount, hptr⟩ := (triesOpen_iff f x).mp htries
        have hok := hcause.resolve_right (not_not_intro hptr)
        rw [hf, devices_of_ok hok] at hcount
        exact hcount (hnothing.resolve_left (not_not_intro hok))
    · intro n hok hn hpos hfits
      have hcount : r.count.toInt = n.toNat := by
        rw [count_of_ok hok (by rw [hn]; exact hfits), hn]
      refine ⟨fun f hf => ?_, fun f dev hf => ?_, fun hptr f hf => ?_⟩
      · rw [print_selectors, hf, hcount, Int.toNat_natCast]
      · have hselects := (select_device_run [dev] f x).1
        rw [hf] at hselects
        rw [hselects, admits_iff hok (by rw [hn]; exact hpos) (by rw [hn]; exact hfits), hn]
        rfl
      · refine (triesOpen_iff f x).mpr ⟨?_, hptr⟩
        rw [hf, devices_of_ok hok, hn]
        rintro rfl
        exact absurd hpos (by decide)

/-- A failed query, and no handle: `print` and `device` find no device, and `connect` opens one. -/
theorem failed_count_opens : ¬CallersAgree { status := 2 } Obj.initial := by
  intro hagree
  obtain ⟨-, -, hconnect⟩ := hagree.nothing (Or.inl (by decide))
  exact hconnect (fun _ _ => { status := 2 }) rfl (by decide +kernel)

end Dmx485
