import Dmx485.Messages

/-!
# What each worker function does, whatever the host does meanwhile

One rule for each function of the worker, for any interference by host operations, any
restriction of the replies and any guarantee. A rule is instantiated with the assertion held on
entry, the assertions held between the writes to the shared fields, and the one left behind; it
asks only about those writes and about `FT_Open` and `FT_Close`. Everything else a function does
is *quiet*, and an assertion is asked once to survive it (`Quietly`).

The rules are where the text of the functions is gone through, and the only place where it is gone
through under interference: the results about runs instantiate them and never unfold `connect` or
`disconnect` again.

* `Op.Quiet`: operations that store nothing and neither open nor close a device; `Op.Silent`: those
  of them that make no driver call either and load nothing but the status.
* `configure_triple`, `connect_triple`, `disconnect_triple`, `sendFrame_triple`.
* `Keeps.own`: facts about `dmxPointer`, `ftdiPortStatus` and `threadOn` survive for free,
  because only the worker writes them.
* `TickKept`: what a tick asks of an assertion. A tick stores nothing, so there is nothing between
  two of its calls that would have to be asserted anew.
-/

namespace Dmx485

open Interaction

/-! ## The context of the worker -/

/-- The worker runs while the host performs operations in `E`; both get replies in `A`, and the
worker owes `G`. -/
def around (E : Op → Prop) (A : World → Op → Reply → Prop) (G : World → Op → Reply → Prop) :
    Context Dm World Reply where
  env w w' := ∃ o r, E o ∧ A w o r ∧ w' = ((machine .host).exec o r w).2
  allows := A
  guarantee := G

/-- The operations of the worker that write no field, open or close no device, leave the mailbox
alone and enter no function. -/
def Op.Quiet : Op → Prop
  | call (.FT_Open _) | call (.FT_Close _) => False
  | call _ | getDmxPointer | getStatus | getDeviceNumber | getThreadOn | indeterminate
  | usleep _ | console .. => True
  | _ => False

/-- The quiet operations that make no driver call and load nothing but the status. -/
def Op.Silent : Op → Prop
  | getStatus | console .. => True
  | _ => False

/-- Silent operations are quiet. -/
lemma Op.Silent.quiet {o : Op} (ho : o.Silent) : o.Quiet := by
  cases o <;> trivial

/-- The three fields only the worker writes. -/
def World.own (w : World) : FT_HANDLE × FT_STATUS × Bool :=
  (w.obj.dmxPointer, w.obj.ftdiPortStatus, w.obj.threadOn)

/-- A host operation does not write the worker's fields. -/
lemma own_host {o : Op} (ho : o.Host) (r : Reply) (w : World) :
    ((machine .host).exec o r w).2.own = w.own := by
  cases o with
  | setDmxPointer h => exact ho.elim
  | setStatus s => exact ho.elim
  | setThreadOn b => exact ho.elim
  | setData k v =>
      simp only [World.own, machine_obj, Op.effect, Obj.poke]
      split_ifs <;> rfl
  | _ => rfl

/-- A quiet operation does not change the object. -/
lemma effect_quiet {o : Op} (ho : o.Quiet) (x : Obj) : o.effect x = x := by
  cases o <;> first | rfl | exact ho.elim

section rules

variable {E : Op → Prop} {A : World → Op → Reply → Prop} {G : World → Op → Reply → Prop}

/-- An assertion that survives host steps and the worker's steps in `K`, and under which the
latter are allowed. -/
structure Keeps (K : Op → Prop) (E : Op → Prop) (A : World → Op → Reply → Prop)
    (G : World → Op → Reply → Prop) (P : World → Prop) : Prop where
  stable : Stable (around E A G) P
  keeps : ∀ w o r, K o → P w → A w o r → G w o r ∧ P ((machine .worker).exec o r w).2

/-- An assertion that survives quiet steps. -/
abbrev Quietly := Keeps Op.Quiet

/-- An assertion that survives silent steps. -/
abbrev Silently := Keeps Op.Silent

variable {K : Op → Prop} {α : Type} {P Q : World → Prop} {R : α → World → Prop}

/-- What outlasts quiet operations outlasts silent ones. -/
lemma Keeps.silently (hP : Quietly E A G P) : Silently E A G P where
  stable := hP.stable
  keeps w o r ho hw hr := hP.keeps w o r ho.quiet hw hr

/-- What is known of the worker's own fields survives with any assertion that does. -/
lemma Keeps.own (hP : Keeps K E A G P) (hK : ∀ o, K o → o.Quiet) (hE : ∀ o, E o → o.Host)
    (F : FT_HANDLE × FT_STATUS × Bool → Prop) : Keeps K E A G fun w => P w ∧ F w.own where
  stable := by
    rintro w w' ⟨hw, hF⟩ ⟨o, r, ho, hr, rfl⟩
    exact ⟨hP.stable w _ hw ⟨o, r, ho, hr, rfl⟩, (own_host (hE o ho) r w).symm ▸ hF⟩
  keeps := by
    rintro w o r ho ⟨hw, hF⟩ hr
    have hkeeps := hP.keeps w o r ho hw hr
    refine ⟨hkeeps.1, hkeeps.2, ?_⟩
    simpa only [World.own, machine_obj, effect_quiet (hK o ho)] using hF

/-- A program of operations in `K` keeps such an assertion. -/
lemma Keeps.all (hP : Keeps K E A G P) {p : Code α} (hp : p.All K) :
    Triple (machine .worker) (around E A G) P p fun _ => P :=
  .of_all hP.stable (fun w o r ho hw hr => hP.keeps w o r ho hw hr) hp

/-- A step in `K` first. -/
lemma Keeps.then (hP : Keeps K E A G P) {o : Op} (ho : K o) {k : o.Ans → Code α}
    (hk : ∀ a, Triple (machine .worker) (around E A G) P (k a) R) :
    Triple (machine .worker) (around E A G) P (.op o k) R := by
  refine Triple.op hP.stable fun w r hw hr => ?_
  have hkeeps := hP.keeps w o r ho hw hr
  exact ⟨hkeeps.1, hk _ _ hkeeps.2⟩

/-- A driver call in `K` first: its reply is an allowed one. -/
lemma Keeps.call_then (hP : Keeps K E A G P) {c : FtCall} (hc : K (.call c)) {k : Reply → Code α}
    (hk : ∀ w₀ r, A w₀ (.call c) r → Triple (machine .worker) (around E A G) P (k r) R) :
    Triple (machine .worker) (around E A G) P (call c >>= k) R := by
  refine Triple.op hP.stable fun w r hw hr => ?_
  have hkeeps := hP.keeps w _ r hc hw hr
  exact ⟨hkeeps.1, hk w r hr _ hkeeps.2⟩

/-- A step in `K` last. -/
lemma Keeps.last (hP : Keeps K E A G P) {o : Op} (ho : K o) {k : o.Ans → Code α}
    (hk : ∀ a, ∃ b, k a = .ret b) (hQ : ∀ w, P w → Q w) :
    Triple (machine .worker) (around E A G) P (.op o k) fun _ => Q := by
  refine hP.then ho fun a => ?_
  obtain ⟨b, hb⟩ := hk a
  rw [hb]
  exact Triple.ret hQ

/-- A load of `dmxPointer` first: the value stays known. -/
lemma Keeps.getDmxPointer_then (hP : Keeps K E A G P) (hload : K .getDmxPointer)
    {k : FT_HANDLE → Code α}
    (hk : ∀ p, Triple (machine .worker) (around E A G) (fun w => P w ∧ w.own.1 = p) (k p) R) :
    Triple (machine .worker) (around E A G) P (getDmxPointer >>= k) R := by
  refine Triple.op hP.stable fun w r hw hr => ?_
  have hkeeps := hP.keeps w .getDmxPointer r hload hw hr
  exact ⟨hkeeps.1, hk _ _ ⟨hkeeps.2, rfl⟩⟩

/-- A load of `ftdiPortStatus` first. -/
lemma Keeps.getStatus_then (hP : Keeps K E A G P) (hload : K .getStatus) {k : FT_STATUS → Code α}
    (hk : ∀ s, Triple (machine .worker) (around E A G) (fun w => P w ∧ w.own.2.1 = s) (k s) R) :
    Triple (machine .worker) (around E A G) P (getStatus >>= k) R := by
  refine Triple.op hP.stable fun w r hw hr => ?_
  have hkeeps := hP.keeps w .getStatus r hload hw hr
  exact ⟨hkeeps.1, hk _ _ ⟨hkeeps.2, rfl⟩⟩

/-- A store first: what it owes, and what it leaves. -/
lemma store_then {o : Op} {k : o.Ans → Code α} (hP : Stable (around E A G) P)
    (hstore : ∀ w r, P w → A w o r → G w o r ∧ Q ((machine .worker).exec o r w).2)
    (hk : ∀ a, Triple (machine .worker) (around E A G) Q (k a) R) :
    Triple (machine .worker) (around E A G) P (.op o k) R := by
  refine Triple.op hP fun w r hw hr => ?_
  have hs := hstore w r hw hr
  exact ⟨hs.1, hk _ _ hs.2⟩

/-- A store last. -/
lemma store_last {o : Op} {k : o.Ans → Code α} (hP : Stable (around E A G) P)
    (hk : ∀ a, ∃ b, k a = .ret b)
    (hstore : ∀ w r, P w → A w o r → G w o r ∧ Q ((machine .worker).exec o r w).2) :
    Triple (machine .worker) (around E A G) P (.op o k) fun _ => Q := by
  refine store_then hP hstore fun a => ?_
  obtain ⟨b, hb⟩ := hk a
  rw [hb]
  exact fun w hw => hw

/-! ## Configuring the line -/

/-- An assertion that survives storing the status of a quiet driver call. -/
def StatusKept (A : World → Op → Reply → Prop) (G : World → Op → Reply → Prop)
    (T : World → Prop) : Prop :=
  ∀ w c r r', T w → (Op.call c).Quiet → (∃ w₀, A w₀ (.call c) r) →
    G w (.setStatus r.status) r' ∧ T ((machine .worker).exec (.setStatus r.status) r' w).2

variable {T U : World → Prop}

/-- A driver call and the store of its status. -/
lemma Keeps.setup_then (hT : Quietly E A G T) (hst : StatusKept A G T) {c : FtCall}
    (hc : (Op.call c).Quiet) {k : Unit → Code α}
    (hk : ∀ a, Triple (machine .worker) (around E A G) T (k a) R) :
    Triple (machine .worker) (around E A G) T
      (call c >>= fun r => setStatus r.status >>= k) R :=
  hT.call_then hc fun w₀ r hr =>
    store_then hT.stable (fun w r' hw _ => hst w c r r' hw hc ⟨w₀, hr⟩) hk

/-- An error line and the store of `NULL`. -/
lemma Keeps.fail (hT : Quietly E A G T) (c : Console) (format : String) (args : List Arg)
    (hfail : ∀ w r, T w → A w (.setDmxPointer none) r →
      G w (.setDmxPointer none) r ∧ Q ((machine .worker).exec (.setDmxPointer none) r w).2) :
    Triple (machine .worker) (around E A G) T
      (console c format args >>= fun _ => setDmxPointer none) fun _ => Q :=
  hT.then (by trivial) fun _ => store_last hT.stable (fun _ => ⟨(), rfl⟩) hfail

/-- **The rule for `configure`.** `T` holds while the line is set up; an early return, which only
a status other than `FT_OK` causes, leaves `Q`; otherwise the handle is published (`U`) and the
tick turned on. -/
theorem configure_triple (hE : ∀ o, E o → o.Host) (t : FT_HANDLE) (hT : Quietly E A G T)
    (hst : StatusKept A G T)
    (hfail : ∀ w r, T w → w.own.2.1 ≠ FT_OK → A w (.setDmxPointer none) r →
      G w (.setDmxPointer none) r ∧ Q ((machine .worker).exec (.setDmxPointer none) r w).2)
    (hdone : ∀ w r, T w → w.own.2.1 = FT_OK → (∃ w₀ r', A w₀ (.call (.FT_GetDeviceInfo t)) r') →
      A w (.setDmxPointer t) r →
      G w (.setDmxPointer t) r ∧ U ((machine .worker).exec (.setDmxPointer t) r w).2)
    (hU : Quietly E A G U)
    (hon : ∀ w r, U w → A w (.setThreadOn true) r →
      G w (.setThreadOn true) r ∧ Q ((machine .worker).exec (.setThreadOn true) r w).2) :
    Triple (machine .worker) (around E A G) T (configure t) fun _ => Q := by
  have hTs : ∀ s, Quietly E A G fun w => T w ∧ w.own.2.1 = s := fun s =>
    hT.own (fun _ => id) hE fun own => own.2.1 = s
  have hbad : ∀ s, s ≠ FT_OK → ∀ w r, (T w ∧ w.own.2.1 = s) → A w (.setDmxPointer none) r →
      G w (.setDmxPointer none) r ∧
        Q ((machine .worker).exec (.setDmxPointer none) r w).2 :=
    fun s hs w r hw hr => hfail w r hw.1 (hw.2.trans_ne hs) hr
  have hforget : ∀ {p : Code Unit} {s}, Triple (machine .worker) (around E A G) T p (fun _ => Q) →
      Triple (machine .worker) (around E A G) (fun w => T w ∧ w.own.2.1 = s) p fun _ => Q :=
    fun h => h.conseq (fun _ hw => hw.1) fun _ _ hw => hw
  unfold configure
  refine hT.getStatus_then (by trivial) fun s => ?_
  split_ifs with hs
  · exact (hTs s).then (by trivial) fun _ => (hTs s).fail _ _ _ (hbad s hs)
  refine hforget (hT.setup_then hst (by trivial) fun _ =>
    hT.getStatus_then (by trivial) fun s => ?_)
  split_ifs with hs
  · exact (hTs s).fail _ _ _ (hbad s hs)
  refine hforget (hT.setup_then hst (by trivial) fun _ => hT.setup_then hst (by trivial) fun _ =>
    hT.setup_then hst (by trivial) fun _ => hT.getStatus_then (by trivial) fun s => ?_)
  split_ifs with hs
  · exact (hTs s).fail _ _ _ (hbad s hs)
  refine hforget (hT.setup_then hst (by trivial) fun _ => hT.setup_then hst (by trivial) fun _ =>
    hT.setup_then hst (by trivial) fun _ => hT.then (by trivial) fun _ =>
    hT.setup_then hst (by trivial) fun _ => hT.getStatus_then (by trivial) fun s => ?_)
  split_ifs with hs
  · exact (hTs s).fail _ _ _ (hbad s hs)
  refine (hTs s).then (by trivial) fun _ => (hTs s).call_then (by trivial) fun w₀ r' hinfo =>
    (hTs s).then (by trivial) fun _ => ?_
  refine store_then (hTs s).stable (fun w r hw hr =>
    hdone w r hw.1 (hw.2.trans (not_ne_iff.mp hs)) ⟨w₀, r', hinfo⟩ hr) fun _ => ?_
  exact hU.then (by trivial) fun _ => store_last hU.stable (fun _ => ⟨(), rfl⟩) hon

/-! ## Connecting -/

/-- The number of devices `connect` sees after this reply to the count query: a failed query
counts as `-1`, converted to `DWORD`. -/
def Reply.devices (r : Reply) : DWORD :=
  if r.status ≠ FT_OK then (-1 : Int32).toUInt32 else r.dword.getD 0

/-- The count query. -/
def countQuery : Op := .call (.FT_ListDevices .numDevs FT_LIST_NUMBER_ONLY)

/-- `getDeviceCount` makes the query and returns the count as the driver gave it. -/
lemma getDeviceCount_triple (hP : Quietly E A G P) :
    Triple (machine .worker) (around E A G) P getDeviceCount
      fun n w => P w ∧ ∃ w₀ r, A w₀ countQuery r ∧ n.toUInt32 = r.devices := by
  unfold getDeviceCount
  refine hP.call_then (by trivial) fun w₀ r hr => ?_
  simp only
  split_ifs with hs
  · exact hP.then (by trivial) fun _ w hw => ⟨hw, w₀, r, hr, (if_pos hs).symm⟩
  · exact hP.then (by trivial) fun _ w hw => ⟨hw, w₀, r, hr, (if_neg hs).symm⟩

/-- A name lookup is quiet. -/
lemma getDeviceNameForIndex_quiet (index : Int) (Buffer : String) :
    (getDeviceNameForIndex index Buffer).All Op.Quiet :=
  ⟨trivial, fun _ => ⟨trivial, fun _ => trivial⟩⟩

/-- The outer test of `connect`: when it fails there is a handle or no device. -/
lemma mayOpen_triple (hP : Quietly E A G P) (numDevs : DWORD) :
    Triple (machine .worker) (around E A G) P (mayOpen numDevs)
      fun free w => P w ∧ (free = true → w.own.1 = none) ∧
        (free = false → w.own.1 ≠ none ∨ numDevs = 0) := by
  unfold mayOpen
  split_ifs with hn
  · refine hP.getDmxPointer_then (by trivial) fun p w hw => ?_
    refine ⟨hw.1, fun hfree => ?_, fun hfree => Or.inl ?_⟩
    · exact hw.2.trans (Option.isNone_iff_eq_none.mp hfree)
    · rintro hnone
      rw [← hw.2, hnone] at hfree
      cases hfree
  · have hzero : numDevs = 0 := UInt32.le_zero_iff.mp (UInt32.not_lt.mp hn)
    exact fun w hw => ⟨hw, fun hfree => Bool.noConfusion hfree, fun _ => Or.inr hzero⟩

/-- Opening the device: `FT_Open` leads from `P` to `T` of the handle it left. -/
lemma openDevice_triple {T : FT_HANDLE → World → Prop} (hP : Quietly E A G P)
    (hopen : ∀ w i r, P w → A w (.call (.FT_Open i)) r →
      G w (.call (.FT_Open i)) r ∧
        T r.handle ((machine .worker).exec (.call (.FT_Open i)) r w).2)
    (hT : ∀ t, Quietly E A G (T t)) :
    Triple (machine .worker) (around E A G) P openDevice T := by
  unfold openDevice
  refine hP.then (by trivial) fun _ => hP.then (by trivial) fun idx => ?_
  refine Triple.op hP.stable fun w r hw hr => ?_
  have hpost : Triple (machine .worker) (around E A G) (T r.handle)
      (console .post "open" [] >>= fun _ => pure r.handle) T :=
    (hT r.handle).then (by trivial) fun _ => Triple.ret fun w hw => hw
  have ho := hopen w _ r hw hr
  exact ⟨ho.1, hpost _ ho.2⟩

/-- **The rule for `connect`.** With a handle already stored, or without a device, it stores
`NULL`; otherwise `FT_Open` leads from `P` to `T` of whatever handle it left, and `configure`
goes on from there. -/
theorem connect_triple (hE : ∀ o, E o → o.Host) {P₀ : World → Prop}
    {T U : FT_HANDLE → World → Prop} (hP₀ : Stable (around E A G) P₀)
    (henter : ∀ w r, P₀ w → A w (.enter .connect) r →
      G w (.enter .connect) r ∧ P ((machine .worker).exec (.enter .connect) r w).2)
    (hP : Quietly E A G P)
    (hclear : ∀ w r, P w → (w.own.1 ≠ none ∨ ∃ w₀ r', A w₀ countQuery r' ∧ r'.devices = 0) →
      A w (.setDmxPointer none) r →
      G w (.setDmxPointer none) r ∧ Q ((machine .worker).exec (.setDmxPointer none) r w).2)
    (hopen : ∀ w i r, P w → w.own.1 = none → A w (.call (.FT_Open i)) r →
      G w (.call (.FT_Open i)) r ∧
        T r.handle ((machine .worker).exec (.call (.FT_Open i)) r w).2)
    (hT : ∀ t, Quietly E A G (T t)) (hst : ∀ t, StatusKept A G (T t))
    (hfail : ∀ t w r, T t w → w.own.2.1 ≠ FT_OK → A w (.setDmxPointer none) r →
      G w (.setDmxPointer none) r ∧ Q ((machine .worker).exec (.setDmxPointer none) r w).2)
    (hdone : ∀ t w r, T t w → w.own.2.1 = FT_OK →
      (∃ w₀ r', A w₀ (.call (.FT_GetDeviceInfo t)) r') → A w (.setDmxPointer t) r →
      G w (.setDmxPointer t) r ∧ U t ((machine .worker).exec (.setDmxPointer t) r w).2)
    (hU : ∀ t, Quietly E A G (U t))
    (hon : ∀ t w r, U t w → A w (.setThreadOn true) r →
      G w (.setThreadOn true) r ∧ Q ((machine .worker).exec (.setThreadOn true) r w).2) :
    Triple (machine .worker) (around E A G) P₀ connect fun _ => Q := by
  have hnone : Quietly E A G fun w => P w ∧ w.own.1 = none :=
    hP.own (fun _ => id) hE fun own => own.1 = none
  have hheld : ∀ c format args, Triple (machine .worker) (around E A G)
      (fun w => P w ∧ w.own.1 ≠ none)
      (console c format args >>= fun _ => setDmxPointer none) fun _ => Q :=
    fun c format args => (hP.own (fun _ => id) hE fun own => own.1 ≠ none).fail c format args
      fun w r hw hr => hclear w r hw.1 (Or.inl hw.2) hr
  have hopened : Triple (machine .worker) (around E A G) (fun w => P w ∧ w.own.1 = none)
      (openDevice >>= configure) fun _ => Q :=
    (openDevice_triple hnone (fun w i r hw hr => hopen w i r hw.1 hw.2 hr) hT).bind fun t =>
      configure_triple hE t (hT t) (hst t) (hfail t) (hdone t) (hU t) (hon t)
  have henter' : Triple (machine .worker) (around E A G) P₀ (enter .connect) fun _ => P :=
    store_last hP₀ (fun _ => ⟨(), rfl⟩) henter
  unfold connect
  refine henter'.bind fun _ => (getDeviceCount_triple hP).bind fun n => ?_
  rintro w ⟨hw, w₀, r, hr, hn⟩
  refine (mayOpen_triple hP n.toUInt32).bind (fun free => ?_) w hw
  cases free with
  | true =>
      have hinner : Triple (machine .worker) (around E A G) (fun w => P w ∧ w.own.1 = none)
          (do let _ ← getDeviceNameForIndex (← getDeviceNumber).toNat "FT232R USB UART"
              let _ ← call (.FT_ListDevices .deviceNumberAddress
                (FT_LIST_BY_INDEX ||| FT_OPEN_BY_DESCRIPTION))
              if (← getDmxPointer).isNone then
                configure (← openDevice)
              else
                console .printf "dmx485: USB device is not connected" []
                setDmxPointer none) fun _ => Q := by
        refine hnone.then (by trivial) fun idx => ?_
        refine (hnone.all (getDeviceNameForIndex_quiet _ _)).bind fun _ => ?_
        refine hnone.then (by trivial) fun _ => hnone.getDmxPointer_then (by trivial) fun p => ?_
        split_ifs with hp
        · exact hopened.conseq (fun w hw => hw.1) fun _ _ h => h
        · refine (hheld _ _ _).conseq (fun w hw => ⟨hw.1.1, fun h => hp ?_⟩) fun _ _ h => h
          rw [← hw.2, h]
          rfl
      exact hinner.conseq (fun w hw => ⟨hw.1, hw.2.1 rfl⟩) fun _ _ h => h
  | false =>
      have hzero : n.toUInt32 = 0 → ∃ w₀ r', A w₀ countQuery r' ∧ r'.devices = 0 :=
        fun h => ⟨w₀, r, hr, hn ▸ h⟩
      have hempty : Quietly E A G fun w => P w ∧ (w.own.1 ≠ none ∨ n.toUInt32 = 0) :=
        hP.own (fun _ => id) hE fun own => own.1 ≠ none ∨ n.toUInt32 = 0
      refine (hempty.fail _ _ _ fun w r' hw hr' => ?_).conseq
        (fun w hw => ⟨hw.1, hw.2.2 rfl⟩) fun _ _ h => h
      exact hclear w r' hw.1 (hw.2.imp id hzero) hr'

/-! ## Disconnecting -/

/-- **The rule for `disconnect`.** The tick is turned off (`B`); a stored handle is closed (`D` of
the status) and the status stored (`S`); `dmxPointer` is cleared only when that is `FT_OK`. -/
theorem disconnect_triple (hE : ∀ o, E o → o.Host) {P₀ B : World → Prop}
    {D S : FT_STATUS → World → Prop} (hP₀ : Stable (around E A G) P₀)
    (henter : ∀ w r, P₀ w → A w (.enter .disconnect) r →
      G w (.enter .disconnect) r ∧ P ((machine .worker).exec (.enter .disconnect) r w).2)
    (hP : Stable (around E A G) P)
    (hoff : ∀ w r, P w → A w (.setThreadOn false) r →
      G w (.setThreadOn false) r ∧ B ((machine .worker).exec (.setThreadOn false) r w).2)
    (hB : Quietly E A G B)
    (hclose : ∀ w h r, B w → w.own.1 = some h → A w (.call (.FT_Close (some h))) r →
      G w (.call (.FT_Close (some h))) r ∧
        D r.status ((machine .worker).exec (.call (.FT_Close (some h))) r w).2)
    (hD : ∀ s, Stable (around E A G) (D s))
    (hstatus : ∀ s w r, D s w → A w (.setStatus s) r →
      G w (.setStatus s) r ∧ S s ((machine .worker).exec (.setStatus s) r w).2)
    (hidle : ∀ w r, B w → w.own.1 = none → A w (.setStatus FT_OK) r →
      G w (.setStatus FT_OK) r ∧ S FT_OK ((machine .worker).exec (.setStatus FT_OK) r w).2)
    (hS : ∀ s, Silently E A G (S s))
    (hfailed : ∀ s w, S s w → s ≠ FT_OK → Q w)
    (hclosed : ∀ w r, S FT_OK w → A w (.setDmxPointer none) r →
      G w (.setDmxPointer none) r ∧ Q ((machine .worker).exec (.setDmxPointer none) r w).2)
    (hQ : Silently E A G Q) :
    Triple (machine .worker) (around E A G) P₀ disconnect fun _ => Q := by
  have hlast : ∀ s, Triple (machine .worker) (around E A G) (fun w => S s w ∧ w.own.2.1 = s)
      (do if (← getStatus) ≠ FT_OK then
            console .object_error "dmx485: error disconnecting: %u" [.long (← getStatus).toNat]
          else
            setDmxPointer none
            console .object_post "dmx485: disconnected" []) fun _ => Q := by
    intro s
    have hSs : Silently E A G fun w => S s w ∧ w.own.2.1 = s :=
      (hS s).own (fun _ ho => ho.quiet) hE fun own => own.2.1 = s
    refine hSs.getStatus_then (by trivial) fun s' => ?_
    rintro w ⟨⟨hw, hs⟩, hs'⟩
    have hss' : s = s' := hs.symm.trans hs'
    subst hss'
    split_ifs with hne
    · exact hSs.then (by trivial) (fun _ => hSs.last (by trivial) (fun _ => ⟨(), rfl⟩)
        fun w' hw' => hfailed s w' hw'.1 hne) w ⟨hw, hs⟩
    · have hok : s = FT_OK := not_ne_iff.mp hne
      subst hok
      have hclear : Triple (machine .worker) (around E A G) (S FT_OK) (setDmxPointer none)
          fun _ => Q := store_last (hS FT_OK).stable (fun _ => ⟨(), rfl⟩) hclosed
      exact hclear.bind (fun _ => hQ.last (by trivial) (fun _ => ⟨(), rfl⟩) fun _ h => h) w hw
  have hstore : ∀ (s : FT_STATUS) (B' : World → Prop), Stable (around E A G) B' →
      (∀ w r, B' w → A w (.setStatus s) r →
        G w (.setStatus s) r ∧ S s ((machine .worker).exec (.setStatus s) r w).2) →
      Triple (machine .worker) (around E A G) B' (setStatus s)
        fun _ w => S s w ∧ w.own.2.1 = s :=
    fun s B' hB' h => store_last hB' (fun _ => ⟨(), rfl⟩) fun w r hw hr =>
      ⟨(h w r hw hr).1, (h w r hw hr).2, rfl⟩
  have henter' : Triple (machine .worker) (around E A G) P₀ (enter .disconnect) fun _ => P :=
    store_last hP₀ (fun _ => ⟨(), rfl⟩) henter
  have hoff' : Triple (machine .worker) (around E A G) P (setThreadOn false) fun _ => B :=
    store_last hP (fun _ => ⟨(), rfl⟩) hoff
  unfold disconnect
  refine henter'.bind fun _ => hoff'.bind fun _ => hB.getDmxPointer_then (by trivial) fun p => ?_
  have hBp : Stable (around E A G) fun w => B w ∧ w.own.1 = p :=
    (hB.own (fun _ => id) hE fun own => own.1 = p).stable
  cases p with
  | none =>
      exact (hstore FT_OK _ hBp fun w r hw hr => hidle w r hw.1 hw.2 hr).bind fun _ => hlast FT_OK
  | some h =>
      refine Triple.op hBp fun w r hw hr => ?_
      have hc := hclose w h r hw.1 hw.2 hr
      exact ⟨hc.1, (hstore r.status _ (hD r.status) (hstatus r.status)).bind
        (fun _ => hlast r.status) _ hc.2⟩

/-! ## The tick -/

/-- The calls of a tick on handle `h`. -/
def FtCall.Tick (h : FT_HANDLE) : FtCall → Prop
  | FT_SetBreakOff h' | FT_SetBreakOn h' | FT_Write h' .. | FT_Purge h' _ => h' = h
  | _ => False

/-- The calls of a tick are quiet. -/
lemma FtCall.Tick.quiet {h : FT_HANDLE} {c : FtCall} (hc : c.Tick h) : (Op.call c).Quiet := by
  cases c <;> trivial

/-- An assertion that survives a tick: its loads, and driver calls on the stored handle only. -/
structure TickKept (E : Op → Prop) (A : World → Op → Reply → Prop) (G : World → Op → Reply → Prop)
    (P : World → Prop) : Prop where
  stable : Stable (around E A G) P
  load : ∀ w o r, o = .getDmxPointer ∨ o = .indeterminate → P w → A w o r →
    G w o r ∧ P ((machine .worker).exec o r w).2
  tick : ∀ w h c r, P w → w.own.1 = some h → c.Tick (some h) → A w (.call c) r →
    G w (.call c) r ∧ P ((machine .worker).exec (.call c) r w).2

/-- With the handle known, an assertion survives host steps. -/
lemma TickKept.stable_held (hE : ∀ o, E o → o.Host) (hP : TickKept E A G P) (p : FT_HANDLE) :
    Stable (around E A G) fun w => P w ∧ w.own.1 = p := by
  rintro w w' ⟨hw, hp⟩ ⟨o, r, ho, hr, rfl⟩
  have hown : ((machine .host).exec o r w).2.own.1 = w.own.1 :=
    congrArg Prod.fst (own_host (hE o ho) r w)
  exact ⟨hP.stable w _ hw ⟨o, r, ho, hr, rfl⟩, hown.trans hp⟩

/-- A load of the handle and a call of the tick on it. -/
lemma TickKept.call_then (hE : ∀ o, E o → o.Host) (hP : TickKept E A G P) {h : Handle}
    (c : FT_HANDLE → FtCall) (hc : (c (some h)).Tick (some h)) {k : Reply → Code α}
    (hk : ∀ r, Triple (machine .worker) (around E A G)
      (fun w => P w ∧ w.own.1 = some h) (k r) R) :
    Triple (machine .worker) (around E A G) (fun w => P w ∧ w.own.1 = some h)
      (getDmxPointer >>= fun p => call (c p) >>= k) R := by
  have hstable := hP.stable_held hE (some h)
  refine Triple.op hstable fun w r hw hr => ?_
  have hhandle : w.obj.dmxPointer = some h := hw.2
  have hload := hP.load w _ r (Or.inl rfl) hw.1 hr
  refine ⟨hload.1, ?_⟩
  simp only [machine_answer, Op.answer, hhandle]
  refine Triple.op hstable (fun w' r' hw' hr' => ?_) _ ⟨hload.2, hw.2⟩
  have htick := hP.tick w' h _ r' hw'.1 hw'.2 hc hr'
  refine ⟨htick.1, hk r' _ ⟨htick.2, ?_⟩⟩
  simpa only [World.own, machine_obj, effect_quiet hc.quiet] using hw'.2

/-- The data loop keeps such an assertion, whatever is written and however often. -/
lemma sendData_triple (hE : ∀ o, E o → o.Host) (hP : TickKept E A G P) (h : Handle) (fuse : ℕ)
    (s2 written : DWORD) (s : FT_STATUS) :
    Triple (machine .worker) (around E A G) (fun w => P w ∧ w.own.1 = some h)
      (sendData fuse s2 written s) fun _ w => P w ∧ w.own.1 = some h := by
  induction fuse generalizing s2 written s with
  | zero => exact fun w hw => hw
  | succ fuse ih =>
      unfold sendData
      split_ifs with hs2
      · exact fun w hw => hw
      · exact hP.call_then hE (fun p => .FT_Write p _ _) rfl fun r => ih _ _ _

/-- **The rule for a tick.** -/
theorem sendFrame_triple (hE : ∀ o, E o → o.Host) (hP : TickKept E A G P) :
    Triple (machine .worker) (around E A G) P sendFrame fun _ => P := by
  unfold sendFrame
  refine Triple.op hP.stable fun w r hw hr => ?_
  have hjunk := hP.load w _ r (Or.inr rfl) hw hr
  refine ⟨hjunk.1, Triple.op hP.stable (fun w r hw hr => ?_) _ hjunk.2⟩
  have hload := hP.load w _ r (Or.inl rfl) hw hr
  refine ⟨hload.1, ?_⟩
  simp only [machine_answer, Op.answer]
  cases hp : w.obj.dmxPointer with
  | none => exact hload.2
  | some h =>
      have hbody : ∀ written : DWORD, Triple (machine .worker) (around E A G)
          (fun w => P w ∧ w.own.1 = some h)
          (do let _ ← call (.FT_SetBreakOff (← getDmxPointer))
              let r ← call (.FT_Write (← getDmxPointer) (.start 0) 1)
              let _ ← sendData 10 512 (r.dword.getD written) r.status
              let _ ← call (.FT_SetBreakOn (← getDmxPointer))
              return (← call (.FT_Purge (← getDmxPointer) (FT_PURGE_RX ||| FT_PURGE_TX))).status)
          fun _ => P := by
        intro written
        refine hP.call_then hE .FT_SetBreakOff rfl fun _ => ?_
        refine hP.call_then hE (fun p => .FT_Write p _ _) rfl fun r => ?_
        refine (sendData_triple hE hP h _ _ _ _).bind fun _ => ?_
        refine hP.call_then hE .FT_SetBreakOn rfl fun _ => ?_
        exact hP.call_then hE (fun p => .FT_Purge p _) rfl fun r w hw => hw.1
      exact hbody _ _ ⟨hload.2, hp⟩

end rules

end Dmx485
