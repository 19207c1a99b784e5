import Dmx485.Ticks

/-!
# What a tick overlooks

The outcome of the start write is not looked at before the data is sent, and the status tested at
the end is that of the last call. Each of the two properties that fail for this reason is given
with the exact answers under which it holds, for every driver.

* `NullStart`, `null_start_iff`: when what a packet begins with is the start byte. If the driver
  refuses it and takes data, slot 0 stands where the start code belongs (`start_code_replaced`).
* `Complete`, `truncation_noticed_iff`: when a truncated frame leaves its mark on the status. The
  last call is `FT_Purge`, and its status takes the place of those of the writes, so a truncation is
  noticed if the purge fails, for whatever reason (`truncation_noticed_by_purge`), and otherwise
  passes (`truncation_unnoticed`).
-/

namespace Dmx485

open Interaction

/-- A write takes at most what it is given. -/
lemma Reply.accepted_le (r : Reply) (n : ℕ) : r.accepted n ≤ n := by
  unfold Reply.accepted
  split_ifs
  · exact Nat.min_le_left _ _
  · exact Nat.zero_le n

/-! ## The start-code position -/

/-- The event is the write of the start byte. -/
def Event.isStart (e : Event) : Bool :=
  match e.op with
  | .call (.FT_Write _ (.start value) n) => value = 0 && n = 1
  | _ => false

/-- The events between the break and the next one. -/
def framed (events : List Event) : List Event :=
  (events.dropWhile fun e => !e.breaksOff).takeWhile fun e => !e.breaksOn

/-- A packet begins with the null start code. -/
structure NullStart (events : List Event) : Prop where
  /-- The first event of which anything is taken is the write of the start byte. -/
  first : ∀ e, (framed events).find? (fun e => !e.accepted.isEmpty) = some e → e.isStart
  /-- No byte is taken, or the first is 0. -/
  bytes : (framed events).flatMap Event.accepted = [] ∨
    ((framed events).flatMap Event.accepted).head? = some (some 0)

section start

variable (x : Obj) (h : Handle)

/-- What the loop does is data writes. -/
lemma mem_dataEvents {l : Locals} {rs : List Reply} {e : Event} (he : e ∈ dataEvents x h l rs) :
    ∃ (l' : Locals) (r : Reply), e = l'.event h x r := by
  induction rs generalizing l with
  | nil => cases he
  | cons r rs ih =>
      rcases List.mem_cons.mp he with rfl | he
      · exact ⟨l, r, rfl⟩
      · exact ih he

/-- The events of a tick: the five that every tick has, and the data writes. -/
lemma mem_events {e : Exchange} {e' : Event} (he' : e' ∈ e.events x h) :
    e' = workerEvent .indeterminate e.junk x ∨
    e' = workerEvent (.call (.FT_SetBreakOff (some h))) e.off x ∨
    e' = workerEvent (startWrite h) e.start x ∨
    (∃ (l : Locals) (r : Reply), e' = l.event h x r) ∨
    e' = workerEvent (.call (.FT_SetBreakOn (some h))) e.on x ∨
    e' = workerEvent (.call (.FT_Purge (some h) (FT_PURGE_RX ||| FT_PURGE_TX))) e.purge x := by
  unfold Exchange.events at he'
  simp only [List.mem_cons, List.mem_append, List.not_mem_nil, or_false] at he'
  exact he'.imp id (Or.imp id (Or.imp id (Or.imp (mem_dataEvents x h) id)))

/-- The break is left open by the writes. -/
lemma framed_exchange (e : Exchange) :
    framed (e.events x h) = workerEvent (.call (.FT_SetBreakOff (some h))) e.off x ::
      workerEvent (startWrite h) e.start x :: dataEvents x h e.entered e.data := by
  have hopen : ∀ e' ∈ workerEvent (.call (.FT_SetBreakOff (some h))) e.off x ::
      workerEvent (startWrite h) e.start x :: dataEvents x h e.entered e.data,
      (!e'.breaksOn) = true := by
    intro e' he'
    rcases List.mem_cons.mp he' with rfl | he'
    · rfl
    rcases List.mem_cons.mp he' with rfl | he'
    · rfl
    · obtain ⟨l, r, rfl⟩ := mem_dataEvents x h he'
      rfl
  unfold framed Exchange.events
  rw [List.dropWhile_cons_of_pos rfl, List.dropWhile_cons_of_neg Bool.false_ne_true,
    ← List.cons_append, ← List.cons_append, List.takeWhile_append_of_pos hopen,
    List.takeWhile_cons_of_neg Bool.false_ne_true, List.append_nil]

/-- The start write is taken or not. -/
lemma accepted_start (r : Reply) : (workerEvent (startWrite h) r x).accepted = [] ∨
    (workerEvent (startWrite h) r x).accepted = [some 0] := by
  show List.take (r.accepted (1 : DWORD).toNat) [some 0] = [] ∨
    List.take (r.accepted (1 : DWORD).toNat) [some 0] = [some 0]
  cases r.accepted (1 : DWORD).toNat with
  | zero => exact Or.inl rfl
  | succ n => exact Or.inr (List.take_of_length_le (Nat.le_add_left 1 n))

/-- As many bytes of a data write are accepted as are taken. -/
lemma accepted_event (l : Locals) (r : Reply) :
    (l.event h x r).accepted.isEmpty = true ↔ (l.event h x r).taken = 0 := by
  have hlength : (l.event h x r).accepted.length = r.accepted l.s2.toNat := by
    show (List.take _ (x.bytes (.dmx_data (512 * (512 - l.s2).toNat)) l.s2.toNat)).length = _
    rw [List.length_take, x.length_bytes]
    exact Nat.min_eq_left (r.accepted_le _)
  rw [List.isEmpty_iff_length_eq_zero, hlength]
  rfl

/-- A refused start byte and a data write that takes something: the latter is first. -/
lemma not_nullStart {e : Exchange} (hrefused : (workerEvent (startWrite h) e.start x).accepted = [])
    {e' : Event} (he' : e' ∈ dataEvents x h e.entered e.data) (htaken : e'.taken ≠ 0) :
    ¬NullStart (e.events x h) := by
  intro hnull
  have hsome : ((dataEvents x h e.entered e.data).find? fun e => !e.accepted.isEmpty).isSome := by
    refine List.find?_isSome.mpr ⟨e', he', ?_⟩
    obtain ⟨l, r, rfl⟩ := mem_dataEvents x h he'
    rw [Bool.not_eq_true', Bool.eq_false_iff]
    exact fun hempty => htaken ((accepted_event x h l r).mp hempty)
  obtain ⟨e₁, he₁⟩ := Option.isSome_iff_exists.mp hsome
  have hfirst : (framed (e.events x h)).find? (fun e => !e.accepted.isEmpty) = some e₁ := by
    rw [framed_exchange, List.find?_cons_of_neg Bool.false_ne_true, List.find?_cons_of_neg, he₁]
    rw [hrefused]
    exact Bool.false_ne_true
  have hstart := hnull.first e₁ hfirst
  obtain ⟨l, r, rfl⟩ := mem_dataEvents x h (List.mem_of_find?_eq_some he₁)
  cases hstart

/-- A refused start byte and nothing taken after it: the packet is empty. -/
lemma nullStart_of_nothing {e : Exchange}
    (hrefused : (workerEvent (startWrite h) e.start x).accepted = [])
    (hnothing : ∀ e' ∈ dataEvents x h e.entered e.data, e'.taken = 0) :
    NullStart (e.events x h) := by
  have hempty : ∀ e' ∈ framed (e.events x h), e'.accepted = [] := by
    rw [framed_exchange]
    intro e' he'
    rcases List.mem_cons.mp he' with rfl | he'
    · rfl
    rcases List.mem_cons.mp he' with rfl | he'
    · exact hrefused
    · have htaken := hnothing e' he'
      obtain ⟨l, r, rfl⟩ := mem_dataEvents x h he'
      exact List.isEmpty_iff.mp ((accepted_event x h l r).mpr htaken)
  refine ⟨fun e' he' => ?_, Or.inl (List.flatMap_eq_nil_iff.mpr hempty)⟩
  have hnonempty := List.find?_some he'
  rw [hempty e' (List.mem_of_find?_eq_some he')] at hnonempty
  cases hnonempty

/-- A start byte that is taken is first. -/
lemma nullStart_of_start {e : Exchange}
    (htaken : (workerEvent (startWrite h) e.start x).accepted = [some 0]) :
    NullStart (e.events x h) := by
  have hnonempty : (!(workerEvent (startWrite h) e.start x).accepted.isEmpty) = true := by
    rw [htaken]
    rfl
  constructor
  · intro e' he'
    rw [framed_exchange, List.find?_cons_of_neg Bool.false_ne_true,
      List.find?_cons_of_pos (p := fun e : Event => !e.accepted.isEmpty) hnonempty] at he'
    rw [← Option.some.inj he']
    rfl
  · right
    rw [framed_exchange, List.flatMap_cons, List.flatMap_cons, htaken]
    rfl

/-- The write of the start byte is the only one in a tick. -/
lemma eq_start {e : Exchange} {e' : Event} (he' : e' ∈ e.events x h) (hstart : e'.isStart = true) :
    e' = workerEvent (startWrite h) e.start x := by
  rcases mem_events x h he' with rfl | rfl | rfl | ⟨l, r, rfl⟩ | rfl | rfl
  · cases hstart
  · cases hstart
  · rfl
  · cases hstart
  · cases hstart
  · cases hstart

/-- What takes data bytes is a write of the loop. -/
lemma mem_of_taken {e : Exchange} {e' : Event} (he' : e' ∈ e.events x h) (htaken : e'.taken ≠ 0) :
    e' ∈ dataEvents x h e.entered e.data := by
  rw [← filter_exchange]
  refine List.mem_filter.mpr ⟨he', ?_⟩
  rw [Option.isSome_iff_ne_none]
  exact fun hnone => htaken (Event.taken_of_none hnone)

end start

/-- **When a packet begins with the null start code.** Whatever is answered, the first byte taken
in a tick between the breaks is the start byte, if there is one, if and only if the start write is
taken or no data is. -/
theorem null_start_iff (f : Script Dm Reply) (x : Obj) :
    NullStart (ticked f x).2 ↔
      (∀ e ∈ (ticked f x).2, e.isStart = true → e.accepted ≠ []) ∨
        ∀ e ∈ (ticked f x).2, e.taken = 0 := by
  cases hptr : x.dmxPointer with
  | none =>
      obtain ⟨junk, b, ht⟩ := ticked_none f hptr
      rw [ht]
      refine ⟨fun _ => Or.inr fun e he => ?_, fun _ => ⟨fun e he => ?_, Or.inl rfl⟩⟩
      · rw [List.mem_singleton.mp he]
        rfl
      · cases he
  | some h =>
      obtain ⟨e, -, ht⟩ := ticked_answers (answering_any f) hptr
      rw [ht]
      rcases accepted_start x h e.start with hrefused | htaken
      · constructor
        · intro hnull
          apply Or.inr
          intro e' he'
          by_contra htaken
          exact not_nullStart x h hrefused (mem_of_taken x h he' htaken) htaken hnull
        · rintro (hstart | hnothing)
          · have hmem : workerEvent (startWrite h) e.start x ∈ e.events x h :=
              List.mem_cons_of_mem _ (List.mem_cons_of_mem _ List.mem_cons_self)
            exact absurd hrefused (hstart _ hmem rfl)
          · refine nullStart_of_nothing x h hrefused fun e' he' => hnothing e' ?_
            rw [← filter_exchange] at he'
            exact List.mem_of_mem_filter he'
      · refine ⟨fun _ => Or.inl fun e' he' hstart => ?_, fun _ => nullStart_of_start x h htaken⟩
        rw [eq_start x h he' hstart, htaken]
        exact List.cons_ne_nil _ _

/-- A driver that refuses the start byte and takes the data. -/
def refusesStart : Script Dm Reply := fun _ o =>
  match o with
  | .call (.FT_Write _ (.start _) _) => { status := 4 }
  | .call (.FT_Write _ (.dmx_data _) n) => { dword := some n }
  | _ => default

/-- The start byte refused: channel 0 is sent in the start-code position. -/
theorem start_code_replaced : ¬NullStart (ticked refusesStart
    { Obj.initial with dmxPointer := some 7, dmx_data := fun _ => 255 }).2 := by
  intro hnull
  have hpacket : ((framed (ticked refusesStart
      { Obj.initial with dmxPointer := some 7, dmx_data := fun _ => 255 }).2).flatMap
        Event.accepted).head? = some (some 255) := by
    decide +kernel
  rcases hnull.bytes with hempty | hhead
  · rw [hempty] at hpacket
    cases hpacket
  · rw [hhead] at hpacket
    exact absurd hpacket (by decide)

/-! ## Truncated frames -/

/-- The start byte and all 512 slots were taken. -/
structure Complete (events : List Event) : Prop where
  start : ∃ e ∈ events, e.isStart = true ∧ e.accepted = [some 0]
  slots : ∀ i < 512, ∃ e ∈ events, ∃ offset n, e.data? = some (offset, n) ∧
    offset ≤ i ∧ i < offset + e.taken

/-- The event is a write of the whole array that is taken in full. -/
def Event.wholeArray (e : Event) : Prop := e.data? = some (0, 512) ∧ e.taken = 512

instance (e : Event) : Decidable e.wholeArray := inferInstanceAs (Decidable (_ ∧ _))

/-- The event is the purge. -/
def Event.isPurge (e : Event) : Bool :=
  match e.op with
  | .call (.FT_Purge ..) => true
  | _ => false

section complete

variable (x : Obj) (h : Handle)

/-- The last slot is taken only by a write of the whole array in full: the data writes start at
multiples of 512 bytes. -/
lemma complete_iff (e : Exchange) :
    Complete (e.events x h) ↔
      (∃ e' ∈ e.events x h, e'.isStart = true ∧ e'.accepted = [some 0]) ∧
        ∃ e' ∈ e.events x h, e'.wholeArray := by
  constructor
  · intro hcomplete
    refine ⟨hcomplete.start, ?_⟩
    obtain ⟨e', he', offset, n, hdata, hle, hlt⟩ := hcomplete.slots 511 (by decide)
    refine ⟨e', he', ?_⟩
    have hloop : e' ∈ dataEvents x h e.entered e.data := by
      rw [← filter_exchange]
      refine List.mem_filter.mpr ⟨he', ?_⟩
      rw [hdata]
      rfl
    obtain ⟨l, r, rfl⟩ := mem_dataEvents x h hloop
    rw [data?_event, Option.some.injEq, Prod.mk.injEq] at hdata
    have hbegin : (512 - l.s2).toNat = 0 := by omega
    have hs2 : l.s2 = 512 := eq_of_sub_toNat hbegin
    have hoffset : offset = 0 := by omega
    have htook : r.accepted 512 = 512 := by
      have hle : r.accepted 512 ≤ 512 := r.accepted_le 512
      rw [taken_event, hs2, show (512 : DWORD).toNat = 512 from rfl] at hlt
      omega
    constructor
    · rw [data?_event, hs2]
      rfl
    · rw [taken_event, hs2]
      exact htook
  · rintro ⟨hstart, e', he', hdata, htaken⟩
    refine ⟨hstart, fun i hi => ⟨e', he', 0, 512, hdata, Nat.zero_le i, ?_⟩⟩
    rw [htaken]
    omega

/-- The status of the purge. -/
lemma purge_iff (e : Exchange) :
    (∃ e' ∈ e.events x h, e'.isPurge = true ∧ e'.reply.status ≠ FT_OK) ↔
      e.purge.status ≠ FT_OK := by
  constructor
  · rintro ⟨e', he', hpurge, hstatus⟩
    rcases mem_events x h he' with rfl | rfl | rfl | ⟨l, r, rfl⟩ | rfl | rfl
    · cases hpurge
    · cases hpurge
    · cases hpurge
    · cases hpurge
    · cases hpurge
    · exact hstatus
  · intro hstatus
    refine ⟨workerEvent (.call (.FT_Purge (some h) (FT_PURGE_RX ||| FT_PURGE_TX))) e.purge x, ?_,
      rfl, hstatus⟩
    exact List.mem_cons_of_mem _ (List.mem_cons_of_mem _ (List.mem_cons_of_mem _
      (List.mem_append_right _ (List.mem_cons_of_mem _ List.mem_cons_self))))

end complete

/-- **When a truncated frame is noticed.** In a tick with a handle, whatever is answered, a frame
that is not complete leaves a status other than `FT_OK` if and only if the purge fails, or the
start byte is taken and a write of the whole array is taken in full. -/
theorem truncation_noticed_iff (f : Script Dm Reply) {x : Obj} {h : Handle}
    (hptr : x.dmxPointer = some h) :
    (¬Complete (ticked f x).2 → (ticked f x).1.qftdiPortStatus ≠ FT_OK) ↔
      (∃ e ∈ (ticked f x).2, e.isPurge = true ∧ e.reply.status ≠ FT_OK) ∨
        ((∃ e ∈ (ticked f x).2, e.isStart = true ∧ e.accepted = [some 0]) ∧
          ∃ e ∈ (ticked f x).2, e.wholeArray) := by
  obtain ⟨e, -, ht⟩ := ticked_answers (answering_any f) hptr
  rw [ht, ← complete_iff, purge_iff]
  exact or_iff_not_imp_right.symm

/-- The status of a tick whose data is refused, and whose purge is not: success. -/
theorem truncation_unnoticed :
    ¬Complete (ticked refusesData { Obj.initial with dmxPointer := some 7 }).2 ∧
      (ticked refusesData { Obj.initial with dmxPointer := some 7 }).1.qftdiPortStatus = FT_OK := by
  refine ⟨fun hcomplete => ?_, by decide +kernel⟩
  have hnone : ∀ e ∈ (ticked refusesData { Obj.initial with dmxPointer := some 7 }).2,
      e.taken = 0 := by
    decide +kernel
  obtain ⟨e, he, offset, n, -, hle, hlt⟩ := hcomplete.slots 0 (by decide)
  have htaken := hnone e he
  omega

/-- The same tick with a purge that fails. -/
def refusesPurge : Script Dm Reply := fun i o =>
  match o with
  | .call (.FT_Purge ..) => { status := 4 }
  | _ => refusesData i o

/-- The purge that fails makes the truncation noticed. -/
theorem truncation_noticed_by_purge :
    Complete (ticked refusesPurge { Obj.initial with dmxPointer := some 7 }).2 ∨
      (ticked refusesPurge { Obj.initial with dmxPointer := some 7 }).1.qftdiPortStatus ≠
        FT_OK := by
  rw [or_iff_not_imp_left]
  exact (truncation_noticed_iff refusesPurge (h := 7) rfl).mpr (Or.inl (by decide +kernel))

end Dmx485
