import Dmx485.Exchange

/-!
# The data loop under partial and failing writes

Two properties of the loop in `timer_action`, each with the exact answers under which it holds.

* `count_exact_iff`: when the remaining count `s2` stays exact. `bytesWrittenOrRead` is subtracted
  after every write, and a failed write leaves in it what an earlier one had reported.
* `resumes_iff`: when partial writes resume where they stopped. The address is computed from
  `&dmx_data`, a pointer to the whole array, so each byte taken moves it by 512.

Both are about drivers of a kind: one that reports what it took when a write succeeds, and leaves
the variable alone when it fails (`Sincere`), and one whose writes all succeed (`Obliging`). They
are proved along the turns of the loop (`Turns.count_iff`, `Turns.resumption_iff`) and carried to
the tick by the exchange of `Exchange.lean`.

* `DataWrites`: what holds of the data writes of a tick, given the bytes taken before each.
* `Steady`: no write fails while the last report is different from 0.
* `Resumes`: each write begins where the last one stopped, and the bytes taken are the universe in
  order, as far as they go.
-/

namespace Dmx485

open Interaction

/-! ## Data writes -/

/-- A data write: where it points, counted from the beginning of `dmx_data`, and its length. -/
def Event.data? (e : Event) : Option (ℕ × DWORD) :=
  match e.op with
  | .call (.FT_Write _ (.dmx_data offset) n) => some (offset, n)
  | _ => none

/-- How many data bytes the driver took. -/
def Event.taken (e : Event) : ℕ :=
  match e.data? with
  | some (_, n) => e.reply.accepted n.toNat
  | none => 0

/-- How many data bytes the driver took altogether. -/
def taken : List Event → ℕ
  | [] => 0
  | e :: events => e.taken + taken events

/-- The lengths of the data writes. -/
def lengths (events : List Event) : List DWORD := (events.filterMap Event.data?).map Prod.snd

/-- Every data write, with the number of data bytes taken before it, is in `R`; the numbers count
from `k`. -/
def DataWrites (R : ℕ → ℕ → DWORD → Prop) : ℕ → List Event → Prop
  | _, [] => True
  | k, e :: events =>
    (∀ offset n, e.data? = some (offset, n) → R k offset n) ∧ DataWrites R (k + e.taken) events

/-- The data write of variables `l`, answered by `r`. -/
abbrev Locals.event (l : Locals) (h : Handle) (x : Obj) (r : Reply) : Event :=
  workerEvent (.call (l.write (some h))) r x

section writes

variable {R : ℕ → ℕ → DWORD → Prop} (x : Obj) (h : Handle) (l : Locals) (r : Reply)

/-- A turn of the data loop writes what is left, where it has to be. -/
lemma data?_event : (l.event h x r).data? = some (512 * (512 - l.s2).toNat, l.s2) := rfl

/-- It takes what the driver accepts. -/
lemma taken_event : (l.event h x r).taken = r.accepted l.s2.toNat := rfl

/-- The turns of the loop, the first one taken off. -/
lemma dataEvents_cons (rs : List Reply) :
    dataEvents x h l (r :: rs) = l.event h x r :: dataEvents x h (l.after r) rs := rfl

/-- What is no data write takes nothing. -/
lemma Event.taken_of_none {e : Event} (he : e.data? = none) : e.taken = 0 := by
  unfold Event.taken
  rw [he]

/-- The bytes taken by an event and by those after it. -/
lemma taken_cons (e : Event) (events : List Event) :
    taken (e :: events) = e.taken + taken events := rfl

/-- The bytes taken by events and by others after them. -/
lemma taken_append (events more : List Event) :
    taken (events ++ more) = taken events + taken more := by
  induction events with
  | nil => exact (Nat.zero_add _).symm
  | cons e events ih => rw [List.cons_append, taken_cons, taken_cons, ih, Nat.add_assoc]

/-- A turn of the loop, and the writes after it. -/
lemma dataWrites_event (k : ℕ) (events : List Event) :
    DataWrites R k (l.event h x r :: events) ↔
      R k (512 * (512 - l.s2).toNat) l.s2 ∧
        DataWrites R (k + r.accepted l.s2.toNat) events := by
  constructor
  · rintro ⟨hhead, htail⟩
    exact ⟨hhead _ _ rfl, htail⟩
  · rintro ⟨hhead, htail⟩
    refine ⟨fun offset n hdata => ?_, htail⟩
    rw [data?_event, Option.some.injEq, Prod.mk.injEq] at hdata
    rw [← hdata.1, ← hdata.2]
    exact hhead

/-- Other events do not count. -/
lemma dataWrites_skip {e : Event} (he : e.data? = none) (k : ℕ) (events : List Event) :
    DataWrites R k (e :: events) ↔ DataWrites R k events := by
  have hk : k + e.taken = k := by rw [Event.taken_of_none he, Nat.add_zero]
  constructor
  · rintro ⟨-, htail⟩
    rwa [hk] at htail
  · intro htail
    refine ⟨fun offset n hdata => ?_, by rwa [hk]⟩
    rw [he] at hdata
    cases hdata

/-- The writes of events, and those of others after them. -/
lemma dataWrites_append (k : ℕ) (events more : List Event) :
    DataWrites R k (events ++ more) ↔
      DataWrites R k events ∧ DataWrites R (k + taken events) more := by
  induction events generalizing k with
  | nil => exact ⟨fun hmore => ⟨trivial, hmore⟩, fun hboth => hboth.2⟩
  | cons e events ih =>
      rw [List.cons_append, DataWrites, DataWrites, ih, taken_cons, Nat.add_assoc, and_assoc]

end writes

/-- The data writes of a tick are those of its loop. -/
lemma dataWrites_exchange {R : ℕ → ℕ → DWORD → Prop} (e : Exchange) (x : Obj) (h : Handle) :
    DataWrites R 0 (e.events x h) ↔ DataWrites R 0 (dataEvents x h e.entered e.data) := by
  unfold Exchange.events
  rw [dataWrites_skip rfl, dataWrites_skip rfl, dataWrites_skip rfl, dataWrites_append,
    dataWrites_skip rfl, dataWrites_skip rfl]
  exact and_iff_left trivial

/-- In an exchange the bytes are taken by the turns of the data loop. -/
lemma taken_exchange (e : Exchange) (x : Obj) (h : Handle) :
    taken (e.events x h) = taken (dataEvents x h e.entered e.data) := by
  unfold Exchange.events
  rw [taken_cons, taken_cons, taken_cons, taken_append, taken_cons, taken_cons,
    Event.taken_of_none rfl, Event.taken_of_none rfl, Event.taken_of_none rfl,
    Event.taken_of_none rfl, Event.taken_of_none rfl, Nat.zero_add, Nat.zero_add, Nat.zero_add]
  rfl

/-- The data writes of an exchange are those of the data loop. -/
lemma filterMap_exchange (e : Exchange) (x : Obj) (h : Handle) :
    (e.events x h).filterMap Event.data? =
      (dataEvents x h e.entered e.data).filterMap Event.data? := by
  unfold Exchange.events
  rw [List.filterMap_cons_none rfl, List.filterMap_cons_none rfl, List.filterMap_cons_none rfl,
    List.filterMap_append, List.filterMap_cons_none rfl, List.filterMap_cons_none rfl]
  exact List.append_nil _

/-- The loop makes at most as many writes as it has turns. -/
lemma Turns.length_le {ok : DWORD → Reply → Prop} {fuse : ℕ} {l : Locals} {rs : List Reply}
    (hturns : Turns ok fuse l rs) : rs.length ≤ fuse := by
  induction fuse generalizing l rs with
  | zero =>
      rw [show rs = [] from hturns]
      exact Nat.le_refl 0
  | succ fuse ih =>
      cases rs with
      | nil => exact Nat.zero_le _
      | cons r rs => exact Nat.succ_le_succ (ih hturns.2.2)

/-! ## The remaining count -/

/-- A write of `n` bytes succeeds and sets its out-parameter to the number of bytes taken, at most
`n`, or fails, takes nothing and leaves the out-parameter as it was. -/
def Sincere (n : DWORD) (r : Reply) : Prop :=
  (r.status = FT_OK → ∃ c, r.dword = some c ∧ c ≤ n) ∧ (r.status ≠ FT_OK → r.dword = none)

/-- The remaining count of a tick is exact throughout. -/
structure CountExact (t : Locals × List Event) : Prop where
  /-- Before every data write `s2` is 512 minus the number of data bytes taken. -/
  before : DataWrites (fun k _ s2 => s2.toNat + k = 512) 0 t.2
  /-- So it is when the loop ends. -/
  final : t.1.s2.toNat + taken t.2 = 512
  /-- The subtraction never wraps: the count never grows. -/
  noWrap : List.IsChain (fun a b : DWORD => b ≤ a) (lengths t.2 ++ [t.1.s2])
  /-- No write is for more than 512 bytes. -/
  short : ∀ n ∈ lengths t.2, n ≤ 512
  /-- There are at most ten data writes. -/
  few : (lengths t.2).length ≤ 10

/-- What is in `bytesWrittenOrRead` after an event that found `b` there. -/
def Event.leaves (b : DWORD) (e : Event) : DWORD :=
  match e.op with
  | .indeterminate | .call (.FT_Write ..) => e.reply.dword.getD b
  | _ => b

/-- No data write fails while the count last reported, from `b` on, is not 0. -/
def Steady : DWORD → List Event → Prop
  | _, [] => True
  | b, e :: events =>
    (e.data?.isSome → e.reply.status ≠ FT_OK → b = 0) ∧ Steady (e.leaves b) events

instance decidableSteady : (b : DWORD) → (events : List Event) → Decidable (Steady b events)
  | _, [] => .isTrue trivial
  | b, e :: events => @instDecidableAnd _ _ _ (decidableSteady (e.leaves b) events)

section count

variable {fuse : ℕ} {l : Locals} {rs : List Reply} (x : Obj) (h : Handle)

/-- A turn of the loop, and the reports after it. -/
lemma steady_event (b : DWORD) (r : Reply) (events : List Event) :
    Steady b (l.event h x r :: events) ↔
      (r.status ≠ FT_OK → b = 0) ∧ Steady (r.dword.getD b) events := by
  constructor
  · rintro ⟨hhead, htail⟩
    exact ⟨hhead rfl, htail⟩
  · rintro ⟨hhead, htail⟩
    exact ⟨fun _ => hhead, htail⟩

/-- After a success the count is what is left of it. -/
lemma Sincere.after_ok {r : Reply} (hr : Sincere l.s2 r) (hok : r.status = FT_OK) :
    (l.after r).s2.toNat + r.accepted l.s2.toNat = l.s2.toNat := by
  obtain ⟨c, hc, hle⟩ := hr.1 hok
  have hcount : c.toNat ≤ l.s2.toNat := UInt32.le_iff_toNat_le.mp hle
  unfold Locals.after Reply.accepted
  rw [hc, if_pos hok]
  simp only [Option.getD_some, UInt32.toNat_sub_of_le _ _ hle]
  omega

/-- A count that is exact at the next data write or at the end of the loop is exact now. -/
lemma exact_now {k : ℕ} (hwrites : DataWrites (fun k _ s2 => s2.toNat + k = 512) k
      (dataEvents x h l rs))
    (hfinal : (rs.foldl Locals.after l).s2.toNat + (k + taken (dataEvents x h l rs)) = 512) :
    l.s2.toNat + k = 512 := by
  cases rs with
  | nil => exact hfinal
  | cons r rs => exact ((dataWrites_event x h l r k _).mp hwrites).1

/-- Subtracting something makes a difference. -/
lemma eq_zero_of_sub {a b : DWORD} (hab : (a - b).toNat = a.toNat) : b = 0 := by
  rw [UInt32.toNat_sub] at hab
  have ha := a.toNat_lt
  have hb := b.toNat_lt
  apply UInt32.toNat_inj.mp
  show b.toNat = 0
  omega

/-- **The loop keeps the count exact** if and only if it is steady. -/
lemma Turns.count_iff (hturns : Turns Sincere fuse l rs) {k : ℕ} (hs2 : l.s2.toNat + k = 512) :
    (DataWrites (fun k _ s2 => s2.toNat + k = 512) k (dataEvents x h l rs) ∧
        (rs.foldl Locals.after l).s2.toNat + (k + taken (dataEvents x h l rs)) = 512) ↔
      Steady l.bytesWrittenOrRead (dataEvents x h l rs) := by
  induction fuse generalizing l rs k with
  | zero =>
      rw [show rs = [] from hturns]
      exact ⟨fun _ => trivial, fun _ => ⟨trivial, hs2⟩⟩
  | succ fuse ih =>
      cases rs with
      | nil => exact ⟨fun _ => trivial, fun _ => ⟨trivial, hs2⟩⟩
      | cons r rs =>
          obtain ⟨-, hr, hturns⟩ := hturns
          rw [dataEvents_cons, dataWrites_event, steady_event, taken_cons, taken_event,
            List.foldl_cons, ← Nat.add_assoc k, and_assoc]
          by_cases hok : r.status = FT_OK
          · have hleft := hr.after_ok hok
            rw [ih hturns (by omega)]
            constructor
            · exact fun hboth => ⟨fun hne => absurd hok hne, hboth.2⟩
            · exact fun hboth => ⟨hs2, hboth.2⟩
          · -- A failed write takes nothing, and the old count is subtracted again.
            have htook : r.accepted l.s2.toNat = 0 := if_neg hok
            have hstale : l.after r =
                ⟨l.s2 - l.bytesWrittenOrRead, l.bytesWrittenOrRead, r.status⟩ := by
              unfold Locals.after
              rw [hr.2 hok]
              rfl
            rw [htook, Nat.add_zero]
            constructor
            · rintro ⟨-, hwrites, hfinal⟩
              have hnow : (l.s2 - l.bytesWrittenOrRead).toNat + k = 512 := by
                have hexact := exact_now x h hwrites hfinal
                rwa [hstale] at hexact
              have hsame : (l.s2 - l.bytesWrittenOrRead).toNat = l.s2.toNat := by omega
              have hzero : l.bytesWrittenOrRead = 0 := eq_zero_of_sub hsame
              have hagain : (l.after r).s2.toNat + k = 512 := by rwa [hstale]
              exact ⟨fun _ => hzero, (ih hturns hagain).mp ⟨hwrites, hfinal⟩⟩
            · rintro ⟨hzero, hsteady⟩
              have hagain : (l.after r).s2.toNat + k = 512 := by
                rw [hstale, hzero hok]
                exact (congrArg (fun n : DWORD => n.toNat + k) (UInt32.sub_zero l.s2)).trans hs2
              exact ⟨hs2, (ih hturns hagain).mpr hsteady⟩

/-- An exact count never grows, and stays below what was left at the start. -/
lemma lengths_le {events : List Event} {s2 : DWORD} {k : ℕ}
    (hwrites : DataWrites (fun k _ s2 => s2.toNat + k = 512) k events)
    (hfinal : s2.toNat + (k + taken events) = 512) :
    (∀ n ∈ lengths events ++ [s2], n.toNat + k ≤ 512) ∧
      (lengths events ++ [s2]).Pairwise fun a b : DWORD => b ≤ a := by
  induction events generalizing k with
  | nil =>
      refine ⟨fun n hn => ?_, List.pairwise_singleton _ _⟩
      rw [List.mem_singleton.mp hn]
      exact Nat.le_of_eq hfinal
  | cons e events ih =>
      rw [taken_cons, ← Nat.add_assoc k] at hfinal
      obtain ⟨hle, hpairwise⟩ := ih hwrites.2 hfinal
      cases hdata : e.data? with
      | none =>
          have hskip : lengths (e :: events) = lengths events := by
            unfold lengths
            rw [List.filterMap_cons_none hdata]
          rw [hskip]
          exact ⟨fun n hn => Nat.le_trans (Nat.add_le_add_left (Nat.le_add_right k _) _) (hle n hn),
            hpairwise⟩
      | some d =>
          have hcons : lengths (e :: events) = d.2 :: lengths events := by
            unfold lengths
            rw [List.filterMap_cons_some hdata, List.map_cons]
          have hnow : d.2.toNat + k = 512 := hwrites.1 d.1 d.2 hdata
          rw [hcons, List.cons_append]
          constructor
          · intro n hn
            rcases List.mem_cons.mp hn with rfl | hn
            · exact Nat.le_of_eq hnow
            · exact Nat.le_trans (Nat.add_le_add_left (Nat.le_add_right k _) _) (hle n hn)
          · refine List.pairwise_cons.mpr ⟨fun n hn => UInt32.le_iff_toNat_le.mpr ?_, hpairwise⟩
            have hn := hle n hn
            omega

/-- Events that are no data writes are steady. -/
lemma steady_of_none {events : List Event} (hevents : ∀ e ∈ events, e.data? = none) (b : DWORD) :
    Steady b events := by
  induction events generalizing b with
  | nil => trivial
  | cons e events ih =>
      refine ⟨fun hsome => ?_, ih (fun e' he' => hevents e' (List.mem_cons_of_mem e he')) _⟩
      rw [hevents e List.mem_cons_self] at hsome
      cases hsome

/-- Events without data writes do not disturb the reports. -/
lemma steady_append {more : List Event} (hmore : ∀ e ∈ more, e.data? = none) (b : DWORD)
    (events : List Event) : Steady b (events ++ more) ↔ Steady b events := by
  induction events generalizing b with
  | nil => exact ⟨fun _ => trivial, fun _ => steady_of_none hmore b⟩
  | cons e events ih => exact and_congr Iff.rfl (ih _)

/-- In an exchange the reports are those of the data loop, which starts with the start write's. -/
lemma steady_exchange (e : Exchange) :
    Steady 0 (e.events x h) ↔
      Steady e.entered.bytesWrittenOrRead (dataEvents x h e.entered e.data) := by
  have hlast : ∀ e' ∈ [workerEvent (.call (.FT_SetBreakOn (some h))) e.on x,
      workerEvent (.call (.FT_Purge (some h) (FT_PURGE_RX ||| FT_PURGE_TX))) e.purge x],
      e'.data? = none := by
    intro e' he'
    rcases List.mem_pair.mp he' with rfl | rfl
    · rfl
    · rfl
  rw [← steady_append hlast e.entered.bytesWrittenOrRead (dataEvents x h e.entered e.data)]
  constructor
  · exact fun hsteady => hsteady.2.2.2
  · intro hsteady
    refine ⟨fun hsome => ?_, fun hsome => ?_, fun hsome => ?_, hsteady⟩
    · cases hsome
    · cases hsome
    · cases hsome

/-- There are at most as many data writes as the fuse has turns. -/
lemma lengths_length_exchange {ok : DWORD → Reply → Prop} {e : Exchange} (he : e.Plays ok) :
    (lengths (e.events x h)).length ≤ 10 := by
  have hlength : ∀ (l : Locals) (rs : List Reply),
      (lengths (dataEvents x h l rs)).length = rs.length := by
    intro l rs
    induction rs generalizing l with
    | nil => rfl
    | cons r rs ih => exact congrArg (· + 1) (ih (l.after r))
  unfold lengths
  rw [filterMap_exchange]
  exact le_of_eq_of_le (hlength e.entered e.data) he.2.length_le

end count

/-- **When the remaining count stays exact.** For a driver that is sincere about every write, the
count is exact throughout a tick if and only if no data write fails while the count last reported
is different from 0. -/
theorem count_exact_iff {f : Script Dm Reply} (hf : Answering Sincere f) (x : Obj) :
    CountExact (ticked f x) ↔ Steady 0 (ticked f x).2 := by
  cases hptr : x.dmxPointer with
  | none =>
      obtain ⟨junk, b, ht⟩ := ticked_none f hptr
      rw [ht]
      refine ⟨fun _ => ⟨fun hsome => ?_, trivial⟩, fun _ => ?_⟩
      · cases hsome
      · exact ⟨(dataWrites_skip rfl 0 []).mpr trivial, rfl, List.IsChain.singleton _,
          fun n hn => absurd hn (List.not_mem_nil), Nat.zero_le _⟩
  | some h =>
      obtain ⟨e, he, ht⟩ := ticked_answers hf hptr
      rw [ht, steady_exchange, ← he.2.count_iff x h (k := 0) rfl, ← dataWrites_exchange,
        ← taken_exchange, Nat.zero_add]
      constructor
      · exact fun hexact => ⟨hexact.before, hexact.final⟩
      · rintro ⟨hbefore, hfinal⟩
        have hle := lengths_le hbefore (by rwa [Nat.zero_add])
        exact ⟨hbefore, hfinal, hle.2.isChain,
          fun n hn => UInt32.le_iff_toNat_le.mpr (hle.1 n (List.mem_append_left _ hn)),
          lengths_length_exchange x h he⟩

/-- A driver that refuses every data write. -/
def refusesData : Script Dm Reply := fun _ o =>
  match o with
  | .call (.FT_Write _ (.start _) n) => { dword := some n }
  | .call (.FT_Write _ (.dmx_data _) _) => { status := 4 }
  | _ => default

/-- The start byte taken, and each data write refused: 1 is subtracted ten times. -/
theorem count_runs_down : Answering Sincere refusesData ∧
    ¬CountExact (ticked refusesData { Obj.initial with dmxPointer := some 7 }) := by
  constructor
  · intro i h buffer n
    cases buffer with
    | start value => exact ⟨fun _ => ⟨n, rfl, UInt32.le_refl n⟩, fun hne => absurd rfl hne⟩
    | dmx_data offset =>
        have hrefused : (4 : FT_STATUS) ≠ FT_OK := by decide
        exact ⟨fun hok => absurd hok hrefused, fun _ => rfl⟩
  · intro hexact
    have hfinal := hexact.final
    have hs2 : (ticked refusesData { Obj.initial with dmxPointer := some 7 }).1.s2.toNat +
        taken (ticked refusesData { Obj.initial with dmxPointer := some 7 }).2 = 502 := by
      decide +kernel
    rw [hs2] at hfinal
    exact absurd hfinal (by decide)

/-- A driver that refuses every write. -/
def refusesAll : Script Dm Reply := fun _ o =>
  match o with
  | .call (.FT_Write ..) => { status := 4 }
  | _ => default

/-- Every write refused, and 0 in the variable to begin with: the count stays at 512. -/
theorem count_exact_when_nothing_is_reported :
    CountExact (ticked refusesAll { Obj.initial with dmxPointer := some 7 }) := by
  have hrefused : (4 : FT_STATUS) ≠ FT_OK := by decide
  have hsincere : Answering Sincere refusesAll := fun _ _ _ _ =>
    ⟨fun hok => absurd hok hrefused, fun _ => rfl⟩
  exact (count_exact_iff hsincere _).mpr (by decide +kernel)

/-! ## Where partial writes resume -/

/-- A write of `n` bytes succeeds and takes some number of them. -/
def Obliging (n : DWORD) (r : Reply) : Prop := r.status = FT_OK ∧ ∃ c, r.dword = some c ∧ c ≤ n

/-- The data bytes the driver took. -/
def Event.dataAccepted (e : Event) : List (Option UInt8) :=
  if e.data?.isSome then e.accepted else []

/-- The universe of an object, as bytes in memory. -/
def Obj.universe (x : Obj) : List (Option UInt8) := (List.ofFn x.dmx_data).map some

/-- The data writes of a tick on `x` resume where they stopped. -/
structure Resumes (x : Obj) (t : Locals × List Event) : Prop where
  /-- Each hands the driver the slots from the number of data bytes taken before it to 511. -/
  writes : DataWrites (fun k offset n => offset = k ∧ n.toNat + k = 512) 0 t.2
  /-- No byte outside the array is read. -/
  inside : ∀ e ∈ t.2, ∀ offset n, e.data? = some (offset, n) → offset + n.toNat ≤ 512
  /-- The data bytes taken are the first ones of the universe, in slot order. -/
  inOrder : t.2.flatMap Event.dataAccepted <+: x.universe
  /-- They are the whole universe when the loop ends with nothing left. -/
  whole : t.1.s2 = 0 → t.2.flatMap Event.dataAccepted = x.universe

section resume

variable {fuse : ℕ} {l : Locals} {rs : List Reply} (x : Obj) (h : Handle)

/-- An obliging driver is sincere. -/
lemma Obliging.sincere {n : DWORD} {r : Reply} (hr : Obliging n r) : Sincere n r :=
  ⟨fun _ => hr.2, fun hne => absurd hr.1 hne⟩

/-- What a first write leaves, when it takes some and not all of the array, is asked for in the
wrong place: the next write starts 512 times as far on. -/
lemma Turns.not_resumed {r : Reply} (hturns : Turns Obliging (fuse + 1) (l.after r) rs) {k : ℕ}
    (hleft : (l.after r).s2.toNat + k = 512) (hnone : k ≠ 0) (hall : k ≠ 512) :
    ¬DataWrites (fun k offset n => offset = k ∧ n.toNat + k = 512) k
      (dataEvents x h (l.after r) rs) := by
  intro hnext
  cases rs with
  | nil =>
      have hzero : (l.after r).s2.toNat = 0 := congrArg UInt32.toNat hturns
      omega
  | cons r' rs =>
      have hoffset := ((dataWrites_event x h (l.after r) r' k _).mp hnext).1.1
      have hle : (l.after r).s2 ≤ 512 :=
        UInt32.le_iff_toNat_le.mpr (show (l.after r).s2.toNat ≤ 512 by omega)
      rw [UInt32.toNat_sub_of_le _ _ hle, show (512 : DWORD).toNat = 512 from rfl] at hoffset
      omega

/-- **The loop resumes where it stopped** if and only if no write but the last it may make takes
some and not all of the array. -/
lemma Turns.resumption_iff (hturns : Turns Obliging (fuse + 1) l rs) (hs2 : l.s2 = 512) :
    DataWrites (fun k offset n => offset = k ∧ n.toNat + k = 512) 0 (dataEvents x h l rs) ↔
      ∀ e ∈ (dataEvents x h l rs).take fuse, e.taken = 0 ∨ e.taken = 512 := by
  induction fuse generalizing l rs with
  | zero =>
      refine ⟨fun _ e he => ?_, fun _ => ?_⟩
      · rw [List.take_zero] at he
        cases he
      · cases rs with
        | nil => trivial
        | cons r rs =>
            rw [dataEvents_cons, dataWrites_event, hs2, show rs = [] from hturns.2.2]
            exact ⟨⟨rfl, rfl⟩, trivial⟩
  | succ fuse ih =>
      cases rs with
      | nil => exact ⟨fun _ e he => absurd he List.not_mem_nil, fun _ => trivial⟩
      | cons r rs =>
          obtain ⟨-, hr, hturns⟩ := hturns
          have hleft := hr.sincere.after_ok hr.1
          have hhead : (l.event h x r).taken = r.accepted 512 := by rw [taken_event, hs2]; rfl
          rw [hs2, show (512 : DWORD).toNat = 512 from rfl] at hleft
          rw [dataEvents_cons, dataWrites_event, hs2, List.take_succ_cons, List.forall_mem_cons,
            hhead, show (512 : DWORD).toNat = 512 from rfl]
          by_cases hnone : r.accepted 512 = 0
          · -- Nothing was taken: the next write is the first one again.
            have hagain : (l.after r).s2 = 512 :=
              UInt32.toNat_inj.mp (show (l.after r).s2.toNat = 512 by omega)
            rw [hnone, ih hturns hagain]
            constructor
            · exact fun hboth => ⟨Or.inl rfl, hboth.2⟩
            · exact fun hboth => ⟨⟨rfl, rfl⟩, hboth.2⟩
          by_cases hall : r.accepted 512 = 512
          · -- Everything was taken: the loop ends.
            have hdone : (l.after r).s2 = 0 :=
              UInt32.toNat_inj.mp (show (l.after r).s2.toNat = 0 by omega)
            cases rs with
            | nil =>
                constructor
                · intro _
                  rw [dataEvents, List.take_nil]
                  exact ⟨Or.inr hall, fun e he => absurd he List.not_mem_nil⟩
                · exact fun _ => ⟨⟨rfl, rfl⟩, trivial⟩
            | cons r' rs => exact absurd hdone hturns.1
          · -- Some bytes were taken: the rest is lost.
            rw [Nat.zero_add]
            constructor
            · exact fun hboth => absurd hboth.2 (hturns.not_resumed x h hleft hnone hall)
            · rintro ⟨hnone' | hall', -⟩
              · exact absurd hnone' hnone
              · exact absurd hall' hall

/-- A driver that takes what it reports leaves exactly the rest. -/
lemma Turns.left (hturns : Turns Obliging fuse l rs) :
    (rs.foldl Locals.after l).s2.toNat + taken (dataEvents x h l rs) = l.s2.toNat := by
  induction fuse generalizing l rs with
  | zero =>
      rw [show rs = [] from hturns]
      rfl
  | succ fuse ih =>
      cases rs with
      | nil => rfl
      | cons r rs =>
          obtain ⟨-, hr, hturns⟩ := hturns
          have hafter := hr.sincere.after_ok hr.1
          have hrest := ih hturns
          rw [List.foldl_cons, dataEvents_cons, taken_cons, taken_event]
          omega

/-- The bytes from slot `k` to the end of the array. -/
lemma bytes_from {k n : ℕ} (hk : n + k = 512) : x.bytes (.dmx_data k) n = x.universe.drop k := by
  unfold Obj.bytes Obj.universe
  apply List.ext_getElem
  · simp only [List.length_map, List.length_range, List.length_drop, List.length_ofFn]
    omega
  · intro i hi₁ hi₂
    have hi : k + i < 512 := by
      simp only [List.length_map, List.length_range] at hi₁
      omega
    simp only [List.getElem_map, List.getElem_range, List.getElem_drop, List.getElem_ofFn,
      x.byte_of_lt hi]

/-- Writes that resume where they stopped are taken in slot order. -/
lemma accepted_in_order {k : ℕ}
    (hwrites : DataWrites (fun k offset n => offset = k ∧ n.toNat + k = 512) k
      (dataEvents x h l rs)) :
    (dataEvents x h l rs).flatMap Event.dataAccepted =
      (x.universe.drop k).take (taken (dataEvents x h l rs)) := by
  induction rs generalizing l k with
  | nil => rfl
  | cons r rs ih =>
      rw [dataEvents_cons, dataWrites_event] at hwrites
      obtain ⟨⟨hoffset, hlength⟩, hrest⟩ := hwrites
      have hhead : (l.event h x r).dataAccepted =
          (x.universe.drop k).take (r.accepted l.s2.toNat) := by
        rw [← bytes_from x hlength, ← hoffset]
        rfl
      rw [dataEvents_cons, List.flatMap_cons, taken_cons, taken_event, List.take_add, hhead,
        ih hrest, List.drop_drop]

/-- Each data write is in `R` for some number of bytes. -/
lemma DataWrites.mem {R : ℕ → ℕ → DWORD → Prop} {k : ℕ} {events : List Event}
    (hwrites : DataWrites R k events) {e : Event} (he : e ∈ events) {offset : ℕ} {n : DWORD}
    (hdata : e.data? = some (offset, n)) : ∃ k', R k' offset n := by
  induction events generalizing k with
  | nil => cases he
  | cons e' events ih =>
      rcases List.mem_cons.mp he with rfl | he
      · exact ⟨k, hwrites.1 offset n hdata⟩
      · exact ih hwrites.2 he

/-- The data bytes accepted are those of the data loop. -/
lemma dataAccepted_exchange (e : Exchange) :
    (e.events x h).flatMap Event.dataAccepted =
      (dataEvents x h e.entered e.data).flatMap Event.dataAccepted := by
  unfold Exchange.events
  rw [List.flatMap_cons, List.flatMap_cons, List.flatMap_cons, List.flatMap_append]
  exact List.append_nil _

/-- The data writes among the events of a tick. -/
lemma filter_exchange (e : Exchange) :
    (e.events x h).filter (fun e => e.data?.isSome) = dataEvents x h e.entered e.data := by
  have hall : ∀ (l : Locals) (rs : List Reply),
      (dataEvents x h l rs).filter (fun e => e.data?.isSome) = dataEvents x h l rs := by
    intro l rs
    induction rs generalizing l with
    | nil => rfl
    | cons r rs ih => exact congrArg (l.event h x r :: ·) (ih (l.after r))
  unfold Exchange.events
  rw [List.filter_cons_of_neg Bool.false_ne_true, List.filter_cons_of_neg Bool.false_ne_true,
    List.filter_cons_of_neg Bool.false_ne_true, List.filter_append, hall]
  exact List.append_nil _

end resume

/-- **When partial writes resume where they stopped.** For a driver whose writes all succeed, taking
any number of bytes, they do in a tick if and only if each of the first nine data writes takes
nothing or the whole array. -/
theorem resumes_iff {f : Script Dm Reply} (hf : Answering Obliging f) (x : Obj) :
    Resumes x (ticked f x) ↔
      ∀ e ∈ ((ticked f x).2.filter fun e => e.data?.isSome).take 9,
        e.taken = 0 ∨ e.taken = 512 := by
  cases hptr : x.dmxPointer with
  | none =>
      obtain ⟨junk, b, ht⟩ := ticked_none f hptr
      rw [ht]
      have hleft : (512 : DWORD) ≠ 0 := by decide
      refine ⟨fun _ e he => absurd he List.not_mem_nil, fun _ => ?_⟩
      refine ⟨(dataWrites_skip rfl 0 []).mpr trivial, fun e he offset n hdata => ?_,
        List.nil_prefix, fun hs2 => absurd hs2 hleft⟩
      rw [List.mem_singleton.mp he] at hdata
      cases hdata
  | some h =>
      obtain ⟨e, he, ht⟩ := ticked_answers hf hptr
      rw [ht, filter_exchange, ← he.2.resumption_iff x h rfl, ← dataWrites_exchange]
      refine ⟨fun hresumes => hresumes.writes, fun hwrites => ?_⟩
      have horder := accepted_in_order x h ((dataWrites_exchange e x h).mp hwrites)
      have hleft : e.left.s2.toNat + taken (dataEvents x h e.entered e.data) = 512 :=
        he.2.left x h
      rw [← dataAccepted_exchange, List.drop_zero] at horder
      refine ⟨hwrites, fun e' he' offset n hdata => ?_, ?_, fun hs2 => ?_⟩
      · obtain ⟨k, hoffset, hlength⟩ := hwrites.mem he' hdata
        omega
      · rw [horder]
        exact List.take_prefix _ _
      · have hzero : e.left.s2.toNat = 0 := congrArg UInt32.toNat hs2
        rw [horder]
        apply List.take_of_length_le
        unfold Obj.universe
        rw [List.length_map, List.length_ofFn]
        omega

/-- A driver that takes `n` bytes of the first data write of a tick, and everything after that. -/
def takesFirst (n : DWORD) : Script Dm Reply := fun i o =>
  match o with
  | .call (.FT_Write _ _ length) => { dword := some (if i = 8 then min n length else length) }
  | _ => default

/-- It obliges. -/
lemma takesFirst_obliging (n : DWORD) : Answering Obliging (takesFirst n) := by
  intro i h buffer length
  refine ⟨rfl, _, rfl, ?_⟩
  split_ifs
  · exact Std.min_le_right
  · exact UInt32.le_refl length

/-- One slot taken by the first data write: the second reads 511 bytes from behind the array. -/
theorem resumes_elsewhere : Answering Obliging (takesFirst 1) ∧
    ¬Resumes { Obj.initial with dmxPointer := some 7 }
      (ticked (takesFirst 1) { Obj.initial with dmxPointer := some 7 }) := by
  refine ⟨takesFirst_obliging 1, fun hresumes => ?_⟩
  have hread : ∃ e ∈ (ticked (takesFirst 1) { Obj.initial with dmxPointer := some 7 }).2,
      e.data? = some (512, 511) := by
    decide +kernel
  obtain ⟨e, he, hdata⟩ := hread
  exact absurd (hresumes.inside e he 512 511 hdata) (by decide)

/-- Nothing taken by the first data write, everything by the second. -/
theorem resumes_after_nothing : Resumes { Obj.initial with dmxPointer := some 7 }
    (ticked (takesFirst 0) { Obj.initial with dmxPointer := some 7 }) :=
  (resumes_iff (takesFirst_obliging 0) _).mpr (by decide +kernel)

end Dmx485
