import Dmx485.Dialogue
import Dmx485.Mailbox
import Mathlib.Data.List.Induction

/-!
# The protocol in every interleaving

Whatever messages arrive, however their handling is interleaved with the worker and whatever the
driver answers, the worker's calls and sleeps are at every moment the beginning of the word along
a path of `Move`. What the program does and never does to the driver is then read off the moves.

* `Runs.dialogue`: the refinement; `worker_keeps_to_protocol` states it from the initial
  configuration. Inside a block, what has been said is completed by some further words to a move.
* `call_on_last_opened`: no call is ever made on a handle but the last one opened, and none once
  it has been dropped; a handle that leaks is out of reach for good.
* `milestones_apart`: openings, closings and frames are kept apart by sleeps.

The last two are monitors, which read the dialogue act by act: one keeps the handle that may be
called (`grip`), the other whether there has been a sleep since the last milestone. That a monitor
accepts every dialogue is proved move by move, and stage by stage within a move.
-/

namespace Dmx485

open Interaction Relation

/-! ## The refinement -/

/-- The host is not seen. -/
lemma unseen_host {A : World → Op → Reply → Prop} {G : World → Op → Reply → Prop} :
    Unseen (around Op.Host A G).env World.link World.acts := by
  rintro w w' ⟨o, r, ho, -, rfl⟩
  exact link_host ho r w

section runs

variable {T : Int → Prop} {ok : Sys → Action → Prop} {s s' : Sys}

/-- The outline that says: the worker has moved by the protocol since it stood at `c₀`. -/
def movesOutline (T : Int → Prop) (c₀ : Label × Link) (d₀ : List Act) :
    Outline Dm World Reply Label :=
  workerOutline (Reads T) (fun _ _ _ _ => True)
    (fun l w => Arrived (Move T) c₀ d₀ (l, w.link) w.acts)
    fun _ _ l w => Arrived (Move T) c₀ d₀ (l, w.link) w.acts

/-- It is valid, because every block makes a move. -/
lemma movesOutline_valid (c₀ : Label × Link) (d₀ : List Act) :
    (movesOutline T c₀ d₀).Valid (machine .worker) thread :=
  Outline.ofMoves_valid (seen_abstracts T) unseen_host thread_moves

/-- The dialogue only grows. -/
lemma Runs.acts_prefix (hrun : Runs ok s s') : s.world.acts <+: s'.world.acts := by
  induction hrun with
  | refl => exact List.prefix_rfl
  | tail _ hstep ih =>
      rename_i s₁ s₂ _
      obtain ⟨a, -, hstep⟩ := hstep
      have hexec : ∀ party o r, s₁.world.acts <+: ((machine party).exec o r s₁.world).2.acts := by
        intro party o r
        rw [acts_exec]
        exact List.prefix_append _ _
      refine ih.trans ?_
      obtain ⟨m, u, rfl, -, rfl⟩ | ⟨r, o, k, rfl, -, rfl⟩ | ⟨r, rfl, rfl⟩ := Sys.step_cases hstep
      · exact List.prefix_rfl
      · exact hexec _ _ _
      · rcases hrest : s₁.worker.rest thread with l' | ⟨o, k⟩
        · have hstay := Position.step_of_ret hrest r s₁.world (M := machine .worker)
          exact hstay ▸ List.prefix_rfl
        · rw [Position.step_of_op hrest]
          exact hexec _ _ _

/-- **The dialogue of a run** that begins with the worker at the start of a block: the worker has
moved by the protocol, and what it has said inside a block can be completed. -/
theorem Runs.dialogue (hok : ∀ s a, ok s a → s.Allowed (Reads T) a) (hrun : Runs ok s s')
    (hhost : s.host.All Op.Host) {l : Label} (hl : s.worker = .start l) :
    ∃ d, s'.world.acts = s.world.acts ++ d ∧
      (∀ l', s'.worker = .start l' → Path (Move T) (l, s.world.link) d (l', s'.world.link)) ∧
      ∃ e c, Path (Move T) (l, s.world.link) (d ++ e) c := by
  have hstart : s.Holds (movesOutline T (l, s.world.link) s.world.acts) := by
    refine ⟨?_, hhost⟩
    rw [hl]
    exact ⟨[], .refl _, (List.append_nil _).symm⟩
  have hholds := (hrun.holds (movesOutline_valid _ _) hok hstart).1
  obtain ⟨d, hd⟩ := hrun.acts_prefix
  have htail : s'.worker.TailAll Label.Later := by
    refine hrun.tailAll ?_
    rw [hl]
    trivial
  refine ⟨d, hd.symm, ?_⟩
  cases hplace : s'.worker with
  | start l' =>
      rw [hplace] at hholds
      obtain ⟨d', hpath, hd'⟩ := hholds
      rw [← hd] at hd'
      obtain rfl := List.append_cancel_left hd'
      refine ⟨fun l'' hl'' => ?_, [], _, (List.append_nil d).symm ▸ hpath⟩
      injection hl'' with hll
      exact hll ▸ hpath
  | within l' e k =>
      rw [hplace] at hholds htail
      have hreply : ∀ (w : World) (o : Op), o.Inner → ∃ r, Reads T w o r := by
        rintro w o ho
        refine ⟨default, ?_⟩
        rintro rfl
        exact ho.elim
      obtain ⟨a, w, ⟨d', hpath, hd'⟩, e', he'⟩ := wp_finish hreply
        (fun o r w => ⟨_, (acts_exec .worker o r w).symm⟩)
        (htail.2.mono fun _ ho => ho.2) hholds.2
      refine ⟨fun l'' hl'' => absurd hl'' (by rintro ⟨⟩), e', (a, w.link), ?_⟩
      rw [← he', ← hd, List.append_assoc] at hd'
      obtain rfl := List.append_cancel_left hd'
      exact hpath

/-- From the initial configuration nothing has to be assumed of the mailbox. -/
lemma Runs.dialogue_initial (hrun : Runs (fun _ _ => True) Sys.initial s) :
    ∃ e c, Path (Move fun _ => True) (.head, ⟨none, FT_OK, false⟩) (s.world.acts ++ e) c := by
  obtain ⟨d, hd, -, hpath⟩ := hrun.dialogue (T := fun _ => True)
    (fun _ _ _ _ _ _ => trivial) trivial rfl
  rwa [hd]

/-- **The worker keeps to the protocol**, in every interleaving and against every driver: what it
has said so far is the beginning of the word along a path of moves, and at the start of a block it
is the whole word, with the object where the path ends. -/
theorem worker_keeps_to_protocol (hrun : Runs (fun _ _ => True) Sys.initial s) :
    (∃ e c, Path (Move fun _ => True) (.head, ⟨none, FT_OK, false⟩) (s.world.acts ++ e) c) ∧
    ∀ l, s.worker = .start l → Path (Move fun _ => True) (.head, ⟨none, FT_OK, false⟩)
      s.world.acts (l, s.world.link) := by
  obtain ⟨d, hd, hstart, hbegins⟩ := hrun.dialogue (T := fun _ => True)
    (fun _ _ _ _ _ _ => trivial) trivial rfl
  rw [hd]
  exact ⟨hbegins, hstart⟩

/-- Connecting once, and the first frame. -/
theorem worker_keeps_to_protocol_connecting : ∃ s : Sys, s.world.obj.threadOn = true ∧
    Path (Move fun _ => True) (.head, ⟨none, FT_OK, false⟩) s.world.acts (.head, s.world.link) := by
  obtain ⟨s, hrun, hhead, hon⟩ := Runs.of_plays (fun _ _ => True)
    (fun s => s.worker = .start .head ∧ s.world.obj.threadOn = true) Sys.initial
    (request .connect 4 ++ workerSteps 59) (by decide +kernel)
  exact ⟨s, hon, (worker_keeps_to_protocol hrun).2 _ hhead⟩

end runs

/-! ## Which handle is called -/

/-- After this the handle is not called any more: another device is opened, `connect` begins, the
handle has been closed, or a tested call of the line setup has failed. -/
def Act.letsGo : Act → Bool
  | .asked (.FT_Open _) _ => true
  | .asked (.FT_ListDevices .numDevs _) _ => true
  | .asked (.FT_Close _) r => r.status = FT_OK
  | .asked (.FT_SetBitMode ..) r => r.status ≠ FT_OK
  | .asked (.FT_SetBaudRate ..) r => r.status ≠ FT_OK
  | .asked (.FT_SetLatencyTimer ..) r => r.status ≠ FT_OK
  | _ => false

/-- The handle that can still be called, after one act more. -/
def grip (q : Option FT_HANDLE) : Act → Option FT_HANDLE
  | .asked (.FT_Open _) r => some r.handle
  | x => if x.letsGo then none else q

/-- A call is made on this handle, if on any. -/
def OnGrip (q : Option FT_HANDLE) : Act → Prop
  | .asked c _ => ∀ t, c.handle? = some t → q = some t
  | .slept _ => True

/-- What does not let go leaves the handle that can be called as it is. -/
lemma grip_of_keeps {x : Act} (hx : x.letsGo = false) (q : Option FT_HANDLE) : grip q x = q := by
  cases x with
  | asked c r =>
      cases c with
      | FT_Open i => cases hx
      | _ => simp [grip, hx]
  | slept n => rfl

/-- The handle stored can still be called. -/
def Held (c : Label × Link) (q : Option FT_HANDLE) : Prop :=
  ∀ h, c.2.ptr = some h → q = some (some h)

/-- Without a handle there is nothing to ask. -/
lemma held_none {l : Label} {a : Link} (ha : a.ptr = none) (q : Option FT_HANDLE) :
    Held (l, a) q := by
  intro h hh
  rw [ha] at hh
  cases hh

/-- A stage of the line setup is on the handle opened, and keeps it if it succeeds. -/
lemma stage_on {t : FT_HANDLE} {calls : List FtCall} (hcalls : calls ∈ stages t) {s : FT_STATUS}
    {d : List Act} (h : Answered calls s d) :
    Accepted grip OnGrip (some t) d ∧ (s = FT_OK → d.foldl grip (some t) = some t) := by
  have hon : ∀ t', some t = some t' → (some t : Option FT_HANDLE) = some t' := fun _ => id
  obtain ⟨rs, hlen, rfl, hs⟩ := h
  simp only [stages, List.mem_cons, List.not_mem_nil, or_false] at hcalls
  rcases hcalls with rfl | rfl | rfl
  · match rs, hlen with
    | [r], _ =>
      obtain rfl := Option.some.inj hs
      refine ⟨⟨hon, trivial⟩, fun (hok : r.status = FT_OK) => ?_⟩
      show grip (some t) (.asked (.FT_SetBitMode t 0x00 0) r) = some t
      exact grip_of_keeps (by simp [Act.letsGo, hok]) _
  · match rs, hlen with
    | [r₁, r₂, r], _ =>
      obtain rfl := Option.some.inj hs
      refine ⟨⟨hon, hon, hon, trivial⟩, fun (hok : r.status = FT_OK) => ?_⟩
      show grip (some t) (.asked (.FT_SetBaudRate t 250000) r) = some t
      exact grip_of_keeps (by simp [Act.letsGo, hok]) _
  · match rs, hlen with
    | [r₁, r₂, r₃, r₄, r], _ =>
      obtain rfl := Option.some.inj hs
      refine ⟨⟨hon, hon, hon, hon, hon, trivial⟩, fun (hok : r.status = FT_OK) => ?_⟩
      show grip (some t) (.asked (.FT_SetLatencyTimer t 2) r) = some t
      exact grip_of_keeps (by simp [Act.letsGo, hok]) _

/-- So is the whole line setup, up to the test that ends it. -/
lemma staged_on {t : FT_HANDLE} {cs : List (List FtCall)} (hcs : ∀ calls ∈ cs, calls ∈ stages t)
    {s s' : FT_STATUS} {d : List Act} (h : Staged cs s d s') :
    Accepted grip OnGrip (some t) d ∧ (s' = FT_OK → d.foldl grip (some t) = some t) := by
  induction h with
  | refused hs => exact ⟨trivial, fun _ => rfl⟩
  | done => exact ⟨trivial, fun _ => rfl⟩
  | stage hcalls hrest ih =>
      rename_i calls cs s s' d e
      obtain ⟨hd, hkept⟩ := stage_on (hcs _ List.mem_cons_self) hcalls
      obtain ⟨he, hkept'⟩ := ih fun calls hc => hcs calls (List.mem_cons_of_mem _ hc)
      by_cases hs : s = FT_OK
      · rw [accepted_append, List.foldl_append, hkept hs]
        exact ⟨⟨hd, he⟩, hkept'⟩
      · -- A failed stage is the last one.
        cases hrest with
        | refused _ =>
            rw [List.append_nil]
            exact ⟨hd, fun hok => absurd hok hs⟩
        | done => exact absurd rfl hs
        | stage => exact absurd rfl hs

/-- The data writes of a tick are writes. -/
lemma Writing.forall_mem {h : FT_HANDLE} {fuse : ℕ} {s2 written : DWORD} {d : List Act}
    (hd : Writing h fuse s2 written d) :
    ∀ x ∈ d, ∃ b n r, x = .asked (.FT_Write h b n) r := by
  induction hd with
  | stop => exact fun x hx => absurd hx List.not_mem_nil
  | write r hs2 hrest ih =>
      intro x hx
      rcases List.mem_cons.mp hx with rfl | hx
      · exact ⟨_, _, r, rfl⟩
      · exact ih x hx

/-- A frame is sent on the handle stored. -/
lemma Framing.forall_mem {p : FT_HANDLE} {d : List Act} (hd : Framing p d) :
    ∀ x ∈ d, ∃ c r, x = .asked c r ∧ p ≠ none ∧ c.Tick p := by
  cases hd with
  | idle => exact fun x hx => absurd hx List.not_mem_nil
  | frame off start on purge hdata =>
      intro x hx
      simp only [List.mem_cons, List.mem_append, List.not_mem_nil, or_false] at hx
      rcases hx with rfl | rfl | hx | rfl | rfl
      · exact ⟨_, _, rfl, Option.some_ne_none _, rfl⟩
      · exact ⟨_, _, rfl, Option.some_ne_none _, rfl⟩
      · obtain ⟨b, n, r, rfl⟩ := hdata.forall_mem x hx
        exact ⟨_, _, rfl, Option.some_ne_none _, rfl⟩
      · exact ⟨_, _, rfl, Option.some_ne_none _, rfl⟩
      · exact ⟨_, _, rfl, Option.some_ne_none _, rfl⟩

/-- What `connect` says after `FT_Open` is on the handle opened. -/
lemma Configuring.on {t : FT_HANDLE} {a b : Link} {d : List Act} (h : Configuring t a d b)
    (l : Label) : Accepted grip OnGrip (some t) d ∧ Held (l, b) (d.foldl grip (some t)) := by
  cases h with
  | failed hstages hs =>
      exact ⟨(staged_on (fun _ hc => hc) hstages).1, held_none rfl _⟩
  | done hstages escape info =>
      obtain ⟨hd, hkept⟩ := staged_on (fun _ hc => hc) hstages
      rw [accepted_append, List.foldl_append, hkept rfl]
      exact ⟨⟨hd, fun _ => id, fun _ => id, trivial, trivial⟩, fun h hh => congrArg some hh⟩

/-- `disconnect` closes the handle stored. -/
lemma Closing.on {l l' : Label} {a b : Link} {d : List Act} {q : Option FT_HANDLE}
    (h : Closing a d b) (hq : Held (l, a) q) :
    Accepted grip OnGrip q d ∧ Held (l', b) (d.foldl grip q) := by
  cases h with
  | idle hptr => exact ⟨trivial, held_none rfl _⟩
  | asked hptr r =>
      rename_i p
      obtain rfl := hq p hptr
      refine ⟨⟨fun _ => id, trivial⟩, ?_⟩
      by_cases hs : r.status = FT_OK
      · exact held_none (if_pos hs) _
      · intro h hh
        have hsame : p = h := Option.some.inj ((if_neg hs).symm.trans hh)
        show grip (some (some p)) (.asked (.FT_Close (some p)) r) = _
        rw [grip_of_keeps (by simp [Act.letsGo, hs]), hsame]

/-- What the sleeps keep apart. -/
inductive Milestone
  | opened | closed | framed
  deriving DecidableEq, Repr

/-- The milestone an act is, if any. -/
def Act.milestone? : Act → Option Milestone
  | .asked (.FT_Open _) _ => some .opened
  | .asked (.FT_Close _) _ => some .closed
  | .asked (.FT_SetBreakOff _) _ => some .framed
  | _ => none

/-- The last milestone since the last sleep of 10 ms, after one act more. -/
def awake (q : Option Milestone) : Act → Option Milestone
  | .slept n => if n = 10000 then none else q
  | x => x.milestone?.or q

/-- A milestone is reached after a sleep; only closing may be tried twice in a row. -/
def Apart (q : Option Milestone) (x : Act) : Prop :=
  ∀ m m', q = some m → x.milestone? = some m' → m = .closed ∧ m' = .closed

/-- The places from the start of `connect` back to the sleep before it. -/
def Label.Rested (l : Label) : Prop := l = head ∨ l = clear1 ∨ l = connect ∨ l = repost3

/-- The places from the end of `disconnect` on to the next sleep. -/
def Label.Closed (l : Label) : Prop :=
  l = test3 ∨ l = stop3 ∨ l = disconnect3 ∨ l = clear3 ∨ l = pause3 ∨ l = testOn ∨ l = pause

instance (l : Label) : Decidable l.Rested :=
  inferInstanceAs (Decidable (_ ∨ _))

instance (l : Label) : Decidable l.Closed :=
  inferInstanceAs (Decidable (_ ∨ _))

/-- Where the worker can stand when it has not slept since the last milestone. -/
def Paced : Label × Link → Option Milestone → Prop
  | _, none => True
  | (l, a), some .opened => a.ptr = none ∧ ¬l.Rested
  | (l, a), some .closed => a.on = false ∧ l.Closed
  | (l, _), some .framed => l = .pause

/-- What is no milestone may come at any time. -/
lemma apart_of_none {q : Option Milestone} {x : Act} (hx : x.milestone? = none) : Apart q x := by
  intro m m' _ hm'
  rw [hx] at hm'
  cases hm'

/-- Acts that are neither milestones nor sleeps. -/
lemma accepted_between {q : Option Milestone} {d : List Act}
    (h : ∀ x ∈ d, ∃ c r, x = .asked c r ∧ x.milestone? = none) :
    Accepted awake Apart q d ∧ d.foldl awake q = q := by
  refine accepted_of_forall fun x hx => ?_
  obtain ⟨c, r, rfl, hnone⟩ := h x hx
  refine ⟨apart_of_none hnone, ?_⟩
  show (Act.milestone? (.asked c r)).or q = q
  rw [hnone]
  rfl

/-- The letters of a dialogue in stages are calls of the stages. -/
lemma Staged.forall_mem {cs : List (List FtCall)} {s s' : FT_STATUS} {d : List Act}
    (h : Staged cs s d s') : ∀ x ∈ d, ∃ calls ∈ cs, ∃ c ∈ calls, ∃ r, x = .asked c r := by
  induction h with
  | refused => exact fun x hx => absurd hx List.not_mem_nil
  | done => exact fun x hx => absurd hx List.not_mem_nil
  | stage hcalls hrest ih =>
      rename_i calls cs s s' d e
      intro x hx
      rcases List.mem_append.mp hx with hx | hx
      · obtain ⟨rs, hlen, rfl, -⟩ := hcalls
        obtain ⟨i, hi, rfl⟩ := List.mem_iff_getElem.mp hx
        refine ⟨calls, List.mem_cons_self, _, ?_, _, List.getElem_zipWith⟩
        exact List.getElem_mem _
      · obtain ⟨calls', hcalls', hx⟩ := ih x hx
        exact ⟨calls', List.mem_cons_of_mem _ hcalls', hx⟩

/-- The line setup reaches no milestone. -/
lemma staged_between {t : FT_HANDLE} {s s' : FT_STATUS} {d : List Act} {q : Option Milestone}
    (h : Staged (stages t) s d s') : Accepted awake Apart q d ∧ d.foldl awake q = q := by
  refine accepted_between fun x hx => ?_
  obtain ⟨calls, hcalls, c, hc, r, rfl⟩ := h.forall_mem x hx
  refine ⟨c, r, rfl, ?_⟩
  simp only [stages, List.mem_cons, List.not_mem_nil, or_false] at hcalls
  rcases hcalls with rfl | rfl | rfl <;>
    · simp only [bitMode, baudRate, latencyTimer, List.mem_cons, List.not_mem_nil, or_false] at hc
      rcases hc with rfl | rfl | rfl | rfl | rfl <;> rfl

/-- After `FT_Open` has been called, `connect` leaves no handle or has slept. -/
lemma Configuring.paced {t : FT_HANDLE} {a b : Link} {d : List Act} (h : Configuring t a d b) :
    Accepted awake Apart (some .opened) d ∧
      Paced (.test2, b) (d.foldl awake (some .opened)) := by
  cases h with
  | failed hstages hs =>
      obtain ⟨hacc, hsame⟩ := staged_between hstages
      rw [hsame]
      exact ⟨hacc, rfl, by decide⟩
  | done hstages escape info =>
      obtain ⟨hacc, hsame⟩ := staged_between hstages
      rw [accepted_append, List.foldl_append, hsame]
      exact ⟨⟨hacc, apart_of_none rfl, apart_of_none rfl, apart_of_none rfl, trivial⟩, trivial⟩

/-- `disconnect` may follow a closing, and an opening that has left nothing to close. -/
lemma Closing.paced {a b : Link} {d : List Act} {q : Option Milestone} {l l' : Label}
    (h : Closing a d b) (hq : Paced (l, a) q) (hl : l = .disconnect ∨ l = .disconnect3)
    (hl' : l' = .test3 ∨ l' = .clear3) :
    Accepted awake Apart q d ∧ Paced (l', b) (d.foldl awake q) := by
  cases h with
  | idle hptr =>
      refine ⟨trivial, ?_⟩
      rcases q with _ | (_ | _ | _)
      · trivial
      · exact ⟨rfl, by rcases hl' with rfl | rfl <;> decide⟩
      · exact ⟨rfl, by rcases hl' with rfl | rfl <;> decide⟩
      · rcases hl with rfl | rfl <;> cases hq
  | asked hptr r =>
      rename_i h
      have hclosed : Paced (l', ⟨if r.status = FT_OK then none else some h, r.status, false⟩)
          (some .closed) := ⟨rfl, by rcases hl' with rfl | rfl <;> decide⟩
      rcases q with _ | (_ | _ | _)
      · exact ⟨⟨fun m m' hm => (by cases hm), trivial⟩, hclosed⟩
      · exact absurd (hptr.symm.trans hq.1) (by rintro ⟨⟩)
      · refine ⟨⟨fun m m' hm hm' => ?_, trivial⟩, hclosed⟩
        cases hm
        cases hm'
        exact ⟨rfl, rfl⟩
      · rcases hl with rfl | rfl <;> cases hq

/-- Before `connect` the worker has slept. -/
lemma Paced.rested {l : Label} {a : Link} {q : Option Milestone} (h : Paced (l, a) q)
    (hl : l.Rested) : q = none := by
  rcases q with _ | (_ | _ | _)
  · rfl
  · exact absurd hl h.2
  · obtain ⟨-, hclosed⟩ := h
    revert hl hclosed
    cases l <;> decide
  · obtain rfl : l = .pause := h
    revert hl
    decide

/-- The rest of a frame reaches no milestone. -/
lemma Writing.between {p : FT_HANDLE} {fuse : ℕ} {s2 written : DWORD} {d e : List Act}
    (h : Writing p fuse s2 written d)
    (he : ∀ x ∈ e, ∃ c r, x = .asked c r ∧ x.milestone? = none) :
    ∀ x ∈ d ++ e, ∃ c r, x = .asked c r ∧ x.milestone? = none := by
  intro x hx
  rcases List.mem_append.mp hx with hx | hx
  · obtain ⟨b, n, r, rfl⟩ := h.forall_mem x hx
    exact ⟨_, r, rfl, rfl⟩
  · exact he x hx

/-- A tick may follow a failed opening, with nothing to send, and otherwise only a sleep. -/
lemma Framing.paced {a : Link} {d : List Act} {q : Option Milestone} (h : Framing a.ptr d)
    (hq : Paced (.tick, a) q) :
    Accepted awake Apart q d ∧ Paced (.pause, a) (d.foldl awake q) := by
  rcases q with _ | (_ | _ | _)
  · cases hptr : a.ptr with
    | none =>
        rw [hptr] at h
        cases h
        exact ⟨trivial, trivial⟩
    | some p =>
        rw [hptr] at h
        cases h with
        | frame off start on purge hdata =>
            have hbetween := hdata.between (e := [.asked (.FT_SetBreakOn (some p)) on,
              .asked (.FT_Purge (some p) (FT_PURGE_RX ||| FT_PURGE_TX)) purge])
              (by simp [Act.milestone?])
            obtain ⟨hacc, hsame⟩ := accepted_between (q := some .framed) hbetween
            have hpaced := congrArg (Paced (.pause, a)) hsame
            exact ⟨⟨fun m m' hm => (by cases hm), apart_of_none rfl, hacc⟩, hpaced ▸ rfl⟩
  · rw [hq.1] at h
    cases h
    exact ⟨trivial, hq.1, by decide⟩
  · exact absurd hq.2 (by decide)
  · cases hq

/-- A move that shows nothing. -/
lemma Paced.silent {l l' : Label} {a b : Link} {q : Option Milestone} (h : Paced (l, a) q)
    (hl : l ≠ .pause) (hl' : ¬l'.Rested) (hptr : b.ptr = a.ptr)
    (hclosed : a.on = false → l.Closed → b.on = false ∧ l'.Closed) :
    Accepted awake Apart q [] ∧ Paced (l', b) q := by
  refine ⟨trivial, ?_⟩
  rcases q with _ | (_ | _ | _)
  · trivial
  · exact ⟨hptr.trans h.1, hl'⟩
  · exact hclosed h.1 h.2
  · exact absurd h hl

/-- **Every move** keeps the milestones apart. -/
theorem move_paced {T : Int → Prop} {c c' : Label × Link} {d : List Act} {q : Option Milestone}
    (hq : Paced c q) (hmove : Move T c d c') :
    Accepted awake Apart q d ∧ Paced c' (d.foldl awake q) := by
  have hfresh : ∀ x : Act, Apart none x := fun x m m' hm => by cases hm
  cases hmove with
  | head v hv =>
      obtain rfl := hq.rested (by decide)
      exact ⟨trivial, trivial⟩
  | clear1 =>
      obtain rfl := hq.rested (by decide)
      exact ⟨trivial, trivial⟩
  | repost3 =>
      obtain rfl := hq.rested (by decide)
      exact ⟨trivial, trivial⟩
  | connect h =>
      obtain rfl := hq.rested (by decide)
      cases h with
      | cleared count hcause => exact ⟨⟨hfresh _, trivial⟩, trivial⟩
      | opened count name description opened i j hcount hptr hconf =>
          exact ⟨⟨hfresh _, hfresh _, hfresh _, hfresh _, hconf.paced.1⟩, hconf.paced.2⟩
  | disconnect h => exact h.paced hq (Or.inl rfl) (Or.inl rfl)
  | disconnect3 h => exact h.paced hq (Or.inr rfl) (Or.inr rfl)
  | tick h => exact h.paced hq
  | pause => exact ⟨⟨apart_of_none rfl, trivial⟩, trivial⟩
  | pause3 => exact ⟨⟨apart_of_none rfl, trivial⟩, trivial⟩
  | test2 v hv =>
      refine hq.silent (by decide) ?_ rfl fun _ hl => absurd hl (by decide)
      split_ifs <;> decide
  | clear2 => exact hq.silent (by decide) (by decide) rfl fun _ hl => absurd hl (by decide)
  | test3 v hv =>
      refine hq.silent (by decide) ?_ rfl fun hon _ => ⟨hon, ?_⟩
      · split_ifs <;> decide
      · split_ifs <;> decide
  | stop3 => exact hq.silent (by decide) (by decide) rfl fun _ _ => ⟨rfl, by decide⟩
  | clear3 => exact hq.silent (by decide) (by decide) rfl fun hon _ => ⟨hon, by decide⟩
  | testOn =>
      refine hq.silent (by decide) ?_ rfl fun hon _ => ⟨hon, ?_⟩
      · split_ifs <;> decide
      · rw [hon]
        decide

/-- Awake, only closings can follow, and only a closing. -/
lemma foldl_awake {m : Milestone} {d : List Act} (hd : .slept 10000 ∉ d)
    (h : Accepted awake Apart (some m) d) : d.foldl awake (some m) = some m := by
  induction d with
  | nil => rfl
  | cons x d ih =>
      have hx : awake (some m) x = some m := by
        cases x with
        | slept n => exact if_neg fun hn => hd (by simp [hn])
        | asked c r =>
            show (Act.milestone? (.asked c r)).or (some m) = some m
            cases hm' : Act.milestone? (.asked c r) with
            | none => rfl
            | some m' =>
                obtain ⟨rfl, rfl⟩ := h.1 m m' rfl hm'
                rfl
      rw [List.foldl_cons, hx]
      refine ih (fun hmem => hd (List.mem_cons_of_mem x hmem)) ?_
      rw [← hx]
      exact h.2

/-- **Openings, closings and frames are kept apart**: between two of them the worker has slept for
10 ms, unless both are attempts to close. -/
theorem milestones_apart {s : Sys} (hrun : Runs (fun _ _ => True) Sys.initial s)
    {d d' e : List Act} {x y : Act} {m m' : Milestone}
    (hd : s.world.acts = d ++ x :: (d' ++ y :: e)) (hx : x.milestone? = some m)
    (hy : y.milestone? = some m') : .slept 10000 ∈ d' ∨ (m = .closed ∧ m' = .closed) := by
  obtain ⟨e', c', hpath⟩ := hrun.dialogue_initial
  have hacc := (hpath.accepted (P := Paced) (q := none) (fun _ _ _ _ => move_paced) trivial).1
  rw [hd, List.append_assoc, List.cons_append, List.append_assoc, List.cons_append] at hacc
  by_cases hslept : .slept 10000 ∈ d'
  · exact Or.inl hslept
  · refine Or.inr ?_
    have hrest := (accepted_append.mp hacc).2.2
    have hawake : awake (d.foldl awake none) x = some m := by
      cases x with
      | slept n => cases hx
      | asked c r =>
          show (Act.milestone? (.asked c r)).or _ = some m
          rw [hx]
          rfl
    rw [hawake] at hrest
    have hy' := hrest.at
    rw [foldl_awake hslept (accepted_append.mp hrest).1] at hy'
    exact hy' m m' rfl hy

/-- Opening a device and the first frame. -/
theorem milestones_apart_connecting : ∃ (s : Sys) (d d' : List Act),
    Runs (fun _ _ => True) Sys.initial s ∧
    s.world.acts = d ++ .asked (.FT_Open 0) .fine ::
      (d' ++ .asked (.FT_SetBreakOff (some 7)) .fine :: []) ∧ .slept 10000 ∈ d' := by
  obtain ⟨s, hrun, hacts⟩ := Runs.of_plays (fun _ _ => True)
    (fun s => s.world.acts = s.world.acts.take 3 ++ .asked (.FT_Open 0) .fine ::
      ((s.world.acts.drop 4).take 12 ++ .asked (.FT_SetBreakOff (some 7)) .fine :: []))
    Sys.initial (request .connect 4 ++ workerSteps 50) (by decide +kernel)
  have hapart := milestones_apart hrun hacts rfl rfl
  exact ⟨s, _, _, hrun, hacts, hapart.resolve_right fun h => Milestone.noConfusion h.1⟩

end Dmx485
