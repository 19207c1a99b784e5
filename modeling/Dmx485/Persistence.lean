import Dmx485.Settling

/-!
# What stays as it is until a request is made

Two situations that persist, whatever else happens and whatever the driver answers. Without
requests a connection is kept and used, even if every call fails; and after a failed attempt no
attempt succeeds until a disconnect or refresh request has been made.

The second is a consequence of `connect` testing the status that an earlier call left instead of
the one `FT_Open` returned: a failure is on record, each further attempt opens the device, finds
the old failure and gives up, and only `disconnect` clears the record. The driver may answer
everything well meanwhile.

* `Runs.confined_dialogue`: the dialogue of a run in which only some contents of the mailbox occur.
* `move_unasked`, `Runs.quiet_dialogue`, `steady_without_requests`: without requests.
* `Futile`: what the worker can say after a failed attempt, in one block: a sleep, or an attempt
  that ends at the count, or at `FT_Open`.
* `move_futile`, `refused_until_reset`: all it says is made of such words, and nothing changes.
-/

namespace Dmx485

open Interaction Relation

/-- A run all of whose configurations satisfy `P` is a run under the condition `P`. -/
lemma Runs.under {ok : Sys → Action → Prop} {P : Sys → Prop} {s s' : Sys} (hrun : Runs ok s s')
    (hP : ∀ s₁, Runs ok s s₁ → P s₁) : Runs (fun s a => ok s a ∧ P s) s s' := by
  induction hrun with
  | refl => exact ReflTransGen.refl
  | tail hbefore hstep ih =>
      obtain ⟨a, ha, hstep⟩ := hstep
      exact ih.tail ⟨a, ⟨ha, hP _ hbefore⟩, hstep⟩

section confined

variable {J : Label → Int → Prop} {K : Op → Prop} {T : Int → Prop} {ok : Sys → Action → Prop}
  {s s' : Sys}

/-- The dialogue of a run that begins at the start of a block and in which places and contents of
the mailbox stay in `J`, which only knows contents in `T`. -/
theorem Runs.confined_dialogue (hJT : ∀ l action, J l action → T action)
    (hblock : ∀ (l : Label) (x : Obj), J l x.threadAction →
      J (l.next x) (l.firstOp.effect x).threadAction)
    (hpost : ∀ (l : Label) (o : Op) (x : Obj), K o → J l x.threadAction →
      J l (o.effect x).threadAction)
    (hmessage : ∀ s m, ok s (.message m) → (handle m).All K) (hK : ∀ o, K o → o.Host)
    (hrun : Runs ok s s') (hhost : s.host.All K) {l : Label} (hl : s.worker = .start l)
    (hJ : J l s.world.obj.threadAction) :
    ∃ d, s'.world.acts = s.world.acts ++ d ∧
      (∀ l', s'.worker = .start l' → Path (Move T) (l, s.world.link) d (l', s'.world.link)) ∧
      ∃ e c, Path (Move T) (l, s.world.link) (d ++ e) c := by
  have htail : s.worker.TailAll Label.Later := by
    rw [hl]
    trivial
  have hinside : Bounded s.worker := by
    rw [hl]
    trivial
  have hT : ∀ s₁, Runs ok s s₁ → T s₁.world.obj.threadAction := by
    intro s₁ hrun₁
    refine hJT _ _ (hrun₁.confined hblock hpost hmessage htail hinside hhost ?_).1
    rw [hl]
    exact hJ
  refine (hrun.under hT).dialogue (fun s a ha o _ => ?_) (hhost.mono hK) hl
  rintro rfl
  exact ha.2

end confined

/-! ## Without requests -/

/-- What the worker does with the connection `a` while there is nothing to serve: it sleeps, and
sends frames on the handle if there is one and the tick is on. -/
def Act.Unasked (a : Link) : Act → Prop
  | .slept n => n = 10000
  | .asked c _ => a.on = true ∧ a.ptr ≠ none ∧ c.Tick a.ptr

/-- Nothing is planned, and a tick is only entered when it is on. -/
def Unasked (a : Link) : Label × Link → Prop
  | (l, b) => b = a ∧ l.plan 0 = [] ∧ (l = .tick → a.on = true)

/-- At the loop head nothing is planned. -/
lemma unasked_head (a : Link) : Unasked a (.head, a) := ⟨rfl, rfl, fun h => absurd h (by decide)⟩

/-- **With an empty mailbox** every move keeps the connection. -/
theorem move_unasked {a : Link} {c c' : Label × Link} {d : List Act} (hc : Unasked a c)
    (hmove : Move (· = 0) c d c') : Unasked a c' ∧ ∀ x ∈ d, x.Unasked a := by
  have hnil : ∀ x ∈ ([] : List Act), x.Unasked a := fun x hx => absurd hx List.not_mem_nil
  have hslept : ∀ x ∈ [Act.slept 10000], x.Unasked a := by
    intro x hx
    obtain rfl := List.mem_singleton.mp hx
    rfl
  obtain ⟨l, b⟩ := c
  obtain ⟨rfl, hplan, htick⟩ := hc
  cases hmove with
  | head v hv =>
      obtain rfl := hv
      exact ⟨⟨rfl, by decide, fun h => absurd h (by decide)⟩, hnil⟩
  | test2 v hv =>
      obtain rfl := hv
      exact ⟨⟨rfl, by decide, fun h => absurd h (by decide)⟩, hnil⟩
  | test3 v hv =>
      obtain rfl := hv
      exact ⟨⟨rfl, by decide, fun h => absurd h (by decide)⟩, hnil⟩
  | testOn =>
      refine ⟨⟨rfl, ?_, fun h => ?_⟩, hnil⟩
      · split_ifs <;> decide
      · by_contra hon
        simp [hon] at h
  | tick h =>
      refine ⟨⟨rfl, by decide, fun h => absurd h (by decide)⟩, fun x hx => ?_⟩
      obtain ⟨c, r, rfl, hptr, hcall⟩ := h.forall_mem x hx
      exact ⟨htick rfl, hptr, hcall⟩
  | pause => exact ⟨⟨rfl, by decide, fun h => absurd h (by decide)⟩, hslept⟩
  | _ => exact absurd hplan (by decide)

/-- Where the worker can be while nothing is requested: nothing is planned. -/
def Quiet (l : Label) (action : Int) : Prop := action = 0 ∧ l.plan action = []

/-- A block keeps the quiet. -/
lemma quiet_block (l : Label) (x : Obj) (h : Quiet l x.threadAction) :
    Quiet (l.next x) (l.firstOp.effect x).threadAction := by
  obtain ⟨hzero, hplan⟩ := h
  refine ⟨?_, plan_next_nil hplan⟩
  cases l with
  | repost3 => cases hplan
  | clear1 => rfl
  | clear2 => rfl
  | clear3 => rfl
  | _ => exact hzero

/-- So does a calm operation of the host. -/
lemma quiet_post (l : Label) (o : Op) (x : Obj) (ho : o.Calm) (h : Quiet l x.threadAction) :
    Quiet l (o.effect x).threadAction := by
  rwa [effect_threadAction ho.ne_setThreadAction]

section quiet

variable {s s' : Sys} (hrun : Runs NoRequest s s') (hhead : s.worker = .start .head)
  (hempty : s.world.obj.threadAction = 0) (hcalm : s.host.All Op.Calm)

include hrun hhead hempty hcalm

/-- Nothing comes to be requested. -/
lemma Runs.quiet :
    Quiet s'.worker.label s'.world.obj.threadAction ∧ s'.host.All Op.Calm := by
  refine hrun.confined quiet_block quiet_post (fun _ _ hm => NoRequest.calm hm) ?_ ?_ hcalm ?_
  · rw [hhead]
    trivial
  · rw [hhead]
    trivial
  · rw [hhead]
    exact ⟨hempty, by rw [hempty]; rfl⟩

/-- The dialogue is one with an empty mailbox. -/
lemma Runs.quiet_dialogue :
    ∃ d, s'.world.acts = s.world.acts ++ d ∧
      (∀ l', s'.worker = .start l' →
        Path (Move (· = 0)) (.head, s.world.link) d (l', s'.world.link)) ∧
      ∃ e c, Path (Move (· = 0)) (.head, s.world.link) (d ++ e) c :=
  hrun.confined_dialogue (T := (· = 0)) (J := Quiet) (fun _ _ h => h.1) quiet_block quiet_post
    (fun _ _ hm => NoRequest.calm hm) (fun _ ho => ho.host) hcalm hhead
    ⟨hempty, by rw [hempty]; rfl⟩

/-- **Without requests the connection stays as it is**, whatever else the host sends and whatever
the driver answers: no device is opened or closed, and frames go out on the handle stored, if there
is one and the tick is on. -/
theorem steady_without_requests :
    (∃ d, s'.world.acts = s.world.acts ++ d ∧ ∀ x ∈ d, x.Unasked s.world.link) ∧
      ∀ l, s'.worker = .start l → s'.world.link = s.world.link := by
  obtain ⟨d, hd, hplace, e, c, hpath⟩ := hrun.quiet_dialogue hhead hempty hcalm
  refine ⟨⟨d, hd, fun x hx => ?_⟩, fun l hl => ?_⟩
  · exact (hpath.forall_mem (fun _ _ _ hc hm => move_unasked hc hm) (unasked_head _)).2 x
      (List.mem_append_left e hx)
  · exact ((hplace l hl).forall_mem (fun _ _ _ hc hm => move_unasked hc hm) (unasked_head _)).1.1

end quiet

/-- Two frames of a connection, with a message handled meanwhile. -/
theorem steady_without_requests_framing : ∃ s s' : Sys, s.world.obj.threadOn = true ∧
    Runs NoRequest s s' ∧ s.world.acts.length + 12 ≤ s'.world.acts.length ∧
    (∃ d, s'.world.acts = s.world.acts ++ d ∧ ∀ x ∈ d, x.Unasked s.world.link) := by
  obtain ⟨s, hrun, ⟨hhead, hempty, hidle, hon⟩, hplays⟩ := Runs.of_plays (fun _ _ => True)
    (fun s => (s.worker = .start .head ∧ s.world.obj.threadAction = 0 ∧ s.host = .ret () ∧
      s.world.obj.threadOn = true) ∧ s.plays NoRequest
      (fun s' => s.world.acts.length + 12 ≤ s'.world.acts.length)
      (request .version 1 ++ workerSteps 50) = true)
    Sys.initial (request .connect 4 ++ workerSteps 59) (by decide +kernel)
  obtain ⟨s', hrun', hlong⟩ := Runs.of_plays _ _ _ _ hplays
  exact ⟨s, s', hon, hrun', hlong,
    (steady_without_requests hrun' hhead hempty (by rw [hidle]; trivial)).1⟩

/-! ## After a failed attempt -/

/-- What the worker still says after a failed attempt: it sleeps, or makes another attempt. The
attempt ends with the count if there is no device, and otherwise with `FT_Open`, because the next
test looks at the status from before. -/
inductive Futile : List Act → Prop
  | slept : Futile [.slept 10000]
  | counted (count : Reply) (hnone : count.devices = 0) :
      Futile [.asked (.FT_ListDevices .numDevs FT_LIST_NUMBER_ONLY) count]
  | opened (count name description opened : Reply) (i j : UInt8) (hsome : count.devices ≠ 0) :
      Futile [.asked (.FT_ListDevices .numDevs FT_LIST_NUMBER_ONLY) count,
        .asked (.FT_ListDevices (.index i.toNat) FT_LIST_BY_INDEX) name,
        .asked (.FT_ListDevices .deviceNumberAddress
          (FT_LIST_BY_INDEX ||| FT_OPEN_BY_DESCRIPTION)) description,
        .asked (.FT_Open j.toNat) opened]

/-- The places outside the parts that serve a disconnect or refresh request. -/
def Label.Connecting (l : Label) : Prop :=
  l = head ∨ l = clear1 ∨ l = connect ∨ l = test2 ∨ l = test3 ∨ l = testOn ∨ l = tick ∨ l = pause

instance (l : Label) : Decidable l.Connecting :=
  inferInstanceAs (Decidable (_ ∨ _))

/-- A line setup that begins with a status other than `FT_OK` does nothing. -/
lemma Configuring.refused {t : FT_HANDLE} {a b : Link} {d : List Act} (h : Configuring t a d b)
    (hptr : a.ptr = none) (hbad : a.status ≠ FT_OK) : d = [] ∧ b = a := by
  obtain ⟨ptr, status, on⟩ := a
  obtain rfl : ptr = none := hptr
  cases h with
  | failed hstages hs =>
      cases hstages with
      | refused _ => exact ⟨rfl, rfl⟩
      | stage => exact absurd rfl hbad
  | done hstages escape info =>
      cases hstages with
      | refused hs => exact absurd rfl hs
      | stage => exact absurd rfl hbad

/-- **A status other than `FT_OK` and no handle** are kept by every move, as long as at most a
connect request is in the mailbox. -/
theorem move_futile {a : Link} (hptr : a.ptr = none) (hbad : a.status ≠ FT_OK)
    {l l' : Label} {b : Link} {d : List Act} (hl : l.Connecting)
    (hmove : Move (fun action => action = 0 ∨ action = 1) (l, a) d (l', b)) :
    (l'.Connecting ∧ b = a) ∧ (d = [] ∨ Futile d) := by
  cases hmove with
  | head v hv => exact ⟨⟨by split_ifs <;> decide, rfl⟩, Or.inl rfl⟩
  | clear1 => exact ⟨⟨by decide, rfl⟩, Or.inl rfl⟩
  | connect h =>
      cases h with
      | cleared count hcause =>
          refine ⟨⟨by decide, ?_⟩, Or.inr (.counted count ?_)⟩
          · obtain ⟨ptr, status, on⟩ := a
            exact congrArg (fun p => Link.mk p status on) hptr.symm
          · exact hcause.resolve_right (not_not_intro hptr)
      | opened count name description opened i j hcount hfree hconf =>
          obtain ⟨rfl, rfl⟩ := hconf.refused hptr hbad
          exact ⟨⟨by decide, rfl⟩, Or.inr (.opened count name description opened i j hcount)⟩
  | test2 v hv =>
      refine ⟨⟨?_, rfl⟩, Or.inl rfl⟩
      obtain rfl | rfl := hv <;> decide
  | test3 v hv =>
      refine ⟨⟨?_, rfl⟩, Or.inl rfl⟩
      obtain rfl | rfl := hv <;> decide
  | testOn => exact ⟨⟨by split_ifs <;> decide, rfl⟩, Or.inl rfl⟩
  | tick h =>
      rw [hptr] at h
      cases h
      exact ⟨⟨by decide, rfl⟩, Or.inl rfl⟩
  | pause => exact ⟨⟨by decide, rfl⟩, Or.inr .slept⟩
  | _ => exact absurd hl (by decide)

/-- The operations of messages that post at most a connect request. -/
def Op.Starts (o : Op) : Prop := o.Calm ∨ o = .setThreadAction 1

/-- They are operations of the host. -/
lemma Op.Starts.host {o : Op} (ho : o.Starts) : o.Host := by
  obtain ho | rfl := ho
  · exact ho.host
  · exact Or.inl rfl

/-- Where the worker can be while no reset is requested: at most a connect request is posted, and
it does not get to the parts that serve the others. -/
def Refused (l : Label) (action : Int) : Prop := (action = 0 ∨ action = 1) ∧ l.Connecting

/-- A block stays outside the parts that serve the other requests. -/
lemma refused_block (l : Label) (x : Obj) (h : Refused l x.threadAction) :
    Refused (l.next x) (l.firstOp.effect x).threadAction := by
  obtain ⟨haction, hl⟩ := h
  cases l with
  | head =>
      refine ⟨haction, ?_⟩
      simp only [Label.next]
      split_ifs <;> decide
  | clear1 => exact ⟨Or.inl rfl, by simp only [Label.next]; decide⟩
  | test2 =>
      refine ⟨haction, ?_⟩
      obtain h | h := haction <;> simp only [Label.next, h] <;> decide
  | test3 =>
      refine ⟨haction, ?_⟩
      obtain h | h := haction <;> simp only [Label.next, h] <;> decide
  | testOn =>
      refine ⟨haction, ?_⟩
      simp only [Label.next]
      split_ifs <;> decide
  | connect | tick | pause => exact ⟨haction, by simp only [Label.next]; decide⟩
  | _ => exact absurd hl (by decide)

/-- At most a connect request is posted. -/
lemma refused_post (l : Label) (o : Op) (x : Obj) (ho : o.Starts) (h : Refused l x.threadAction) :
    Refused l (o.effect x).threadAction := by
  obtain ho | rfl := ho
  · rwa [effect_threadAction ho.ne_setThreadAction]
  · exact ⟨Or.inr rfl, h.2⟩

/-- Every other message posts at most a connect request. -/
lemma handle_starts {m : Message} (hm : m ≠ .disconnect ∧ m ≠ .refresh) :
    (handle m).All Op.Starts := by
  by_cases hrequest : m.IsRequest
  · obtain rfl | rfl | rfl := hrequest
    · refine .step (Or.inl (Or.inl rfl)) fun _ => .step (Or.inl trivial) fun _ =>
        .step (Or.inl trivial) fun p => ?_
      split_ifs
      · exact .single (Or.inr rfl)
      · trivial
    · exact absurd rfl hm.1
    · exact absurd rfl hm.2
  · exact (handle_calm m hrequest).mono fun _ ho => Or.inl ho

/-- No disconnect and no refresh is requested. -/
def NoReset (_ : Sys) (a : Action) : Prop := ∀ m ∈ a.message?, m ≠ .disconnect ∧ m ≠ .refresh

instance (s : Sys) (a : Action) : Decidable (NoReset s a) :=
  inferInstanceAs (Decidable (∀ m ∈ a.message?, m ≠ .disconnect ∧ m ≠ .refresh))

/-- **After a failed attempt no attempt succeeds** until a disconnect or refresh has been requested.
Whatever the driver answers from then on, what the worker says is made of sleeps of 10 ms and of
attempts that count the devices and, unless there are none, look a name up twice and call
`FT_Open`, and go no further: no line is set up, no frame is sent and nothing is closed. Neither
handle nor status nor tick changes. -/
theorem refused_until_reset {s s' : Sys} (hrun : Runs NoReset s s')
    (hhead : s.worker = .start .head) (hidle : s.host = .ret ())
    (hempty : s.world.obj.threadAction = 0) (hptr : s.world.obj.dmxPointer = none)
    (hbad : s.world.obj.ftdiPortStatus ≠ FT_OK) :
    (∃ d e, ∃ ws : List (List Act), s'.world.acts = s.world.acts ++ d ∧ d ++ e = ws.flatten ∧
        ∀ w ∈ ws, Futile w) ∧
      ∀ l, s'.worker = .start l → s'.world.link = s.world.link ∧
        ∃ ws : List (List Act), s'.world.acts = s.world.acts ++ ws.flatten ∧
          ∀ w ∈ ws, Futile w := by
  have hhost : s.host.All Op.Starts := by
    rw [hidle]
    trivial
  obtain ⟨d, hd, hplace, e, c, hpath⟩ := hrun.confined_dialogue
    (T := fun action => action = 0 ∨ action = 1)
    (J := Refused) (fun _ _ h => h.1) refused_block refused_post
    (fun _ m hm => handle_starts (hm m rfl)) (fun _ => Op.Starts.host) hhost hhead
    ⟨Or.inl hempty, Or.inl rfl⟩
  have hfutile : ∀ {d c}, Path (Move fun action => action = 0 ∨ action = 1)
      (.head, s.world.link) d c → (c.1.Connecting ∧ c.2 = s.world.link) ∧
        ∃ ws : List (List Act), d = ws.flatten ∧ ∀ w ∈ ws, Futile w := by
    intro d c hpath
    refine hpath.words (P := fun c => c.1.Connecting ∧ c.2 = s.world.link) ?_
      ⟨Or.inl rfl, rfl⟩
    rintro ⟨l, b⟩ d ⟨l', b'⟩ ⟨hl, rfl⟩ hmove
    exact move_futile hptr hbad hl hmove
  constructor
  · obtain ⟨-, ws, hws, hall⟩ := hfutile hpath
    exact ⟨d, e, ws, hd, hws, hall⟩
  · intro l hl
    obtain ⟨⟨-, hlink⟩, ws, hws, hall⟩ := hfutile (hplace l hl)
    exact ⟨hlink, ws, hws ▸ hd, hall⟩

/-- A line setup that failed at its first call, and another connect request, with every call
answered well. -/
theorem refused_until_reset_once : ∃ s s' : Sys, s.world.obj.ftdiPortStatus = 4 ∧
    Runs NoReset s s' ∧ s.world.acts.length + 5 ≤ s'.world.acts.length ∧
    s'.world.link = s.world.link ∧
    ∃ ws : List (List Act), s'.world.acts = s.world.acts ++ ws.flatten ∧ ∀ w ∈ ws, Futile w := by
  obtain ⟨s, hrun, ⟨hhead, hidle, hempty, hptr, hbad⟩, hplays⟩ := Runs.of_plays (fun _ _ => True)
    (fun s => (s.worker = .start .head ∧ s.host = .ret () ∧ s.world.obj.threadAction = 0 ∧
      s.world.obj.dmxPointer = none ∧ s.world.obj.ftdiPortStatus = 4) ∧ s.plays NoReset
      (fun s' => s.world.acts.length + 5 ≤ s'.world.acts.length ∧ s'.worker = .start .head)
      (request .connect 4 ++ workerSteps 23) = true)
    Sys.initial (request .connect 4 ++ workerSteps 16 ++
      [.worker { Reply.fine with status := 4 }] ++ workerSteps 8) (by decide +kernel)
  obtain ⟨s', hrun', hlong, hhead'⟩ := Runs.of_plays _ _ _ _ hplays
  exact ⟨s, s', hbad, hrun', hlong,
    (refused_until_reset hrun' hhead hidle hempty hptr (by rw [hbad]; decide)).2 _ hhead'⟩

end Dmx485
