import Dmx485.Turns

/-!
# Iterations with a driver that answers

What one iteration of the worker does, from any object, when nobody interferes and the driver
answers well; and what follows for requests. The object may be one that the program gets into by
its own mistakes: a handle with the tick off, a tick without a handle, a failure on record, or any
number in the mailbox.

* `Polls`, `pollMailbox_polls`: the request in the mailbox is executed, once.
* `World.line`, `OneFrame`: the calls that put something on the line, and those of one frame;
  `timer_sends`: a tick sends one frame on the handle stored, and nothing without one.
* `iteration_iterates`: both together, relating the object before and after an iteration.
* `requests_recover`: a refresh and a disconnect reach their goal from every object.
  `stranded_recovers` is a refresh of what a failed close leaves: a handle, a failure on record and
  a request that has not been served.
-/

namespace Dmx485

open Interaction

/-! ## Frames -/

/-- The call on the line an event is, if any. -/
def Event.line? (e : Event) : Option FtCall :=
  match e.op with
  | .call c => if c.ofFrame then some c else none
  | _ => none

/-- The calls on the line so far, newest first. -/
def World.line (w : World) : List FtCall := w.log.filterMap Event.line?

/-- A write of the data on handle `h`. -/
def FtCall.DataOf (h : Handle) (c : FtCall) : Prop :=
  ∃ offset n, c = .FT_Write (some h) (.dmx_data offset) n

/-- The calls of one frame on a handle, newest first: the break is ended, the start byte written,
then the data in one or more writes, and the break begun. -/
def OneFrame (h : Handle) (calls : List FtCall) : Prop :=
  ∃ rest : List FtCall, (∀ c ∈ rest, c.DataOf h) ∧
    calls = .FT_SetBreakOn (some h) :: (rest ++ [.FT_Write (some h) (.dmx_data 0) 512,
      .FT_Write (some h) (.start 0) 1, .FT_SetBreakOff (some h)])

/-- What a tick puts on the line while `p` is stored. -/
def Sent : FT_HANDLE → List FtCall → Prop
  | some h, calls => OneFrame h calls
  | none, calls => calls = []

/-- From one world to another the object and the session stay, and the line sees `calls`. -/
structure Sends (w : World) (calls : List FtCall) (w' : World) : Prop where
  obj : w'.obj = w.obj
  session : w'.session = w.session
  line : w'.line = calls ++ w.line

/-- Nothing is sent by doing nothing. -/
lemma Sends.refl (w : World) : Sends w [] w := ⟨rfl, rfl, rfl⟩

/-- Calls sent one after the other; the line is listed newest first. -/
lemma Sends.trans {w w' w'' : World} {calls calls' : List FtCall} (h : Sends w calls w')
    (h' : Sends w' calls' w'') : Sends w (calls' ++ calls) w'' where
  obj := h'.obj.trans h.obj
  session := h'.session.trans h.session
  line := by rw [h'.line, h.line, List.append_assoc]

section emits
variable {α β : Type} {h : Handle} {C : List FtCall → Prop}

/-- With `h` stored, what the program puts on the line is in `C`, and it changes nothing else. -/
def Emits (h : Handle) (C : List FtCall → Prop) (p : Code α) : Prop :=
  ∀ (f : Script Dm Reply) (w : World), w.obj.dmxPointer = some h →
    ∃ calls, C calls ∧ Sends w calls ((machine .worker).after p f w)

/-- A program that has returned emits nothing. -/
lemma Emits.ret (hC : C []) (a : α) : Emits h C (.ret a : Code α) :=
  fun _ w _ => ⟨[], hC, Sends.refl w⟩

/-- A load of the handle. -/
lemma Emits.load {k : FT_HANDLE → Code α} (hk : Emits h C (k (some h))) :
    Emits h C (getDmxPointer >>= k) := by
  intro f w hptr
  obtain ⟨calls, hC, hsends⟩ := hk f.rest ((machine .worker).exec .getDmxPointer (f 0 _) w).2 hptr
  refine ⟨calls, hC, ?_⟩
  show Sends w calls ((machine .worker).after (k w.obj.dmxPointer) f.rest _)
  rw [hptr]
  exact ⟨hsends.obj, hsends.session, hsends.line⟩

/-- A call on the line. -/
lemma Emits.call {c : FtCall} (hc : c.ofFrame = true) {k : Reply → Code α}
    (hk : ∀ r, Emits h (fun calls => C (calls ++ [c])) (k r)) : Emits h C (call c >>= k) := by
  intro f w hptr
  obtain ⟨calls, hC, hsends⟩ :=
    hk (f 0 (.call c)) f.rest ((machine .worker).exec (.call c) (f 0 _) w).2 hptr
  have hcall : Sends w [c] ((machine .worker).exec (.call c) (f 0 (.call c)) w).2 := by
    cases c with
    | FT_SetBreakOff h => exact ⟨rfl, rfl, rfl⟩
    | FT_SetBreakOn h => exact ⟨rfl, rfl, rfl⟩
    | FT_Write h b n => exact ⟨rfl, rfl, rfl⟩
    | _ => cases hc
  exact ⟨calls ++ [c], hC, hcall.trans hsends⟩

/-- Any other step that stores nothing. -/
lemma Emits.skip {o : Op} (ho : ∀ r w, Sends w [] ((machine .worker).exec o r w).2)
    {k : o.Ans → Code α} (hk : ∀ a, Emits h C (k a)) : Emits h C (.op o k) := by
  intro f w hptr
  have hfirst := ho (f 0 o) w
  obtain ⟨calls, hC, hsends⟩ := hk ((machine .worker).exec o (f 0 o) w).1 f.rest
    ((machine .worker).exec o (f 0 o) w).2 ((congrArg Obj.dmxPointer hfirst.obj).trans hptr)
  have hall := hfirst.trans hsends
  rw [List.append_nil] at hall
  exact ⟨calls, hC, hall⟩

/-- One program after the other. -/
lemma Emits.bind {C' : List FtCall → Prop} {p : Code α} {k : α → Code β} (hp : Emits h C p)
    (hk : ∀ a, Emits h (fun calls => ∀ before, C before → C' (calls ++ before)) (k a)) :
    Emits h C' (p >>= k) := by
  intro f w hptr
  obtain ⟨before, hC, hsends⟩ := hp f w hptr
  obtain ⟨calls, hC', hsends'⟩ := hk ((machine .worker).run p f w).1
    ((machine .worker).run p f w).2.1 ((machine .worker).after p f w)
    ((congrArg Obj.dmxPointer hsends.obj).trans hptr)
  refine ⟨calls ++ before, hC' before hC, ?_⟩
  rw [Machine.after_bind]
  exact hsends.trans hsends'

/-- The data loop writes data only. -/
lemma sendData_emits (fuse : ℕ) (s2 written : DWORD) (s : FT_STATUS) (hC : ∀ calls,
    (∀ c ∈ calls, c.DataOf h) → C calls) : Emits h C (sendData fuse s2 written s) := by
  induction fuse generalizing s2 written s C with
  | zero => exact .ret (hC [] (by simp)) _
  | succ fuse ih =>
      unfold sendData
      split_ifs
      · exact .ret (hC [] (by simp)) _
      · refine .load (.call rfl fun r => ih _ _ _ fun calls hcalls => hC _ ?_)
        intro c hc
        rcases List.mem_append.mp hc with hc | hc
        · exact hcalls c hc
        · exact ⟨_, _, List.mem_singleton.mp hc⟩

/-- **With a handle stored, a tick sends one frame on it.** -/
lemma sendFrame_emits : Emits h (OneFrame h) sendFrame := by
  unfold sendFrame
  refine .skip (fun _ _ => ⟨rfl, rfl, rfl⟩) fun _ => .load ?_
  simp only [Option.isSome_some, if_true]
  refine .load (.call rfl fun _ => .load (.call rfl fun r => ?_))
  have hfirst : ∀ written s, Emits h (fun calls => ∃ rest, (∀ c ∈ rest, c.DataOf h) ∧
      calls = rest ++ [.FT_Write (some h) (.dmx_data 0) 512]) (sendData 10 512 written s) := by
    intro written s
    exact .load (.call rfl fun r => sendData_emits _ _ _ _ fun calls hcalls => ⟨calls, hcalls, rfl⟩)
  refine .bind (hfirst _ _) fun _ => .load (.call rfl fun _ => .load ?_)
  refine .skip (fun _ _ => ⟨rfl, rfl, rfl⟩) fun _ => .ret ?_ _
  rintro before ⟨rest, hrest, rfl⟩
  exact ⟨rest, hrest, by simp⟩

end emits

/-- **A tick**, with a handle stored or not. -/
lemma timer_sends (f : Script Dm Reply) (w : World) :
    ∃ calls, Sent w.obj.dmxPointer calls ∧
      Sends w calls ((machine .worker).after timer_action f w) := by
  cases hptr : w.obj.dmxPointer with
  | none =>
      refine ⟨[], rfl, ?_⟩
      unfold Machine.after timer_action sendFrame
      rw [run_enter, Machine.run_bind, run_indeterminate, run_getDmxPointer, hptr]
      exact ⟨rfl, rfl, rfl⟩
  | some h =>
      have hframe : Emits h (OneFrame h) (sendFrame >>= fun _ => Prog.ret ()) :=
        .bind sendFrame_emits fun _ => .ret (fun before hbefore => hbefore) _
      have htick : Emits h (OneFrame h) timer_action :=
        .skip (fun _ _ => ⟨rfl, rfl, rfl⟩) fun _ => hframe
      exact htick f w hptr

/-! ## Serving the mailbox -/

section serving
variable {A : World → Op → Reply → Prop} {f : Script Dm Reply}

/-- What is left of such a script is such a script. -/
lemma run_script_answers {α : Type} (hf : ∀ w n o, A w o (f n o)) (p : Code α) (w w' : World)
    (n : ℕ) (o : Op) : A w' o (((machine .worker).run p f w).2.1 n o) := by
  have hrest := Machine.run_script_allowed (A := fun o r => ∀ w, A w o r) (M := machine .worker)
    (p := p) (s := w) (f := f) fun n o w => hf w n o
  exact hrest n o w'

/-- The mailbox and the line. -/
def World.desk (w : World) : Int × List FtCall := (w.obj.threadAction, w.line)

/-- Setting the line up touches neither. -/
lemma desk_after_setup {p : Code Unit} (hp : p.All Op.Setup) (f : Script Dm Reply) (w : World) :
    ((machine .worker).after p f w).desk = w.desk := by
  refine Machine.after_of_all (fun o r w ho => ?_) hp f w
  cases o with
  | call c =>
      cases c <;> first | rfl | cases ho
  | _ => first | rfl | exact ho.elim

/-- The two functions leave mailbox and line alone. -/
lemma desk_connect (f : Script Dm Reply) (w : World) :
    ((machine .worker).after connect f w).desk = w.desk := by
  obtain ⟨q, hq, hsetup⟩ := connect_setup
  rw [hq]
  exact desk_after_setup hsetup f.rest _

/-- Nor does `disconnect`. -/
lemma desk_disconnect (f : Script Dm Reply) (w : World) :
    ((machine .worker).after disconnect f w).desk = w.desk := by
  obtain ⟨q, hq, hsetup⟩ := disconnect_setup
  rw [hq]
  exact desk_after_setup hsetup f.rest _

/-- `connect` undisturbed. -/
lemma connect_alone (hf : ∀ w n o, A w o (f n o)) (w : World) :
    Connects A w.session ((machine .worker).after connect f w).session := by
  have htriple := connect_session (E := fun _ => False) (A := A) (G := fun _ _ _ => True)
    (fun _ ho => ho.elim) (fun _ _ _ => trivial) w.session
  exact (htriple.after rfl hf).2

/-- `disconnect` undisturbed. -/
lemma disconnect_alone (hf : ∀ w n o, A w o (f n o)) (w : World) :
    Disconnects A w.session ((machine .worker).after disconnect f w).session := by
  have htriple := disconnect_session (E := fun _ => False) (A := A) (G := fun _ _ _ => True)
    (fun _ ho => ho.elim) (fun _ _ _ => trivial) w.session
  exact htriple.after rfl hf

/-- One test of the mailbox: at content `t` the session is changed as `R` says and the content
becomes `t'`, otherwise both stay. Nothing is put on the line. -/
structure Serves (t : Int) (R : Session → Session → Prop) (t' : Int) (w v : World) : Prop where
  line : v.line = w.line
  due : w.obj.threadAction = t → R w.session v.session ∧ v.obj.threadAction = t'
  other : w.obj.threadAction ≠ t → v.session = w.session ∧ v.obj.threadAction = w.obj.threadAction

/-- A test of the mailbox, from what its branch does. -/
lemma serves_of_branch {t t' : Int} {R : Session → Session → Prop} {body : Code Unit} {w : World}
    (hbody : ∀ w', w'.session = w.session → w'.line = w.line →
      R w.session ((machine .worker).after body f.rest w').session ∧
        ((machine .worker).after body f.rest w').desk = (t', w.line)) :
    Serves t R t' w
      ((machine .worker).after (do if (← getThreadAction) = t then body) f w) := by
  by_cases ht : w.obj.threadAction = t
  · obtain ⟨hR, hdesk⟩ := hbody ((machine .worker).exec .getThreadAction (f 0 .getThreadAction) w).2
      rfl rfl
    have hafter : (machine .worker).after (do if (← getThreadAction) = t then body) f w =
        (machine .worker).after body f.rest
          ((machine .worker).exec .getThreadAction (f 0 .getThreadAction) w).2 :=
      congrArg (fun p => (machine .worker).after p f.rest _) (if_pos ht)
    rw [hafter]
    obtain ⟨haction, hline⟩ := Prod.mk.inj hdesk
    exact ⟨hline, fun _ => ⟨hR, haction⟩, fun hne => absurd ht hne⟩
  · have hafter : (machine .worker).after (do if (← getThreadAction) = t then body) f w =
        ((machine .worker).exec .getThreadAction (f 0 .getThreadAction) w).2 :=
      congrArg (fun p => (machine .worker).after p f.rest _) (if_neg ht)
    rw [hafter]
    exact ⟨rfl, fun heq => absurd heq ht, fun _ => ⟨rfl, rfl⟩⟩

/-- A test whose branch clears the mailbox and calls a function. -/
lemma serves_of_call {t : Int} {R : Session → Session → Prop} {p : Code Unit}
    (hf : ∀ w n o, A w o (f n o)) (w : World)
    (hR : ∀ (g : Script Dm Reply) (w : World), (∀ w n o, A w o (g n o)) →
      R w.session ((machine .worker).after p g w).session)
    (hdesk : ∀ (g : Script Dm Reply) (w : World), ((machine .worker).after p g w).desk = w.desk) :
    Serves t R 0 w ((machine .worker).after
      (do if (← getThreadAction) = t then do setThreadAction 0; p) f w) := by
  apply serves_of_branch
  intro w' hsession hline
  rw [← hsession, ← hline]
  constructor
  · exact hR f.rest.rest
      ((machine .worker).exec (.setThreadAction 0) (f 1 (.setThreadAction 0)) w').2
      fun w n o => hf w (n + 2) o
  · exact hdesk f.rest.rest
      ((machine .worker).exec (.setThreadAction 0) (f 1 (.setThreadAction 0)) w').2

/-- The test for 1 runs `connect`, with the request cleared. -/
lemma serveConnect_serves (hf : ∀ w n o, A w o (f n o)) (w : World) :
    Serves 1 (Connects A) 0 w ((machine .worker).after serveConnect f w) :=
  serves_of_call hf w (fun _ w hg => connect_alone hg w) desk_connect

/-- The test for 2 runs `disconnect`, with the request cleared. -/
lemma serveDisconnect_serves (hf : ∀ w n o, A w o (f n o)) (w : World) :
    Serves 2 (Disconnects A) 0 w ((machine .worker).after serveDisconnect f w) :=
  serves_of_call hf w (fun _ w hg => disconnect_alone hg w) desk_disconnect

/-- The end of the restart. -/
def repost : Code Unit := do
  setThreadAction 0
  usleep 10000
  setThreadAction 1

/-- Reposting leaves the session alone. -/
lemma session_repost (f : Script Dm Reply) (w : World) :
    ((machine .worker).after repost f w).session = w.session := rfl

/-- It puts a connect request into the mailbox, and nothing on the line. -/
lemma desk_repost (f : Script Dm Reply) (w : World) :
    ((machine .worker).after repost f w).desk = (1, w.line) := rfl

/-- The restart: the tick is turned off, the device disconnected, and a connect posted. -/
lemma serveRefresh_serves (hf : ∀ w n o, A w o (f n o)) (w : World) :
    Serves 3 (fun a => Disconnects A { a with on := false }) 1 w
      ((machine .worker).after serveRefresh f w) := by
  refine serves_of_branch fun w' hsession hline => ?_
  have hdisconnect := disconnect_alone (fun w n o => hf w (n + 2) o)
    ((machine .worker).exec (.setThreadOn false) (f 1 (.setThreadOn false)) w').2
  have hdesk := desk_disconnect f.rest.rest
    ((machine .worker).exec (.setThreadOn false) (f 1 (.setThreadOn false)) w').2
  have hafter : (machine .worker).after
      (do setThreadOn false; disconnect; setThreadAction 0; usleep 10000; setThreadAction 1)
      f.rest w' = _ :=
    Machine.after_bind (machine .worker) disconnect (fun _ => repost) f.rest.rest
      ((machine .worker).exec (.setThreadOn false) (f 1 (.setThreadOn false)) w').2
  rw [hafter, session_repost, desk_repost, ← hsession, ← hline]
  exact ⟨hdisconnect, congrArg (Prod.mk 1) (Prod.mk.inj hdesk).2⟩

/-- What serving the mailbox does to the session and the mailbox. -/
inductive Polls (A : World → Op → Reply → Prop) (a : Session) : Int → Session → Int → Prop
  | idle {t : Int} (h₁ : t ≠ 1) (h₂ : t ≠ 2) (h₃ : t ≠ 3) : Polls A a t a t
  | connect {b : Session} (h : Connects A a b) : Polls A a 1 b 0
  | disconnect {b : Session} (h : Disconnects A a b) : Polls A a 2 b 0
  | refresh {b : Session} (h : Disconnects A { a with on := false } b) : Polls A a 3 b 1

/-- The three tests together. -/
lemma Polls.of_serves {w w₁ w₂ v : World} (h₁ : Serves 1 (Connects A) 0 w w₁)
    (h₂ : Serves 2 (Disconnects A) 0 w₁ w₂)
    (h₃ : Serves 3 (fun a => Disconnects A { a with on := false }) 1 w₂ v) :
    Polls A w.session w.obj.threadAction v.session v.obj.threadAction := by
  by_cases ht₁ : w.obj.threadAction = 1
  · -- the slot is empty after the connect, so the other two tests fail
    obtain ⟨hconnect, haction₁⟩ := h₁.due ht₁
    obtain ⟨hsession₂, haction₂⟩ := h₂.other (by omega)
    obtain ⟨hsession₃, haction₃⟩ := h₃.other (by omega)
    rw [ht₁, hsession₃, hsession₂, haction₃, haction₂, haction₁]
    exact .connect hconnect
  obtain ⟨hsession₁, haction₁⟩ := h₁.other ht₁
  by_cases ht₂ : w.obj.threadAction = 2
  · obtain ⟨hdisconnect, haction₂⟩ := h₂.due (by omega)
    obtain ⟨hsession₃, haction₃⟩ := h₃.other (by omega)
    rw [ht₂, hsession₃, haction₃, haction₂]
    exact .disconnect (hsession₁ ▸ hdisconnect)
  obtain ⟨hsession₂, haction₂⟩ := h₂.other (by omega)
  by_cases ht₃ : w.obj.threadAction = 3
  · obtain ⟨hrefresh, haction₃⟩ := h₃.due (by omega)
    rw [hsession₂, hsession₁] at hrefresh
    rw [ht₃, haction₃]
    exact .refresh hrefresh
  obtain ⟨hsession₃, haction₃⟩ := h₃.other (by omega)
  rw [hsession₃, hsession₂, hsession₁, haction₃, haction₂, haction₁]
  exact .idle ht₁ ht₂ ht₃

/-- **The request in the mailbox is executed**, and no other; a refresh leaves a connect behind. -/
lemma pollMailbox_polls (hf : ∀ w n o, A w o (f n o)) (w : World) :
    ∃ v, (machine .worker).after pollMailbox f w = v ∧ v.line = w.line ∧
      Polls A w.session w.obj.threadAction v.session v.obj.threadAction := by
  unfold pollMailbox
  rw [Machine.after_bind, Machine.after_bind]
  have hf₁ := run_script_answers hf serveConnect w
  have h₁ := serveConnect_serves hf w
  have h₂ := serveDisconnect_serves hf₁ ((machine .worker).after serveConnect f w)
  have h₃ := serveRefresh_serves (run_script_answers hf₁ serveDisconnect
    ((machine .worker).after serveConnect f w)) ((machine .worker).after serveDisconnect
      ((machine .worker).run serveConnect f w).2.1 ((machine .worker).after serveConnect f w))
  exact ⟨_, rfl, h₃.line.trans (h₂.line.trans h₁.line), .of_serves h₁ h₂ h₃⟩

/-- What an iteration does: the mailbox is served and, while the tick is on, a frame sent; what
messages write stays. -/
structure Iterates (A : World → Op → Reply → Prop) (w v : World) : Prop where
  written : v.written = w.written
  polls : Polls A w.session w.obj.threadAction v.session v.obj.threadAction
  line : ∃ calls, Sent (if v.obj.threadOn then v.obj.dmxPointer else none) calls ∧
    v.line = calls ++ w.line

/-- With the tick off nothing is sent. -/
lemma Iterates.line_off {w v : World} (h : Iterates A w v) (hoff : v.obj.threadOn = false) :
    v.line = w.line := by
  obtain ⟨calls, hsent, hline⟩ := h.line
  rw [hoff] at hsent
  obtain rfl : calls = [] := hsent
  exact hline

/-- With the tick on and a handle stored a frame is sent on it. -/
lemma Iterates.line_on {w v : World} (h : Iterates A w v) (hon : v.obj.threadOn = true)
    {handle : Handle} (hptr : v.obj.dmxPointer = some handle) :
    ∃ calls, OneFrame handle calls ∧ v.line = calls ++ w.line := by
  obtain ⟨calls, hsent, hline⟩ := h.line
  rw [hon, hptr] at hsent
  exact ⟨calls, hsent, hline⟩

/-- The part of an iteration after the mailbox has been served. -/
lemma rest_sends (f : Script Dm Reply) (v : World) :
    ∃ calls, Sent (if v.obj.threadOn then v.obj.dmxPointer else none) calls ∧
      Sends v calls ((machine .worker).after (do
        if ← getThreadOn then timer_action
        usleep 10000) f v) := by
  unfold Machine.after
  rw [run_getThreadOn]
  cases hon : v.obj.threadOn with
  | false => exact ⟨[], rfl, rfl, rfl, rfl⟩
  | true =>
      simp only [if_true]
      obtain ⟨calls, hsent, hsends⟩ := timer_sends f.rest
        ⟨v.obj, workerEvent .getThreadOn (f 0 .getThreadOn) v.obj :: v.log⟩
      have hpause : ∀ g u, Sends u [] ((machine .worker).after (usleep 10000) g u) :=
        fun _ _ => ⟨rfl, rfl, rfl⟩
      have htick : Sends v calls ((machine .worker).after timer_action f.rest
          ⟨v.obj, workerEvent .getThreadOn (f 0 .getThreadOn) v.obj :: v.log⟩) :=
        ⟨hsends.obj, hsends.session, hsends.line⟩
      refine ⟨calls, hsent, ?_⟩
      show Sends v calls ((machine .worker).after (timer_action >>= fun _ => usleep 10000) _ _)
      rw [Machine.after_bind]
      exact htick.trans (hpause _ _)

/-- **One iteration of the worker.** -/
theorem iteration_iterates (hf : ∀ w n o, A w o (f n o)) (w : World) :
    Iterates A w ((machine .worker).after threadBody f w) := by
  obtain ⟨v, hv, hline, hpolls⟩ := pollMailbox_polls hf w
  have htail : ∃ calls, Sent (if v.obj.threadOn then v.obj.dmxPointer else none) calls ∧
      Sends v calls ((machine .worker).after threadBody f w) := by
    unfold threadBody
    rw [Machine.after_bind, hv]
    exact rest_sends _ v
  obtain ⟨calls, hsent, hsends⟩ := htail
  refine ⟨written_after threadBody_fixed .worker f w, ?_, calls, ?_, ?_⟩
  · rw [hsends.session, hsends.obj]
    exact hpolls
  · rw [hsends.obj]
    exact hsent
  · rw [hsends.line, hline]

end serving

/-! ## Recovery -/

/-- The scripts of a driver that answers `FT_OK` to every call, reports a device and opens it. -/
def Answers (f : Script Dm Reply) : Prop := ∀ w n o, DriverOpens w o (f n o)

/-- A reply that suits every call counts a device. -/
lemma Reply.fine_devices : Reply.fine.devices ≠ 0 := by decide

/-- Such replies are those of a good driver. -/
lemma Answers.fine : Answers fun _ _ => .fine :=
  fun _ _ _ => ⟨⟨rfl, fun _ => Reply.fine_devices⟩, fun _ => Option.some_ne_none 7⟩

section good
variable {a b : Session} {t : Int}

/-- A driver that opens handles is one that never fails. -/
lemma driverOk_of_opens (w : World) (o : Op) (r : Reply) (hr : DriverOpens w o r) :
    DriverOk w o r := hr.1

/-- A refresh request is served by a disconnection, and reposted as a connect request. -/
lemma polls_refresh (h : Polls DriverOpens a 3 b t) :
    b = ⟨none, FT_OK, false, closing a.ptr ++ a.history⟩ ∧ t = 1 := by
  cases h with
  | idle h₁ h₂ h₃ => exact absurd rfl h₃
  | refresh hdisconnect =>
      have hb := disconnects_eq driverOk_of_opens hdisconnect
      exact ⟨hb, rfl⟩

/-- A disconnect request is served by a disconnection. -/
lemma polls_disconnect (h : Polls DriverOpens a 2 b t) :
    b = ⟨none, FT_OK, false, closing a.ptr ++ a.history⟩ ∧ t = 0 := by
  cases h with
  | idle h₁ h₂ h₃ => exact absurd rfl h₂
  | disconnect h => exact ⟨disconnects_eq driverOk_of_opens h, rfl⟩

/-- Without a handle, a connect request is served by an opening. -/
lemma polls_connect (hptr : a.ptr = none) (hstatus : a.status = FT_OK)
    (h : Polls DriverOpens a 1 b t) :
    ∃ h, b = ⟨some h, FT_OK, true, .opened FT_OK (some h) :: a.history⟩ ∧ t = 0 := by
  cases h with
  | idle h₁ h₂ h₃ => exact absurd rfl h₁
  | connect h =>
      obtain ⟨hheld, -⟩ | ⟨-, w, i, r, hopen, hb⟩ := connects_cases driverOk_of_opens hstatus h
      · exact absurd hptr hheld
      · obtain ⟨handle, hhandle⟩ := Option.ne_none_iff_exists'.mp (hopen.2 rfl)
        rw [hhandle] at hb
        exact ⟨handle, hb, rfl⟩

end good

/-- What posting a request does to the world. -/
structure Posts (action : Int) (w v : World) : Prop where
  session : v.session = w.session
  action : v.obj.threadAction = action
  line : v.line = w.line
  written : v.written = w.written

/-- The `refresh` message posts 3. -/
lemma refresh_posts (f : Script Dm Reply) (w : World) :
    Posts 3 w ((Turn.message .refresh).run f w) := ⟨rfl, rfl, rfl, rfl⟩

/-- The `disconnect` message posts 2. -/
lemma disconnect_posts (f : Script Dm Reply) (w : World) :
    Posts 2 w ((Turn.message .disconnect).run f w) := ⟨rfl, rfl, rfl, rfl⟩

/-- **Refresh and disconnect recover from any past.** From any world, with a driver that answers,
a refresh and two iterations lead to an empty mailbox, the tick on, the handle just opened, one
frame on it and nothing else on the line; a handle held before has been closed once, before the
opening. A disconnect and one iteration lead to an empty mailbox, the tick off and no handle; a
handle held before has been closed once. Slots and device number stay. -/
theorem requests_recover (w : World) (f : Script Dm Reply) {f₁ f₂ : Script Dm Reply}
    (hf₁ : Answers f₁) (hf₂ : Answers f₂) :
    (∃ v h calls,
      History.play [(.message .refresh, f), (.iteration, f₁), (.iteration, f₂)] w = v ∧
      v.obj.threadAction = 0 ∧ v.obj.threadOn = true ∧ v.obj.dmxPointer = some h ∧
      v.session.history =
        .opened FT_OK (some h) :: (closing w.obj.dmxPointer ++ w.session.history) ∧
      OneFrame h calls ∧ v.line = calls ++ w.line ∧ v.written = w.written) ∧
    ∃ v, History.play [(.message .disconnect, f), (.iteration, f₁)] w = v ∧
      v.obj.threadAction = 0 ∧ v.obj.threadOn = false ∧ v.obj.dmxPointer = none ∧
      v.session.history = closing w.obj.dmxPointer ++ w.session.history ∧
      v.line = w.line ∧ v.written = w.written := by
  constructor
  · obtain ⟨w₀, hw₀⟩ : ∃ w₀, (Turn.message .refresh).run f w = w₀ := ⟨_, rfl⟩
    obtain ⟨w₁, hw₁⟩ : ∃ w₁, Turn.iteration.run f₁ w₀ = w₁ := ⟨_, rfl⟩
    obtain ⟨w₂, hw₂⟩ : ∃ w₂, Turn.iteration.run f₂ w₁ = w₂ := ⟨_, rfl⟩
    have h₀ : Posts 3 w w₀ := hw₀ ▸ refresh_posts f w
    have h₁ : Iterates DriverOpens w₀ w₁ := hw₁ ▸ iteration_iterates hf₁ w₀
    have h₂ : Iterates DriverOpens w₁ w₂ := hw₂ ▸ iteration_iterates hf₂ w₁
    -- the first iteration disconnects and leaves a connect in the mailbox
    have hpolls₁ := h₁.polls
    rw [h₀.action, h₀.session] at hpolls₁
    obtain ⟨hsession₁, haction₁⟩ := polls_refresh hpolls₁
    have hline₁ := h₁.line_off (congrArg Session.on hsession₁)
    -- the second connects and sends
    have hpolls₂ := h₂.polls
    rw [haction₁, hsession₁] at hpolls₂
    obtain ⟨h, hsession₂, haction₂⟩ := polls_connect rfl rfl hpolls₂
    obtain ⟨calls, hframe, hline₂⟩ :=
      h₂.line_on (congrArg Session.on hsession₂) (congrArg Session.ptr hsession₂)
    rw [hline₁, h₀.line] at hline₂
    refine ⟨w₂, h, calls, ?_, haction₂, congrArg Session.on hsession₂,
      congrArg Session.ptr hsession₂, congrArg Session.history hsession₂, hframe, hline₂,
      h₂.written.trans (h₁.written.trans h₀.written)⟩
    rw [← hw₂, ← hw₁, ← hw₀]
    simp only [History.play, List.foldl_cons, List.foldl_nil]
  · obtain ⟨w₀, hw₀⟩ : ∃ w₀, (Turn.message .disconnect).run f w = w₀ := ⟨_, rfl⟩
    obtain ⟨w₁, hw₁⟩ : ∃ w₁, Turn.iteration.run f₁ w₀ = w₁ := ⟨_, rfl⟩
    have h₀ : Posts 2 w w₀ := hw₀ ▸ disconnect_posts f w
    have h₁ : Iterates DriverOpens w₀ w₁ := hw₁ ▸ iteration_iterates hf₁ w₀
    have hpolls := h₁.polls
    rw [h₀.action, h₀.session] at hpolls
    obtain ⟨hsession, haction⟩ := polls_disconnect hpolls
    have hline := h₁.line_off (congrArg Session.on hsession)
    refine ⟨w₁, ?_, haction, congrArg Session.on hsession, congrArg Session.ptr hsession,
      congrArg Session.history hsession, hline.trans h₀.line, h₁.written.trans h₀.written⟩
    rw [← hw₁, ← hw₀]
    simp only [History.play, List.foldl_cons, List.foldl_nil]

/-- An object left by a failed close: a handle, a failure status and an unserved request. -/
def strandedWorld : World :=
  ⟨{ Obj.initial with dmxPointer := some 3, ftdiPortStatus := 1, threadAction := 1 }, []⟩

/-- It recovers: the handle is closed and another one opened. -/
theorem stranded_recovers : ∃ v h,
    History.play [(.message .refresh, fun _ _ => .fine), (.iteration, fun _ _ => .fine),
      (.iteration, fun _ _ => .fine)] strandedWorld = v ∧ v.obj.dmxPointer = some h ∧
    v.session.history = [.opened FT_OK (some h), .closed (some 3) FT_OK] := by
  obtain ⟨v, h, calls, hv, -, -, hptr, hhistory, -⟩ :=
    (requests_recover strandedWorld (fun _ _ => .fine) Answers.fine Answers.fine).1
  exact ⟨v, h, hv, hptr, hhistory⟩

end Dmx485
