import Dmx485.Session
import Dmx485.Thread
import Dmx485.Interaction.Erasure

/-!
# The object between two threads

`Sys` is the whole program once the class is registered: the world, the place of the worker in
its loop, and what is left of the message the host is handling. One action delivers a message or
performs one operation of one party, so a list of actions is one interleaving. The host handles
one message at a time.

Each access of `threadAction`, `threadOn`, `dmxPointer` and the other shared members is a step of
its own, and both threads see the steps in one order: what is modelled is the program as it is
written, on a sequentially consistent machine. The members are plain variables. A compiler that
merges two loads of `threadAction`, or keeps one out of the loop, produces a program with fewer
interleavings, or with others; this is not modelled.

* `Sys.step`, `Sys.step_cases`: the transition function, and everything it can do.
* `Runs ok`: the configurations joined by actions that meet `ok`; `Runs.of_foldlM`: a list of
  actions is one, with the step function as it is or under the condition `Sys.stepIf ok`;
  `Sys.plays` evaluates it.
* `Runs.holds`: a valid outline of the worker is an invariant of every run.
* `LoopSpec.valid`: the verification conditions of an outline, reduced to one triple for each
  function the loop calls; `SessionSpec.loopSpec` reduces these to the session relations.
-/

namespace Dmx485

open Interaction Relation

/-! ## Configurations and runs -/

/-- Where the worker stands. -/
abbrev Place := Position Dm World Label

/-- A configuration of the two threads. -/
structure Sys where
  world : World
  worker : Place
  /-- What is left of the message being handled; `.ret ()` when there is none. -/
  host : Code Unit

/-- The configuration after the class has been registered, with the worker about to start. -/
def Sys.initial : Sys := ⟨⟨Obj.initial, []⟩, .start .head, .ret ()⟩

/-- One step of an interleaving; the replies are the outside world's. -/
inductive Action
  | message (m : Message)
  | host (r : Reply)
  | worker (r : Reply)
  deriving DecidableEq, Repr

/-- The transition function. A message is delivered only when the last one has been handled. -/
def Sys.step (s : Sys) : Action → Option Sys
  | .message m =>
    match s.host with
    | .ret _ => some { s with host := handle m }
    | .op _ _ => none
  | .host r =>
    match s.host with
    | .ret _ => none
    | .op o k => some
        { s with
          world := ((machine .host).exec o r s.world).2
          host := k ((machine .host).exec o r s.world).1 }
  | .worker r => some
      { s with
        worker := (s.worker.step (machine .worker) thread r s.world).1
        world := (s.worker.step (machine .worker) thread r s.world).2 }

/-- Everything an action can do. -/
theorem Sys.step_cases {s s' : Sys} {a : Action} (h : s.step a = some s') :
    (∃ m u, a = .message m ∧ s.host = .ret u ∧ s' = { s with host := handle m }) ∨
    (∃ (r : Reply) (o : Op) (k : o.Ans → Code Unit), a = .host r ∧ s.host = .op o k ∧
      s' = { s with
        world := ((machine .host).exec o r s.world).2
        host := k ((machine .host).exec o r s.world).1 }) ∨
    (∃ r, a = .worker r ∧
      s' = { s with
        worker := (s.worker.step (machine .worker) thread r s.world).1
        world := (s.worker.step (machine .worker) thread r s.world).2 }) := by
  cases a with
  | message m =>
      cases hhost : s.host with
      | ret u =>
          rw [Sys.step, hhost] at h
          exact Or.inl ⟨m, u, rfl, rfl, (Option.some.inj h).symm⟩
      | op o k =>
          rw [Sys.step, hhost] at h
          cases h
  | host r =>
      cases hhost : s.host with
      | ret u =>
          rw [Sys.step, hhost] at h
          cases h
      | op o k =>
          rw [Sys.step, hhost] at h
          exact Or.inr (Or.inl ⟨r, o, k, rfl, rfl, (Option.some.inj h).symm⟩)
  | worker r => exact Or.inr (Or.inr ⟨r, rfl, (Option.some.inj h).symm⟩)

/-- A step of the host, inverted. -/
lemma Sys.step_host {s s' : Sys} {r : Reply} (h : s.step (.host r) = some s') :
    ∃ (o : Op) (k : o.Ans → Code Unit), s.host = .op o k ∧
      s' = { s with
        world := ((machine .host).exec o r s.world).2
        host := k ((machine .host).exec o r s.world).1 } := by
  obtain ⟨m, u, hm, -⟩ | ⟨r', o, k, hr, hhost, hs'⟩ | ⟨r', hr, -⟩ := Sys.step_cases h
  · cases hm
  · cases hr
    exact ⟨o, k, hhost, hs'⟩
  · cases hr

/-- The delivery of a message, inverted. -/
lemma Sys.step_message {s s' : Sys} {m : Message} (h : s.step (.message m) = some s') :
    s' = { s with host := handle m } := by
  obtain ⟨m', u, hm, -, hs'⟩ | ⟨r, o, k, hr, -⟩ | ⟨r, hr, -⟩ := Sys.step_cases h
  · cases hm
    exact hs'
  · cases hr
  · cases hr

/-- The message an action delivers. -/
def Action.message? : Action → Option Message
  | message m => some m
  | _ => none

/-- A reply that suits every call: success, a device handle, and a count that is a number of
devices and the length of a frame. -/
def Reply.fine : Reply := { handle := some 7, dword := some 512 }

/-- `n` steps of the worker, all answered well. -/
def workerSteps (n : ℕ) : List Action := List.replicate n (.worker .fine)

/-- The message `m`, and the first `n` steps of its handler. -/
def request (m : Message) (n : ℕ) : List Action := .message m :: List.replicate n (.host .fine)

/-- The operation an action performs. -/
def Sys.performs (s : Sys) : Action → Option Op
  | .message _ => none
  | .host _ => s.host.next
  | .worker _ => (s.worker.rest thread).next

/-- The reply an action brings. -/
def Action.reply : Action → Reply
  | message _ => default
  | host r => r
  | worker r => r

/-- The operation performed, if any, gets a reply in `A`. -/
def Sys.Allowed (A : World → Op → Reply → Prop) (s : Sys) (a : Action) : Prop :=
  ∀ o ∈ s.performs a, A s.world o a.reply

instance (A : World → Op → Reply → Prop) [∀ w o r, Decidable (A w o r)] (s : Sys) (a : Action) :
    Decidable (s.Allowed A a) :=
  inferInstanceAs (Decidable (∀ o ∈ s.performs a, A s.world o a.reply))

/-- Configurations joined by actions that meet `ok`. -/
def Runs (ok : Sys → Action → Prop) : Sys → Sys → Prop :=
  ReflTransGen fun s s' => ∃ a, ok s a ∧ s.step a = some s'

/-- The transition function under a condition: an action that does not meet `ok` is not taken. -/
def Sys.stepIf (ok : Sys → Action → Prop) [∀ s a, Decidable (ok s a)] (s : Sys) (a : Action) :
    Option Sys :=
  if ok s a then s.step a else none

/-- A step under a condition, inverted. -/
lemma Sys.stepIf_eq_some {ok : Sys → Action → Prop} [∀ s a, Decidable (ok s a)] {s s' : Sys}
    {a : Action} (h : s.stepIf ok a = some s') : ok s a ∧ s.step a = some s' := by
  unfold Sys.stepIf at h
  split_ifs at h with hok
  exact ⟨hok, h⟩

/-- What is listed is a run, with the transition function as it is or under a condition. -/
lemma Runs.of_foldlM {ok : Sys → Action → Prop} {step : Sys → Action → Option Sys}
    (hstep : ∀ {s a s'}, step s a = some s' → ok s a ∧ s.step a = some s') {actions : List Action}
    {s s' : Sys} (h : actions.foldlM step s = some s') : Runs ok s s' :=
  reflTransGen_of_foldlM (fun _ a _ ha => ⟨a, hstep ha⟩) h

/-- Take the listed actions, each of which must meet `ok`, and come to a configuration in `p`. -/
def Sys.plays (ok : Sys → Action → Prop) (p : Sys → Prop) [∀ s a, Decidable (ok s a)]
    [DecidablePred p] (actions : List Action) (s : Sys) : Bool :=
  (actions.foldlM (Sys.stepIf ok) s).any fun s' => decide (p s')

/-- What is played is a run. -/
lemma Runs.of_plays (ok : Sys → Action → Prop) (p : Sys → Prop) [∀ s a, Decidable (ok s a)]
    [DecidablePred p] (s : Sys) (actions : List Action) (h : s.plays ok p actions = true) :
    ∃ s', Runs ok s s' ∧ p s' := by
  obtain ⟨s', hs', hp⟩ := (Option.any_eq_true _ _).mp h
  exact ⟨s', Runs.of_foldlM Sys.stepIf_eq_some hs', of_decide_eq_true hp⟩

/-- Runs with a stronger condition are runs with a weaker one. -/
lemma Runs.mono {ok ok' : Sys → Action → Prop} (h : ∀ s a, ok s a → ok' s a) {s s' : Sys}
    (hr : Runs ok s s') : Runs ok' s s' :=
  ReflTransGen.mono (fun _ _ ⟨a, ha, hstep⟩ => ⟨a, h _ a ha, hstep⟩) _ _ hr

/-! ## Outlines of the worker are invariants of runs -/

/-- An outline of the worker, while the host performs any operations of message handlers. -/
def workerOutline (A : World → Op → Reply → Prop) (G : Label → World → Op → Reply → Prop)
    (pre : Label → World → Prop) (post : Label → World → Label → World → Prop) :
    Outline Dm World Reply Label where
  env l := (around Op.Host A (G l)).env
  allows := A
  guarantee := G
  pre := pre
  post := post

/-- What an outline says of a configuration, and that the host keeps to its operations. -/
def Sys.Holds (O : Outline Dm World Reply Label) (s : Sys) : Prop :=
  O.Holds (machine .worker) s.worker s.world ∧ s.host.All Op.Host

section invariants

variable {A : World → Op → Reply → Prop} {G : Label → World → Op → Reply → Prop}
  {pre : Label → World → Prop} {post : Label → World → Label → World → Prop}

/-- **One action** keeps a valid outline. -/
theorem Sys.Holds.step (hO : (workerOutline A G pre post).Valid (machine .worker) thread)
    {s s' : Sys} {a : Action} (h : s.Holds (workerOutline A G pre post)) (hallowed : s.Allowed A a)
    (hstep : s.step a = some s') : s'.Holds (workerOutline A G pre post) := by
  obtain ⟨m, u, rfl, -, rfl⟩ | ⟨r, o, k, rfl, hhost, rfl⟩ | ⟨r, rfl, rfl⟩ := Sys.step_cases hstep
  · exact ⟨h.1, handle_host m⟩
  · have hall := h.2
    rw [hhost] at hall
    have hreply : A s.world o r := hallowed o (congrArg Prog.next hhost)
    exact ⟨Outline.holds_env hO h.1 ⟨o, r, hall.1, hreply, rfl⟩, hall.2 _⟩
  · exact ⟨Outline.holds_step hO h.1 fun o ho => hallowed o ho, h.2⟩

/-- **A valid outline is an invariant of every run.** -/
theorem Runs.holds (hO : (workerOutline A G pre post).Valid (machine .worker) thread)
    {ok : Sys → Action → Prop} (hok : ∀ s a, ok s a → s.Allowed A a) {s s' : Sys}
    (hrun : Runs ok s s') (h : s.Holds (workerOutline A G pre post)) :
    s'.Holds (workerOutline A G pre post) := by
  induction hrun with
  | refl => exact h
  | tail _ hstep ih =>
      obtain ⟨a, ha, hstep⟩ := hstep
      exact ih.step hO (hok _ a ha) hstep

end invariants

/-! ## The verification conditions of the loop -/

/-- The operations of the loop itself, outside the functions it calls. -/
def Op.Loop : Op → Prop
  | getThreadAction | setThreadAction _ | getThreadOn | usleep _ => True
  | _ => False

/-- The loop itself leaves the session alone. -/
lemma session_loop {o : Op} (ho : o.Loop) (r : Reply) (w : World) :
    ((machine .worker).exec o r w).2.session = w.session := by
  cases o <;> first | rfl | exact ho.elim

/-- The labels a block can hand over to. -/
def Label.succs : Label → List Label
  | head => [clear1, test2]
  | clear1 => [connect]
  | connect => [test2]
  | test2 => [clear2, test3]
  | clear2 => [disconnect]
  | disconnect => [test3]
  | test3 => [stop3, testOn]
  | stop3 => [disconnect3]
  | disconnect3 => [clear3]
  | clear3 => [pause3]
  | pause3 => [repost3]
  | repost3 => [testOn]
  | testOn => [tick, pause]
  | tick => [pause]
  | pause => [head]

/-- An annotation of the loop: `J` at most labels, `Joff` with the tick switched off for a
restart, `Jclosed` in the rest of the restart; a tick is entered with the tick switched on. -/
def loopPre (J Joff Jclosed : Session → Prop) : Label → Session → Prop
  | .disconnect3, a => Joff a
  | .clear3, a | .pause3, a | .repost3, a => Jclosed a
  | .tick, a => J a ∧ a.on = true
  | _, a => J a

/-- What the blocks do to a view of the session: `connect` applies `c`, `disconnect` applies `d`,
switching the tick off applies `o`. -/
def loopEffect {V : Type} (c d o : V → V) : Label → V → V
  | .connect => c
  | .disconnect | .disconnect3 => d
  | .stop3 => o
  | _ => id

/-- The outline of an annotation: a block hands over to a successor whose assertion holds, and
has had its effect on the view. -/
def loopOutline {V : Type} (A : World → Op → Reply → Prop) (G : Label → World → Op → Reply → Prop)
    (J Joff Jclosed : Session → Prop) (view : Session → V) (c d o : V → V) :
    Outline Dm World Reply Label :=
  workerOutline A G (fun l w => loopPre J Joff Jclosed l w.session) fun l w₀ l' w =>
    l' ∈ l.succs ∧ loopPre J Joff Jclosed l' w.session ∧
      view w.session = loopEffect c d o l (view w₀.session)

/-- What has to be proved of the functions of the loop for an annotation to be valid. -/
structure LoopSpec {V : Type} (A : World → Op → Reply → Prop)
    (G : Label → World → Op → Reply → Prop) (J Joff Jclosed : Session → Prop)
    (view : Session → V) (c d o : V → V) : Prop where
  guarantee : ∀ l, l ≠ .tick → ∀ w o r, o.Loop → G l w o r
  guarantee_stop : ∀ w r, G .stop3 w (.setThreadOn false) r
  closed : ∀ a, Jclosed a → J a
  stop : ∀ a, J a → Joff { a with on := false } ∧ view { a with on := false } = o (view a)
  connect : ∀ v, Triple (machine .worker) (around Op.Host A (G .connect))
    (fun w => J w.session ∧ view w.session = v) Dmx485.connect
    fun _ w => J w.session ∧ view w.session = c v
  disconnect : ∀ v, Triple (machine .worker) (around Op.Host A (G .disconnect))
    (fun w => J w.session ∧ view w.session = v) Dmx485.disconnect
    fun _ w => J w.session ∧ view w.session = d v
  disconnect3 : ∀ v, Triple (machine .worker) (around Op.Host A (G .disconnect3))
    (fun w => Joff w.session ∧ view w.session = v) Dmx485.disconnect
    fun _ w => Jclosed w.session ∧ view w.session = d v
  tick : ∀ v, Triple (machine .worker) (around Op.Host A (G .tick))
    (fun w => (J w.session ∧ w.session.on = true) ∧ view w.session = v) timer_action
    fun _ w => J w.session ∧ view w.session = v

section loop

variable {V : Type} {A : World → Op → Reply → Prop} {G : Label → World → Op → Reply → Prop}
  {J Joff Jclosed : Session → Prop} {view : Session → V} {c d o : V → V}

/-- A block of one operation of the loop. -/
lemma block_of_loop {l : Label} (F : Session → Prop) (o : Op) (ho : o.Loop)
    (next : o.Ans → Label) {Q : Label → World → Prop} (hG : ∀ w r, G l w o r)
    (hQ : ∀ a w, F w.session → Q (next a) w) :
    Triple (machine .worker) (around Op.Host A (G l)) (fun w => F w.session)
      (.op o fun a => .ret (next a)) Q := by
  refine Triple.op (session_stable (fun _ => id) F) fun w r hw _ => ⟨hG w r, hQ _ _ ?_⟩
  rwa [session_loop ho]

/-- A test of the mailbox. -/
lemma block_of_test {l : Label} (F : Session → Prop) (v : Int) {yes no : Label}
    {Q : Label → World → Prop} (hG : ∀ w r, G l w .getThreadAction r)
    (hyes : ∀ w, F w.session → Q yes w) (hno : ∀ w, F w.session → Q no w) :
    Triple (machine .worker) (around Op.Host A (G l)) (fun w => F w.session)
      (.op .getThreadAction fun a => .ret (if a = v then yes else no)) Q := by
  refine block_of_loop F .getThreadAction (by trivial) (fun a => if a = v then yes else no) hG
    fun a w hw => ?_
  split_ifs
  · exact hyes w hw
  · exact hno w hw

/-- A block that calls a function of the loop. -/
lemma block_of_triple {l : Label} {P Q : World → Prop} {p : Code Unit} {next : Label}
    {R : Label → World → Prop}
    (h : Triple (machine .worker) (around Op.Host A (G l)) P p fun _ => Q)
    (hR : ∀ w, Q w → R next w) :
    Triple (machine .worker) (around Op.Host A (G l)) P (p >>= fun _ => .ret next) R :=
  h.bind fun _ => Triple.ret hR

/-- The block that tests `threadOn`: it hands over to the tick only when it is set. -/
lemma block_of_testOn (F : Session → Prop) {Q : Label → World → Prop}
    (hG : ∀ w r, G .testOn w .getThreadOn r)
    (hyes : ∀ w, F w.session → w.session.on = true → Q .tick w)
    (hno : ∀ w, F w.session → Q .pause w) :
    Triple (machine .worker) (around Op.Host A (G .testOn)) (fun w => F w.session)
      (thread .testOn) Q := by
  refine Triple.op (session_stable (fun _ => id) F) fun w r hw _ => ⟨hG w r, ?_⟩
  cases hon : w.obj.threadOn with
  | true =>
      simp only [machine_answer, Op.answer, hon]
      exact hyes _ hw hon
  | false =>
      simp only [machine_answer, Op.answer, hon]
      exact hno _ hw

/-- **The verification conditions of the loop.** -/
theorem LoopSpec.valid (h : LoopSpec A G J Joff Jclosed view c d o) :
    (loopOutline A G J Joff Jclosed view c d o).Valid (machine .worker) thread where
  stable := fun l => session_stable (fun _ => id) (loopPre J Joff Jclosed l)
  block := by
    intro l w hw
    have hloop : l ≠ .tick → ∀ w o', o'.Loop → ∀ r, G l w o' r := fun hl w o' ho' r =>
      h.guarantee l hl w o' r ho'
    cases l with
    | head =>
        exact block_of_test (fun a => J a ∧ view a = view w.session) 1
          (fun w r => hloop (by decide) w _ (by trivial) r) (fun _ hw' => ⟨by decide, hw'⟩)
          (fun _ hw' => ⟨by decide, hw'⟩) w ⟨hw, rfl⟩
    | clear1 =>
        exact block_of_loop (fun a => J a ∧ view a = view w.session) (.setThreadAction 0)
          (by trivial) (fun _ => .connect) (fun w r => hloop (by decide) w _ (by trivial) r)
          (fun _ _ hw' => ⟨by decide, hw'⟩) w ⟨hw, rfl⟩
    | connect => exact block_of_triple (h.connect _) (fun _ hw' => ⟨by decide, hw'⟩) w ⟨hw, rfl⟩
    | test2 =>
        exact block_of_test (fun a => J a ∧ view a = view w.session) 2
          (fun w r => hloop (by decide) w _ (by trivial) r) (fun _ hw' => ⟨by decide, hw'⟩)
          (fun _ hw' => ⟨by decide, hw'⟩) w ⟨hw, rfl⟩
    | clear2 =>
        exact block_of_loop (fun a => J a ∧ view a = view w.session) (.setThreadAction 0)
          (by trivial) (fun _ => .disconnect) (fun w r => hloop (by decide) w _ (by trivial) r)
          (fun _ _ hw' => ⟨by decide, hw'⟩) w ⟨hw, rfl⟩
    | disconnect =>
        exact block_of_triple (h.disconnect _) (fun _ hw' => ⟨by decide, hw'⟩) w ⟨hw, rfl⟩
    | test3 =>
        exact block_of_test (fun a => J a ∧ view a = view w.session) 3
          (fun w r => hloop (by decide) w _ (by trivial) r) (fun _ hw' => ⟨by decide, hw'⟩)
          (fun _ hw' => ⟨by decide, hw'⟩) w ⟨hw, rfl⟩
    | stop3 =>
        refine Triple.op (session_stable (fun _ => id) fun a => J a ∧ view a = view w.session)
          (fun w' r hw' _ => ⟨h.guarantee_stop w' r, ?_⟩) w ⟨hw, rfl⟩
        have hstop := h.stop _ hw'.1
        exact ⟨by decide, hstop.1, hstop.2.trans (congrArg o hw'.2)⟩
    | disconnect3 =>
        exact block_of_triple (h.disconnect3 _) (fun _ hw' => ⟨by decide, hw'⟩) w ⟨hw, rfl⟩
    | clear3 =>
        exact block_of_loop (fun a => Jclosed a ∧ view a = view w.session) (.setThreadAction 0)
          (by trivial) (fun _ => .pause3) (fun w r => hloop (by decide) w _ (by trivial) r)
          (fun _ _ hw' => ⟨by decide, hw'⟩) w ⟨hw, rfl⟩
    | pause3 =>
        exact block_of_loop (fun a => Jclosed a ∧ view a = view w.session) (.usleep 10000)
          (by trivial) (fun _ => .repost3) (fun w r => hloop (by decide) w _ (by trivial) r)
          (fun _ _ hw' => ⟨by decide, hw'⟩) w ⟨hw, rfl⟩
    | repost3 =>
        exact block_of_loop (fun a => Jclosed a ∧ view a = view w.session) (.setThreadAction 1)
          (by trivial) (fun _ => .testOn) (fun w r => hloop (by decide) w _ (by trivial) r)
          (fun _ _ hw' => ⟨by decide, h.closed _ hw'.1, hw'.2⟩) w ⟨hw, rfl⟩
    | testOn =>
        exact block_of_testOn (fun a => J a ∧ view a = view w.session)
          (fun w r => hloop (by decide) w _ (by trivial) r)
          (fun _ hw' hon => ⟨by decide, ⟨hw'.1, hon⟩, hw'.2⟩) (fun _ hw' => ⟨by decide, hw'⟩)
          w ⟨hw, rfl⟩
    | tick => exact block_of_triple (h.tick _) (fun _ hw' => ⟨by decide, hw'⟩) w ⟨hw, rfl⟩
    | pause =>
        exact block_of_loop (fun a => J a ∧ view a = view w.session) (.usleep 10000)
          (by trivial) (fun _ => .head) (fun w r => hloop (by decide) w _ (by trivial) r)
          (fun _ _ hw' => ⟨by decide, hw'⟩) w ⟨hw, rfl⟩
  chain := fun _ _ _ _ hpost => hpost.2.1

/-- What has to be proved of the relations that describe `connect` and `disconnect`, when nothing
is owed outside the tick. -/
structure SessionSpec (A : World → Op → Reply → Prop) (G : Label → World → Op → Reply → Prop)
    (J Joff Jclosed : Session → Prop) (view : Session → V) (c d o : V → V) : Prop where
  guarantee : ∀ l, l ≠ .tick → ∀ w o r, G l w o r
  guarantee_tick : ∀ w o r, J w.session → w.session.on = true → o.InTick w.session.ptr →
    G .tick w o r
  closed : ∀ a, Jclosed a → J a
  stop : ∀ a, J a → Joff { a with on := false } ∧ view { a with on := false } = o (view a)
  connect : ∀ (w : World) r b, J w.session → A w (.enter .connect) r → Connects A w.session b →
    J b ∧ view b = c (view w.session)
  disconnect : ∀ a b, J a → Disconnects A a b → J b ∧ view b = d (view a)
  disconnect3 : ∀ a b, Joff a → Disconnects A a b → Jclosed b ∧ view b = d (view a)

/-- The session-level conditions are enough. -/
theorem SessionSpec.loopSpec (h : SessionSpec A G J Joff Jclosed view c d o) :
    LoopSpec A G J Joff Jclosed view c d o where
  guarantee := fun l hl w o' r _ => h.guarantee l hl w o' r
  guarantee_stop := fun w r => h.guarantee .stop3 (by decide) w _ r
  closed := h.closed
  stop := h.stop
  connect := by
    intro v w hw
    refine wp_mono (fun _ w' hw' => ?_)
      (connect_session (fun _ => id) (h.guarantee .connect (by decide)) w.session w rfl)
    obtain ⟨⟨w₀, r, hw₀, henter⟩, hrel⟩ := hw'
    rw [← hw₀] at hrel
    have hJ := h.connect w₀ r _ (hw₀ ▸ hw.1) henter hrel
    exact ⟨hJ.1, hJ.2.trans (congrArg c (hw₀ ▸ hw.2))⟩
  disconnect := by
    intro v w hw
    refine wp_mono (fun _ w' hrel => ?_)
      (disconnect_session (fun _ => id) (h.guarantee .disconnect (by decide)) w.session w rfl)
    have hJ := h.disconnect _ _ hw.1 hrel
    exact ⟨hJ.1, hJ.2.trans (congrArg d hw.2)⟩
  disconnect3 := by
    intro v w hw
    refine wp_mono (fun _ w' hrel => ?_)
      (disconnect_session (fun _ => id) (h.guarantee .disconnect3 (by decide)) w.session w rfl)
    have hJ := h.disconnect3 _ _ hw.1 hrel
    exact ⟨hJ.1, hJ.2.trans (congrArg d hw.2)⟩
  tick := by
    intro v
    refine (timer_session (fun _ => id) (fun a => (J a ∧ a.on = true) ∧ view a = v)
      fun w o' r hw ho' => ?_).conseq (fun _ hw => hw) fun _ _ hw => ⟨hw.1.1, hw.2⟩
    exact h.guarantee_tick w o' r hw.1.1 hw.1.2 ho'

end loop

end Dmx485
