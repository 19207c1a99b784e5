import Dmx485.Code
import Dmx485.Interaction.Outline

/-!
# The worker loop as labelled blocks

`dm2xx::thread` is one loop; what an interleaving can find it doing is a place in that loop. Here
the body is cut at the accesses of `threadAction` into blocks that hand over to each other, so that
inside a block the mailbox is not touched (`thread_tail` in `Mailbox.lean`).

The three tests of `threadAction` are made one after the other, and not as alternatives: after a
`connect` the test for 2 is made, with whatever has been posted meanwhile, and after a
`disconnect` the test for 3. The restart clears the mailbox only behind `disconnect`, and posts a
connect request of its own 10 ms later, without another look.

* `Label`, `thread`: the places of the loop, and what is done from each to the next.
* `threadBody_eq_follow`: the chained blocks are the body of the source, so that results about the
  blocks are results about the loop that was written.
-/

namespace Dmx485

open Interaction

/-- The places of the worker loop. The names follow the branches: `1` is the connect request, `2`
the disconnect request, `3` the refresh request. -/
inductive Label
  | head | clear1 | connect
  | test2 | clear2 | disconnect
  | test3 | stop3 | disconnect3 | clear3 | pause3 | repost3
  | testOn | tick | pause
  deriving DecidableEq, Repr

/-- What the worker does from each place to the next.
Source: `dmxObjectD2xx.cpp`, `dm2xx::thread` -/
def thread : Label → Code Label
  | .head => do return if (← getThreadAction) = 1 then .clear1 else .test2
  | .clear1 => do setThreadAction 0; return .connect
  | .connect => do connect; return .test2
  | .test2 => do return if (← getThreadAction) = 2 then .clear2 else .test3
  | .clear2 => do setThreadAction 0; return .disconnect
  | .disconnect => do disconnect; return .test3
  | .test3 => do return if (← getThreadAction) = 3 then .stop3 else .testOn
  | .stop3 => do setThreadOn false; return .disconnect3
  | .disconnect3 => do disconnect; return .clear3
  | .clear3 => do setThreadAction 0; return .pause3
  | .pause3 => do usleep 10000; return .repost3
  | .repost3 => do setThreadAction 1; return .testOn
  | .testOn => do return if ← getThreadOn then .tick else .pause
  | .tick => do timer_action; return .pause
  | .pause => do usleep 10000; return .head

/-! ## The blocks chained -/

/-- A block without a test is followed by the blocks from its successor. -/
lemma follow_thread (l l' : Label) {p : Code Unit} (hl : thread l = p >>= fun _ => .ret l')
    (hne : l' ≠ .head) (n : ℕ) :
    follow thread .head (n + 1) l = p >>= fun _ => follow thread .head n l' :=
  follow_seq hl hne n

/-- What is left of an iteration after the mailbox has been served. -/
def tickAndSleep : Code Label := do
  if ← getThreadOn then
    timer_action
  usleep 10000
  return .head

/-- The blocks from the test of the tick on. -/
lemma follow_testOn (n : ℕ) : follow thread .head (n + 3) .testOn = tickAndSleep := by
  simp only [follow, thread, tickAndSleep, Prog.bind_assoc, Prog.pure_eq_ret, Prog.bind_ret]
  congr 1
  funext on
  cases on <;> simp [Prog.bind_assoc]

/-- The blocks from the test for 3 on. -/
lemma follow_test3 (n : ℕ) :
    follow thread .head (n + 9) .test3 = serveRefresh >>= fun _ => tickAndSleep := by
  rw [follow]
  simp only [thread, serveRefresh, Prog.bind_assoc, Prog.pure_eq_ret, Prog.bind_ret]
  congr 1
  funext v
  by_cases hv : v = 3
  · simp only [hv, if_true, reduceCtorEq, if_false, Prog.bind_assoc]
    rw [follow_thread .stop3 .disconnect3 rfl (by decide),
      follow_thread .disconnect3 .clear3 rfl (by decide),
      follow_thread .clear3 .pause3 rfl (by decide), follow_thread .pause3 .repost3 rfl (by decide),
      follow_thread .repost3 .testOn rfl (by decide), follow_testOn n]
  · simp only [hv, if_false, reduceCtorEq]
    exact follow_testOn (n + 5)

/-- The blocks from the test for 2 on. -/
lemma follow_test2 (n : ℕ) :
    follow thread .head (n + 12) .test2 =
      serveDisconnect >>= fun _ => serveRefresh >>= fun _ => tickAndSleep := by
  rw [follow]
  simp only [thread, serveDisconnect, Prog.bind_assoc, Prog.pure_eq_ret, Prog.bind_ret]
  congr 1
  funext v
  by_cases hv : v = 2
  · simp only [hv, if_true, reduceCtorEq, if_false, Prog.bind_assoc]
    rw [follow_thread .clear2 .disconnect rfl (by decide),
      follow_thread .disconnect .test3 rfl (by decide), follow_test3 n]
  · simp only [hv, if_false, reduceCtorEq]
    exact follow_test3 (n + 2)

/-- **The chained blocks are the body of the loop.** -/
theorem threadBody_eq_follow :
    (threadBody >>= fun _ => .ret Label.head) = follow thread .head 15 .head := by
  have hbody : (threadBody >>= fun _ => .ret Label.head) =
      serveConnect >>= fun _ => serveDisconnect >>= fun _ => serveRefresh >>= fun _ =>
        tickAndSleep := by
    simp only [threadBody, pollMailbox, tickAndSleep, Prog.bind_assoc, Prog.pure_eq_ret]
    congr 1; funext _
    congr 1; funext _
    congr 1; funext _
    congr 1; funext on
    cases on <;> simp [Prog.bind_assoc]
  rw [hbody, follow]
  simp only [thread, serveConnect, Prog.bind_assoc, Prog.pure_eq_ret, Prog.bind_ret]
  congr 1
  funext v
  by_cases hv : v = 1
  · simp only [hv, if_true, reduceCtorEq, if_false, Prog.bind_assoc]
    rw [follow_thread .clear1 .connect rfl (by decide),
      follow_thread .connect .test2 rfl (by decide), follow_test2 0]
  · simp only [hv, if_false, reduceCtorEq]
    exact (follow_test2 2).symm

end Dmx485
