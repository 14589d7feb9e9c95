import Mathlib.Logic.Relation
import Socks.Socks4.Listen

/-!
# The accept loop of `ServeContext`

`ServeContext` of package `socks4` starts a goroutine that waits for
`ctx.Done()` and then closes the listener, and loops: at the `select`, a done
context returns nil; otherwise it calls `listener.Accept()`, hands an error to
`OnError` and goes round again, and starts the handler goroutine for a
connection.

A `Server` holds where the loop is, whether the context is done, whether the
listener is closed and whether the watcher goroutine has closed it, the
`Accept` calls that returned, the errors the loop passed to `OnError`, and the
handlers it started. `Server.Step` is one step of the loop, of the watcher, of
the caller cancelling the context, or of any goroutine closing the listener. A
handler shares nothing with the loop, so it is recorded as what `handleConn`
does with its connection.

* `Server.Reachable.inv`: every reachable server satisfies `Server.Inv`: the
  loop has returned only after the context was cancelled, each `Accept` that
  returned either failed or started one handler, and every handler closed its
  connection.
* `Server.Reachable.spins`: with the listener closed and the context not done,
  the loop goes round again and again, each `Accept` failing with
  `net.ErrClosed`; it does not return until the context is cancelled.
* `Server.Reachable.returns`: once the context is done, the loop can return
  nil within three steps: the watcher closes the listener, the pending
  `Accept` fails, and the `select` takes `ctx.Done()`.
-/

namespace Socks.Socks4

/-- Where the loop of `ServeContext` is. -/
inductive Loop where
  /-- At the `select` at the top of the loop. -/
  | select
  /-- Inside `listener.Accept()`. -/
  | accepting
  /-- `ServeContext` has returned nil. -/
  | returned
  deriving DecidableEq, Repr

/-- One run of `ServeContext` with the default hooks. -/
structure Server where
  loop : Loop
  ctxDone : Bool
  listenerClosed : Bool
  watcherDone : Bool
  accepts : Nat
  errors : List Error
  served : List Handled

theorem handleConn_closed (env : Env) (conn : Conn) : (handleConn env conn).closed = true := by
  unfold handleConn
  dsimp only
  split <;> rfl

namespace Server

/-- `ServeContext` entered: the watcher waits, the loop is at its `select`. -/
def init : Server := ⟨.select, false, false, false, 0, [], []⟩

/-- One step of a run of `ServeContext` whose handlers dial into `env`. -/
inductive Step (env : Env) : Server → Server → Prop
  /-- The caller cancels the context. -/
  | cancel {s : Server} : Step env s { s with ctxDone := true }
  /-- The watcher's `<-ctx.Done()` returns and it calls `listener.Close()`. -/
  | watchClose {s : Server} (done : s.ctxDone = true) (waiting : s.watcherDone = false) :
      Step env s { s with listenerClosed := true, watcherDone := true }
  /-- Another goroutine closes the listener. -/
  | close {s : Server} : Step env s { s with listenerClosed := true }
  /-- The `select` takes `ctx.Done()`: `return nil`. -/
  | selectDone {s : Server} (atSelect : s.loop = .select) (done : s.ctxDone = true) :
      Step env s { s with loop := .returned }
  /-- The `select` takes `default`: no case is ready. -/
  | selectDefault {s : Server} (atSelect : s.loop = .select) (live : s.ctxDone = false) :
      Step env s { s with loop := .accepting }
  /-- `Accept` returns a connection, and the loop starts its handler. -/
  | accepted {s : Server} (conn : Conn) (atAccept : s.loop = .accepting)
      (isOpen : s.listenerClosed = false) :
      Step env s { s with
        loop := .select
        accepts := s.accepts + 1
        served := s.served ++ [handleConn env conn] }
  /-- `Accept` returns an error, `net.ErrClosed` once the listener is closed:
  `OnError(ctx, opts, nil, err)` and `continue`. -/
  | acceptFails {s : Server} (e : Error) (atAccept : s.loop = .accepting)
      (closedErr : s.listenerClosed = true → e = .closed) :
      Step env s { s with loop := .select, accepts := s.accepts + 1, errors := s.errors ++ [e] }

/-- The servers some run of `ServeContext` reaches. -/
def Reachable (env : Env) (s : Server) : Prop := Relation.ReflTransGen (Step env) init s

/-- What holds of every reachable server. -/
structure Inv (s : Server) : Prop where
  returned : s.loop = .returned → s.ctxDone = true
  watcher : s.watcherDone = true → s.listenerClosed = true
  accepts : s.accepts = s.errors.length + s.served.length
  closes : ∀ h ∈ s.served, h.closed = true

theorem inv_init : init.Inv where
  returned h := nomatch h
  watcher h := nomatch h
  accepts := rfl
  closes _ h := nomatch h

theorem Step.inv {env : Env} {s s' : Server} (step : Step env s s') (inv : s.Inv) : s'.Inv := by
  obtain ⟨returned, watcher, accepts, closes⟩ := inv
  cases step with
  | cancel => exact ⟨fun _ => rfl, watcher, accepts, closes⟩
  | watchClose => exact ⟨returned, fun _ => rfl, accepts, closes⟩
  | close => exact ⟨returned, fun _ => rfl, accepts, closes⟩
  | selectDone _ done => exact ⟨fun _ => done, watcher, accepts, closes⟩
  | selectDefault => exact ⟨nofun, watcher, accepts, closes⟩
  | accepted conn =>
    refine ⟨nofun, watcher, by simp [accepts]; omega, fun h mem => ?_⟩
    rcases List.mem_append.mp mem with mem | mem
    · exact closes h mem
    · simp only [List.mem_singleton] at mem
      exact mem ▸ handleConn_closed env conn
  | acceptFails => exact ⟨nofun, watcher, by simp [accepts]; omega, closes⟩

theorem Reachable.inv {env : Env} {s : Server} (reach : Reachable env s) : s.Inv := by
  induction reach with
  | refl => exact inv_init
  | tail _ step inv => exact step.inv inv

/-- Once the loop has returned, no step calls `Accept` or starts a handler. -/
theorem Step.frame_of_returned {env : Env} {s s' : Server} (step : Step env s s')
    (returned : s.loop = .returned) :
    s'.loop = .returned ∧ s'.accepts = s.accepts ∧ s'.errors = s.errors ∧ s'.served = s.served := by
  cases step <;> simp_all

/-- One more round of the loop with the listener closed: `Accept` fails with
`net.ErrClosed`, which goes to `OnError`, and the loop is back at its `select`. -/
theorem Reachable.round {env : Env} {s : Server} (reach : Reachable env s)
    (closed : s.listenerClosed = true) (live : s.ctxDone = false) (atSelect : s.loop = .select) :
    Reachable env { s with accepts := s.accepts + 1, errors := s.errors ++ [.closed] } := by
  obtain ⟨loop, ctxDone, listenerClosed, watcherDone, accepts, errors, served⟩ := s
  subst atSelect
  exact .tail (.tail reach (.selectDefault rfl live)) (.acceptFails .closed rfl fun _ => rfl)

/-- **The loop spins on a closed listener.** From a reachable server whose
listener is closed while the context is not done, the loop goes round any
number `n` of times, each `Accept` failing with `net.ErrClosed`. -/
theorem Reachable.spins {env : Env} {s : Server} (reach : Reachable env s)
    (closed : s.listenerClosed = true) (live : s.ctxDone = false) (atSelect : s.loop = .select) :
    ∀ n, Reachable env
      { s with accepts := s.accepts + n, errors := s.errors ++ List.replicate n .closed }
  | 0 => by simpa using reach
  | n + 1 => by
    rw [List.replicate_succ', ← List.append_assoc]
    exact (reach.spins closed live atSelect n).round closed live atSelect

/-- A listener closed from outside while the context is live: the loop goes
back to `Accept` after the first `net.ErrClosed`, as often as it is scheduled,
and has not returned after any number of failed calls. -/
theorem serve_keeps_accepting_after_close (env : Env) (n : Nat) :
    Reachable env ⟨.select, false, true, false, n + 1, List.replicate (n + 1) .closed, []⟩ := by
  have closed : Reachable env { init with listenerClosed := true } := .single .close
  simpa [init] using closed.spins rfl rfl rfl (n + 1)

/-- The listener closed from outside, the context live: after the first
`net.ErrClosed` the loop calls `Accept` a second time, which fails the same
way, and it has not returned. -/
theorem serve_accepts_again_after_errClosed :
    Reachable ⟨fun _ => .error (.fault 0)⟩
      ⟨.select, false, true, false, 2, [.closed, .closed], []⟩ :=
  serve_keeps_accepting_after_close _ 1

/-- Cancellation stops the loop. From a reachable server whose context is
done, the loop returns nil within three steps. -/
theorem Reachable.returns {env : Env} {s : Server} (reach : Reachable env s)
    (done : s.ctxDone = true) :
    ∃ s', Relation.ReflTransGen (Step env) s s' ∧ s'.loop = .returned := by
  have inv := reach.inv
  cases atLoop : s.loop with
  | returned => exact ⟨s, .refl, atLoop⟩
  | select => exact ⟨_, .single (.selectDone atLoop done), rfl⟩
  | accepting =>
    by_cases closed : s.listenerClosed = true
    · exact ⟨_, .tail (.single (.acceptFails .closed atLoop fun _ => rfl)) (.selectDone rfl done),
        rfl⟩
    · have waiting : s.watcherDone = false := by
        cases watcherDone : s.watcherDone
        · rfl
        · exact absurd (inv.watcher watcherDone) closed
      exact ⟨_, .tail (.tail (.single (.watchClose done waiting))
        (.acceptFails .closed atLoop fun _ => rfl)) (.selectDone rfl done), rfl⟩

/-- **The loop stops only on cancellation.** Over every run, whatever each
`Accept` returns: the loop has returned nil only once the context is
cancelled; with the listener closed and the context live it goes round any
number of times, each `Accept` failing with `net.ErrClosed` and going to
`OnError`; and once the context is cancelled it can return nil. -/
theorem serve_returns_only_on_cancel (env : Env) :
    (∀ s, Reachable env s → s.loop = .returned → s.ctxDone = true) ∧
    (∀ s, Reachable env s → s.listenerClosed = true → s.ctxDone = false → s.loop = .select →
      ∀ n, Reachable env
        { s with accepts := s.accepts + n, errors := s.errors ++ List.replicate n .closed }) ∧
    ∀ s, Reachable env s → s.ctxDone = true →
      ∃ s', Relation.ReflTransGen (Step env) s s' ∧ s'.loop = .returned :=
  ⟨fun _ reach => reach.inv.returned,
    fun _ reach closed live atSelect => reach.spins closed live atSelect,
    fun _ reach done => reach.returns done⟩

/-- A listener closed before the first round: three more failed `Accept`
calls, and after a cancel the loop returns. -/
theorem serve_returns_only_on_cancel_closed_listener :
    Reachable ⟨fun _ => .error (.fault 0)⟩
        ⟨.select, false, true, false, 3, List.replicate 3 .closed, []⟩ ∧
      ∃ s', Relation.ReflTransGen (Step ⟨fun _ => .error (.fault 0)⟩)
        ⟨.select, true, true, false, 0, [], []⟩ s' ∧ s'.loop = .returned :=
  ⟨(serve_returns_only_on_cancel ⟨fun _ => .error (.fault 0)⟩).2.1
      ⟨.select, false, true, false, 0, [], []⟩ (.single .close) rfl rfl rfl 3,
    (serve_returns_only_on_cancel ⟨fun _ => .error (.fault 0)⟩).2.2
      ⟨.select, true, true, false, 0, [], []⟩ (.tail (.single .close) .cancel) rfl⟩

end Server

end Socks.Socks4
