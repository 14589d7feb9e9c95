import Socks.Socks4.DialRun

/-!
# The dialer's goroutines can always finish

`Reachable.safe` says what no interleaving of a call breaks; this module says
what every reachable session can still do. The method of a call, from any
point of any interleaving, can run to its return on its own steps, whatever
the proxy answers; and the second phase of `BindContext` can run to the close
of `readyCh` when the caller receives what it sends. No goroutine of a call
is left with nothing enabled, except the second phase on a full `readyCh`
that the caller no longer reads (`second_done_needs_receives`).

* `Reachable.method_returns`: from every reachable session, the method can
  run to its return on its own steps (`MethodStep`, the steps that move it).
* `Reachable.second_finishes`: from every reachable session whose second
  phase has started, some interleaving with the caller's receives closes
  `readyCh`.
-/

namespace Socks.Socks4

/-- What every reachable session holds once the proxy is dialed and the
method has not failed: the dial opened a connection, and the session holds
it. -/
def Session.Live (c : Call) (s : Session) : Prop :=
  s.main ≠ .dialing → s.main ≠ .returned false →
    (∃ src out, c.dial = .ok (src, out)) ∧ s.conn ≠ none

namespace Step

variable {c : Call} {s s' : Session}

theorem live (step : Step c s s') (live : s.Live c) : s'.Live c := by
  unfold Session.Live at live ⊢
  cases step with
  | dialed _ dial => exact fun _ _ => ⟨⟨_, _, dial⟩, by simp⟩
  | parsed main _ => exact fun _ _ => live (by simp [main]) (by simp [main])
  | sent main _ _ _ => exact fun _ _ => live (by simp [main]) (by simp [main])
  | granted main _ _ _ _ _ =>
    exact fun _ _ => ⟨(live (by simp [main]) (by simp [main])).1, by simp⟩
  | returns main => exact fun _ _ => live (by simp [main]) (by simp [main])
  | readSecond _ _ _ _ => exact fun dialed failed => ⟨(live dialed failed).1, by simp⟩
  | dialFails | parseFails | sendFails | readClosed | readFails => simp
  | cancel | watchDone | watchExit | readSecondClosed | sendReady | closeReady | receive =>
    exact live

end Step

theorem Reachable.live {c : Call} {s : Session} (reach : Reachable c s) : s.Live c := by
  induction reach with
  | refl => simp [Session.Live, Session.init]
  | tail _ step live => exact step.live live

/-! ## The method returns -/

/-- A step of the method itself: one that moves it on. The steps of the
watcher, of the second phase, of the caller and of the context leave `main`
as it is, so these are the method's own steps. -/
def MethodStep (c : Call) (s s' : Session) : Prop := Step c s s' ∧ s'.main ≠ s.main

/-- The method can return from the session `s` on its own: some path of its
own steps from `s` reaches a session where it has returned. -/
def Session.CanReturn (c : Call) (s : Session) : Prop :=
  ∃ s', Relation.ReflTransGen (MethodStep c) s s' ∧ ∃ ok, s'.main = .returned ok

section Returns

variable {c : Call} {s : Session}

theorem Session.CanReturn.of_step {s' : Session} (step : MethodStep c s s')
    (later : s'.CanReturn c) : s.CanReturn c :=
  let ⟨s'', path, returned⟩ := later
  ⟨s'', .head step path, returned⟩

theorem canReturn_of_step {s' : Session} (step : MethodStep c s s') {ok : Bool}
    (returned : s'.main = .returned ok) : s.CanReturn c :=
  ⟨s', .single step, ok, returned⟩

theorem canReturn_of_granted (main : s.main = .granted) : s.CanReturn c :=
  canReturn_of_step ⟨.returns main, by simp [main]⟩ rfl

theorem canReturn_of_reading (reach : Reachable c s) (main : s.main = .reading) :
    s.CanReturn c := by
  by_cases closed : s.closes = []
  · obtain ⟨-, conn⟩ := reach.live (by simp [main]) (by simp [main])
    obtain ⟨src, conn⟩ := Option.ne_none_iff_exists'.mp conn
    by_cases good : (Response.zero.readFrom src).err = none ∧
        (Response.zero.readFrom src).msg.isGranted = true
    · exact Session.CanReturn.of_step
        ⟨.granted main conn closed rfl good.1 good.2, by simp [main]⟩ (canReturn_of_granted rfl)
    · have bad : (Response.zero.readFrom src).err ≠ none ∨
          (Response.zero.readFrom src).msg.isGranted = false := by
        rw [← Bool.not_eq_true]; tauto
      exact canReturn_of_step ⟨.readFails main conn closed rfl bad, by simp [main]⟩ rfl
  · exact canReturn_of_step ⟨.readClosed main closed, by simp [main]⟩ rfl

theorem canReturn_of_sending (reach : Reachable c s) {req : Request} (main : s.main = .sending req) :
    s.CanReturn c := by
  obtain ⟨⟨src, out, dial⟩, -⟩ := reach.live (by simp [main]) (by simp [main])
  by_cases sends : s.closes = [] ∧ (req.writeTo out).err = none
  · have step : Step c s { s with main := .reading } := .sent main dial sends.1 sends.2
    exact Session.CanReturn.of_step ⟨step, by simp [main]⟩
      (canReturn_of_reading (reach.step step) rfl)
  · exact canReturn_of_step ⟨.sendFails main dial (by tauto), by simp [main]⟩ rfl

theorem canReturn_of_parsing (reach : Reachable c s) (main : s.main = .parsing) :
    s.CanReturn c := by
  cases target : c.target with
  | error e => exact canReturn_of_step ⟨.parseFails main target, by simp [main]⟩ rfl
  | ok hp =>
    have step := @Step.parsed c s hp.1 hp.2 main target
    exact Session.CanReturn.of_step ⟨step, by simp [main]⟩
      (canReturn_of_sending (reach.step step) rfl)

theorem canReturn_of_dialing (reach : Reachable c s) (main : s.main = .dialing) :
    s.CanReturn c := by
  cases dial : c.dial with
  | error e => exact canReturn_of_step ⟨.dialFails main dial, by simp [main]⟩ rfl
  | ok conn =>
    have step := @Step.dialed c s conn.1 conn.2 main dial
    exact Session.CanReturn.of_step ⟨step, by simp [main]⟩
      (canReturn_of_parsing (reach.step step) rfl)

end Returns

/-- **The method always can return on its own.** From every session of every
interleaving of a call, whatever the proxy answers and whatever the context
does, the method can run to its return on its own steps, with no step of the
watcher, of the second phase, of the caller or of the context: no state of
the method waits on another goroutine. -/
theorem Reachable.method_returns {c : Call} {s : Session} (reach : Reachable c s) :
    ∃ s', Relation.ReflTransGen (MethodStep c) s s' ∧ ∃ ok, s'.main = .returned ok := by
  cases main : s.main with
  | dialing => exact canReturn_of_dialing reach main
  | parsing => exact canReturn_of_parsing reach main
  | sending req => exact canReturn_of_sending reach main
  | reading => exact canReturn_of_reading reach main
  | granted => exact canReturn_of_granted main
  | returned ok => exact ⟨s, .refl, ok, main⟩

/-- A `DialContext` that has just dialed the proxy can return on its own. -/
theorem method_returns_after_dial :
    ∃ s, Reachable (Call.toProxy .connect [[0, 90, 0, 0, 0, 0, 0, 0]] (by decide)) s ∧
      s.main = .parsing ∧
      ∃ s', Relation.ReflTransGen (MethodStep (Call.toProxy .connect [[0, 90, 0, 0, 0, 0, 0, 0]]
        (by decide))) s s' ∧ ∃ ok, s'.main = .returned ok :=
  have reach := (Reachable.init (Call.toProxy .connect [[0, 90, 0, 0, 0, 0, 0, 0]]
    (by decide))).step (.dialed rfl rfl)
  ⟨_, reach, rfl, Reachable.method_returns reach⟩

/-! ## The second phase finishes -/

/-- The second phase can finish from the session `s`. -/
def Session.CanClose (c : Call) (s : Session) : Prop :=
  ∃ s', Relation.ReflTransGen (Step c) s s' ∧ ∃ resp2 err, s'.second = .done resp2 err

section Closes

variable {c : Call}

theorem Session.CanClose.of_step {s s' : Session} (step : Step c s s') (later : s'.CanClose c) :
    s.CanClose c :=
  let ⟨s'', path, done⟩ := later
  ⟨s'', .head step path, done⟩

/-- The sends still to come go through, each after the caller received the
value before it. -/
theorem canClose_of_sending {resp2 : Response} {err : Option Error} :
    ∀ (todo : List (Option ReadyError)) (s : Session), s.second = .sending resp2 err todo →
      s.CanClose c
  | [], s, second => ⟨_, .single (.closeReady second), _, _, rfl⟩
  | v :: todo, s, second => by
    by_cases room : s.ready.sent.length = s.ready.taken
    · exact Session.CanClose.of_step (.sendReady room second) (canClose_of_sending todo _ rfl)
    · have buffered : s.ready.taken < s.ready.sent.length := by
        have := s.ready.taken_le; omega
      have room' : s.ready.sent.length = s.ready.taken + 1 := by
        have := s.ready.buffered_le; omega
      exact Session.CanClose.of_step (.receive buffered) (Session.CanClose.of_step
        (@Step.sendReady c { s with ready := s.ready.receive buffered } _ _ _ _ room' second)
        (canClose_of_sending todo _ rfl))

end Closes

/-- **The second phase can always finish when the caller receives.** From
every session of every interleaving of a call whose second phase has
started, some interleaving in which the caller receives each value sent on
`readyCh` closes it: the second phase reads the second reply, or finds the
connection closed, and sends each value once the caller has taken the one
before. -/
theorem Reachable.second_finishes {c : Call} {s : Session} (reach : Reachable c s)
    (started : s.second ≠ .notStarted) :
    ∃ s', Relation.ReflTransGen (Step c) s s' ∧ ∃ resp2 err, s'.second = .done resp2 err := by
  cases second : s.second with
  | notStarted => exact absurd second started
  | sending resp2 err todo => exact canClose_of_sending todo s second
  | done resp2 err => exact ⟨s, .refl, resp2, err, second⟩
  | reading =>
    by_cases closed : s.closes = []
    · have past := reach.safe.started started
      obtain ⟨-, conn⟩ := reach.live (by rcases past with main | main <;> simp [main])
        (by rcases past with main | main <;> simp [main])
      obtain ⟨src, conn⟩ := Option.ne_none_iff_exists'.mp conn
      have step : Step c s _ := .readSecond second conn closed rfl
      exact Session.CanClose.of_step step (canClose_of_sending _ _ rfl)
    · have step : Step c s _ := .readSecondClosed second closed
      exact Session.CanClose.of_step step (canClose_of_sending _ _ rfl)

/-- A `BindContext` past its granted first reply, before the second reply is
read: the second phase can close `readyCh`. -/
theorem second_finishes_after_grant :
    ∃ s, Reachable
        (Call.toProxy .bind [[0, 90, 0, 0, 0, 0, 0, 0], [0, 91, 0, 0, 0, 0, 0, 0]] (by decide)) s ∧
      s.second = .reading ∧
      ∃ s', Relation.ReflTransGen (Step (Call.toProxy .bind
        [[0, 90, 0, 0, 0, 0, 0, 0], [0, 91, 0, 0, 0, 0, 0, 0]] (by decide))) s s' ∧
        ∃ resp2 err, s'.second = .done resp2 err :=
  have reach := ((((Reachable.init (Call.toProxy .bind
    [[0, 90, 0, 0, 0, 0, 0, 0], [0, 91, 0, 0, 0, 0, 0, 0]] (by decide))).step
    (.dialed rfl rfl)).step (.parsed rfl rfl)).step (.sent rfl rfl rfl (by decide))).step
    (.granted rfl rfl rfl rfl (by decide) (by decide))
  ⟨_, reach, rfl, Reachable.second_finishes reach (by decide)⟩

end Socks.Socks4
