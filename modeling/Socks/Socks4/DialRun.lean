import Mathlib.Logic.Relation
import Socks.Socks4.Dial
import Socks.Socks4.Response

/-!
# The dialer's goroutines

`Dialer.DialContext` and `Dialer.BindContext` (`socks4/dial.go`) run next to
other goroutines. Once the proxy is dialed, a watcher `select`s between
`ctx.Done()`, on which it closes the proxy connection, and `exitCh`, which the
deferred `close(exitCh)` closes when the method returns. After a granted first
reply, `BindContext` starts a second phase that reads the second reply and
reports on `readyCh`, a channel of capacity one, before it closes it.

A `Session` holds where each goroutine is, whether the context is done, the
proxy connection and every `Close` made on it, and `readyCh`. `Step` is one
step of one goroutine, of the caller receiving from `readyCh`, or the
cancellation of the context, so every interleaving of one call is a path of
`Step`s from `Session.init`, and `Reachable` holds of the sessions on one.

* `Reachable.safe`: every reachable session satisfies `Session.Safe`, proved
  by one case per step (`Session.Safe.step`).
* `dialer_closes_on_failure`: a method that returned an error has closed the
  connection it opened; one that returned a connection has not closed it, and
  its watcher closed it only if the context was cancelled.
* `second_done_needs_receives`: the second phase closes `readyCh` only when
  the caller has received all but one of its values, so after a failed read
  of a reply that is not granted a caller that receives once leaves it blocked.
* `closes_stable`: once the method returned and the watcher left its
  `select`, no step closes the connection.
-/

namespace Socks.Socks4

/-! ## Calls -/

/-- The dialer method that runs: `DialContext` or `BindContext`. -/
inductive Op
  | connect
  | bind
  deriving DecidableEq, Repr

/-- The command each method sends. -/
def Op.command : Op → UInt8
  | .connect => cmdConnect
  | .bind => cmdBind

/-- One call of a dialer method with what its environment answers: `dialFunc`
(the proxy's replies and the writer to the proxy, or an error),
`net.SplitHostPort` with `parsePort` (the host and port, or an error), and
`net.ParseIP(host)`. -/
structure Call where
  op : Op
  userID : Bytes
  dial : Except Error (Source × Sink)
  target : Except Error (Bytes × UInt16)
  parsed : NetIP

/-! ## `readyCh` -/

/-- The errors the second phase sends: a failed read of the second reply
(`read second BIND response: %w`) and a second reply that is not granted
(`proxy rejected BIND finalization`). -/
inductive ReadyError
  | readSecond (e : Error)
  | rejected (code : UInt8)
  deriving DecidableEq, Repr

/-- What the second phase sends on `readyCh` after `resp2.ReadFrom` left `resp2`
and returned `err`: the read error, then the rejection when `resp2` is not
granted, then `nil`. No branch returns, so each falls through to the next
send. -/
def readySends (resp2 : Response) (err : Option Error) : List (Option ReadyError) :=
  (match err with
    | some e => [some (.readSecond e)]
    | none => []) ++
  (if resp2.isGranted then [] else [some (.rejected resp2.code)]) ++ [none]

/-- `nil` is the last value sent, whatever the second reply. -/
theorem getLast_readySends (resp2 : Response) (err : Option Error) :
    (readySends resp2 err).getLast? = some none := by
  simp [readySends]

/-- One value is sent exactly when the second reply was read without error and
is granted. -/
theorem length_readySends_eq_one (resp2 : Response) (err : Option Error) :
    (readySends resp2 err).length = 1 ↔ err = none ∧ resp2.isGranted = true := by
  cases err <;> cases granted : resp2.isGranted <;> simp [readySends, granted]

/-- `readyCh`: what was sent on it, how much of that the caller received, and
whether it is closed. Its capacity of one is part of the type: at most one
value is sent and not yet received. -/
structure ReadyChan where
  sent : List (Option ReadyError)
  taken : Nat
  closed : Bool
  taken_le : taken ≤ sent.length
  buffered_le : sent.length ≤ taken + 1

namespace ReadyChan

/-- `make(chan error, 1)`. -/
def empty : ReadyChan := ⟨[], 0, false, le_rfl, Nat.zero_le 1⟩

/-- `readyCh <- v`, which proceeds when the buffer is empty. -/
def send (ch : ReadyChan) (v : Option ReadyError) (room : ch.sent.length = ch.taken) : ReadyChan :=
  ⟨ch.sent ++ [v], ch.taken, ch.closed, by simp; omega, by simp; omega⟩

/-- `<-readyCh`, which proceeds when a value is buffered. -/
def receive (ch : ReadyChan) (buffered : ch.taken < ch.sent.length) : ReadyChan :=
  ⟨ch.sent, ch.taken + 1, ch.closed, buffered, by have := ch.buffered_le; omega⟩

/-- `close(readyCh)`. -/
def close (ch : ReadyChan) : ReadyChan := { ch with closed := true }

/-- The values the caller received, in order. -/
def received (ch : ReadyChan) : List (Option ReadyError) := ch.sent.take ch.taken

@[simp] theorem sent_send (ch : ReadyChan) (v : Option ReadyError) (room) :
    (ch.send v room).sent = ch.sent ++ [v] := rfl
@[simp] theorem closed_send (ch : ReadyChan) (v : Option ReadyError) (room) :
    (ch.send v room).closed = ch.closed := rfl
@[simp] theorem sent_receive (ch : ReadyChan) (buffered) : (ch.receive buffered).sent = ch.sent :=
  rfl
@[simp] theorem closed_receive (ch : ReadyChan) (buffered) :
    (ch.receive buffered).closed = ch.closed := rfl
@[simp] theorem sent_close (ch : ReadyChan) : ch.close.sent = ch.sent := rfl
@[simp] theorem closed_close (ch : ReadyChan) : ch.close.closed = true := rfl
@[simp] theorem sent_empty : empty.sent = [] := rfl
@[simp] theorem closed_empty : empty.closed = false := rfl

end ReadyChan

/-! ## Sessions -/

/-- Where the dialer method is: dialing the proxy, parsing the target, sending
the request, reading the (first) reply, past a granted reply, or returned
(`ok` when the error is nil). -/
inductive Main
  | dialing
  | parsing
  | sending (req : Request)
  | reading
  | granted
  | returned (ok : Bool)
  deriving DecidableEq, Repr

/-- Where the watcher is: not started, in its `select`, or gone after closing
the connection or after seeing `exitCh` closed. -/
inductive Watcher
  | notStarted
  | selecting
  | closedConn
  | exited
  deriving DecidableEq, Repr

/-- Where the second phase of `BindContext` is: not started, reading the second
reply, sending `todo` after its read left `resp2` and `err`, or gone after
closing `readyCh`. -/
inductive Second
  | notStarted
  | reading
  | sending (resp2 : Response) (err : Option Error) (todo : List (Option ReadyError))
  | done (resp2 : Response) (err : Option Error)
  deriving DecidableEq, Repr

/-- The sends still to come. -/
def Second.pending : Second → List (Option ReadyError)
  | .sending _ _ todo => todo
  | _ => []

/-- Every send of the second phase, once it has read the second reply. -/
def Second.planned : Second → List (Option ReadyError)
  | .sending resp2 err _ => readySends resp2 err
  | .done resp2 err => readySends resp2 err
  | _ => []

@[simp] theorem Second.pending_notStarted : Second.notStarted.pending = [] := rfl
@[simp] theorem Second.pending_reading : Second.reading.pending = [] := rfl
@[simp] theorem Second.pending_sending (resp2 : Response) (err : Option Error) (todo) :
    (Second.sending resp2 err todo).pending = todo := rfl
@[simp] theorem Second.pending_done (resp2 : Response) (err : Option Error) :
    (Second.done resp2 err).pending = [] := rfl
@[simp] theorem Second.planned_notStarted : Second.notStarted.planned = [] := rfl
@[simp] theorem Second.planned_reading : Second.reading.planned = [] := rfl
@[simp] theorem Second.planned_sending (resp2 : Response) (err : Option Error) (todo) :
    (Second.sending resp2 err todo).planned = readySends resp2 err := rfl
@[simp] theorem Second.planned_done (resp2 : Response) (err : Option Error) :
    (Second.done resp2 err).planned = readySends resp2 err := rfl

/-- The second phase after a granted first reply: `BindContext` starts it,
`DialContext` has none. -/
def Op.second : Op → Second
  | .connect => .notStarted
  | .bind => .reading

@[simp] theorem Op.pending_second (op : Op) : op.second.pending = [] := by cases op <;> rfl
@[simp] theorem Op.planned_second (op : Op) : op.second.planned = [] := by cases op <;> rfl
@[simp] theorem Op.second_ne_done (op : Op) (resp2 : Response) (err : Option Error) :
    op.second ≠ .done resp2 err := by cases op <;> simp [Op.second]

/-- Who called `proxyConn.Close()`. -/
inductive Closer
  | dialer
  | watcher
  deriving DecidableEq, Repr

/-- The goroutines of one call, its context, the proxy connection (what it
still has to deliver) with every `Close` made on it in order, and
`readyCh`. -/
structure Session where
  main : Main
  watcher : Watcher
  second : Second
  ctxDone : Bool
  conn : Option Source
  closes : List Closer
  ready : ReadyChan

/-- A call that has not dialed yet. -/
def Session.init : Session := ⟨.dialing, .notStarted, .notStarted, false, none, [], .empty⟩

/-- A failure path of the method: `proxyConn.Close()`, then the return of an
error. -/
def Session.fail (s : Session) : Session :=
  { s with main := .returned false, closes := s.closes ++ [.dialer] }

@[simp] theorem Session.fail_main (s : Session) : s.fail.main = .returned false := rfl
@[simp] theorem Session.fail_closes (s : Session) : s.fail.closes = s.closes ++ [.dialer] := rfl
@[simp] theorem Session.fail_watcher (s : Session) : s.fail.watcher = s.watcher := rfl
@[simp] theorem Session.fail_second (s : Session) : s.fail.second = s.second := rfl
@[simp] theorem Session.fail_ctxDone (s : Session) : s.fail.ctxDone = s.ctxDone := rfl
@[simp] theorem Session.fail_conn (s : Session) : s.fail.conn = s.conn := rfl
@[simp] theorem Session.fail_ready (s : Session) : s.fail.ready = s.ready := rfl

/-- One step of one goroutine of the call `c`, of its caller, or of its
context. -/
inductive Step (c : Call) : Session → Session → Prop
  | dialFails {s : Session} {e : Error} :
    s.main = .dialing → c.dial = .error e → Step c s { s with main := .returned false }
  | dialed {s : Session} {src : Source} {out : Sink} :
    s.main = .dialing → c.dial = .ok (src, out) →
    Step c s { s with main := .parsing, conn := some src, watcher := .selecting }
  | parseFails {s : Session} {e : Error} :
    s.main = .parsing → c.target = .error e → Step c s s.fail
  | parsed {s : Session} {host : Bytes} {port : UInt16} :
    s.main = .parsing → c.target = .ok (host, port) →
    Step c s { s with main := .sending (dialRequest c.op.command host port c.parsed c.userID) }
  | sendFails {s : Session} {req : Request} {src : Source} {out : Sink} :
    s.main = .sending req → c.dial = .ok (src, out) →
    s.closes ≠ [] ∨ (req.writeTo out).err ≠ none → Step c s s.fail
  | sent {s : Session} {req : Request} {src : Source} {out : Sink} :
    s.main = .sending req → c.dial = .ok (src, out) → s.closes = [] →
    (req.writeTo out).err = none → Step c s { s with main := .reading }
  | readClosed {s : Session} : s.main = .reading → s.closes ≠ [] → Step c s s.fail
  | readFails {s : Session} {src : Source} {d : Decoded Response} :
    s.main = .reading → s.conn = some src → s.closes = [] → Response.zero.readFrom src = d →
    d.err ≠ none ∨ d.msg.isGranted = false → Step c s { s.fail with conn := some d.rest }
  | granted {s : Session} {src : Source} {d : Decoded Response} :
    s.main = .reading → s.conn = some src → s.closes = [] → Response.zero.readFrom src = d →
    d.err = none → d.msg.isGranted = true →
    Step c s { s with main := .granted, conn := some d.rest, second := c.op.second }
  | returns {s : Session} : s.main = .granted → Step c s { s with main := .returned true }
  | cancel {s : Session} : s.ctxDone = false → Step c s { s with ctxDone := true }
  | watchDone {s : Session} :
    s.watcher = .selecting → s.ctxDone = true →
    Step c s { s with watcher := .closedConn, closes := s.closes ++ [.watcher] }
  | watchExit {s : Session} {ok : Bool} :
    s.watcher = .selecting → s.main = .returned ok → Step c s { s with watcher := .exited }
  | readSecond {s : Session} {src : Source} {d : Decoded Response} :
    s.second = .reading → s.conn = some src → s.closes = [] → Response.zero.readFrom src = d →
    Step c s { s with
      second := .sending d.msg d.err (readySends d.msg d.err), conn := some d.rest }
  | readSecondClosed {s : Session} :
    s.second = .reading → s.closes ≠ [] →
    Step c s { s with
      second := .sending Response.zero (some .closed) (readySends Response.zero (some .closed)) }
  | sendReady {s : Session} {resp2 : Response} {err : Option Error} {v : Option ReadyError}
    {todo : List (Option ReadyError)} (room : s.ready.sent.length = s.ready.taken) :
    s.second = .sending resp2 err (v :: todo) →
    Step c s { s with second := .sending resp2 err todo, ready := s.ready.send v room }
  | closeReady {s : Session} {resp2 : Response} {err : Option Error} :
    s.second = .sending resp2 err [] →
    Step c s { s with second := .done resp2 err, ready := s.ready.close }
  | receive {s : Session} (buffered : s.ready.taken < s.ready.sent.length) :
    Step c s { s with ready := s.ready.receive buffered }

/-- The sessions some interleaving of the call `c` reaches. -/
def Reachable (c : Call) (s : Session) : Prop := Relation.ReflTransGen (Step c) Session.init s

/-! ## The invariant -/

/-- What holds of every reachable session. -/
structure Session.Safe (s : Session) : Prop where
  dialing : s.main = .dialing → s.conn = none ∧ s.closes = [] ∧ s.watcher = .notStarted
  started : s.second ≠ .notStarted → s.main = .granted ∨ s.main = .returned true
  dialerCloses : .dialer ∈ s.closes → s.main = .returned false
  watcherCloses : .watcher ∈ s.closes → s.ctxDone = true
  failedClosed : s.main = .returned false → s.conn ≠ none → .dialer ∈ s.closes
  sends : s.ready.sent ++ s.second.pending = s.second.planned
  closedDone : s.ready.closed = true → ∃ resp2 err, s.second = .done resp2 err

theorem Session.safe_init : Session.init.Safe where
  dialing _ := ⟨rfl, rfl, rfl⟩
  started h := absurd rfl h
  dialerCloses h := absurd h (List.not_mem_nil _)
  watcherCloses h := absurd h (List.not_mem_nil _)
  failedClosed h := absurd h (by simp [Session.init])
  sends := rfl
  closedDone h := absurd h (by simp [Session.init])

namespace Step

/-! One lemma per field of `Session.Safe`: what every step keeps of it, from
the fields it rests on. -/

variable {c : Call} {s s' : Session}

theorem safe_dialing (step : Step c s s') (safe : s.Safe) :
    s'.main = .dialing → s'.conn = none ∧ s'.closes = [] ∧ s'.watcher = .notStarted := by
  have dialing := safe.dialing
  have started := safe.started
  cases step <;> simp_all

theorem safe_started (step : Step c s s') (safe : s.Safe) :
    s'.second ≠ .notStarted → s'.main = .granted ∨ s'.main = .returned true := by
  have started := safe.started
  cases step <;> simp_all

theorem safe_dialerCloses (step : Step c s s') (safe : s.Safe) :
    .dialer ∈ s'.closes → s'.main = .returned false := by
  have dialing := safe.dialing
  have dialerCloses := safe.dialerCloses
  cases step <;> simp_all

theorem safe_watcherCloses (step : Step c s s') (safe : s.Safe) :
    .watcher ∈ s'.closes → s'.ctxDone = true := by
  have watcherCloses := safe.watcherCloses
  cases step <;> simp_all

theorem safe_failedClosed (step : Step c s s') (safe : s.Safe) :
    s'.main = .returned false → s'.conn ≠ none → .dialer ∈ s'.closes := by
  have dialing := safe.dialing
  have failedClosed := safe.failedClosed
  cases step <;> simp_all

theorem safe_sends (step : Step c s s') (safe : s.Safe) :
    s'.ready.sent ++ s'.second.pending = s'.second.planned := by
  have started := safe.started
  have sends := safe.sends
  cases step <;> simp_all

theorem safe_closedDone (step : Step c s s') (safe : s.Safe) :
    s'.ready.closed = true → ∃ resp2 err, s'.second = .done resp2 err := by
  have started := safe.started
  have closedDone := safe.closedDone
  cases step <;> simp_all

end Step

/-- Each step keeps the invariant. -/
theorem Session.Safe.step {c : Call} {s s' : Session} (safe : s.Safe) (step : Step c s s') :
    s'.Safe :=
  ⟨step.safe_dialing safe, step.safe_started safe, step.safe_dialerCloses safe,
    step.safe_watcherCloses safe, step.safe_failedClosed safe, step.safe_sends safe,
    step.safe_closedDone safe⟩

theorem Reachable.safe {c : Call} {s : Session} (reach : Reachable c s) : s.Safe := by
  induction reach with
  | refl => exact Session.safe_init
  | tail _ step safe => exact safe.step step

theorem Reachable.init (c : Call) : Reachable c Session.init := .refl

theorem Reachable.step {c : Call} {s s' : Session} (reach : Reachable c s) (step : Step c s s') :
    Reachable c s' :=
  .tail reach step

/-- A call for the target `host:80`, which is no IP literal, with an empty
user ID, to a proxy that accepts every write and sends `replies`. -/
def Call.toProxy (op : Op) (replies : List Bytes) (ne : ∀ r ∈ replies, r ≠ []) : Call :=
  ⟨op, [], .ok (⟨replies, .eof, ne⟩, Sink.accepting []), .ok ([104, 111, 115, 116], 80), none⟩

/-! ## Closing the proxy connection -/

/-- **Closing on failure.** On every interleaving of a call with the
cancellation of its context: when the method has returned an error, it has
closed the proxy connection if it opened one; when it has returned the
connection, it has not closed it, and its watcher has closed it only if the
context was cancelled. -/
theorem dialer_closes_on_failure {c : Call} {s : Session} (reach : Reachable c s) :
    (s.main = .returned false → s.conn ≠ none → .dialer ∈ s.closes) ∧
      (s.main = .returned true → .dialer ∉ s.closes ∧ (.watcher ∈ s.closes → s.ctxDone = true)) :=
  have safe := reach.safe
  ⟨safe.failedClosed,
    fun ok => ⟨fun mem => by simp [safe.dialerCloses mem] at ok, safe.watcherCloses⟩⟩

/-- A target that does not parse: the method closes the connection it opened
and returns the error. -/
theorem dialer_closes_on_bad_target :
    ∃ s, Reachable ⟨.connect, [], .ok (⟨[], .eof, by simp⟩, Sink.accepting []), .error (.fault 0),
        none⟩ s ∧
      s.main = .returned false ∧ s.conn ≠ none ∧ .dialer ∈ s.closes :=
  have reach := ((Reachable.init ⟨.connect, [], .ok (⟨[], .eof, by simp⟩, Sink.accepting []),
    .error (.fault 0), none⟩).step (.dialed rfl rfl)).step (.parseFails rfl rfl)
  ⟨_, reach, rfl, by simp [Session.fail],
    (dialer_closes_on_failure reach).1 rfl (by simp [Session.fail])⟩

/-- The watcher can close a connection `DialContext` has returned: the context
is cancelled after the granted reply, and the watcher's `select` takes
`ctx.Done()` although `exitCh` is closed as well. -/
theorem dialContext_watcher_closes_returned_conn :
    ∃ s, Reachable (Call.toProxy .connect [[0, 90, 0, 0, 0, 0, 0, 0]] (by decide)) s ∧
      s.main = .returned true ∧ s.closes = [.watcher] :=
  ⟨_, ((((((((Reachable.init (Call.toProxy .connect [[0, 90, 0, 0, 0, 0, 0, 0]] (by decide))).step
    (.dialed rfl rfl)).step (.parsed rfl rfl)).step (.sent rfl rfl rfl (by decide))).step
    (.granted rfl rfl rfl rfl (by decide) (by decide))).step (.returns rfl)).step
    (.cancel rfl)).step (.watchDone rfl rfl)), rfl, rfl⟩

/-! ## `readyCh` -/

/-- A `BindContext` whose second reply is valid but rejected, run until the
second phase closes `readyCh`, the caller having received once. -/
theorem reachable_second_rejected :
    ∃ s, Reachable
        (Call.toProxy .bind [[0, 90, 0, 0, 0, 0, 0, 0], [0, 91, 0, 0, 0, 0, 0, 0]] (by decide)) s ∧
      s.ready.closed = true ∧ s.ready.taken = 1 ∧ ∃ resp2, s.second = .done resp2 none :=
  ⟨_, (((((((((((Reachable.init (Call.toProxy .bind
    [[0, 90, 0, 0, 0, 0, 0, 0], [0, 91, 0, 0, 0, 0, 0, 0]] (by decide))).step
    (.dialed rfl rfl)).step (.parsed rfl rfl)).step
    (.sent rfl rfl rfl (by decide))).step (.granted rfl rfl rfl rfl (by decide) (by decide))).step
    (.returns rfl)).step (.readSecond rfl rfl rfl rfl)).step (.sendReady rfl rfl)).step
    (.receive (by decide))).step (.sendReady rfl rfl)).step (.closeReady rfl)), rfl, rfl, _, rfl⟩

/-- **The second phase waits for the caller.** On every interleaving, the
second phase of `BindContext` has closed `readyCh` only when the caller has
received all but one of the values it sends. After a failed read of a reply
that is not granted it sends three values, so a caller that receives once, as
a caller of a channel that carries one result does, leaves it blocked on its
last send: it never closes `readyCh` and keeps the proxy connection. -/
theorem second_done_needs_receives {c : Call} {s : Session} (reach : Reachable c s)
    {resp2 : Response} {err : Option Error} (done : s.second = .done resp2 err) :
    (readySends resp2 err).length ≤ s.ready.taken + 1 ∧
      (err ≠ none → resp2.isGranted = false → 2 ≤ s.ready.taken) := by
  have sends := reach.safe.sends
  rw [done, Second.pending_done, Second.planned_done, List.append_nil] at sends
  have bound := s.ready.buffered_le
  rw [sends] at bound
  refine ⟨bound, fun failed rejected => ?_⟩
  obtain ⟨e, rfl⟩ := Option.ne_none_iff_exists'.mp failed
  simp [readySends, rejected] at bound
  omega

/-- A rejected second reply: two values are sent, and the second phase closes
`readyCh` once the caller has received the first. -/
theorem second_done_after_one_receive :
    ∃ s, Reachable
        (Call.toProxy .bind [[0, 90, 0, 0, 0, 0, 0, 0], [0, 91, 0, 0, 0, 0, 0, 0]] (by decide)) s ∧
      s.ready.taken = 1 ∧ ∃ resp2 err, s.second = .done resp2 err ∧
        (readySends resp2 err).length ≤ s.ready.taken + 1 ∧
        (err ≠ none → resp2.isGranted = false → 2 ≤ s.ready.taken) :=
  let ⟨_, reach, _, taken, resp2, done⟩ := reachable_second_rejected
  ⟨_, reach, taken, resp2, none, done, second_done_needs_receives reach done⟩

/-- A second reply that is valid but rejected: the second phase sends the
rejection, then `nil`, then closes `readyCh`. -/
theorem bindContext_sends_rejection_then_nil :
    ∃ s, Reachable
        (Call.toProxy .bind [[0, 90, 0, 0, 0, 0, 0, 0], [0, 91, 0, 0, 0, 0, 0, 0]] (by decide)) s ∧
      s.ready.closed = true ∧ s.ready.sent = [some (.rejected 91), none] :=
  ⟨_, ((((((((((Reachable.init (Call.toProxy .bind
    [[0, 90, 0, 0, 0, 0, 0, 0], [0, 91, 0, 0, 0, 0, 0, 0]] (by decide))).step
    (.dialed rfl rfl)).step (.parsed rfl rfl)).step
    (.sent rfl rfl rfl (by decide))).step (.granted rfl rfl rfl rfl (by decide) (by decide))).step
    (.returns rfl)).step (.readSecond rfl rfl rfl rfl)).step (.sendReady rfl rfl)).step
    (.receive (by decide))).step (.sendReady rfl rfl)).step (.closeReady rfl), rfl, rfl⟩

/-! ## After the return -/

/-- A step after the method returned, with the watcher out of its `select`,
changes neither of them nor the closes. -/
theorem Step.frame_of_returned {c : Call} {s s' : Session} (step : Step c s s') {ok : Bool}
    (ret : s.main = .returned ok) (out : s.watcher ≠ .selecting) :
    s'.main = s.main ∧ s'.watcher = s.watcher ∧ s'.closes = s.closes := by
  cases step <;> simp_all

/-- No close after the watcher left. Once the method has returned and its
watcher has left its `select`, no interleaving closes the connection: a later
cancellation of the context is not acted on. -/
theorem closes_stable {c : Call} {s s' : Session} {ok : Bool} (ret : s.main = .returned ok)
    (out : s.watcher ≠ .selecting) (path : Relation.ReflTransGen (Step c) s s') :
    s'.closes = s.closes := by
  suffices s'.main = s.main ∧ s'.watcher = s.watcher ∧ s'.closes = s.closes from this.2.2
  induction path with
  | refl => exact ⟨rfl, rfl, rfl⟩
  | tail _ step ih =>
    obtain ⟨main, watcher, closes⟩ := ih
    obtain ⟨main', watcher', closes'⟩ :=
      step.frame_of_returned (main.trans ret) (watcher ▸ out)
    exact ⟨main'.trans main, watcher'.trans watcher, closes'.trans closes⟩

/-- `DialContext` returned the connection and the watcher saw `exitCh`
closed: a later cancellation closes nothing. -/
theorem closes_stable_after_exit :
    ∃ s s', Reachable (Call.toProxy .connect [[0, 90, 0, 0, 0, 0, 0, 0]] (by decide)) s ∧
      Relation.ReflTransGen (Step (Call.toProxy .connect [[0, 90, 0, 0, 0, 0, 0, 0]] (by decide)))
        s s' ∧ s'.ctxDone = true ∧ s'.closes = s.closes :=
  ⟨_, _, (((((((Reachable.init (Call.toProxy .connect [[0, 90, 0, 0, 0, 0, 0, 0]] (by decide))).step
    (.dialed rfl rfl)).step (.parsed rfl rfl)).step (.sent rfl rfl rfl (by decide))).step
    (.granted rfl rfl rfl rfl (by decide) (by decide))).step (.returns rfl)).step
    (.watchExit rfl rfl)), .single (.cancel rfl), rfl,
    @closes_stable (Call.toProxy .connect [[0, 90, 0, 0, 0, 0, 0, 0]] (by decide)) _ _ _ rfl
      (by decide) (.single (.cancel rfl))⟩

/-- `BindContext` returned the tunnel and the watcher saw `exitCh` closed;
the context is cancelled before the second reply is read. The connection is
never closed, and the caller receives `nil` from `readyCh`. -/
theorem bindContext_cancel_after_return_delivers_nil :
    ∃ s₁ s₂,
      Reachable (Call.toProxy .bind [[0, 90, 0, 0, 0, 0, 0, 0], [0, 90, 0, 0, 0, 0, 0, 0]] (by decide))
        s₁ ∧ s₁.main = .returned true ∧ s₁.ctxDone = false ∧ s₁.second = .reading ∧
      Relation.ReflTransGen
        (Step (Call.toProxy .bind [[0, 90, 0, 0, 0, 0, 0, 0], [0, 90, 0, 0, 0, 0, 0, 0]] (by decide)))
        s₁ s₂ ∧
      s₂.ctxDone = true ∧ s₂.closes = [] ∧ s₂.ready.received = [none] :=
  ⟨_, _, (((((Reachable.init (Call.toProxy .bind
    [[0, 90, 0, 0, 0, 0, 0, 0], [0, 90, 0, 0, 0, 0, 0, 0]] (by decide))).step
    (.dialed rfl rfl)).step (.parsed rfl rfl)).step
    (.sent rfl rfl rfl (by decide))).step (.granted rfl rfl rfl rfl (by decide) (by decide))).step
    (.returns rfl), rfl, rfl, rfl,
    .tail (.tail (.tail (.tail (.single (.watchExit rfl rfl)) (.cancel rfl))
      (.readSecond rfl rfl rfl rfl)) (.sendReady rfl rfl)) (.receive (by decide)),
    rfl, rfl, rfl⟩

end Socks.Socks4
