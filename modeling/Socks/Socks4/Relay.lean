import Mathlib.Logic.Relation
import Socks.Socks4.Listen

/-!
# The relay of `OnConnectDefault`

After the granted reply, `OnConnectDefault` starts two goroutines, one running
`io.Copy(target, conn)` and one `io.Copy(conn, target)`, each sending its
error on `errc := make(chan error, 2)`, and returns whichever comes first of
`ctx.Err()`, once the context is done, and a value received from `errc`. On
its return the deferred `target.Close()` closes the target, and the
listener's goroutine then closes the client connection: a copy still running
fails on its next read or write of a closed connection.

A `Pipe` is one copy goroutine with the writer and the reader it copies
between, and `Pipe.Step` one read or one write of the loop of `io.Copy`. A
`Relay` holds the two pipes, which connections are closed, the values sent on
`errc`, the context, and what the handler returned; `Relay.Step` is a step of
a pipe, a send on `errc`, a step of the handler's `select`, one of the two
closes, or the cancellation of the context. What `io.Copy` adds around its
loop's error is a parameter per direction, `wrapUp` and `wrapDown`: a
`*net.TCPConn` runs the loop inside its `ReadFrom` or `WriteTo`, which wrap
the error in a `*net.OpError`.

* `Pipe.runs`: a pipe run alone with both connections open ends as `ioCopy`
  does; so `onConnectDefault`, which runs each copy to its end, is one run of
  the relay (`onConnectDefault_run`, `handleConn_run`).
* `Relay.Reachable.copiers_finish`: from every reachable relay, both copy
  goroutines run to their end with no step of the handler, so none is left
  behind.
* `Relay.Reachable.result`: the handler returns `ctx.Err()` or what one of
  the two `io.Copy` calls returns when it runs to its end, never an error
  caused by its own closes.
* `Relay.Reachable.delivers`: on every interleaving, each end has received a
  prefix of what the other sent, and all of it once its copy returned before
  the handler closed the target.
-/

namespace Socks.Socks4

/-! ## One copy goroutine -/

/-- Where a copy goroutine is. -/
inductive Copier where
  /-- In the loop of `io.Copy`, about to read. -/
  | reading
  /-- It read `data`, which it writes next. -/
  | writing (data : Bytes)
  /-- `io.Copy` returned `err`, and `errc <- err` is next. -/
  | sending (err : Option Error)
  /-- Its send of `err` went through. -/
  | done (err : Option Error)
  deriving DecidableEq, Repr

/-- How many values a copy goroutine has sent on `errc`. -/
def Copier.sentCount : Copier → Nat
  | .done _ => 1
  | _ => 0

/-- Whether `io.Copy` has returned. -/
def Copier.returned : Copier → Bool
  | .sending _ | .done _ => true
  | _ => false

/-- Where the loop goes after `dst.Write(data)` returned `w`: on, when it took
every byte without error, and out of `io.Copy` otherwise. -/
def Copier.afterWrite (wrap : Error → Error) (data : Bytes) (w : Wrote) : Copier :=
  match w.err with
  | some e => .sending (some (wrap e))
  | none => if data.length ≠ w.n then .sending (some (wrap .shortWrite)) else .reading

/-- A goroutine running `io.Copy(dst, src)`, with the writer and the reader. -/
structure Pipe where
  stage : Copier
  dst : Sink
  src : Source

namespace Pipe

/-- One step of the loop of `io.Copy(dst, src)`: `wrap` is what the call adds
to the loop's error, and `srcClosed` and `dstClosed` say whether the two
connections are closed, a read or a write of a closed one failing with
`net.ErrClosed`. -/
inductive Step (wrap : Error → Error) (srcClosed dstClosed : Bool) : Pipe → Pipe → Prop
  /-- `src.Read(buf)` returns bytes. -/
  | read {p : Pipe} (reading : p.stage = .reading) (opened : srcClosed = false)
      (took : (p.src.read copyBufferSize).data ≠ []) :
      Step wrap srcClosed dstClosed p
        ⟨.writing (p.src.read copyBufferSize).data, p.dst, (p.src.read copyBufferSize).rest⟩
  /-- `src.Read(buf)` returns the end of the stream: `io.Copy` returns, with
  nil for `io.EOF`. -/
  | readEnd {p : Pipe} (reading : p.stage = .reading) (opened : srcClosed = false)
      (ended : (p.src.read copyBufferSize).data = []) :
      Step wrap srcClosed dstClosed p
        ⟨.sending ((if (p.src.read copyBufferSize).err = some .eof then none
          else (p.src.read copyBufferSize).err).map wrap), p.dst, (p.src.read copyBufferSize).rest⟩
  /-- A read of the closed connection fails. -/
  | readClosed {p : Pipe} (reading : p.stage = .reading) (closed : srcClosed = true) :
      Step wrap srcClosed dstClosed p { p with stage := .sending (some (wrap .closed)) }
  /-- `dst.Write(data)`. -/
  | write {p : Pipe} {data : Bytes} (writing : p.stage = .writing data)
      (opened : dstClosed = false) :
      Step wrap srcClosed dstClosed p
        ⟨Copier.afterWrite wrap data (p.dst.write data), (p.dst.write data).dst, p.src⟩
  /-- A write to the closed connection fails. -/
  | writeClosed {p : Pipe} {data : Bytes} (writing : p.stage = .writing data)
      (closed : dstClosed = true) :
      Step wrap srcClosed dstClosed p { p with stage := .sending (some (wrap .closed)) }

/-- How `io.Copy` ends when the pipe runs alone with both connections open:
its error passed through `wrap`, the writer and the reader. -/
def finish (wrap : Error → Error) (p : Pipe) : Option Error × Sink × Source :=
  match p.stage with
  | .reading => (ioCopy p.dst p.src).ends wrap
  | .writing data =>
    match Copier.afterWrite wrap data (p.dst.write data) with
    | .sending e => (e, (p.dst.write data).dst, p.src)
    | _ => (ioCopy (p.dst.write data).dst p.src).ends wrap
  | .sending e | .done e => (e, p.dst, p.src)

variable {wrap : Error → Error}

/-- A write goes on with the loop or returns from `io.Copy`. -/
theorem afterWrite_cases (data : Bytes) (w : Wrote) :
    Copier.afterWrite wrap data w = .reading ∨ ∃ e, Copier.afterWrite wrap data w = .sending e := by
  unfold Copier.afterWrite
  split
  · exact .inr ⟨_, rfl⟩
  · split
    · exact .inr ⟨_, rfl⟩
    · exact .inl rfl

/-- A read that returned bytes is one turn of the loop of `io.Copy`. -/
theorem finish_read {dst : Sink} {src : Source} (took : (src.read copyBufferSize).data ≠ []) :
    (⟨.writing (src.read copyBufferSize).data, dst, (src.read copyBufferSize).rest⟩ : Pipe).finish
      wrap = (ioCopy dst src).ends wrap := by
  have conserve := congrArg List.length (src.read_data_append_bytes copyBufferSize)
  rw [List.length_append] at conserve
  have shorter : 0 < (src.read copyBufferSize).data.length := List.length_pos.mpr took
  unfold finish Copier.afterWrite
  conv_rhs => unfold ioCopy; rw [copyLoop, if_pos took]
  dsimp only
  generalize dst.write (src.read copyBufferSize).data = w
  obtain ⟨n, err, written⟩ := w
  cases err with
  | some e => rfl
  | none =>
    dsimp only
    split_ifs
    · rfl
    · refine (copyLoop_ends wrap _ _ _ _ _ _ ?_ ?_).symm <;> omega

/-- A read that returned the end of the stream ends `io.Copy`. -/
theorem finish_readEnd {dst : Sink} {src : Source} (ended : (src.read copyBufferSize).data = []) :
    (ioCopy dst src).ends wrap =
      ((if (src.read copyBufferSize).err = some .eof then none
        else (src.read copyBufferSize).err).map wrap, dst, (src.read copyBufferSize).rest) := by
  unfold ioCopy
  rw [copyLoop, if_neg (not_not.mpr ended)]
  rfl

/-- A step with both connections open keeps how the copy ends. -/
theorem Step.finish_eq {p p' : Pipe} (step : Step wrap false false p p') :
    p'.finish wrap = p.finish wrap := by
  cases step with
  | read reading _ took => exact (finish_read took).trans (by simp only [finish, reading])
  | readEnd reading _ ended => simp only [finish, reading]; exact (finish_readEnd ended).symm
  | @write data writing _ =>
    simp only [finish, writing]
    rcases @afterWrite_cases wrap data (p.dst.write data) with going | ⟨e, going⟩ <;> rw [going]
  | readClosed _ closed | writeClosed _ closed => cases closed

theorem finish_of_path {p p' : Pipe} (path : Relation.ReflTransGen (Step wrap false false) p p') :
    p'.finish wrap = p.finish wrap := by
  induction path with
  | refl => rfl
  | tail _ step same => exact step.finish_eq.trans same

/-! ### Running to the return -/

/-- The copy goroutine can run on its own until `io.Copy` returns. -/
def Returns (wrap : Error → Error) (srcClosed dstClosed : Bool) (p : Pipe) : Prop :=
  ∃ p' e, Relation.ReflTransGen (Step wrap srcClosed dstClosed) p p' ∧ p'.stage = .sending e

theorem returns_of_writing {sc dc : Bool} {p : Pipe} {data : Bytes}
    (writing : p.stage = .writing data) (next : ∀ dst, Returns wrap sc dc ⟨.reading, dst, p.src⟩) :
    Returns wrap sc dc p := by
  cases dc
  · rcases @afterWrite_cases wrap data (p.dst.write data) with going | ⟨e, returned⟩
    · obtain ⟨p', e, path, sending⟩ := next (p.dst.write data).dst
      exact ⟨p', e, .head (going ▸ .write writing rfl) path, sending⟩
    · exact ⟨_, e, .single (.write writing rfl), returned⟩
  · exact ⟨_, _, .single (.writeClosed writing rfl), rfl⟩

theorem returns_of_reading (sc dc : Bool) :
    ∀ (n : Nat) (p : Pipe), p.src.bytes.length < n → p.stage = .reading → Returns wrap sc dc p
  | 0, _, short, _ => absurd short (Nat.not_lt_zero _)
  | n + 1, p, short, reading => by
    cases sc
    · by_cases took : (p.src.read copyBufferSize).data = []
      · exact ⟨_, _, .single (.readEnd reading rfl took), rfl⟩
      · have conserve := congrArg List.length (p.src.read_data_append_bytes copyBufferSize)
        rw [List.length_append] at conserve
        have shorter := List.length_pos.mpr took
        obtain ⟨p', e, path, sending⟩ := @returns_of_writing wrap false dc
          ⟨.writing (p.src.read copyBufferSize).data, p.dst, (p.src.read copyBufferSize).rest⟩ _ rfl
          fun dst => returns_of_reading false dc n ⟨.reading, dst, _⟩ (by dsimp only; omega) rfl
        exact ⟨p', e, .head (.read reading rfl took) path, sending⟩
    · exact ⟨_, _, .single (.readClosed reading rfl), rfl⟩

/-- A copy goroutine in its loop can run on its own until `io.Copy` returns,
whichever connections are closed. -/
theorem returns (sc dc : Bool) {p : Pipe} (running : p.stage.returned = false) :
    Returns wrap sc dc p := by
  cases stage : p.stage with
  | reading => exact returns_of_reading sc dc _ p (Nat.lt_succ_self _) stage
  | writing data =>
    exact returns_of_writing stage fun dst => returns_of_reading sc dc _ _ (Nat.lt_succ_self _) rfl
  | sending e | done e => simp [stage, Copier.returned] at running

/-- Run alone with both connections open, a copy goroutine ends as `io.Copy`
does: with `ioCopy`'s error, writer and reader. -/
theorem runs (wrap : Error → Error) (dst : Sink) (src : Source) :
    ∃ p, Relation.ReflTransGen (Step wrap false false) ⟨.reading, dst, src⟩ p ∧
      p.stage = .sending ((ioCopy dst src).err.map wrap) ∧ p.dst = (ioCopy dst src).dst ∧
      p.src = (ioCopy dst src).src := by
  obtain ⟨p, e, path, sending⟩ := @returns wrap false false ⟨.reading, dst, src⟩ rfl
  have same := finish_of_path path
  simp only [finish, sending, Copied.ends, Prod.mk.injEq] at same
  exact ⟨p, path, by rw [sending, same.1], same.2.1, same.2.2⟩

/-! ### What a pipe has delivered -/

/-- A pipe into a writer that accepts everything and held `w` when the copy
began carries the stream `whole`: the writer holds `w` and a prefix of
`whole`, and while the loop runs, the bytes in hand and the reader's rest
make up the remainder. -/
def Carries (w whole : Bytes) (p : Pipe) : Prop :=
  ∃ t, p.dst = Sink.accepting (w ++ t) ∧
    match p.stage with
    | .reading => t ++ p.src.bytes = whole
    | .writing data => t ++ data ++ p.src.bytes = whole
    | .sending _ | .done _ => t <+: whole

theorem Step.carries {sc dc : Bool} {p p' : Pipe} (step : Step wrap sc dc p p') {w whole : Bytes}
    (carries : p.Carries w whole) : p'.Carries w whole := by
  obtain ⟨t, accepting, carried⟩ := carries
  cases step with
  | read reading _ _ =>
    simp only [reading] at carried
    refine ⟨t, accepting, ?_⟩
    dsimp only
    rw [List.append_assoc, Source.read_data_append_bytes, carried]
  | readEnd reading _ _ | readClosed reading _ =>
    simp only [reading] at carried
    exact ⟨t, accepting, carried ▸ List.prefix_append t _⟩
  | write writing _ =>
    simp only [writing] at carried
    refine ⟨t ++ _, by rw [accepting, Sink.write_accepting, List.append_assoc], ?_⟩
    simp only [accepting, Sink.write_accepting, Copier.afterWrite, ne_eq, not_true_eq_false,
      if_false, carried]
  | writeClosed writing _ =>
    simp only [writing] at carried
    exact ⟨t, accepting, carried ▸ (List.prefix_append t _).trans (List.prefix_append _ _)⟩

/-- Sending on `errc` keeps what the pipe carries. -/
theorem Carries.done {p : Pipe} {w whole : Bytes} {e : Option Error} (sending : p.stage = .sending e)
    (carries : p.Carries w whole) : ({ p with stage := .done e } : Pipe).Carries w whole := by
  obtain ⟨t, accepting, carried⟩ := carries
  simp only [sending] at carried
  exact ⟨t, accepting, carried⟩

theorem carries_of_path {sc dc : Bool} {p p' : Pipe} {w whole : Bytes}
    (path : Relation.ReflTransGen (Step wrap sc dc) p p') (carries : p.Carries w whole) :
    p'.Carries w whole := by
  induction path with
  | refl => exact carries
  | tail _ step carried => exact step.carries carried

/-- What a pipe into a writer that accepts everything has delivered: a prefix
of its stream, and all of it once it returned as it would alone. -/
theorem Carries.delivered {p : Pipe} {w : Bytes} {src : Source} (carries : p.Carries w src.bytes) :
    ∃ t, p.dst = Sink.accepting (w ++ t) ∧ t <+: src.bytes ∧
      (p.stage.returned = true → p.finish wrap = (ioCopy (Sink.accepting w) src).ends wrap →
        t = src.bytes) := by
  obtain ⟨t, accepting, carried⟩ := carries
  refine ⟨t, accepting, ?_, fun returned alone => ?_⟩
  · revert carried
    cases p.stage with
    | reading => exact fun whole => whole ▸ List.prefix_append t _
    | writing data => exact fun whole => whole ▸ (List.prefix_append t data).trans (List.prefix_append _ _)
    | sending _ | done _ => exact id
  · have dst : p.dst = Sink.accepting (w ++ src.bytes) := by
      rw [← ioCopy_accepting w src]
      cases stage : p.stage with
      | sending e | done e => simpa [finish, stage, Copied.ends] using congrArg (·.2.1) alone
      | reading | writing _ => simp [stage, Copier.returned] at returned
    rw [accepting] at dst
    exact List.append_cancel_left (congrArg Sink.written dst)

/-- Steps of the copy keep the count of values it sent, none. -/
theorem Step.sentCount_eq {sc dc : Bool} {p p' : Pipe} (step : Step wrap sc dc p p') :
    p'.stage.sentCount = p.stage.sentCount := by
  cases step with
  | @write data writing _ =>
    rcases @afterWrite_cases wrap data (p.dst.write data) with going | ⟨e, going⟩ <;>
      simp [going, writing, Copier.sentCount]
  | read reading | readEnd reading | readClosed reading | writeClosed reading =>
    simp [reading, Copier.sentCount]

end Pipe

/-! ## The relay -/

/-- The relay of one CONNECT: the copy of `io.Copy(target, conn)` (`up`) and
of `io.Copy(conn, target)` (`down`), whether the target and the client
connection are closed, the values sent on `errc`, whether the handler
received one, the context, and what the handler returned (`none` while it is
in its `select`). -/
structure Relay where
  up : Pipe
  down : Pipe
  targetClosed : Bool
  connClosed : Bool
  sent : List (Option Error)
  received : Bool
  ctxDone : Bool
  result : Option (Option Error)

namespace Relay

/-- The relay `OnConnectDefault` starts once the granted reply is written to
`conn`: both copies about to read, `errc` empty, the handler in its
`select`. -/
def start (conn : Conn) (target : Target) : Relay :=
  ⟨⟨.reading, target.output, conn.input⟩, ⟨.reading, conn.output, target.input⟩, false, false, [],
    false, false, none⟩

/-- The values sent on `errc` and not received. -/
def buffered (r : Relay) : Nat := r.sent.length - if r.received then 1 else 0

section

variable (wrapUp wrapDown : Error → Error) (ctxErr : Error)

/-- One step of the relay, where `io.Copy` wraps the loop's error with
`wrapUp` and `wrapDown` and `ctx.Err()` is `ctxErr`. -/
inductive Step : Relay → Relay → Prop
  /-- A step of `io.Copy(target, conn)`, which reads the client connection and
  writes the target. -/
  | up {r : Relay} {p : Pipe} (step : Pipe.Step wrapUp r.connClosed r.targetClosed r.up p) :
      Step r { r with up := p }
  /-- A step of `io.Copy(conn, target)`. -/
  | down {r : Relay} {p : Pipe} (step : Pipe.Step wrapDown r.targetClosed r.connClosed r.down p) :
      Step r { r with down := p }
  /-- `errc <- err` of the first goroutine, while the buffer has room. -/
  | upSends {r : Relay} {e : Option Error} (sending : r.up.stage = .sending e)
      (room : r.buffered < 2) :
      Step r { r with up := { r.up with stage := .done e }, sent := r.sent ++ [e] }
  /-- `errc <- err` of the second goroutine, while the buffer has room. -/
  | downSends {r : Relay} {e : Option Error} (sending : r.down.stage = .sending e)
      (room : r.buffered < 2) :
      Step r { r with down := { r.down with stage := .done e }, sent := r.sent ++ [e] }
  /-- The `select` receives the first value sent and returns it. -/
  | receive {r : Relay} {e : Option Error} (waiting : r.result = none)
      (first : r.sent.head? = some e) :
      Step r { r with received := true, result := some e }
  /-- The context is cancelled. -/
  | cancel {r : Relay} : Step r { r with ctxDone := true }
  /-- The `select` takes `ctx.Done()` and returns `ctx.Err()`. -/
  | ctxReturns {r : Relay} (waiting : r.result = none) (done : r.ctxDone = true) :
      Step r { r with result := some (some ctxErr) }
  /-- The handler's deferred `target.Close()`, once it returned. -/
  | closeTarget {r : Relay} (returned : r.result ≠ none) : Step r { r with targetClosed := true }
  /-- The listener goroutine's deferred `conn.Close()`, after the handler. -/
  | closeConn {r : Relay} (closed : r.targetClosed = true) : Step r { r with connClosed := true }

/-- The relays some interleaving reaches from the start on `conn` and
`target`. -/
def Reachable (conn : Conn) (target : Target) (r : Relay) : Prop :=
  Relation.ReflTransGen (Step wrapUp wrapDown ctxErr) (start conn target) r

/-- What holds of every relay reached from `r₀`: each copy has sent at most
its one value; the closes come after the handler's return, the target's
first; until then each copy still ends as it would alone, and every value
sent is how one of them ends; and the handler returned `ctx.Err()` or how
one of the copies ends. -/
structure Inv (r₀ r : Relay) : Prop where
  sends : r.sent.length = r.up.stage.sentCount + r.down.stage.sentCount
  closedAfter : r.targetClosed = true → r.result ≠ none
  connAfter : r.connClosed = true → r.targetClosed = true
  upRuns : r.targetClosed = false → r.up.finish wrapUp = r₀.up.finish wrapUp
  downRuns : r.targetClosed = false → r.down.finish wrapDown = r₀.down.finish wrapDown
  sentEnds : r.targetClosed = false →
    ∀ e ∈ r.sent, e = (r₀.up.finish wrapUp).1 ∨ e = (r₀.down.finish wrapDown).1
  result : ∀ x, r.result = some x →
    x = some ctxErr ∨ x = (r₀.up.finish wrapUp).1 ∨ x = (r₀.down.finish wrapDown).1

end

variable {wrapUp wrapDown : Error → Error} {ctxErr : Error}

theorem inv_start (r₀ : Relay) (up : r₀.up.stage = .reading) (down : r₀.down.stage = .reading)
    (fresh : r₀.sent = [] ∧ r₀.targetClosed = false ∧ r₀.connClosed = false ∧ r₀.result = none) :
    Inv wrapUp wrapDown ctxErr r₀ r₀ where
  sends := by simp [fresh.1, up, down, Copier.sentCount]
  closedAfter h := by simp [fresh.2.1] at h
  connAfter h := by simp [fresh.2.2.1] at h
  upRuns _ := rfl
  downRuns _ := rfl
  sentEnds _ e h := by simp [fresh.1] at h
  result x h := by simp [fresh.2.2.2] at h

/-- The client connection is closed only once the target is. -/
theorem Inv.connOpen {r₀ r : Relay} (inv : Inv wrapUp wrapDown ctxErr r₀ r)
    (targetOpen : r.targetClosed = false) : r.connClosed = false :=
  Bool.eq_false_iff.mpr fun closed => Bool.false_ne_true (targetOpen.symm.trans (inv.connAfter closed))

theorem Inv.step {r₀ r r' : Relay} (inv : Inv wrapUp wrapDown ctxErr r₀ r)
    (step : Step wrapUp wrapDown ctxErr r r') : Inv wrapUp wrapDown ctxErr r₀ r' := by
  have connOpen := inv.connOpen
  obtain ⟨sends, closedAfter, connAfter, upRuns, downRuns, sentEnds, result⟩ := inv
  cases step with
  | up step =>
    refine ⟨by rw [sends, step.sentCount_eq], closedAfter, connAfter, fun targetOpen => ?_,
      downRuns, sentEnds, result⟩
    rw [connOpen targetOpen, targetOpen] at step
    exact step.finish_eq.trans (upRuns targetOpen)
  | down step =>
    refine ⟨by rw [sends, step.sentCount_eq], closedAfter, connAfter, upRuns, fun targetOpen => ?_,
      sentEnds, result⟩
    rw [connOpen targetOpen, targetOpen] at step
    exact step.finish_eq.trans (downRuns targetOpen)
  | @upSends e sending _ =>
    have ends : ∀ targetOpen, e = (r₀.up.finish wrapUp).1 := fun targetOpen => by
      simpa [Pipe.finish, sending] using congrArg (·.1) (upRuns targetOpen)
    refine ⟨by simp [sends, sending, Copier.sentCount]; omega, closedAfter, connAfter,
      fun targetOpen => by rw [← upRuns targetOpen]; simp [Pipe.finish, sending], downRuns,
      fun targetOpen x mem => ?_, result⟩
    rcases List.mem_append.mp mem with old | new
    · exact sentEnds targetOpen x old
    · exact .inl ((List.mem_singleton.mp new).trans (ends targetOpen))
  | @downSends e sending _ =>
    have ends : ∀ targetOpen, e = (r₀.down.finish wrapDown).1 := fun targetOpen => by
      simpa [Pipe.finish, sending] using congrArg (·.1) (downRuns targetOpen)
    refine ⟨by simp [sends, sending, Copier.sentCount], closedAfter, connAfter, upRuns,
      fun targetOpen => by rw [← downRuns targetOpen]; simp [Pipe.finish, sending],
      fun targetOpen x mem => ?_, result⟩
    rcases List.mem_append.mp mem with old | new
    · exact sentEnds targetOpen x old
    · exact .inr ((List.mem_singleton.mp new).trans (ends targetOpen))
  | receive waiting first =>
    have targetOpen : r.targetClosed = false :=
      Bool.eq_false_iff.mpr fun closed => closedAfter closed waiting
    refine ⟨sends, fun _ => by simp, connAfter, upRuns, downRuns, sentEnds, fun x h => ?_⟩
    cases h
    exact .inr (sentEnds targetOpen _ (List.mem_of_mem_head? first))
  | cancel => exact ⟨sends, closedAfter, connAfter, upRuns, downRuns, sentEnds, result⟩
  | ctxReturns =>
    exact ⟨sends, fun _ => by simp, connAfter, upRuns, downRuns, sentEnds,
      fun x h => by cases h; exact .inl rfl⟩
  | closeTarget returned =>
    exact ⟨sends, fun _ => returned, fun _ => rfl, nofun, nofun, nofun, result⟩
  | closeConn closed =>
    exact ⟨sends, closedAfter, fun _ => closed, upRuns, downRuns, sentEnds, result⟩

theorem Reachable.inv {conn : Conn} {target : Target} {r : Relay}
    (reach : Reachable wrapUp wrapDown ctxErr conn target r) :
    Inv wrapUp wrapDown ctxErr (start conn target) r := by
  induction reach with
  | refl => exact inv_start _ rfl rfl ⟨rfl, rfl, rfl, rfl⟩
  | tail _ step inv => exact inv.step step

/-- A goroutine about to send has not sent, so at most the other goroutine's
value is buffered. -/
theorem Inv.room {r₀ r : Relay} (inv : Inv wrapUp wrapDown ctxErr r₀ r)
    (notSent : r.up.stage.sentCount = 0 ∨ r.down.stage.sentCount = 0) : r.buffered < 2 := by
  have upAtMost : r.up.stage.sentCount ≤ 1 := by cases r.up.stage <;> simp [Copier.sentCount]
  have downAtMost : r.down.stage.sentCount ≤ 1 := by cases r.down.stage <;> simp [Copier.sentCount]
  have := inv.sends
  unfold buffered
  omega

/-- No copy goroutine blocks on `errc`: in every reachable relay, a copy
goroutine about to send finds room in the buffer. -/
theorem Reachable.send_proceeds {conn : Conn} {target : Target} {r : Relay}
    (reach : Reachable wrapUp wrapDown ctxErr conn target r) :
    (∀ e, r.up.stage = .sending e → r.buffered < 2) ∧
      (∀ e, r.down.stage = .sending e → r.buffered < 2) :=
  ⟨fun _ sending => reach.inv.room (.inl (by simp [sending, Copier.sentCount])),
    fun _ sending => reach.inv.room (.inr (by simp [sending, Copier.sentCount]))⟩

/-! ## No goroutine is left behind -/

/-- Steps of the first copy are steps of the relay. -/
theorem lift_up {r : Relay} {p : Pipe}
    (path : Relation.ReflTransGen (Pipe.Step wrapUp r.connClosed r.targetClosed) r.up p) :
    Relation.ReflTransGen (Step wrapUp wrapDown ctxErr) r { r with up := p } :=
  path.lift (fun q => { r with up := q }) fun _ _ step => .up step

/-- Steps of the second copy are steps of the relay. -/
theorem lift_down {r : Relay} {p : Pipe}
    (path : Relation.ReflTransGen (Pipe.Step wrapDown r.targetClosed r.connClosed) r.down p) :
    Relation.ReflTransGen (Step wrapUp wrapDown ctxErr) r { r with down := p } :=
  path.lift (fun q => { r with down := q }) fun _ _ step => .down step

/-- What the handler and the closes have done, which the copies' own steps
leave as it is. -/
def handled (r : Relay) : Option (Option Error) × Bool × Bool × Bool :=
  (r.result, r.received, r.targetClosed, r.connClosed)

/-- The first copy goroutine runs to its end from any reachable relay, on its
own steps and its send. -/
theorem Reachable.up_finishes {conn : Conn} {target : Target} {r : Relay}
    (reach : Reachable wrapUp wrapDown ctxErr conn target r) :
    ∃ r', Relation.ReflTransGen (Step wrapUp wrapDown ctxErr) r r' ∧ (∃ e, r'.up.stage = .done e) ∧
      r'.down = r.down ∧ r'.handled = r.handled := by
  cases stage : r.up.stage with
  | done e => exact ⟨r, .refl, ⟨e, stage⟩, rfl, rfl⟩
  | sending e =>
    exact ⟨_, .single (.upSends stage (reach.send_proceeds.1 e stage)), ⟨e, rfl⟩, rfl, rfl⟩
  | reading | writing _ =>
    obtain ⟨p, e, path, sending⟩ :=
      @Pipe.returns wrapUp r.connClosed r.targetClosed r.up (by simp [stage, Copier.returned])
    have lifted : Relation.ReflTransGen (Step wrapUp wrapDown ctxErr) r { r with up := p } :=
      lift_up path
    have room := (Reachable.send_proceeds (reach.trans lifted)).1 e sending
    exact ⟨_, lifted.tail (.upSends sending room), ⟨e, rfl⟩, rfl, rfl⟩

/-- The second copy goroutine runs to its end from any reachable relay. -/
theorem Reachable.down_finishes {conn : Conn} {target : Target} {r : Relay}
    (reach : Reachable wrapUp wrapDown ctxErr conn target r) :
    ∃ r', Relation.ReflTransGen (Step wrapUp wrapDown ctxErr) r r' ∧
      (∃ e, r'.down.stage = .done e) ∧ r'.up = r.up ∧ r'.handled = r.handled := by
  cases stage : r.down.stage with
  | done e => exact ⟨r, .refl, ⟨e, stage⟩, rfl, rfl⟩
  | sending e =>
    exact ⟨_, .single (.downSends stage (reach.send_proceeds.2 e stage)), ⟨e, rfl⟩, rfl, rfl⟩
  | reading | writing _ =>
    obtain ⟨p, e, path, sending⟩ :=
      @Pipe.returns wrapDown r.targetClosed r.connClosed r.down (by simp [stage, Copier.returned])
    have lifted : Relation.ReflTransGen (Step wrapUp wrapDown ctxErr) r { r with down := p } :=
      lift_down path
    have room := (Reachable.send_proceeds (reach.trans lifted)).2 e sending
    exact ⟨_, lifted.tail (.downSends sending room), ⟨e, rfl⟩, rfl, rfl⟩

/-- **No goroutine is left behind.** From every reachable relay, whatever the
handler has done and whichever connections are closed, both copy goroutines
run to their end and send their value on `errc`, with no step of the
handler and no close. -/
theorem Reachable.copiers_finish {conn : Conn} {target : Target} {r : Relay}
    (reach : Reachable wrapUp wrapDown ctxErr conn target r) :
    ∃ r', Relation.ReflTransGen (Step wrapUp wrapDown ctxErr) r r' ∧
      (∃ e, r'.up.stage = .done e) ∧ (∃ e, r'.down.stage = .done e) ∧ r'.handled = r.handled := by
  obtain ⟨r₁, path₁, upDone, -, handled₁⟩ := reach.up_finishes
  obtain ⟨r₂, path₂, downDone, up₂, handled₂⟩ := Reachable.down_finishes (reach.trans path₁)
  exact ⟨r₂, path₁.trans path₂, up₂ ▸ upDone, downDone, handled₂.trans handled₁⟩

/-- The handler returned on the cancellation of the context, and both
connections are closed: both copies still run to their end. -/
theorem copiers_finish_after_cancel :
    ∃ r, Reachable id id .closed ⟨⟨[[65]], .eof, by decide⟩, Sink.accepting []⟩
        ⟨⟨[[66]], .eof, by decide⟩, Sink.accepting []⟩ r ∧
      r.handled = (some (some .closed), false, true, true) ∧
      ∃ r', Relation.ReflTransGen (Step id id .closed) r r' ∧
        (∃ e, r'.up.stage = .done e) ∧ (∃ e, r'.down.stage = .done e) ∧ r'.handled = r.handled :=
  have reach : Reachable id id .closed ⟨⟨[[65]], .eof, by decide⟩, Sink.accepting []⟩
      ⟨⟨[[66]], .eof, by decide⟩, Sink.accepting []⟩ _ :=
    .tail (.tail (.tail (.single .cancel) (.ctxReturns rfl rfl)) (.closeTarget (by simp))) (.closeConn rfl)
  ⟨_, reach, rfl, Reachable.copiers_finish reach⟩

/-! ## What the handler returns -/

/-- What the handler returns: `ctx.Err()`, or what one of the two `io.Copy`
calls returns when it runs alone to its end. The handler's own closes come
after its return, so no error they cause is ever returned. -/
theorem Reachable.result {conn : Conn} {target : Target} {r : Relay}
    (reach : Reachable wrapUp wrapDown ctxErr conn target r) {x : Option Error}
    (returned : r.result = some x) :
    x = some ctxErr ∨ x = (ioCopy target.output conn.input).err.map wrapUp ∨
      x = (ioCopy conn.output target.input).err.map wrapDown :=
  reach.inv.result x returned

/-- The error an `io.Copy` loop into a writer that accepts everything returns:
the one ending the stream, nil for `io.EOF`. -/
def endErr (src : Source) : Option Error := if src.ending = .eof then none else some src.ending

/-- What the relay of a granted CONNECT returns. The two copies
`OnConnectDefault` starts, from the client connection `conn` to the target
and back, into writers that accept everything: on every interleaving the
handler returns `ctx.Err()` or the error that ended one of the two streams
as `io.Copy` returns it, `wrapUp` or `wrapDown` of it, and nil when it ended
with `io.EOF`. -/
theorem relay_returns_stream_error {conn : Conn} {target : Target} {w₁ w₂ : Bytes}
    (toTarget : target.output = Sink.accepting w₁)
    (toClient : conn.output = Sink.accepting w₂) {r : Relay}
    (reach : Reachable wrapUp wrapDown ctxErr conn target r) {x : Option Error}
    (returned : r.result = some x) :
    x = some ctxErr ∨ x = (endErr conn.input).map wrapUp ∨ x = (endErr target.input).map wrapDown := by
  have result := reach.result returned
  rwa [toTarget, toClient, ioCopy_accepting_err, ioCopy_accepting_err] at result

/-! ## What each end receives -/

theorem Reachable.carries {conn : Conn} {target : Target} {w₁ w₂ : Bytes}
    (toTarget : target.output = Sink.accepting w₁) (toClient : conn.output = Sink.accepting w₂)
    {r : Relay} (reach : Reachable wrapUp wrapDown ctxErr conn target r) :
    r.up.Carries w₁ conn.input.bytes ∧ r.down.Carries w₂ target.input.bytes := by
  induction reach with
  | refl =>
    exact ⟨⟨[], by simp [start, toTarget], by simp [start]⟩, ⟨[], by simp [start, toClient], by simp [start]⟩⟩
  | tail _ step carries =>
    obtain ⟨up, down⟩ := carries
    cases step with
    | up step => exact ⟨step.carries up, down⟩
    | down step => exact ⟨up, step.carries down⟩
    | upSends sending => exact ⟨up.done sending, down⟩
    | downSends sending => exact ⟨up, down.done sending⟩
    | receive | cancel | ctxReturns | closeTarget | closeConn => exact ⟨up, down⟩

/-- What each end has received. On every interleaving of the relay into
writers that accept everything, the target has received a prefix of what the
client sent after its request, and the client a prefix of what the target
sent; a copy that returned before the handler closed the target delivered
all of it. -/
theorem Reachable.delivers {conn : Conn} {target : Target} {w₁ w₂ : Bytes}
    (toTarget : target.output = Sink.accepting w₁) (toClient : conn.output = Sink.accepting w₂)
    {r : Relay} (reach : Reachable wrapUp wrapDown ctxErr conn target r) :
    (∃ t, r.up.dst = Sink.accepting (w₁ ++ t) ∧ t <+: conn.input.bytes ∧
      (r.up.stage.returned = true → r.targetClosed = false → t = conn.input.bytes)) ∧
    (∃ t, r.down.dst = Sink.accepting (w₂ ++ t) ∧ t <+: target.input.bytes ∧
      (r.down.stage.returned = true → r.targetClosed = false → t = target.input.bytes)) := by
  obtain ⟨up, down⟩ := reach.carries toTarget toClient
  obtain ⟨t₁, dst₁, pre₁, whole₁⟩ := @Pipe.Carries.delivered wrapUp _ _ _ up
  obtain ⟨t₂, dst₂, pre₂, whole₂⟩ := @Pipe.Carries.delivered wrapDown _ _ _ down
  refine ⟨⟨t₁, dst₁, pre₁, fun returned targetOpen => whole₁ returned ?_⟩,
    ⟨t₂, dst₂, pre₂, fun returned targetOpen => whole₂ returned ?_⟩⟩
  · rw [reach.inv.upRuns targetOpen, ← toTarget]; rfl
  · rw [reach.inv.downRuns targetOpen, ← toClient]; rfl

/-! ## The run of `onConnectDefault` -/

/-- The run where each copy runs alone to its end, the client-to-target one
first, both send, and the handler receives the first value. -/
theorem reachable_sequential (conn : Conn) (target : Target) :
    ∃ r, Reachable wrapUp wrapDown ctxErr conn target r ∧
      r.up.dst = (ioCopy target.output conn.input).dst ∧
      r.up.src = (ioCopy target.output conn.input).src ∧
      r.down.dst = (ioCopy conn.output target.input).dst ∧
      r.down.src = (ioCopy conn.output target.input).src ∧
      r.result = some ((ioCopy target.output conn.input).err.map wrapUp) := by
  obtain ⟨p₁, path₁, sending₁, dst₁, src₁⟩ := Pipe.runs wrapUp target.output conn.input
  obtain ⟨p₂, path₂, sending₂, dst₂, src₂⟩ := Pipe.runs wrapDown conn.output target.input
  let e₁ := (ioCopy target.output conn.input).err.map wrapUp
  have up : Relation.ReflTransGen (Step wrapUp wrapDown ctxErr) (start conn target)
      { start conn target with up := { p₁ with stage := .done e₁ }, sent := [e₁] } :=
    (lift_up path₁).tail (.upSends sending₁ (by simp [buffered, start]))
  have down := (@lift_down wrapUp wrapDown ctxErr
      { start conn target with up := { p₁ with stage := .done e₁ }, sent := [e₁] } _ path₂).tail
    (.downSends sending₂ (by simp [buffered, start]))
  exact ⟨_, (up.trans down).tail (.receive rfl rfl), dst₁, src₁, dst₂, src₂, rfl⟩

/-- `onConnectDefault` relays as one run of the relay does: the one where
each copy runs alone to its end, the client-to-target one first, and the
handler returns that copy's error (which the sequential model keeps
unwrapped). -/
theorem onConnectDefault_run (wrapUp wrapDown : Error → Error) (ctxErr : Error) (env : Env)
    (conn : Conn) (req : Request) {target : Target}
    (dialOk : env.dial (connectAddress req) = .ok target) :
    ∃ r, Reachable wrapUp wrapDown ctxErr (reply conn repGranted req.port req.getIP) target r ∧
      (onConnectDefault env conn req).conn = ⟨r.up.src, r.down.dst⟩ ∧
      (onConnectDefault env conn req).target = some ⟨r.down.src, r.up.dst⟩ ∧
      r.result = some ((ioCopy target.output
        (reply conn repGranted req.port req.getIP).input).err.map wrapUp) := by
  obtain ⟨r, reach, upDst, upSrc, downDst, downSrc, result⟩ :=
    @reachable_sequential wrapUp wrapDown ctxErr (reply conn repGranted req.port req.getIP) target
  refine ⟨r, reach, ?_, ?_, result⟩ <;> simp [onConnectDefault, dialOk, upDst, upSrc, downDst, downSrc]

/-- The relay the handler of `conn` starts, if it starts one: the request it
reads without error is a CONNECT whose address the dial opens, and the
granted reply is written. -/
def relayOf (env : Env) (conn : Conn) : Option Relay :=
  let d := Request.zero.readFrom conn.input
  if d.err = none ∧ d.msg.command = cmdConnect then
    match env.dial (connectAddress d.msg) with
    | .ok target =>
      some (start (reply { conn with input := d.rest } repGranted d.msg.port d.msg.getIP) target)
    | .error _ => none
  else none

/-- Two streams that end with `io.EOF`, on the run where each copy runs alone
to its end: the handler returns nil. -/
theorem relay_returns_stream_error_upFirst :
    ∃ r, Reachable id id .closed ⟨⟨[[65]], .eof, by decide⟩, Sink.accepting []⟩
        ⟨⟨[[66]], .eof, by decide⟩, Sink.accepting []⟩ r ∧ r.result = some none ∧
      (none = some Error.closed ∨ none = (endErr ⟨[[65]], .eof, by decide⟩).map id ∨
        none = (endErr ⟨[[66]], .eof, by decide⟩).map id) :=
  let ⟨r, reach, _, _, _, _, result⟩ := @reachable_sequential id id .closed
    ⟨⟨[[65]], .eof, by decide⟩, Sink.accepting []⟩ ⟨⟨[[66]], .eof, by decide⟩, Sink.accepting []⟩
  have returned : r.result = some none := by rw [result, ioCopy_accepting_err]; rfl
  ⟨r, reach, returned, relay_returns_stream_error rfl rfl reach returned⟩

/-- The run where each copy runs alone to its end: the target has the
client's byte and the client the target's. -/
theorem delivers_sequential :
    ∃ r, Reachable id id .closed ⟨⟨[[65]], .eof, by decide⟩, Sink.accepting []⟩
        ⟨⟨[[66]], .eof, by decide⟩, Sink.accepting []⟩ r ∧
      (∃ t, r.up.dst = Sink.accepting ([] ++ t) ∧ t <+: [65] ∧
        (r.up.stage.returned = true → r.targetClosed = false → t = [65])) ∧
      (∃ t, r.down.dst = Sink.accepting ([] ++ t) ∧ t <+: [66] ∧
        (r.down.stage.returned = true → r.targetClosed = false → t = [66])) :=
  let ⟨r, reach, _⟩ := @reachable_sequential id id .closed
    ⟨⟨[[65]], .eof, by decide⟩, Sink.accepting []⟩ ⟨⟨[[66]], .eof, by decide⟩, Sink.accepting []⟩
  ⟨r, reach, Reachable.delivers rfl rfl reach⟩

end Relay

end Socks.Socks4
