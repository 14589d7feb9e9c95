import Socks.Socks4.Accepted
import Socks.Socks4.DialRun
import Socks.Socks4.Relay

/-!
# The dialer against the listener

The package's `Dialer` talking to the package's listener: the bytes the
dialer writes to the proxy are what the handler of `ServeContext` reads, and
the replies the dialer reads are what the handler writes back.

On the dialer's side, `Session.Answered` is what every interleaving of a call
keeps when the proxy's first reply decodes as a given `answer`, and
`Session.FailedOn` what it keeps of a failure when the writes go through and
the target parses. On the listener's side, `handleConn_connect` and
`handleConn_bind` say what the handler writes back for the dialer's request.

* `dialer_returns_only_granted`: whatever the proxy sends, a method that
  returned a connection read a valid granted reply, and `DialContext`'s
  connection is left right after it.
* `sent_eq_readySends_of_closed`: once `readyCh` is closed, what it carried
  is what the second phase makes of the reply read right after the first, or
  of a read on a connection the watcher already closed.
* `connect_through_listener`: for a hostname, `DialContext` through the
  listener reaches the target by name; on every interleaving of the relay the
  target has a prefix of the payload sent after the request, and the method
  fails only on cancellation and returns a connection holding a prefix of what
  the target sent, each all of it once its copy returned before the close.
* `bind_through_listener_never_returns`: whatever the target, `BindContext`
  through the listener never returns a connection, so its second phase never
  starts and nothing is ever sent on `readyCh`.
-/

namespace Socks.Socks4

/-! ## A dialer whose proxy answers -/

/-- What every interleaving of the call `c` keeps when the proxy's first reply,
`resp.ReadFrom(proxyConn)` on the replies `replies`, decodes as `answer`:
until the reply is read the connection is `replies`; past it the reply was
granted and, until a second phase starts, the connection is what the reply
left; and `DialContext` has no second phase. -/
structure Session.Answered (c : Call) (replies : Source) (answer : Decoded Response)
    (s : Session) : Prop where
  waiting : s.main = .parsing ∨ (∃ req, s.main = .sending req) ∨ s.main = .reading →
    s.conn = some replies
  granted : s.main = .granted ∨ s.main = .returned true →
    answer.err = none ∧ answer.msg.isGranted = true ∧
      (s.second = .notStarted → s.conn = some answer.rest)
  idle : c.op = .connect → s.second = .notStarted

/-- A failure of the method saw a cancellation, or no granted reply. -/
def Session.FailedOn (answer : Decoded Response) (s : Session) : Prop :=
  s.main = .returned false → s.ctxDone = true ∨ answer.err ≠ none ∨ answer.msg.isGranted = false

/-- A connection that has been closed while the method is still running was
closed by the watcher, after a cancellation. -/
theorem Session.Safe.ctxDone_of_closes {s : Session} (safe : s.Safe)
    (running : s.main ≠ .returned false) (closed : s.closes ≠ []) : s.ctxDone = true := by
  obtain ⟨closer, mem⟩ := List.exists_mem_of_ne_nil _ closed
  cases closer with
  | dialer => exact absurd (safe.dialerCloses mem) running
  | watcher => exact safe.watcherCloses mem

section Answered

variable {c : Call} {replies : Source} {out : Sink} {answer : Decoded Response}

/-- A step of the second phase, which starts only past a granted reply, keeps
the invariant: it leaves the method where it is. -/
theorem Session.Answered.of_second {s s' : Session} (inv : s.Answered c replies answer)
    (safe : s.Safe) (started : s.second ≠ .notStarted) (main : s'.main = s.main)
    (started' : s'.second ≠ .notStarted) :
    s'.Answered c replies answer := by
  have past := safe.started started
  rw [← main] at past
  refine ⟨fun waiting => ?_, fun ret => ?_, fun connect => ?_⟩
  · rcases past with past | past <;> simp [past] at waiting
  · exact ⟨(inv.granted (main ▸ ret)).1, (inv.granted (main ▸ ret)).2.1, fun h => absurd h started'⟩
  · exact absurd (inv.idle connect) started

/-- What the second phase reads: until it reads, the connection is where the
first reply `answer` left it, so the sends it plans are those of the reply
after `answer`, or those of a read on a connection already closed. -/
def Session.PlansSecond (answer : Decoded Response) (s : Session) : Prop :=
  (s.second = .reading → s.conn = some answer.rest) ∧
    (s.second.planned = [] ∨
      s.second.planned = readySends (Response.zero.readFrom answer.rest).msg
        (Response.zero.readFrom answer.rest).err ∨
      (s.closes ≠ [] ∧ s.second.planned = readySends Response.zero (some .closed)))

variable (read : Response.zero.readFrom replies = answer)

include read

/-- The reply read while the connection is still `replies` is `answer`. -/
theorem Session.Answered.answer_eq {s : Session} (inv : s.Answered c replies answer)
    {src : Source} {d : Decoded Response} (main : s.main = .reading) (conn : s.conn = some src)
    (answered : Response.zero.readFrom src = d) : d = answer := by
  rw [inv.waiting (.inr (.inr main)), Option.some.injEq] at conn
  rw [← answered, ← conn, read]

theorem Step.plansSecond {s s' : Session} (step : Step c s s') (safe : s.Safe)
    (inv : s.Answered c replies answer) (plans : s.PlansSecond answer) :
    s'.PlansSecond answer := by
  obtain ⟨reading, planned⟩ := plans
  have idle : ∀ m, s.main = m → m ≠ .granted → m ≠ .returned true → s.second = .notStarted :=
    fun m main granted returned => by
      by_contra started
      rcases safe.started started with h | h <;> simp_all
  cases step with
  | dialed main _ => simp [Session.PlansSecond, idle _ main (by simp) (by simp)]
  | readFails main _ _ _ _ => simp [Session.PlansSecond, idle _ main (by simp) (by simp)]
  | granted main conn _ answered _ _ =>
    cases inv.answer_eq read main conn answered
    exact ⟨fun _ => rfl, .inl (Op.planned_second _)⟩
  | readSecond second conn _ answered =>
    rw [reading second, Option.some.injEq] at conn
    subst conn answered
    exact ⟨by simp, .inr (.inl rfl)⟩
  | readSecondClosed _ closed => exact ⟨by simp, .inr (.inr ⟨closed, rfl⟩)⟩
  | parseFails | sendFails | readClosed | watchDone =>
    exact ⟨reading, planned.imp_right (.imp_right fun h => ⟨by simp [Session.fail], h.2⟩)⟩
  | dialFails | parsed | sent | returns | cancel | watchExit | receive => exact ⟨reading, planned⟩
  | sendReady _ second | closeReady second =>
    exact ⟨by simp, by simpa [second] using planned⟩

variable (dialOk : c.dial = .ok (replies, out))

include dialOk

theorem Step.answered {s s' : Session} (step : Step c s s') (safe : s.Safe)
    (inv : s.Answered c replies answer) : s'.Answered c replies answer := by
  obtain ⟨waiting, granted, idle⟩ := inv
  cases step with
  | dialed main dial =>
    cases dialOk.symm.trans dial
    exact ⟨fun _ => rfl, by simp, idle⟩
  | parsed main _ => exact ⟨fun _ => waiting (.inl main), by simp, idle⟩
  | sent main _ _ _ => exact ⟨fun _ => waiting (.inr (.inl ⟨_, main⟩)), by simp, idle⟩
  | granted main conn _ answered ok yes =>
    cases Session.Answered.answer_eq read ⟨waiting, granted, idle⟩ main conn answered
    refine ⟨by simp, fun _ => ⟨ok, yes, fun _ => rfl⟩, fun connect => ?_⟩
    simp [connect, Op.second]
  | returns main => exact ⟨by simp, fun _ => granted (.inl main), idle⟩
  | dialFails | parseFails | sendFails | readClosed | readFails => exact ⟨by simp, by simp, idle⟩
  | readSecond second _ _ _ | readSecondClosed second _ | sendReady _ second | closeReady second =>
    exact Session.Answered.of_second ⟨waiting, granted, idle⟩ safe (by simp [second]) rfl (by simp)
  | cancel | watchDone | watchExit | receive => exact ⟨waiting, granted, idle⟩

/-- A dialer whose proxy answers. Every interleaving of the call keeps
`Session.Answered`. -/
theorem Reachable.answered {s : Session} (reach : Reachable c s) : s.Answered c replies answer := by
  induction reach with
  | refl => exact ⟨by simp [Session.init], by simp [Session.init], fun _ => rfl⟩
  | tail reach step inv => exact step.answered read dialOk (Reachable.safe reach) inv

theorem Reachable.plansSecond {s : Session} (reach : Reachable c s) : s.PlansSecond answer := by
  induction reach with
  | refl => simp [Session.PlansSecond, Session.init]
  | tail reach step plans =>
    exact step.plansSecond read (Reachable.safe reach) (Reachable.answered read dialOk reach)
      plans

variable (writes : ∀ req : Request, (req.writeTo out).err = none)
  (parses : ∀ e, c.target ≠ .error e)

include writes parses

theorem Step.failedOn {s s' : Session} (step : Step c s s') (safe : s.Safe)
    (inv : s.Answered c replies answer) (failed : s.FailedOn answer) : s'.FailedOn answer := by
  cases step with
  | dialFails _ dial => cases dialOk.symm.trans dial
  | parseFails _ target => cases parses _ target
  | sendFails main dial closed =>
    cases dialOk.symm.trans dial
    exact fun _ => .inl (safe.ctxDone_of_closes (by simp [main])
      (closed.resolve_right (by simp [writes])))
  | readClosed main closed => exact fun _ => .inl (safe.ctxDone_of_closes (by simp [main]) closed)
  | readFails main conn _ answered bad =>
    cases inv.answer_eq read main conn answered
    exact fun _ => .inr bad
  | cancel => exact fun _ => .inl rfl
  | dialed | parsed | sent | granted | returns => simp [Session.FailedOn]
  | watchDone | watchExit | readSecond | readSecondClosed | sendReady | closeReady | receive =>
    exact failed

/-- A dialer whose writes go through and whose target parses. On every
interleaving, the method fails only after a cancellation or on a reply that
is not granted. -/
theorem Reachable.failedOn {s : Session} (reach : Reachable c s) : s.FailedOn answer := by
  induction reach with
  | refl => simp [Session.FailedOn, Session.init]
  | tail reach step failed =>
    exact step.failedOn read dialOk writes parses (Reachable.safe reach)
      (Reachable.answered read dialOk reach) failed

end Answered

/-- **The dialer returns a connection only on a granted reply.** On every
interleaving of a call whose proxy connection delivers `replies`, whatever
the proxy sends: when `DialContext` or `BindContext` has returned a
connection, the first reply read off `replies` decoded without error and was
granted, and the connection `DialContext` returned is left right after it. -/
theorem dialer_returns_only_granted {c : Call} {replies : Source} {out : Sink}
    (dialOk : c.dial = .ok (replies, out)) {s : Session} (reach : Reachable c s)
    (ret : s.main = .returned true) :
    (Response.zero.readFrom replies).err = none ∧
      (Response.zero.readFrom replies).msg.isGranted = true ∧
      (c.op = .connect → s.conn = some (Response.zero.readFrom replies).rest) :=
  have inv := Reachable.answered rfl dialOk reach
  have granted := inv.granted (.inr ret)
  ⟨granted.1, granted.2.1, fun connect => granted.2.2 (inv.idle connect)⟩

/-- The proxy grants: `DialContext` returns the connection, through the
general statement. -/
theorem dialer_returns_only_granted_toProxy :
    ∃ s, Reachable (Call.toProxy .connect [[0, 90, 0, 0, 0, 0, 0, 0]] (by decide)) s ∧
      s.main = .returned true ∧
      (Response.zero.readFrom ⟨[[0, 90, 0, 0, 0, 0, 0, 0]], .eof, by decide⟩).err = none ∧
      (Response.zero.readFrom ⟨[[0, 90, 0, 0, 0, 0, 0, 0]], .eof, by decide⟩).msg.isGranted = true ∧
      ((Call.toProxy .connect [[0, 90, 0, 0, 0, 0, 0, 0]] (by decide)).op = .connect →
        s.conn = some (Response.zero.readFrom ⟨[[0, 90, 0, 0, 0, 0, 0, 0]], .eof, by decide⟩).rest) :=
  have reach := ((((Reachable.init (Call.toProxy .connect [[0, 90, 0, 0, 0, 0, 0, 0]]
    (by decide))).step (.dialed rfl rfl)).step (.parsed rfl rfl)).step
    (.sent rfl rfl rfl (by decide))).step (.granted rfl rfl rfl rfl (by decide) (by decide))
  ⟨_, reach.step (.returns rfl), rfl, dialer_returns_only_granted rfl (reach.step (.returns rfl)) rfl⟩

/-- The reply `OnConnectDefault` writes is valid and granted, whatever its
address. -/
theorem Response.init_repGranted (port : UInt16) (ip : NetIP) :
    (Response.zero.init 0 repGranted port ip).validate = none ∧
      (Response.zero.init 0 repGranted port ip).isGranted = true := by
  simp [Response.init, Response.validate, Response.isGranted]

/-- A reply cut short by the end of the connection is an error. -/
theorem Response.readFrom_err_of_short (r : Response) {src : Source}
    (short : src.bytes.length < 8) : (r.readFrom src).err ≠ none := by
  obtain ⟨-, err, -⟩ := Source.readFull_of_lt short
  obtain ⟨e, failed⟩ : ∃ e, (src.readFull 8).err = some e := by
    rw [err]; split <;> exact ⟨_, rfl⟩
  simp [Response.readFrom, failed]

/-- A valid CONNECT with NUL-free fields within the default limits, sent in
reads that end where it ends and followed by the chunks `B`, decodes into
itself and leaves exactly `B`. -/
theorem Request.readFrom_connect {r : Request} (valid : r.validate = none)
    (userNul : 0 ∉ r.userID) (domainNul : r.isSOCKS4a → 0 ∉ r.domain)
    (userFits : r.userID.length ≤ 256) (domainFits : r.isSOCKS4a → r.domain.length ≤ 256)
    {src : Source} {A B : List Bytes} (chunks : src.chunks = A ++ B) (request : A.flatten = r.encode) :
    (Request.zero.readFrom src).err = none ∧ (Request.zero.readFrom src).msg = r ∧
      (Request.zero.readFrom src).rest.chunks = B := by
  obtain ⟨msg, -, err, left⟩ := Request.readFromWithLimits_encode Request.zero
    defaultMaxUserIDLen defaultMaxDomainLen (Request.validateHeader_of_validate valid) userNul
    domainNul (by simp [defaultMaxUserIDLen]; omega) (by simp [defaultMaxUserIDLen])
    (fun socks4a => ⟨by have := domainFits socks4a; simp [defaultMaxDomainLen]; omega,
      by simp [defaultMaxDomainLen]⟩) chunks (show A.flatten = r.encode ++ [] by simp [request])
  rw [Request.decodedInto_zero valid] at msg
  exact ⟨err, msg, left.chunks_eq⟩

/-- The listener's CONNECT. For a valid CONNECT request with NUL-free fields
within the default limits, sent in reads that end where it ends and followed
by the chunks `B`, the handler dials the request's address and, when the dial
opens a connection, starts the relay between the rest of the client
connection, `B`, after the granted reply, and the target. -/
theorem handleConn_connect {r : Request} (valid : r.validate = none)
    (connect : r.command = cmdConnect) (userNul : 0 ∉ r.userID)
    (domainNul : r.isSOCKS4a → 0 ∉ r.domain) (userFits : r.userID.length ≤ 256)
    (domainFits : r.isSOCKS4a → r.domain.length ≤ 256) {conn : Conn} {A B : List Bytes}
    (chunks : conn.input.chunks = A ++ B) (request : A.flatten = r.encode) {env : Env}
    {target : Target} (dialOk : env.dial (connectAddress r) = .ok target) :
    (handleConn env conn).dialed = [connectAddress r] ∧
      Relay.relayOf env conn = some (Relay.start (reply ⟨(Request.zero.readFrom conn.input).rest,
        conn.output⟩ repGranted r.port r.getIP) target) ∧
      (Request.zero.readFrom conn.input).rest.bytes = B.flatten := by
  obtain ⟨err, msg, rest⟩ := Request.readFrom_connect valid userNul domainNul userFits domainFits
    chunks request
  refine ⟨?_, ?_, by simp [Source.bytes, rest]⟩
  · simp [handleConn, err, msg, onRequestDefault, connect, onConnectDefault, dialOk]
  · simp only [Relay.relayOf, err, msg, connect, and_self, if_true, dialOk]

/-- The listener's BIND. On a connection whose first eight bytes carry the
command `CmdBind`, the handler dials nothing and writes either nothing (the
request did not decode) or the rejection `OnBindDefault` sends. -/
theorem handleConn_bind (env : Env) {conn : Conn} (bind : conn.input.bytes.getD 1 0 = cmdBind)
    (fresh : conn.output = Sink.accepting []) :
    (handleConn env conn).dialed = [] ∧
      ((handleConn env conn).conn.output.written = [] ∨
        (handleConn env conn).conn.output.written =
          (Response.zero.init 0 repRejected 0 ipv4zero).encode) := by
  cases ok : (Request.zero.readFrom conn.input).err with
  | some e => simp [handleConn, ok, fresh]
  | none =>
    have command : (Request.zero.readFrom conn.input).msg.command = cmdBind :=
      (Request.command_readFromWithLimits _ _ _ _ ok).trans bind
    simp [handleConn, ok, onRequestDefault, command, onBindDefault, reply, fresh,
      Response.writeTo, cmdBind, cmdConnect]

/-! ## The dialer through the listener -/

/-- The SOCKS4a request `DialContext` builds for a hostname is valid, and its
address is the hostname with the port in decimal. -/
theorem dialRequest_hostname {host : Bytes} (hostNe : host ≠ []) (port : UInt16)
    (userID : Bytes) :
    (dialRequest cmdConnect host port none userID).validate = none ∧
      connectAddress (dialRequest cmdConnect host port none userID) =
        joinHostPort host (decimal port.toNat) := by
  rw [dialRequest_none]
  refine ⟨?_, rfl⟩
  simp [Request.validate, validateHeader_of_ne_zero (Or.inl rfl), Request.validateDomain,
    Request.isSOCKS4a, hostNe]

/-- **`DialContext` through the listener.** The dialer's CONNECT for a
hostname, written to the listener's connection in reads that end where the
request ends and followed by the payload `B`: the listener dials the hostname
with the port in decimal and starts its relay. On every interleaving of the
relay, the target has received a prefix of the payload, all of it once the
client-to-target copy returned before the handler closed the target. And
with the dialer reading what the listener has written by then, on every
interleaving of the dialer with its context the method fails only after a
cancellation, and returns a connection holding a prefix of what the target
sent, all of it once the target-to-client copy returned before that close;
some interleaving returns the connection. -/
theorem connect_through_listener {userID host : Bytes} {port : UInt16}
    (userNul : 0 ∉ userID) (userFits : userID.length ≤ 256)
    (hostNe : host ≠ []) (hostNul : 0 ∉ host) (hostFits : host.length ≤ 256)
    {env : Env} {conn : Conn} {A B : List Bytes} {target : Target}
    (chunks : conn.input.chunks = A ++ B)
    (request : A.flatten =
      ((dialRequest cmdConnect host port none userID).writeTo (Sink.accepting [])).dst.written)
    (fresh : conn.output = Sink.accepting [])
    (dialOk : env.dial (joinHostPort host (decimal port.toNat)) = .ok target)
    (receives : target.output = Sink.accepting []) (wrapUp wrapDown : Error → Error)
    (ctxErr : Error) :
    (handleConn env conn).dialed = [joinHostPort host (decimal port.toNat)] ∧
      ∃ r₀, Relay.relayOf env conn = some r₀ ∧
        ∀ r, Relation.ReflTransGen (Relay.Step wrapUp wrapDown ctxErr) r₀ r →
          (∃ t, r.up.dst = Sink.accepting t ∧ t <+: B.flatten ∧
            (r.up.stage.returned = true → r.targetClosed = false → t = B.flatten)) ∧
          ∀ replies : Source, replies.bytes = r.down.dst.written →
            (∀ s, Reachable ⟨.connect, userID, .ok (replies, Sink.accepting []), .ok (host, port),
                none⟩ s →
              (s.main = .returned false → s.ctxDone = true) ∧
              (s.main = .returned true → ∃ rest, s.conn = some rest ∧
                rest.bytes <+: target.input.bytes ∧
                (r.down.stage.returned = true → r.targetClosed = false →
                  rest.bytes = target.input.bytes))) ∧
            ∃ s, Reachable ⟨.connect, userID, .ok (replies, Sink.accepting []), .ok (host, port),
              none⟩ s ∧ s.main = .returned true := by
  obtain ⟨valid, address⟩ := dialRequest_hostname hostNe port userID
  have built := @dialRequest_none cmdConnect host port userID
  rw [Request.writeTo_accepting, Sink.written_accepting, List.nil_append] at request
  rw [← address] at dialOk ⊢
  obtain ⟨dialed, started, payload⟩ := handleConn_connect valid rfl (built ▸ userNul)
    (fun _ => built ▸ hostNul) (built ▸ userFits) (fun _ => built ▸ hostFits) chunks request dialOk
  refine ⟨dialed, _, started, fun r path => ?_⟩
  obtain ⟨⟨t₁, dst₁, pre₁, whole₁⟩, ⟨t₂, dst₂, pre₂, whole₂⟩⟩ :=
    @Relay.Reachable.delivers wrapUp wrapDown ctxErr _ target [] (Response.zero.init 0 repGranted
      (dialRequest cmdConnect host port none userID).port
      (dialRequest cmdConnect host port none userID).getIP).encode receives
      (by simp [reply, fresh, Response.writeTo]) r path
  simp only [input_reply, payload] at pre₁ whole₁
  refine ⟨⟨t₁, dst₁, pre₁, whole₁⟩, fun replies pipe => ?_⟩
  have written : replies.bytes =
      (Response.zero.init 0 repGranted (dialRequest cmdConnect host port none userID).port
        (dialRequest cmdConnect host port none userID).getIP).encode ++ t₂ := by
    rw [pipe, dst₂]; rfl
  obtain ⟨rest, read, left⟩ := Response.readFrom_encode (Response.init_repGranted _ _).1
    Response.zero written
  refine ⟨fun s reach => ⟨fun ret => ?_, fun ret => ?_⟩, ?_⟩
  · exact (Reachable.failedOn read rfl (fun req => by simp [Request.writeTo_accepting])
      (fun _ => by simp) reach ret).resolve_right
      (by simp [(Response.init_repGranted _ _).2])
  · have answered := Reachable.answered read rfl reach
    exact ⟨rest, (answered.granted (.inr ret)).2.2 (answered.idle rfl), left ▸ pre₂,
      fun returned targetOpen => left.trans (whole₂ returned targetOpen)⟩
  · exact ⟨_, ((((((Reachable.init _).step (.dialed rfl rfl)).step (.parsed rfl rfl)).step
      (.sent rfl rfl rfl (by simp [Request.writeTo_accepting]))).step
      (.granted rfl rfl rfl read rfl (Response.init_repGranted _ _).2)).step (.returns rfl)), rfl⟩

/-- The hostname `h`, port 80 and an empty user ID, with the payload `A` in a
read of its own and a target that sends one byte. -/
theorem connect_through_listener_hostname :
    let conn : Conn := ⟨⟨[(dialRequest cmdConnect [104] 80 none []).encode, [65]], .eof,
      by decide⟩, Sink.accepting []⟩
    let env : Env := ⟨fun _ => .ok ⟨⟨[[7]], .eof, by decide⟩, Sink.accepting []⟩⟩
    (handleConn env conn).dialed = [joinHostPort [104] (decimal (80 : UInt16).toNat)] ∧
      ∃ r₀, Relay.relayOf env conn = some r₀ ∧
        ∀ r, Relation.ReflTransGen (Relay.Step id id .closed) r₀ r →
          (∃ t, r.up.dst = Sink.accepting t ∧ t <+: [65] ∧
            (r.up.stage.returned = true → r.targetClosed = false → t = [65])) ∧
          ∀ replies : Source, replies.bytes = r.down.dst.written →
            (∀ s, Reachable ⟨.connect, [], .ok (replies, Sink.accepting []), .ok ([104], 80),
                none⟩ s →
              (s.main = .returned false → s.ctxDone = true) ∧
              (s.main = .returned true → ∃ rest, s.conn = some rest ∧ rest.bytes <+: [7] ∧
                (r.down.stage.returned = true → r.targetClosed = false → rest.bytes = [7]))) ∧
            ∃ s, Reachable ⟨.connect, [], .ok (replies, Sink.accepting []), .ok ([104], 80),
              none⟩ s ∧ s.main = .returned true :=
  @connect_through_listener [] [104] 80 (by decide) (by decide) (by decide) (by decide) (by decide)
    _ _ [_] [[65]] ⟨⟨[[7]], .eof, by decide⟩, Sink.accepting []⟩ rfl
    (by simp [Request.writeTo_accepting]) rfl rfl rfl id id .closed

/-- `BindContext` through the listener never returns a connection. The
dialer's BIND, for any target and user ID, written to the listener's
connection with the listener's replies delivered back to the dialer: the
listener dials nothing, and on every interleaving the method never returns a
connection, its second phase never starts, and nothing is sent on
`readyCh`. -/
theorem bind_through_listener_never_returns {userID host : Bytes} {port : UInt16}
    {parsed : NetIP} {env : Env} {conn : Conn} {more : Bytes} {replies : Source}
    (request : conn.input.bytes =
      ((dialRequest cmdBind host port parsed userID).writeTo (Sink.accepting [])).dst.written ++
        more)
    (fresh : conn.output = Sink.accepting [])
    (pipe : replies.bytes = (handleConn env conn).conn.output.written) :
    (handleConn env conn).dialed = [] ∧
      ∀ s, Reachable ⟨.bind, userID, .ok (replies, Sink.accepting []), .ok (host, port), parsed⟩ s →
        s.main ≠ .returned true ∧ s.second = .notStarted ∧ s.ready.sent = [] := by
  have bind : conn.input.bytes.getD 1 0 = cmdBind := by
    rw [request, Request.writeTo_accepting, Sink.written_accepting, List.nil_append,
      Request.encode]
    simp only [dialRequest]
    split <;> rfl
  obtain ⟨dialed, output⟩ := handleConn_bind env bind fresh
  have refused : ¬((Response.zero.readFrom replies).err = none ∧
      (Response.zero.readFrom replies).msg.isGranted = true) := by
    rcases output with empty | rejected
    · exact fun ⟨ok, _⟩ => Response.readFrom_err_of_short _ (by simp [pipe, empty]) ok
    · obtain ⟨rest, read, -⟩ := Response.readFrom_encode (by decide) Response.zero
        (pipe.trans (rejected.trans (List.append_nil _).symm))
      rw [read]
      exact fun ⟨_, granted⟩ => absurd granted (by
        show ¬(Response.zero.init 0 repRejected 0 ipv4zero).isGranted = true
        decide)
  refine ⟨dialed, fun s reach => ?_⟩
  have answered : s.Answered _ replies _ := Reachable.answered rfl rfl reach
  have never : ¬(s.main = .granted ∨ s.main = .returned true) := fun past =>
    refused ⟨(answered.granted past).1, (answered.granted past).2.1⟩
  have idle : s.second = .notStarted := by
    by_contra started
    exact never (reach.safe.started started)
  have sends := reach.safe.sends
  rw [idle, Second.pending_notStarted, Second.planned_notStarted, List.append_nil] at sends
  exact ⟨fun ret => never (.inr ret), idle, sends⟩


/-- The BIND for the hostname `h`, port 80: the listener rejects it. -/
theorem bind_through_listener_hostname :
    let conn : Conn := ⟨⟨[(dialRequest cmdBind [104] 80 none []).encode], .eof, by decide⟩,
      Sink.accepting []⟩
    let env : Env := ⟨fun _ => .error (.fault 0)⟩
    (handleConn env conn).dialed = [] ∧
      ∀ s, Reachable ⟨.bind, [], .ok (⟨[(handleConn env conn).conn.output.written], .eof,
          by decide⟩, Sink.accepting []), .ok ([104], 80), none⟩ s →
        s.main ≠ .returned true ∧ s.second = .notStarted ∧ s.ready.sent = [] :=
  @bind_through_listener_never_returns [] [104] 80 none _ _ [] _
    (by simp [Source.bytes, Request.writeTo_accepting]) rfl (by simp [Source.bytes])

end Socks.Socks4
