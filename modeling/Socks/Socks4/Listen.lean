import Socks.Socks4.RoundTrip
import Socks.Socks4.Response

/-!
# The listener's handling of one connection

The goroutine `ServeContext` starts for each accepted connection, with the
default hooks: `OnAcceptDefault`, `Request.ReadFrom`, `OnRequestDefault`
dispatching to `OnConnectDefault` or `OnBindDefault`, `OnError` for the
error, and the deferred close.

`OnConnectDefault` relays with two `io.Copy` goroutines and returns the
first error to arrive. Here each copy runs to the end of its stream and the
client-to-target copy's result is returned, which is one of the interleavings
of the race that `Relay` models. The read deadline of `RequestReadTimeout` is
real time and is not modelled.
-/

namespace Socks.Socks4

/-- The size of `io.Copy`'s buffer. -/
def copyBufferSize : Nat := 32 * 1024

/-- What `io.Copy` leaves: the count it returns, its error, the writer and
the reader after it. -/
structure Copied where
  written : Nat
  err : Option Error
  dst : Sink
  src : Source

/-- The loop of `io.Copy(dst, src)`: read into the buffer, write what was read,
stop at the first write error or short write, and at the reader's error, which
is `nil` for `io.EOF`. -/
def copyLoop : Nat → Sink → Source → Nat → Copied
  | 0, dst, src, written => ⟨written, none, dst, src⟩
  | fuel + 1, dst, src, written =>
    let g := src.read copyBufferSize
    if g.data ≠ [] then
      let w := dst.write g.data
      match w.err with
      | some e => ⟨written + w.n, some e, w.dst, g.rest⟩
      | none =>
        if g.data.length ≠ w.n then ⟨written + w.n, some .shortWrite, w.dst, g.rest⟩
        else copyLoop fuel w.dst g.rest (written + w.n)
    else ⟨written, if g.err = some .eof then none else g.err, dst, g.rest⟩

/-- `io.Copy(dst, src)`, with a read for every byte of the stream and one more
for its end. The error is the loop's own: what a `*net.TCPConn` adds around
it, a `*net.OpError`, is the `wrap` of `Copied.ends` and of the relay. -/
def ioCopy (dst : Sink) (src : Source) : Copied := copyLoop (src.bytes.length + 1) dst src 0

/-- `io.Copy` into a writer that accepts everything copies the whole stream,
and returns the error that ends it, nil for `io.EOF`. -/
theorem copyLoop_accepting :
    ∀ (fuel : Nat) (w : Bytes) (src : Source) (written : Nat), src.bytes.length < fuel →
      (copyLoop fuel (Sink.accepting w) src written).dst = Sink.accepting (w ++ src.bytes) ∧
        (copyLoop fuel (Sink.accepting w) src written).written = written + src.bytes.length ∧
        (copyLoop fuel (Sink.accepting w) src written).err =
          if src.ending = .eof then none else some src.ending
  | 0, _, _, _, enough => absurd enough (Nat.not_lt_zero _)
  | fuel + 1, w, src, written, enough => by
    have conserve := src.read_data_append_bytes copyBufferSize
    cases chunks : src.chunks with
    | nil =>
      have empty : src.bytes = [] := (src.bytes_eq_nil_iff).mpr chunks
      simp [copyLoop, Source.read_of_chunks_nil chunks, empty]
    | cons c cs =>
      obtain ⟨data, err, -⟩ := src.read_of_chunks_cons chunks copyBufferSize
      have took : (src.read copyBufferSize).data ≠ [] := by
        rw [data]
        simpa [copyBufferSize] using src.chunks_ne_nil c (by simp [chunks])
      have lengths := congrArg List.length conserve
      simp only [List.length_append] at lengths
      have rest := copyLoop_accepting fuel (w ++ (src.read copyBufferSize).data)
        (src.read copyBufferSize).rest (written + (src.read copyBufferSize).data.length)
        (by have := List.length_pos.mpr took; omega)
      simp only [copyLoop, took, ne_eq, not_false_eq_true, if_true, Sink.write_accepting,
        not_true_eq_false, if_false, rest.1, rest.2.1, rest.2.2, List.append_assoc, conserve,
        Source.ending_read]
      exact ⟨trivial, by omega, trivial⟩

theorem ioCopy_accepting (w : Bytes) (src : Source) :
    (ioCopy (Sink.accepting w) src).dst = Sink.accepting (w ++ src.bytes) :=
  (copyLoop_accepting _ w src 0 (Nat.lt_succ_self _)).1

/-- The error `io.Copy` returns into a writer that accepts everything: the one
ending the stream, nil for `io.EOF`. -/
theorem ioCopy_accepting_err (w : Bytes) (src : Source) :
    (ioCopy (Sink.accepting w) src).err = if src.ending = .eof then none else some src.ending :=
  (copyLoop_accepting _ w src 0 (Nat.lt_succ_self _)).2.2

/-- What `io.Copy` returns apart from its count, its error passed through
`wrap`, with the writer and the reader it leaves. -/
def Copied.ends (wrap : Error → Error) (c : Copied) : Option Error × Sink × Source :=
  (c.err.map wrap, c.dst, c.src)

/-- With fuel for every read left, the loop ends the same way whatever its
fuel and the count it started from. -/
theorem copyLoop_ends (wrap : Error → Error) :
    ∀ (fuel fuel' : Nat) (dst : Sink) (src : Source) (written written' : Nat),
      src.bytes.length < fuel → src.bytes.length < fuel' →
      (copyLoop fuel dst src written).ends wrap = (copyLoop fuel' dst src written').ends wrap
  | 0, _, _, _, _, _, enough, _ | _, 0, _, _, _, _, _, enough => absurd enough (Nat.not_lt_zero _)
  | fuel + 1, fuel' + 1, dst, src, written, written', enough, enough' => by
    have conserve := congrArg List.length (src.read_data_append_bytes copyBufferSize)
    rw [List.length_append] at conserve
    simp only [copyLoop]
    split
    · next took =>
      have shorter : 0 < (src.read copyBufferSize).data.length := List.length_pos.mpr took
      split
      · rfl
      · split
        · rfl
        · exact copyLoop_ends wrap fuel fuel' _ _ _ _ (by omega) (by omega)
    · rfl

/-! ## The default hooks -/

/-- A client connection as its handler sees it: what its reads hand out, and
what has been written back to it. -/
structure Conn where
  input : Source
  output : Sink

/-- A target connection a dial opened: what it sends back, and what it has
received. -/
structure Target where
  input : Source
  output : Sink

/-- The world the handler dials into: the outcome of each dial. -/
structure Env where
  dial : Bytes → Except Error Target

/-- An error a hook returns, which the handler passes to `OnError`. -/
inductive ListenError where
  | read (e : Error)
  | unknownCommand (command : UInt8)
  | connectFailed (address : Bytes) (e : Error)
  | relay (e : Error)
  deriving DecidableEq

/-- What a hook leaves: the client connection, the addresses it dialled, the
target connection it opened, and its error. -/
structure Hooked where
  conn : Conn
  dialed : List Bytes
  target : Option Target
  err : Option ListenError

/-- `net.JoinHostPort`: a host with a colon is bracketed. -/
def joinHostPort (host port : Bytes) : Bytes :=
  if (58 : UInt8) ∈ host then [91] ++ host ++ [93, 58] ++ port else host ++ [58] ++ port

/-- The address `OnConnectDefault` dials: `net.JoinHostPort(host, strconv.Itoa(port))`. -/
def connectAddress (req : Request) : Bytes := joinHostPort req.getHost (decimal req.port.toNat)

/-- The reply a hook writes with `resp.Init(0, code, port, ip)` and `resp.WriteTo(conn)`;
its result is ignored. -/
def reply (conn : Conn) (code : UInt8) (port : UInt16) (ip : NetIP) : Conn :=
  { conn with output := ((Response.zero.init 0 code port ip).writeTo conn.output).dst }

@[simp] theorem input_reply (conn : Conn) (code : UInt8) (port : UInt16) (ip : NetIP) :
    (reply conn code port ip).input = conn.input := rfl

/-- `OnConnectDefault`: dial the request's address; reject on failure, grant
and relay on success. The relay here runs each copy to its end, the
client-to-target one first, and returns that copy's error: one run of the
concurrent relay (`Relay.onConnectDefault_run`). -/
def onConnectDefault (env : Env) (conn : Conn) (req : Request) : Hooked :=
  let address := connectAddress req
  match env.dial address with
  | .error e => ⟨reply conn repRejected req.port req.getIP, [address], none,
      some (.connectFailed address e)⟩
  | .ok target =>
    let conn := reply conn repGranted req.port req.getIP
    let up := ioCopy target.output conn.input
    let down := ioCopy conn.output target.input
    ⟨⟨up.src, down.dst⟩, [address], some ⟨down.src, up.dst⟩, up.err.map .relay⟩

/-- `OnBindDefault`: reject, and return no error. -/
def onBindDefault (conn : Conn) : Hooked :=
  ⟨reply conn repRejected 0 ipv4zero, [], none, none⟩

/-- `OnRequestDefault`: dispatch on the command, rejecting unknown ones. -/
def onRequestDefault (env : Env) (conn : Conn) (req : Request) : Hooked :=
  if req.command = cmdConnect then onConnectDefault env conn req
  else if req.command = cmdBind then onBindDefault conn
  else ⟨reply conn repRejected 0 ipv4zero, [], none, some (.unknownCommand req.command)⟩

/-- What handling one connection leaves: the hooks' effects, the errors
passed to `OnError`, and whether the connection was closed. -/
structure Handled where
  conn : Conn
  dialed : List Bytes
  target : Option Target
  errors : List ListenError
  closed : Bool

/-- The goroutine `ServeContext` runs for one accepted connection, with the
default hooks: `OnAccept` returns nil, the request is read, `OnRequest`
handles it, an error goes to `OnError`, and the connection is closed. -/
def handleConn (env : Env) (conn : Conn) : Handled :=
  let d := Request.zero.readFrom conn.input
  match d.err with
  | some e => ⟨{ conn with input := d.rest }, [], none, [.read e], true⟩
  | none =>
    let h := onRequestDefault env { conn with input := d.rest } d.msg
    ⟨h.conn, h.dialed, h.target, h.err.toList, true⟩

/-! ## A request the decoder rejects -/

/-- A request whose 8-byte header fails `ValidateHeader` gets no reply: the
handler passes the decoder's error to `OnError` and closes the connection,
having dialled nothing and written nothing. -/
theorem handleConn_bad_header (env : Env) {conn : Conn} {hdr s : Bytes}
    (bytes : conn.input.bytes = hdr ++ s) (eight : hdr.length = 8) {e : Error}
    (bad : (Request.zero.readHeaderFrom conn.input).err = some e) :
    (handleConn env conn).conn.output = conn.output ∧ (handleConn env conn).dialed = [] ∧
      (handleConn env conn).errors = [.read e] ∧ (handleConn env conn).closed = true := by
  obtain ⟨rest, read, -⟩ := Request.readFromWithLimits_bad_header Request.zero bytes eight bad
    defaultMaxUserIDLen defaultMaxDomainLen
  simp [handleConn, Request.readFrom, read]

/-- An unknown command never reaches the rejecting branch of
`OnRequestDefault`: `ValidateHeader` refuses it inside `Request.ReadFrom`, so
the client gets no reply, only the closed connection. -/
theorem handleConn_unknown_command (env : Env) {conn : Conn} {c p₁ p₂ a b c' d : UInt8}
    {s : Bytes} (bytes : conn.input.bytes = [socksVersion, c, p₁, p₂, a, b, c', d] ++ s)
    (unknown : c ≠ cmdConnect ∧ c ≠ cmdBind) :
    (handleConn env conn).conn.output = conn.output ∧ (handleConn env conn).dialed = [] ∧
      (handleConn env conn).errors = [.read (.socks4 .errInvalidCommand)] ∧
      (handleConn env conn).closed = true := by
  obtain ⟨rest, read, -⟩ := Source.readFull_eq bytes
    (show [socksVersion, c, p₁, p₂, a, b, c', d].length = 8 from rfl)
  exact handleConn_bad_header env bytes rfl
    (by simp [Request.readHeaderFrom, read, Request.validateHeader, unknown])

/-- The request with command 3 for `1.2.3.4:80` and an empty user ID gets no
reply; its one error is the decoder's. -/
theorem handleConn_writes_no_reply_to_unknown_command :
    let conn : Conn := ⟨⟨[[4, 3, 0, 80, 1, 2, 3, 4, 0]], .eof, by decide⟩, Sink.accepting []⟩
    let env : Env := ⟨fun _ => .error (.fault 0)⟩
    (handleConn env conn).conn.output.written = [] ∧
      (handleConn env conn).errors = [.read (.socks4 .errInvalidCommand)] ∧
      (handleConn env conn).closed = true := by
  decide

/-! ## A CONNECT relayed end to end -/

/-- **Payload sent with the request is lost.** A valid CONNECT request for
`1.2.3.4:80` followed by one payload byte, all in one read: the decoder's
buffer takes the byte, and the target the dial opens receives nothing. -/
theorem handleConn_drops_pipelined_payload :
    let r : Request := ⟨4, 1, 80, ⟨1, 2, 3, 4⟩, [], []⟩
    let conn : Conn := ⟨⟨[r.encode ++ [65]], .eof, by decide⟩, Sink.accepting []⟩
    let env : Env := ⟨fun _ => .ok ⟨⟨[], .eof, by decide⟩, Sink.accepting []⟩⟩
    r.validate = none ∧ r.command = cmdConnect ∧
      (handleConn env conn).dialed = [connectAddress r] ∧
      (handleConn env conn).target.map (·.output.written) = some [] := by
  decide

/-- **End-to-end CONNECT.** A valid CONNECT request with no NUL in its fields
and fields that fit the default limits, sent in reads that end where the
request ends (the chunks `A`), then the payload in the chunks `B`: the handler
dials the request's address, and when the dial opens a connection, the target
receives exactly the payload. -/
theorem handleConn_relays_payload {r : Request} (valid : r.validate = none)
    (connect : r.command = cmdConnect) (userNul : 0 ∉ r.userID)
    (domainNul : r.isSOCKS4a → 0 ∉ r.domain) (userFits : r.userID.length ≤ 256)
    (domainFits : r.isSOCKS4a → r.domain.length ≤ 256) {conn : Conn} {A B : List Bytes}
    (chunks : conn.input.chunks = A ++ B) (request : A.flatten = r.encode) {env : Env}
    {target : Target} (dialOk : env.dial (connectAddress r) = .ok target)
    (receives : target.output = Sink.accepting []) :
    (handleConn env conn).dialed = [connectAddress r] ∧
      (handleConn env conn).target.map (·.output.written) = some B.flatten := by
  obtain ⟨msg, -, err, left⟩ := Request.readFromWithLimits_encode Request.zero
    defaultMaxUserIDLen defaultMaxDomainLen (Request.validateHeader_of_validate valid) userNul
    domainNul (by simp [defaultMaxUserIDLen]; omega) (by simp [defaultMaxUserIDLen])
    (fun socks4a => ⟨by have := domainFits socks4a; simp [defaultMaxDomainLen]; omega,
      by simp [defaultMaxDomainLen]⟩) chunks (show A.flatten = r.encode ++ [] by simp [request])
  rw [Request.decodedInto_zero valid] at msg
  have rest := left.chunks_eq
  simp only [handleConn, Request.readFrom, err, msg, onRequestDefault, connect, if_true,
    onConnectDefault, dialOk, receives, ioCopy_accepting]
  exact ⟨trivial, by simp [Source.bytes, rest]⟩

/-- The CONNECT to `1.2.3.4:80` with its one payload byte in a read of its own. -/
theorem handleConn_relays_one_byte :
    let r : Request := ⟨4, 1, 80, ⟨1, 2, 3, 4⟩, [], []⟩
    let conn : Conn := ⟨⟨[r.encode, [65]], .eof, by decide⟩, Sink.accepting []⟩
    let env : Env := ⟨fun _ => .ok ⟨⟨[], .eof, by decide⟩, Sink.accepting []⟩⟩
    (handleConn env conn).dialed = [connectAddress r] ∧
      (handleConn env conn).target.map (·.output.written) = some [65] :=
  @handleConn_relays_payload ⟨4, 1, 80, ⟨1, 2, 3, 4⟩, [], []⟩ (by decide) rfl (by decide)
    (by decide) (by decide) (by decide) _ [_] [[65]] rfl (List.append_nil _) _ _ rfl rfl

end Socks.Socks4
