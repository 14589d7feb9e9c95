import Socks.Socks5.Address
import Socks.Socks5.Auth
import Socks.Socks5.RoundTrip
import Socks.Socks4.Request
import Socks.Socks4.Response

/-!
# What `WriteTo` writes and counts

Every `WriteTo` of the packages writes its frame in pieces, one `Write` each,
stops at the first error, and adds up the counts the writer returns: it is
`Sink.writeAll` of the frame's pieces. On a writer that keeps the `io.Writer`
contract, that puts a prefix of the frame on the wire, the whole frame unless
an error comes back, and counts exactly that prefix (`Wrote.WritesPrefix`).

The address switch of the SOCKS5 `Request`, `Reply` and `UDPPacket` breaks
the count: it assigns `n, err` in each branch and then adds `n` to the total,
so an address type the switch does not know adds the header's count twice,
and the domain branch adds the length byte's count to the total before it
returns on that write's error, so that count is added twice as well.

* `Socks5.Request.writeTo_writesPrefix`, and the same for `Reply` and
  `UDPPacket`: a prefix of `encode`, counted with the switch's over-count on
  top, which is zero for an IPv4 or IPv6 address (`framedOvercount_of_ip`).
* `Socks5.Request.writeTo_exact`, and the same for `Reply` and `UDPPacket`: a
  valid message sent without error is `encode`, counted exactly, so the
  over-count needs an invalid message or a failed write; and
  `readFrom_written`: `ReadFrom` decodes it from the bytes the writer got.
* Every other `WriteTo` of both packages writes a prefix of its `encode` and
  counts exactly what the writer took.
-/

namespace Socks

/-! ## The `io.WriterTo` contract -/

/-- What a `WriteTo` of `frame` leaves behind on `dst`: a prefix of the frame
appended to the writer, all of it unless the call returned an error, and a
count that is the prefix's length plus `extra`. -/
def Wrote.WritesPrefix (w : Wrote) (dst : Sink) (frame : Bytes) (extra : Nat) : Prop :=
  ∃ t, t <+: frame ∧ w.dst = ⟨dst.written ++ t, dst.answer⟩ ∧ w.n = t.length + extra ∧
    (w.err = none → t = frame)

/-- The writes of a frame's pieces, with `extra` added to their count. -/
theorem writesPrefix_writeAll {dst : Sink} (honest : dst.ErrsOnShortWrite) (ps : List Bytes)
    (extra : Nat) :
    Wrote.WritesPrefix ⟨(dst.writeAll ps).n + extra, (dst.writeAll ps).err, (dst.writeAll ps).dst⟩
      dst ps.flatten extra := by
  obtain ⟨t, pre, wrote, counted, whole⟩ := Sink.writeAll_prefix honest ps
  exact ⟨t, pre, wrote, by rw [counted], whole⟩

/-- A `WriteTo` that is the writes of pieces making up `frame` counts exactly
the prefix of `frame` it wrote. -/
theorem writesPrefix_of_writeAll {dst : Sink} (honest : dst.ErrsOnShortWrite) {w : Wrote}
    {ps : List Bytes} {frame : Bytes} (eq : w = dst.writeAll ps) (flat : ps.flatten = frame) :
    w.WritesPrefix dst frame 0 := by
  subst eq flat
  exact writesPrefix_writeAll honest ps 0

/-- A call refused before its first write leaves the writer as it was and
counts nothing. -/
theorem writesPrefix_refused (e : Error) (dst : Sink) (frame : Bytes) :
    Wrote.WritesPrefix ⟨0, some e, dst⟩ dst frame 0 :=
  ⟨[], ⟨frame, rfl⟩, by rw [List.append_nil], rfl, fun refused => nomatch refused⟩

/-- A `WriteTo` that returned no error appended the whole frame. -/
theorem Wrote.WritesPrefix.whole {w : Wrote} {dst : Sink} {frame : Bytes} {extra : Nat}
    (writes : w.WritesPrefix dst frame extra) (ok : w.err = none) :
    w.dst.written = dst.written ++ frame ∧ w.n = frame.length + extra := by
  obtain ⟨t, -, wrote, counted, whole⟩ := writes
  rw [← whole ok, wrote, counted]
  exact ⟨rfl, rfl⟩

namespace Socks5

/-! ## The address switch -/

/-- The pieces the address switch of `WriteTo` writes: `To4()`, `To16()`, or
the length byte and then the domain; none for a type it does not know. -/
def addressPieces (addrType : UInt8) (ip : NetIP) (domain : Bytes) : List Bytes :=
  if addrType = addrTypeIPv4 then [ip.to4.bytes]
  else if addrType = addrTypeIPv6 then [ip.to16.bytes]
  else if addrType = addrTypeDomain then [[domain.length.toUInt8], domain]
  else []

theorem flatten_addressPieces (addrType : UInt8) (ip : NetIP) (domain : Bytes) :
    (addressPieces addrType ip domain).flatten = addressBytes addrType ip domain := by
  unfold addressPieces addressBytes
  split_ifs <;> simp

/-- What the address switch counts on top of what the writer took, after a
header whose write counted `n`: `n` again for a type it does not know, and the
length byte's count again when that write fails. -/
def addressOvercount (addrType : UInt8) (domain : Bytes) (dst : Sink) (n : Nat) : Nat :=
  if addrType = addrTypeIPv4 ∨ addrType = addrTypeIPv6 then 0
  else if addrType = addrTypeDomain then
    if (dst.write [domain.length.toUInt8]).err = none then 0 else (dst.write [domain.length.toUInt8]).n
  else n

/-- The address switch writes its pieces and counts them, plus its
over-count. -/
theorem writeAddress_eq (addrType : UInt8) (ip : NetIP) (domain : Bytes) (dst : Sink)
    (total n : Nat) :
    writeAddress addrType ip domain dst total n =
      ⟨total + (dst.writeAll (addressPieces addrType ip domain)).n +
          addressOvercount addrType domain dst n,
        (dst.writeAll (addressPieces addrType ip domain)).err,
        (dst.writeAll (addressPieces addrType ip domain)).dst⟩ := by
  unfold writeAddress addressPieces addressOvercount
  by_cases v4 : addrType = addrTypeIPv4
  · simp only [if_pos v4, if_pos (Or.inl v4 : _ ∨ addrType = addrTypeIPv6),
      Sink.writeAll_singleton, Nat.add_zero]
  by_cases v6 : addrType = addrTypeIPv6
  · simp only [if_neg v4, if_pos v6, if_pos (Or.inr v6 : addrType = addrTypeIPv4 ∨ _),
      Sink.writeAll_singleton, Nat.add_zero]
  have notIP : ¬(addrType = addrTypeIPv4 ∨ addrType = addrTypeIPv6) := not_or.mpr ⟨v4, v6⟩
  by_cases dom : addrType = addrTypeDomain
  · simp only [if_neg v4, if_neg v6, if_neg notIP, if_pos dom, Sink.writeAll]
    generalize dst.write [domain.length.toUInt8] = w
    obtain ⟨n₁, err₁, d₁⟩ := w
    generalize d₁.write domain = w
    obtain ⟨n₂, err₂, d₂⟩ := w
    cases err₁ <;> cases err₂ <;> simp [Nat.add_assoc]
  · simp only [if_neg v4, if_neg v6, if_neg notIP, if_neg dom, Sink.writeAll_nil, Nat.add_zero]

/-- What a frame of a header, an address and more counts on top of what the
writer took: the address switch's over-count, once the header is written. -/
def framedOvercount (header : Bytes) (addrType : UInt8) (domain : Bytes) (dst : Sink) : Nat :=
  if (dst.write header).err = none then
    addressOvercount addrType domain (dst.write header).dst (dst.write header).n
  else 0

/-- Writing a header, then the address switch from the header's count, then
the rest `k` unless the address failed, is writing the frame's pieces, with
the switch's over-count on top. -/
theorem writeFramed_eq (header : Bytes) (addrType : UInt8) (ip : NetIP) (domain : Bytes)
    {restPieces : List Bytes} (k : Wrote → Wrote)
    (kEq : ∀ a, k a = ⟨a.n + (a.dst.writeAll restPieces).n, (a.dst.writeAll restPieces).err,
      (a.dst.writeAll restPieces).dst⟩) (dst : Sink) :
    (match (dst.write header).err with
      | some e => ⟨(dst.write header).n, some e, (dst.write header).dst⟩
      | none =>
        let a := writeAddress addrType ip domain (dst.write header).dst (dst.write header).n
          (dst.write header).n
        match a.err with
        | some e => ⟨a.n, some e, a.dst⟩
        | none => k a : Wrote) =
      ⟨(dst.writeAll ([header] ++ addressPieces addrType ip domain ++ restPieces)).n +
          framedOvercount header addrType domain dst,
        (dst.writeAll ([header] ++ addressPieces addrType ip domain ++ restPieces)).err,
        (dst.writeAll ([header] ++ addressPieces addrType ip domain ++ restPieces)).dst⟩ := by
  rw [List.singleton_append, List.cons_append, Sink.writeAll_cons]
  unfold framedOvercount
  cases headerErr : (dst.write header).err with
  | some e => simp
  | none =>
    simp only [writeAddress_eq, kEq, Sink.writeAll_append, if_true]
    cases (((dst.write header).dst).writeAll (addressPieces addrType ip domain)).err <;>
      simp [Nat.add_assoc, Nat.add_comm, Nat.add_left_comm]

/-- The rest of a frame written with one `Write`. -/
theorem write_rest (p : Bytes) (a : Wrote) :
    (⟨a.n + (a.dst.write p).n, (a.dst.write p).err, (a.dst.write p).dst⟩ : Wrote) =
      ⟨a.n + (a.dst.writeAll [p]).n, (a.dst.writeAll [p]).err, (a.dst.writeAll [p]).dst⟩ := by
  rw [Sink.writeAll_singleton]

/-- The rest of a frame written with two `Write`s, the second unless the
first returned an error. -/
theorem write_rest_pair (p q : Bytes) (a : Wrote) :
    (match (a.dst.write p).err with
      | some e => ⟨a.n + (a.dst.write p).n, some e, (a.dst.write p).dst⟩
      | none =>
        ⟨a.n + (a.dst.write p).n + ((a.dst.write p).dst.write q).n,
          ((a.dst.write p).dst.write q).err, ((a.dst.write p).dst.write q).dst⟩ : Wrote) =
      ⟨a.n + (a.dst.writeAll [p, q]).n, (a.dst.writeAll [p, q]).err,
        (a.dst.writeAll [p, q]).dst⟩ := by
  rw [Sink.writeAll_pair]
  cases (a.dst.write p).err <;> simp [Nat.add_assoc]

/-! ## Requests, replies and datagrams -/

/-- The pieces of a request's frame: header, address, port. -/
def Request.pieces (r : Request) : List Bytes :=
  [[r.version, r.command, r.reserved, r.addrType]] ++ addressPieces r.addrType r.ip r.domain ++
    [putUint16 r.port]

/-- `Request.WriteTo` writes the frame's pieces in order and stops at the
first error, after refusing a domain out of 1 to 255 bytes; it counts what
the writer took plus the address switch's over-count. -/
theorem Request.writeTo_eq (r : Request) (dst : Sink) :
    r.writeTo dst =
      if r.addrType = addrTypeDomain ∧ (r.domain.length = 0 ∨ r.domain.length > 255) then
        ⟨0, some (.socks5 .errInvalidReplyDomain), dst⟩
      else
        ⟨(dst.writeAll r.pieces).n +
            framedOvercount [r.version, r.command, r.reserved, r.addrType] r.addrType r.domain dst,
          (dst.writeAll r.pieces).err, (dst.writeAll r.pieces).dst⟩ := by
  unfold writeTo
  split_ifs
  · rfl
  · exact writeFramed_eq [r.version, r.command, r.reserved, r.addrType] r.addrType r.ip r.domain
      _ (write_rest (putUint16 r.port)) dst

/-- The over-count is zero for an IPv4 or IPv6 address. -/
theorem framedOvercount_of_ip {header : Bytes} {addrType : UInt8} (domain : Bytes) (dst : Sink)
    (ip : addrType = addrTypeIPv4 ∨ addrType = addrTypeIPv6) :
    framedOvercount header addrType domain dst = 0 := by
  simp [framedOvercount, addressOvercount, ip]

/-- The over-count is zero for the three address types once every write of
the frame returned no error. -/
theorem framedOvercount_of_ok {header : Bytes} {addrType : UInt8} {ip : NetIP} {domain : Bytes}
    {restPieces : List Bytes} {dst : Sink}
    (known : addrType = addrTypeIPv4 ∨ addrType = addrTypeDomain ∨ addrType = addrTypeIPv6)
    (ok : (dst.writeAll ([header] ++ addressPieces addrType ip domain ++ restPieces)).err = none) :
    framedOvercount header addrType domain dst = 0 := by
  rw [List.singleton_append, List.cons_append] at ok
  obtain ⟨headerOk, addressOk⟩ := Sink.writeAll_ok_cons ok
  rcases known with v4 | dom | v6
  · exact framedOvercount_of_ip domain dst (.inl v4)
  · subst dom
    have pieces : addressPieces addrTypeDomain ip domain = [[domain.length.toUInt8], domain] := rfl
    rw [pieces, List.cons_append] at addressOk
    simp [framedOvercount, addressOvercount, headerOk, (Sink.writeAll_ok_cons addressOk).1,
      addrTypeIPv4, addrTypeIPv6, addrTypeDomain]
  · exact framedOvercount_of_ip domain dst (.inr v6)

/-- What `Request.WriteTo` counts on top of what the writer took. -/
def Request.overcount (r : Request) (dst : Sink) : Nat :=
  if r.addrType = addrTypeDomain ∧ (r.domain.length = 0 ∨ r.domain.length > 255) then 0
  else framedOvercount [r.version, r.command, r.reserved, r.addrType] r.addrType r.domain dst

theorem Request.flatten_pieces (r : Request) : r.pieces.flatten = r.encode := by
  simp [pieces, encode, flatten_addressPieces]

/-- On a writer that keeps the `io.Writer` contract, `Request.WriteTo` writes a
prefix of `encode`, all of it unless it returns an error, and counts it plus
the address switch's over-count. -/
theorem Request.writeTo_writesPrefix (r : Request) {dst : Sink} (honest : dst.ErrsOnShortWrite) :
    (r.writeTo dst).WritesPrefix dst r.encode (r.overcount dst) := by
  rw [writeTo_eq, overcount, ← flatten_pieces]
  split_ifs
  · exact writesPrefix_refused _ dst _
  · exact writesPrefix_writeAll honest _ _

/-- A request of the unknown address type 7, on a writer that takes
everything: six bytes written, ten counted. A domain request on a writer that
takes its header and then takes the length byte with an error: five bytes
written, six counted. -/
theorem Request.writeTo_counts_bytes_twice :
    let q : Request := ⟨5, 1, 0, 7, none, [], 80⟩
    let d : Request := ⟨5, 1, 0, 3, none, [97], 80⟩
    let failing : Sink :=
      ⟨[], fun written p => if written.length = 4 then (1, some (.fault 0)) else (p.length, none)⟩
    (q.writeTo (Sink.accepting [])).err = none ∧
      (q.writeTo (Sink.accepting [])).dst.written.length = 6 ∧
      (q.writeTo (Sink.accepting [])).n = 10 ∧
      (d.writeTo failing).err = some (.fault 0) ∧ (d.writeTo failing).dst.written.length = 5 ∧
      (d.writeTo failing).n = 6 := by
  decide

/-- A valid request is counted exactly. On a writer that keeps the
`io.Writer` contract, when `Request.WriteTo` of a valid request returns no
error, the writer got `encode` and the count is its length: the address
switch over-counts only a request of an unknown type or a write that fails. -/
theorem Request.writeTo_exact (r : Request) (valid : r.validate = none) {dst : Sink}
    (honest : dst.ErrsOnShortWrite) (ok : (r.writeTo dst).err = none) :
    (r.writeTo dst).dst.written = dst.written ++ r.encode ∧ (r.writeTo dst).n = r.encode.length := by
  have exact : r.overcount dst = 0 := by
    unfold overcount
    split_ifs with bad
    · rfl
    · rw [writeTo_eq, if_neg bad] at ok
      exact framedOvercount_of_ok (addrType_of_validateHeader (validate_eq_none.mp valid).1) ok
  simpa [exact] using (r.writeTo_writesPrefix honest).whole ok

/-- The pieces of a reply's frame: header, address, port. -/
def Reply.pieces (r : Reply) : List Bytes :=
  [[r.version, r.reply, r.reserved, r.addrType]] ++ addressPieces r.addrType r.ip r.domain ++
    [putUint16 r.port]

/-- `Reply.WriteTo` runs `Validate`, then writes the frame's pieces as
`Request.WriteTo` does. -/
theorem Reply.writeTo_eq (r : Reply) (dst : Sink) :
    r.writeTo dst =
      match r.validate with
      | some e => ⟨0, some e, dst⟩
      | none =>
        ⟨(dst.writeAll r.pieces).n +
            framedOvercount [r.version, r.reply, r.reserved, r.addrType] r.addrType r.domain dst,
          (dst.writeAll r.pieces).err, (dst.writeAll r.pieces).dst⟩ := by
  unfold writeTo
  cases r.validate with
  | some e => rfl
  | none =>
    exact writeFramed_eq [r.version, r.reply, r.reserved, r.addrType] r.addrType r.ip r.domain
      _ (write_rest (putUint16 r.port)) dst

/-- What `Reply.WriteTo` counts on top of what the writer took. -/
def Reply.overcount (r : Reply) (dst : Sink) : Nat :=
  match r.validate with
  | some _ => 0
  | none => framedOvercount [r.version, r.reply, r.reserved, r.addrType] r.addrType r.domain dst

theorem Reply.flatten_pieces (r : Reply) : r.pieces.flatten = r.encode := by
  simp [pieces, encode, flatten_addressPieces]

/-- `Reply.WriteTo` writes a prefix of `encode` and counts it plus the address
switch's over-count. -/
theorem Reply.writeTo_writesPrefix (r : Reply) {dst : Sink} (honest : dst.ErrsOnShortWrite) :
    (r.writeTo dst).WritesPrefix dst r.encode (r.overcount dst) := by
  rw [writeTo_eq, overcount, ← flatten_pieces]
  cases r.validate with
  | some e => exact writesPrefix_refused e dst _
  | none => exact writesPrefix_writeAll honest _ _

/-- A valid reply that `Reply.WriteTo` sends without error is counted
exactly. -/
theorem Reply.writeTo_exact (r : Reply) (valid : r.validate = none) {dst : Sink}
    (honest : dst.ErrsOnShortWrite) (ok : (r.writeTo dst).err = none) :
    (r.writeTo dst).dst.written = dst.written ++ r.encode ∧ (r.writeTo dst).n = r.encode.length := by
  have exact : r.overcount dst = 0 := by
    rw [writeTo_eq, valid] at ok
    rw [overcount, valid]
    exact framedOvercount_of_ok (addrType_of_validateHeader (validate_eq_none.mp valid).1) ok
  simpa [exact] using (r.writeTo_writesPrefix honest).whole ok

/-- The pieces of a datagram: header, address, port, payload. -/
def UDPPacket.pieces (p : UDPPacket) : List Bytes :=
  [[p.reserved.1, p.reserved.2, p.frag, p.addrType]] ++ addressPieces p.addrType p.ip p.domain ++
    [putUint16 p.port, p.data]

/-- `UDPPacket.WriteTo` runs `Validate`, then writes the datagram's pieces as
`Request.WriteTo` does. -/
theorem UDPPacket.writeTo_eq (p : UDPPacket) (dst : Sink) :
    p.writeTo dst =
      match p.validate with
      | some e => ⟨0, some e, dst⟩
      | none =>
        ⟨(dst.writeAll p.pieces).n +
            framedOvercount [p.reserved.1, p.reserved.2, p.frag, p.addrType] p.addrType p.domain dst,
          (dst.writeAll p.pieces).err, (dst.writeAll p.pieces).dst⟩ := by
  unfold writeTo
  cases p.validate with
  | some e => rfl
  | none =>
    exact writeFramed_eq [p.reserved.1, p.reserved.2, p.frag, p.addrType] p.addrType p.ip p.domain
      _ (write_rest_pair (putUint16 p.port) p.data) dst


/-- What `UDPPacket.WriteTo` counts on top of what the writer took. -/
def UDPPacket.overcount (p : UDPPacket) (dst : Sink) : Nat :=
  match p.validate with
  | some _ => 0
  | none => framedOvercount [p.reserved.1, p.reserved.2, p.frag, p.addrType] p.addrType p.domain dst

theorem UDPPacket.flatten_pieces (p : UDPPacket) : p.pieces.flatten = p.encode := by
  simp [pieces, encode, flatten_addressPieces]

/-- `UDPPacket.WriteTo` writes a prefix of `encode` and counts it plus the
address switch's over-count. -/
theorem UDPPacket.writeTo_writesPrefix (p : UDPPacket) {dst : Sink} (honest : dst.ErrsOnShortWrite) :
    (p.writeTo dst).WritesPrefix dst p.encode (p.overcount dst) := by
  rw [writeTo_eq, overcount, ← flatten_pieces]
  cases p.validate with
  | some e => exact writesPrefix_refused e dst _
  | none => exact writesPrefix_writeAll honest _ _

/-- A valid datagram that `UDPPacket.WriteTo` sends without error is counted
exactly. -/
theorem UDPPacket.writeTo_exact (p : UDPPacket) (valid : p.validate = none) {dst : Sink}
    (honest : dst.ErrsOnShortWrite) (ok : (p.writeTo dst).err = none) :
    (p.writeTo dst).dst.written = dst.written ++ p.encode ∧ (p.writeTo dst).n = p.encode.length := by
  have exact : p.overcount dst = 0 := by
    rw [writeTo_eq, valid] at ok
    rw [overcount, valid]
    exact framedOvercount_of_ok
      (addrType_of_validateAddress (validate_eq_none.mp valid).2.2.1) ok
  simpa [exact] using (p.writeTo_writesPrefix honest).whole ok

/-! ## The other SOCKS5 messages -/

theorem HandshakeRequest.writeTo_eq (h : HandshakeRequest) (dst : Sink) :
    h.writeTo dst = dst.writeAll [[h.version, h.nMethods], h.methods] :=
  (Sink.writeAll_pair dst _ _).symm

/-- `HandshakeRequest.WriteTo` writes a prefix of `encode` and counts exactly
what the writer took. -/
theorem HandshakeRequest.writeTo_writesPrefix (h : HandshakeRequest) {dst : Sink}
    (honest : dst.ErrsOnShortWrite) : (h.writeTo dst).WritesPrefix dst h.encode 0 :=
  writesPrefix_of_writeAll honest (writeTo_eq h dst) (by simp [encode])

theorem HandshakeReply.writeTo_writesPrefix (h : HandshakeReply) {dst : Sink}
    (honest : dst.ErrsOnShortWrite) : (h.writeTo dst).WritesPrefix dst h.encode 0 :=
  writesPrefix_of_writeAll honest (Sink.writeAll_singleton dst _).symm (by simp)

theorem UserPassRequest.writeTo_eq (r : UserPassRequest) (dst : Sink) :
    r.writeTo dst =
      if r.username.length > 255 ∨ r.password.length > 255 then
        ⟨0, some (.socks5 .errUserPassTooLong), dst⟩
      else
        dst.writeAll
          [[r.version, r.username.length.toUInt8], r.username, [r.password.length.toUInt8],
            r.password] := by
  unfold writeTo
  split_ifs
  · rfl
  · rw [Sink.writeAll_cons, Sink.writeAll_cons, Sink.writeAll_pair]
    generalize dst.write [r.version, r.username.length.toUInt8] = w
    obtain ⟨n₁, err₁, d₁⟩ := w
    dsimp only
    generalize d₁.write r.username = w
    obtain ⟨n₂, err₂, d₂⟩ := w
    dsimp only
    generalize d₂.write [r.password.length.toUInt8] = w
    obtain ⟨n₃, err₃, d₃⟩ := w
    cases err₁ <;> cases err₂ <;> cases err₃ <;> simp [Nat.add_assoc]

/-- `UserPassRequest.WriteTo` writes a prefix of `encode`, nothing when a field
is too long, and counts exactly what the writer took. -/
theorem UserPassRequest.writeTo_writesPrefix (r : UserPassRequest) {dst : Sink}
    (honest : dst.ErrsOnShortWrite) : (r.writeTo dst).WritesPrefix dst r.encode 0 := by
  rw [writeTo_eq]
  split_ifs
  · exact writesPrefix_refused _ dst _
  · exact writesPrefix_of_writeAll honest rfl (by simp [encode])

theorem UserPassReply.writeTo_writesPrefix (r : UserPassReply) {dst : Sink}
    (honest : dst.ErrsOnShortWrite) : (r.writeTo dst).WritesPrefix dst r.encode 0 :=
  writesPrefix_of_writeAll honest (Sink.writeAll_singleton dst _).symm (by simp)

theorem GSSAPIMessage.writeTo_eq (errs : GSSAPIErrors) (r : GSSAPIMessage) (dst : Sink) :
    writeTo errs r dst =
      match validate errs r with
      | some e => ⟨0, some e, dst⟩
      | none =>
        dst.writeAll
          (if r.msgType = gssapiTypeAbort then [[r.version, r.msgType]]
          else [[r.version, r.msgType] ++ putUint16 r.token.length.toUInt16, r.token]) := by
  unfold writeTo
  cases validate errs r with
  | some e => rfl
  | none =>
    split_ifs
    · exact (Sink.writeAll_singleton dst _).symm
    · exact (Sink.writeAll_pair dst _ _).symm

/-- `GSSAPIMessage.WriteTo` writes a prefix of `encode`, nothing when the
message is invalid, and counts exactly what the writer took. -/
theorem GSSAPIMessage.writeTo_writesPrefix (errs : GSSAPIErrors) (r : GSSAPIMessage) {dst : Sink}
    (honest : dst.ErrsOnShortWrite) : (writeTo errs r dst).WritesPrefix dst r.encode 0 := by
  rw [writeTo_eq]
  cases validate errs r with
  | some e => exact writesPrefix_refused e dst _
  | none => exact writesPrefix_of_writeAll honest rfl (by unfold encode; split_ifs <;> simp)

/-! ## Across the wire -/

/-- **A request crosses the wire.** A valid request whose address reads
back, which `WriteTo` sends without error to a writer that keeps the
`io.Writer` contract, is decoded by `ReadFrom` from the bytes that writer got,
followed by anything, however they are split into reads: the request with its
address read back, counted as `WriteTo` counted it. -/
theorem Request.readFrom_written {r : Request} (valid : r.validate = none)
    (readable : AddressReadable r.addrType r.ip r.domain) {dst : Sink}
    (honest : dst.ErrsOnShortWrite) (ok : (r.writeTo dst).err = none) (r₀ : Request)
    {src : Source} {s : Bytes}
    (wire : src.bytes = (r.writeTo dst).dst.written.drop dst.written.length ++ s) :
    ∃ rest, r₀.readFrom src = ⟨r₀.decodedInto r, (r.writeTo dst).n, none, rest⟩ ∧
      rest.bytes = s := by
  obtain ⟨written, counted⟩ := r.writeTo_exact valid honest ok
  rw [written, List.drop_left] at wire
  rw [counted]
  exact Request.readFrom_encode valid readable r₀ wire

/-- A reply crosses the wire the same way. -/
theorem Reply.readFrom_written {r : Reply} (valid : r.validate = none)
    (readable : AddressReadable r.addrType r.ip r.domain) {dst : Sink}
    (honest : dst.ErrsOnShortWrite) (ok : (r.writeTo dst).err = none) (r₀ : Reply)
    {src : Source} {s : Bytes}
    (wire : src.bytes = (r.writeTo dst).dst.written.drop dst.written.length ++ s) :
    ∃ rest, r₀.readFrom src = ⟨r₀.decodedInto r, (r.writeTo dst).n, none, rest⟩ ∧
      rest.bytes = s := by
  obtain ⟨written, counted⟩ := r.writeTo_exact valid honest ok
  rw [written, List.drop_left] at wire
  rw [counted]
  exact Reply.readFrom_encode valid readable r₀ wire

/-- A datagram crosses the wire when it is read as one datagram: the bytes
the writer got, and then the end of the stream. -/
theorem UDPPacket.readFrom_written {p : UDPPacket} (valid : p.validate = none)
    (readable : AddressReadable p.addrType p.ip p.domain) {dst : Sink}
    (honest : dst.ErrsOnShortWrite) (ok : (p.writeTo dst).err = none) (p₀ : UDPPacket)
    {src : Source} (wire : src.bytes = (p.writeTo dst).dst.written.drop dst.written.length)
    (eof : src.ending = .eof) :
    ∃ rest, p₀.readFrom src = ⟨p₀.decodedInto p, (p.writeTo dst).n, none, rest⟩ ∧
      rest.bytes = [] := by
  obtain ⟨written, counted⟩ := p.writeTo_exact valid honest ok
  rw [written, List.drop_left] at wire
  rw [counted]
  exact UDPPacket.readFrom_encode valid readable p₀ wire eof

end Socks5

namespace Socks4

/-! ## The SOCKS4 messages -/

/-- The pieces `writeCString` writes: the bytes unless empty, then a NUL. -/
def Request.cStringPieces (s : Bytes) : List Bytes := if s.length ≠ 0 then [s, [0]] else [[0]]

@[simp] theorem Request.flatten_cStringPieces (s : Bytes) : (cStringPieces s).flatten = s ++ [0] := by
  unfold cStringPieces
  split_ifs <;> simp_all

theorem Request.writeCString_eq (dst : Sink) (s : Bytes) :
    writeCString dst s = dst.writeAll (cStringPieces s) := by
  unfold writeCString cStringPieces
  split_ifs
  · exact (Sink.writeAll_pair dst _ _).symm
  · exact (Sink.writeAll_singleton dst _).symm

/-- The pieces of a request: the header, the user ID, and the domain for
SOCKS4a. -/
def Request.pieces (r : Request) : List Bytes :=
  r.header :: (cStringPieces r.userID ++ if r.isSOCKS4a then cStringPieces r.domain else [])

theorem Request.writeTo_eq (r : Request) (dst : Sink) : r.writeTo dst = dst.writeAll r.pieces := by
  unfold writeTo pieces
  rw [Sink.writeAll_cons, Sink.writeAll_append, ← writeCString_eq]
  dsimp only
  cases (dst.write r.header).err with
  | some e => rfl
  | none =>
    cases (writeCString (dst.write r.header).dst r.userID).err with
    | some e => rfl
    | none => split_ifs <;> simp [← writeCString_eq, Nat.add_assoc]

/-- `Request.WriteTo` writes a prefix of `encode` and counts exactly what the
writer took. -/
theorem Request.writeTo_writesPrefix (r : Request) {dst : Sink} (honest : dst.ErrsOnShortWrite) :
    (r.writeTo dst).WritesPrefix dst r.encode 0 :=
  writesPrefix_of_writeAll honest (writeTo_eq r dst) (by unfold pieces encode; split_ifs <;> simp)

theorem Response.writeTo_writesPrefix (r : Response) {dst : Sink} (honest : dst.ErrsOnShortWrite) :
    (r.writeTo dst).WritesPrefix dst r.encode 0 :=
  writesPrefix_of_writeAll honest (Sink.writeAll_singleton dst _).symm (by simp)

end Socks4

/-! ## Every `WriteTo` -/

/-- **The `io.WriterTo` contract of every `WriteTo`.** On every writer that
keeps the `io.Writer` contract, every `WriteTo` of both packages appends a
prefix of its message's encoding to what the writer held, all of it when it
returns nil, and counts exactly that prefix; the SOCKS5 `Request`, `Reply`
and `UDPPacket` add the address switch's over-count to the count, and a valid
one written without error is counted exactly. -/
theorem writeTo_contract {dst : Sink} (honest : dst.ErrsOnShortWrite) :
    (∀ r : Socks4.Request, (r.writeTo dst).WritesPrefix dst r.encode 0) ∧
    (∀ r : Socks4.Response, (r.writeTo dst).WritesPrefix dst r.encode 0) ∧
    (∀ h : Socks5.HandshakeRequest, (h.writeTo dst).WritesPrefix dst h.encode 0) ∧
    (∀ h : Socks5.HandshakeReply, (h.writeTo dst).WritesPrefix dst h.encode 0) ∧
    (∀ r : Socks5.UserPassRequest, (r.writeTo dst).WritesPrefix dst r.encode 0) ∧
    (∀ r : Socks5.UserPassReply, (r.writeTo dst).WritesPrefix dst r.encode 0) ∧
    (∀ (errs : Socks5.GSSAPIErrors) (m : Socks5.GSSAPIMessage),
      (Socks5.GSSAPIMessage.writeTo errs m dst).WritesPrefix dst m.encode 0) ∧
    (∀ r : Socks5.Request, (r.writeTo dst).WritesPrefix dst r.encode (r.overcount dst) ∧
      (r.validate = none → (r.writeTo dst).err = none →
        (r.writeTo dst).dst.written = dst.written ++ r.encode ∧
          (r.writeTo dst).n = r.encode.length)) ∧
    (∀ r : Socks5.Reply, (r.writeTo dst).WritesPrefix dst r.encode (r.overcount dst) ∧
      (r.validate = none → (r.writeTo dst).err = none →
        (r.writeTo dst).dst.written = dst.written ++ r.encode ∧
          (r.writeTo dst).n = r.encode.length)) ∧
    (∀ p : Socks5.UDPPacket, (p.writeTo dst).WritesPrefix dst p.encode (p.overcount dst) ∧
      (p.validate = none → (p.writeTo dst).err = none →
        (p.writeTo dst).dst.written = dst.written ++ p.encode ∧
          (p.writeTo dst).n = p.encode.length)) :=
  ⟨fun r => r.writeTo_writesPrefix honest, fun r => r.writeTo_writesPrefix honest,
    fun h => h.writeTo_writesPrefix honest, fun h => h.writeTo_writesPrefix honest,
    fun r => r.writeTo_writesPrefix honest, fun r => r.writeTo_writesPrefix honest,
    fun errs m => m.writeTo_writesPrefix errs honest,
    fun r => ⟨r.writeTo_writesPrefix honest, fun valid ok => r.writeTo_exact valid honest ok⟩,
    fun r => ⟨r.writeTo_writesPrefix honest, fun valid ok => r.writeTo_exact valid honest ok⟩,
    fun p => ⟨p.writeTo_writesPrefix honest, fun valid ok => p.writeTo_exact valid honest ok⟩⟩

/-- A writer that accepts everything keeps the `io.Writer` contract. -/
theorem Sink.errsOnShortWrite_accepting (written : Bytes) :
    (Sink.accepting written).ErrsOnShortWrite :=
  fun _ _ short => absurd short (lt_irrefl _)

/-- The contract on a writer that accepts everything. -/
theorem writeTo_contract_accepting :
    (Sink.accepting []).ErrsOnShortWrite ∧
      (∀ r : Socks4.Request, (r.writeTo (Sink.accepting [])).WritesPrefix (Sink.accepting [])
        r.encode 0) ∧
      (∀ r : Socks5.Request, (r.writeTo (Sink.accepting [])).WritesPrefix (Sink.accepting [])
        r.encode (r.overcount (Sink.accepting []))) :=
  have contract := writeTo_contract (Sink.errsOnShortWrite_accepting [])
  ⟨Sink.errsOnShortWrite_accepting [], contract.1, fun r => (contract.2.2.2.2.2.2.2.1 r).1⟩

/-- Across the wire: a valid SOCKS5 request or reply whose address reads
back, which `WriteTo` sends without error to a writer that keeps the
`io.Writer` contract, is decoded by `ReadFrom` from the bytes that writer got,
followed by anything and however they are split into reads, counted as
`WriteTo` counted it; a datagram the same way when it is read as one
datagram. -/
theorem writeTo_readFrom_across_wire {dst : Sink} (honest : dst.ErrsOnShortWrite) :
    (∀ r : Socks5.Request, r.validate = none → Socks5.AddressReadable r.addrType r.ip r.domain →
      (r.writeTo dst).err = none → ∀ (r₀ : Socks5.Request) (src : Source) (s : Bytes),
        src.bytes = (r.writeTo dst).dst.written.drop dst.written.length ++ s →
        ∃ rest, r₀.readFrom src = ⟨r₀.decodedInto r, (r.writeTo dst).n, none, rest⟩ ∧
          rest.bytes = s) ∧
    (∀ r : Socks5.Reply, r.validate = none → Socks5.AddressReadable r.addrType r.ip r.domain →
      (r.writeTo dst).err = none → ∀ (r₀ : Socks5.Reply) (src : Source) (s : Bytes),
        src.bytes = (r.writeTo dst).dst.written.drop dst.written.length ++ s →
        ∃ rest, r₀.readFrom src = ⟨r₀.decodedInto r, (r.writeTo dst).n, none, rest⟩ ∧
          rest.bytes = s) ∧
    (∀ p : Socks5.UDPPacket, p.validate = none → Socks5.AddressReadable p.addrType p.ip p.domain →
      (p.writeTo dst).err = none → ∀ (p₀ : Socks5.UDPPacket) (src : Source),
        src.bytes = (p.writeTo dst).dst.written.drop dst.written.length → src.ending = .eof →
        ∃ rest, p₀.readFrom src = ⟨p₀.decodedInto p, (p.writeTo dst).n, none, rest⟩ ∧
          rest.bytes = []) :=
  ⟨fun _ valid readable ok r₀ _ _ wire => Socks5.Request.readFrom_written valid readable honest ok r₀ wire,
    fun _ valid readable ok r₀ _ _ wire => Socks5.Reply.readFrom_written valid readable honest ok r₀ wire,
    fun _ valid readable ok p₀ _ wire eof =>
      Socks5.UDPPacket.readFrom_written valid readable honest ok p₀ wire eof⟩

/-- Across a writer that accepts everything. -/
theorem writeTo_readFrom_across_wire_accepting :
    (Sink.accepting []).ErrsOnShortWrite ∧
      ∀ r : Socks5.Request, r.validate = none → Socks5.AddressReadable r.addrType r.ip r.domain →
        (r.writeTo (Sink.accepting [])).err = none → ∀ (r₀ : Socks5.Request) (src : Source) (s : Bytes),
          src.bytes = (r.writeTo (Sink.accepting [])).dst.written.drop 0 ++ s →
          ∃ rest, r₀.readFrom src = ⟨r₀.decodedInto r, (r.writeTo (Sink.accepting [])).n, none, rest⟩ ∧
            rest.bytes = s :=
  ⟨Sink.errsOnShortWrite_accepting [],
    (writeTo_readFrom_across_wire (Sink.errsOnShortWrite_accepting [])).1⟩

end Socks
