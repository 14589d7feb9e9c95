import Socks.Socks4.RoundTrip
import Socks.Socks4.Response
import Socks.Socks5.Codec

/-!
# Messages read off a connection

Which decoders take exactly one message's bytes off a connection. The SOCKS5
decoders and the SOCKS4 reply decoder read with `io.ReadFull` and stop at the
message's last byte. The SOCKS4 request decoder scans its NUL-terminated
fields through a pooled `bufio.Reader`, which may read past the request; what
it read ahead is dropped with the reader. A SOCKS5 request or reply of an IP
type whose `To4()` or `To16()` is nil is written without its address, and
reading it back runs into the bytes after it.
-/

namespace Socks

open Socks5

/-- A SOCKS4 request followed by a byte in the same read loses that byte to
the decoder's buffer, and a SOCKS5 request of type IPv4 holding the IPv6
loopback address is written as six bytes and read back as eight. -/
theorem readFrom_overreads :
    let r : Socks4.Request := ⟨4, 1, 80, ⟨1, 2, 3, 4⟩, [], []⟩
    let d := Socks4.Request.zero.readFrom ⟨[r.encode ++ [65]], .eof, by decide⟩
    let q : Socks5.Request := ⟨5, 1, 0, 1, some (List.replicate 15 0 ++ [1]), [], 80⟩
    let e := q.readFrom ⟨[q.encode ++ [65, 66]], .eof, by decide⟩
    r.validate = none ∧ d.n = r.encode.length ∧ d.err = none ∧ d.rest.bytes = [] ∧
      q.validate = none ∧ q.encode.length = 6 ∧ e.n = 8 ∧ e.err = some .eof := by
  decide

/-- **Framing.** Every valid SOCKS5 handshake, authentication, request or reply
message (a request or reply with an address `To4()` or `To16()` can write) and
every valid SOCKS4 reply is read back off any connection holding its encoding,
however the bytes are split into reads, leaving exactly what follows. A valid
SOCKS4 request with NUL-free fields, decoded with limits it fits and below
`2^63 - 1`, is read back with its length and no error; the connection is left
at a suffix of what follows, and exactly at what follows when the request ends
a read. -/
theorem readFrom_takes_frame :
    ReadsExactly (fun h : HandshakeRequest => h.validate = none) HandshakeRequest.encode
        HandshakeRequest.readFrom ∧
      ReadsExactly (fun h : HandshakeReply => h.validate = none) HandshakeReply.encode
        HandshakeReply.readFrom ∧
      ReadsExactly (fun r : UserPassRequest => r.validate = none) UserPassRequest.encode
        UserPassRequest.readFrom ∧
      ReadsExactly (fun r : UserPassReply => r.validate = none) UserPassReply.encode
        UserPassReply.readFrom ∧
      ReadsExactly (fun r : GSSAPIRequest => r.validate = none) GSSAPIMessage.encode
        GSSAPIRequest.readFrom ∧
      ReadsExactly (fun r : GSSAPIReply => r.validate = none) GSSAPIMessage.encode
        GSSAPIReply.readFrom ∧
      ReadsExactly
        (fun r : Socks5.Request => r.validate = none ∧ AddressReadable r.addrType r.ip r.domain)
        Socks5.Request.encode Socks5.Request.readFrom ∧
      ReadsExactly (fun r : Reply => r.validate = none ∧ AddressReadable r.addrType r.ip r.domain)
        Reply.encode Reply.readFrom ∧
      ReadsExactly (fun r : Socks4.Response => r.validate = none) Socks4.Response.encode
        Socks4.Response.readFrom ∧
      ∀ r : Socks4.Request, r.validate = none → 0 ∉ r.userID → (r.isSOCKS4a → 0 ∉ r.domain) →
        ∀ maxU maxD : Int, r.userID.length ≤ maxU → maxU < 2 ^ 63 - 1 →
          (r.isSOCKS4a → r.domain.length ≤ maxD ∧ maxD < 2 ^ 63 - 1) →
          ∀ (r₀ : Socks4.Request) (src : Source) (s : Bytes), src.bytes = r.encode ++ s →
            (r₀.readFromWithLimits src maxU maxD).n = r.encode.length ∧
              (r₀.readFromWithLimits src maxU maxD).err = none ∧
              (∃ t, s = t ++ (r₀.readFromWithLimits src maxU maxD).rest.bytes) ∧
              ∀ A B, src.chunks = A ++ B → A.flatten = r.encode →
                (r₀.readFromWithLimits src maxU maxD).rest.bytes = s := by
  refine ⟨HandshakeRequest.decodes.1, HandshakeReply.decodes.1, UserPassRequest.decodes.1,
    UserPassReply.decodes.1, (GSSAPIMessage.decodes _).1.mono fun _ valid _ => valid,
    (GSSAPIMessage.decodes _).1.mono fun _ valid _ => valid, Socks5.Request.decodes.1,
    Reply.decodes.1, Socks4.Response.decodes.1, ?_⟩
  intro r valid userNul domainNul maxU maxD userFits userLimit domainFits r₀ src s bytes
  have header := Socks4.Request.validateHeader_of_validate valid
  obtain ⟨-, n, err, left⟩ := Socks4.Request.readFromWithLimits_encode r₀ maxU maxD header userNul
    domainNul userFits userLimit domainFits (show src.chunks = src.chunks ++ [] by simp) bytes
  refine ⟨n, err, Socks4.Request.LeftAt.bytes_suffix left, fun A B chunks flat => ?_⟩
  obtain ⟨-, -, -, atB⟩ := Socks4.Request.readFromWithLimits_encode r₀ maxU maxD header userNul
    domainNul userFits userLimit domainFits chunks (show A.flatten = r.encode ++ [] by simp [flat])
  have rest : B.flatten = s := by
    simpa [Source.bytes, chunks, flat] using bytes
  simp [Source.bytes, Socks4.Request.LeftAt.chunks_eq atB, rest]

/-! ## Bad headers

The SOCKS5 request, reply and UDP decoders and the SOCKS4 request decoder run
`ValidateHeader` on the fixed header before they read the address or the
NUL-terminated fields. The handshake request, the username/password request
and the GSSAPI messages leave the version to `Validate`, which runs after the
variable-length fields are read. -/

/-- A SOCKS5 request whose fixed header fails `ValidateHeader` costs its four
header bytes and nothing more. -/
theorem Socks5.Request.readFrom_bad_header (r₀ : Socks5.Request) {src : Source}
    {v c rsv atyp : UInt8} {s : Bytes} {e : Error} (bytes : src.bytes = [v, c, rsv, atyp] ++ s)
    (bad : ({ r₀ with version := v, command := c, reserved := rsv, addrType := atyp } :
      Socks5.Request).validateHeader = some e) :
    ∃ rest, r₀.readFrom src =
      ⟨{ r₀ with version := v, command := c, reserved := rsv, addrType := atyp }, 4, some e, rest⟩ ∧
        rest.bytes = s := by
  obtain ⟨rest, read, left⟩ :=
    Source.readFull_eq bytes (show [v, c, rsv, atyp].length = 4 from rfl)
  exact ⟨rest, by simp [Socks5.Request.readFrom, read, bad], left⟩

/-- A SOCKS5 reply whose fixed header fails `ValidateHeader` costs its four
header bytes. -/
theorem Reply.readFrom_bad_header (r₀ : Reply) {src : Source} {v rep rsv atyp : UInt8}
    {s : Bytes} {e : Error} (bytes : src.bytes = [v, rep, rsv, atyp] ++ s)
    (bad : ({ r₀ with version := v, reply := rep, reserved := rsv, addrType := atyp } :
      Reply).validateHeader = some e) :
    ∃ rest, r₀.readFrom src =
      ⟨{ r₀ with version := v, reply := rep, reserved := rsv, addrType := atyp }, 4, some e, rest⟩ ∧
        rest.bytes = s := by
  obtain ⟨rest, read, left⟩ :=
    Source.readFull_eq bytes (show [v, rep, rsv, atyp].length = 4 from rfl)
  exact ⟨rest, by simp [Reply.readFrom, read, bad], left⟩

/-- A UDP datagram whose fixed header fails `ValidateHeader` costs its four
header bytes, and the payload is not read. -/
theorem UDPPacket.readFrom_bad_header (p₀ : UDPPacket) {src : Source} {rsv₀ rsv₁ frag atyp : UInt8}
    {s : Bytes} {e : Error} (bytes : src.bytes = [rsv₀, rsv₁, frag, atyp] ++ s)
    (bad : ({ p₀ with reserved := (rsv₀, rsv₁), frag := frag, addrType := atyp } :
      UDPPacket).validateHeader = some e) :
    ∃ rest, p₀.readFrom src =
      ⟨{ p₀ with reserved := (rsv₀, rsv₁), frag := frag, addrType := atyp }, 4, some e, rest⟩ ∧
        rest.bytes = s := by
  obtain ⟨rest, read, left⟩ := Source.readFull_eq bytes
    (show [rsv₀, rsv₁, frag, atyp].length = 4 from rfl)
  exact ⟨rest, by simp [UDPPacket.readFrom, read, bad], left⟩

/-- A handshake request, a username/password request or a GSSAPI message of
a wrong version, with lengths that agree with its fields, is read to its last
byte before the version is rejected. -/
theorem readFrom_reads_fields_of_bad_version :
    (∀ h : HandshakeRequest, h.version ≠ socksVersion → h.nMethods ≠ 0 →
      h.methods.length = h.nMethods.toNat → ∀ (h₀ : HandshakeRequest) (src : Source) (s : Bytes),
        src.bytes = h.encode ++ s → ∃ rest, h₀.readFrom src =
          ⟨h, h.encode.length, some (.socks5 .errInvalidHandshakeVersion), rest⟩ ∧
            rest.bytes = s) ∧
    (∀ r : UserPassRequest, r.version ≠ authVersionUserPass → r.username ≠ [] →
      r.password ≠ [] → r.username.length ≤ 255 → r.password.length ≤ 255 →
        ∀ (r₀ : UserPassRequest) (src : Source) (s : Bytes), src.bytes = r.encode ++ s →
          ∃ rest, r₀.readFrom src =
            ⟨r, r.encode.length, some (.socks5 .errInvalidUserPassVersion), rest⟩ ∧
              rest.bytes = s) ∧
    ∀ (errs : GSSAPIErrors) (r : GSSAPIMessage), r.version ≠ 1 → r.msgType ≠ gssapiTypeAbort →
      r.token ≠ [] → r.token.length ≤ 65535 → ∀ (r₀ : GSSAPIMessage) (src : Source) (s : Bytes),
        src.bytes = r.encode ++ s → ∃ rest, GSSAPIMessage.readFrom errs r₀ src =
          ⟨r, r.encode.length, some errs.invalidVersion, rest⟩ ∧ rest.bytes = s := by
  refine ⟨fun h bad nonzero count h₀ src s bytes => ?_, fun r bad uNe pNe uFits pFits r₀ src s
    bytes => ?_, fun errs r bad notAbort tokNe tokFits r₀ src s bytes => ?_⟩
  · simpa [HandshakeRequest.validate, bad] using
      HandshakeRequest.readFrom_frame nonzero count h₀ bytes
  · simpa [UserPassRequest.validate, bad] using
      UserPassRequest.readFrom_frame uNe pNe uFits pFits r₀ bytes
  · simpa [GSSAPIMessage.validate, bad] using
      GSSAPIMessage.readFrom_frame errs notAbort tokNe tokFits r₀ bytes

/-- The handshake request `[0x04, 0x01, 0x00]` is read whole, 3 bytes, before
its version is rejected, and its header alone ends in `io.EOF` from the
read of the method list; the username/password request
`[0x00, 0x01, A, 0x01, B]` and the GSSAPI request `[0x00, 0x01, 0x00, 0x01, 7]`
are read whole, 5 bytes each, before theirs is. -/
theorem readFrom_reads_past_bad_version :
    let h : Decoded HandshakeRequest :=
      HandshakeRequest.readFrom ⟨0, 0, []⟩ ⟨[[4, 1, 0]], .eof, by decide⟩
    let h' : Decoded HandshakeRequest :=
      HandshakeRequest.readFrom ⟨0, 0, []⟩ ⟨[[4, 1]], .eof, by decide⟩
    let u : Decoded UserPassRequest :=
      UserPassRequest.readFrom ⟨0, [], []⟩ ⟨[[0, 1, 65, 1, 66]], .eof, by decide⟩
    let g : Decoded GSSAPIRequest :=
      GSSAPIRequest.readFrom ⟨0, 0, []⟩ ⟨[[0, 1, 0, 1, 7]], .eof, by decide⟩
    h.n = 3 ∧ h.err = some (.socks5 .errInvalidHandshakeVersion) ∧ h'.n = 2 ∧
      h'.err = some .eof ∧ u.n = 5 ∧ u.err = some (.socks5 .errInvalidUserPassVersion) ∧
      g.n = 5 ∧ g.err = some (.socks5 .errInvalidGSSAPIVersion) := by
  decide

end Socks
