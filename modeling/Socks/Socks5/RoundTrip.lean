import Socks.Socks5.Auth
import Socks.Socks5.Address

/-!
# Decoding SOCKS5 encodings

Each decoder of package `socks5` reads its message with `io.ReadFull` of sizes
taken from the bytes already read, so on a connection holding a valid
message's encoding and then anything else it returns the message, the
encoding's length and no error, and leaves the rest unread, however the
connection splits its bytes into reads.

For `Request` and `Reply` the address must also come back: the encoder writes
`IP.To4()` or `IP.To16()`, and `Validate` does not ask that these are not nil
(`AddressReadable`). The IP read back is the `To4()` or `To16()` form, which is
`net.IP.Equal` to the original.
-/

namespace Socks.Socks5

open Source

section

variable {src : Source} {s : Bytes}

/-! ## Method negotiation and authentication -/

/-- `ReadFrom` on the encoding of a request whose count matches its methods,
whatever its version: the whole frame is read, and `Validate` has the last
word. -/
theorem HandshakeRequest.readFrom_frame {h : HandshakeRequest} (nonzero : h.nMethods ≠ 0)
    (count : h.methods.length = h.nMethods.toNat) (h₀ : HandshakeRequest)
    (bytes : src.bytes = h.encode ++ s) :
    ∃ rest, h₀.readFrom src = ⟨h, h.encode.length, h.validate, rest⟩ ∧ rest.bytes = s := by
  obtain ⟨v, nm, ms⟩ := h
  obtain ⟨rest₁, read₁, bytes₁⟩ := readFull_eq
    (show src.bytes = [v, nm] ++ (ms ++ s) by simp [bytes, HandshakeRequest.encode])
    (show [v, nm].length = 2 from rfl)
  obtain ⟨rest₂, read₂, bytes₂⟩ := readFull_eq bytes₁ count
  refine ⟨rest₂, ?_, bytes₂⟩
  simp only at nonzero read₂
  simp [HandshakeRequest.readFrom, read₁, read₂, nonzero, HandshakeRequest.encode]
  omega

theorem HandshakeRequest.readFrom_encode {h : HandshakeRequest} (valid : h.validate = none)
    (h₀ : HandshakeRequest) (bytes : src.bytes = h.encode ++ s) :
    ∃ rest, h₀.readFrom src = ⟨h, h.encode.length, none, rest⟩ ∧ rest.bytes = s := by
  obtain ⟨-, nonzero, count⟩ := HandshakeRequest.validate_eq_none.mp valid
  rw [← valid]
  exact HandshakeRequest.readFrom_frame nonzero count h₀ bytes

theorem HandshakeReply.readFrom_encode {h : HandshakeReply} (valid : h.validate = none)
    (h₀ : HandshakeReply) (bytes : src.bytes = h.encode ++ s) :
    ∃ rest, h₀.readFrom src = ⟨h, h.encode.length, none, rest⟩ ∧ rest.bytes = s := by
  obtain ⟨rest, read, left⟩ := readFull_eq bytes (show h.encode.length = 2 from rfl)
  exact ⟨rest, by simp [HandshakeReply.readFrom, read, HandshakeReply.encode, valid], left⟩

/-- `ReadFrom` on the encoding of a request whose fields are not empty and fit
their length bytes, whatever its version. -/
theorem UserPassRequest.readFrom_frame {r : UserPassRequest} (uNe : r.username ≠ [])
    (pNe : r.password ≠ []) (uFits : r.username.length ≤ 255) (pFits : r.password.length ≤ 255)
    (r₀ : UserPassRequest) (bytes : src.bytes = r.encode ++ s) :
    ∃ rest, r₀.readFrom src = ⟨r, r.encode.length, r.validate, rest⟩ ∧ rest.bytes = s := by
  obtain ⟨v, u, p⟩ := r
  simp only at uNe pNe uFits pFits
  have uLen : (u.length.toUInt8).toNat = u.length := by simp; omega
  have pLen : (p.length.toUInt8).toNat = p.length := by simp; omega
  obtain ⟨rest₁, read₁, bytes₁⟩ := readFull_eq
    (show src.bytes = [v, u.length.toUInt8] ++ (u ++ [p.length.toUInt8] ++ p ++ s) by
      simp [bytes, UserPassRequest.encode])
    (show [v, u.length.toUInt8].length = 2 from rfl)
  obtain ⟨rest₂, read₂, bytes₂⟩ := readFull_eq
    (show rest₁.bytes = u ++ ([p.length.toUInt8] ++ p ++ s) by simp [bytes₁]) rfl
  obtain ⟨rest₃, read₃, bytes₃⟩ := readFull_eq
    (show rest₂.bytes = [p.length.toUInt8] ++ (p ++ s) by simp [bytes₂])
    (show [p.length.toUInt8].length = 1 from rfl)
  obtain ⟨rest₄, read₄, bytes₄⟩ := readFull_eq bytes₃ rfl
  refine ⟨rest₄, ?_, bytes₄⟩
  simp [UserPassRequest.readFrom, read₁, read₂, read₃, read₄, uLen, pLen, uNe, pNe,
    UserPassRequest.encode]
  omega

theorem UserPassRequest.readFrom_encode {r : UserPassRequest} (valid : r.validate = none)
    (r₀ : UserPassRequest) (bytes : src.bytes = r.encode ++ s) :
    ∃ rest, r₀.readFrom src = ⟨r, r.encode.length, none, rest⟩ ∧ rest.bytes = s := by
  obtain ⟨-, uNe, pNe, uFits, pFits⟩ := UserPassRequest.validate_eq_none.mp valid
  rw [← valid]
  exact UserPassRequest.readFrom_frame uNe pNe uFits pFits r₀ bytes

theorem UserPassReply.readFrom_encode {r : UserPassReply} (valid : r.validate = none)
    (r₀ : UserPassReply) (bytes : src.bytes = r.encode ++ s) :
    ∃ rest, r₀.readFrom src = ⟨r, r.encode.length, none, rest⟩ ∧ rest.bytes = s := by
  obtain ⟨rest, read, left⟩ := readFull_eq bytes (show r.encode.length = 2 from rfl)
  exact ⟨rest, by simp [UserPassReply.readFrom, read, UserPassReply.encode, valid], left⟩

namespace GSSAPIMessage

variable (errs : GSSAPIErrors)

/-- `ReadFrom` on the encoding of a message that does not abort and whose token
is not empty and fits its length, whatever its version. -/
theorem readFrom_frame {r : GSSAPIMessage} (notAbort : r.msgType ≠ gssapiTypeAbort)
    (tokNe : r.token ≠ []) (tokFits : r.token.length ≤ 65535) (r₀ : GSSAPIMessage)
    (bytes : src.bytes = r.encode ++ s) :
    ∃ rest, readFrom errs r₀ src = ⟨r, r.encode.length, validate errs r, rest⟩ ∧
      rest.bytes = s := by
  obtain ⟨v, t, tok⟩ := r
  simp only at notAbort tokNe tokFits
  have len : (tok.length.toUInt16).toNat = tok.length := by simp; omega
  obtain ⟨rest₁, read₁, bytes₁⟩ := readFull_eq
    (show src.bytes = [v, t] ++ (putUint16 tok.length.toUInt16 ++ tok ++ s) by
      simp [bytes, encode, notAbort])
    (show [v, t].length = 2 from rfl)
  obtain ⟨rest₂, read₂, bytes₂⟩ := readFull_eq
    (show rest₁.bytes = putUint16 tok.length.toUInt16 ++ (tok ++ s) by simp [bytes₁])
    (length_putUint16 _)
  obtain ⟨rest₃, read₃, bytes₃⟩ := readFull_eq bytes₂ rfl
  have back : uint16 (tok.length / 256).toUInt8 tok.length.toUInt8 = tok.length.toUInt16 := by
    simpa [len] using uint16_putUint16 tok.length.toUInt16
  have lenNe : tok.length.toUInt16 ≠ 0 := fun zero => tokNe (by simpa [zero] using len.symm)
  simp only [putUint16] at read₂
  refine ⟨rest₃, ?_, bytes₃⟩
  simp [readFrom, read₁, read₂, read₃, notAbort, back, len, lenNe, encode]
  omega

theorem readFrom_encode {r : GSSAPIMessage} (valid : validate errs r = none)
    (r₀ : GSSAPIMessage) (bytes : src.bytes = r.encode ++ s) :
    ∃ r' rest, readFrom errs r₀ src = ⟨r', r.encode.length, none, rest⟩ ∧ rest.bytes = s ∧
      r'.version = r.version ∧ r'.msgType = r.msgType ∧
        (r.msgType ≠ gssapiTypeAbort → r'.token = r.token) := by
  obtain ⟨v, t, tok⟩ := r
  obtain ⟨-, tokenOk⟩ := (validate_eq_none errs).mp valid
  by_cases abort : t = gssapiTypeAbort
  · obtain ⟨rest, read, left⟩ :=
      readFull_eq (show src.bytes = [v, t] ++ s by simp [bytes, encode, abort])
      (show [v, t].length = 2 from rfl)
    exact ⟨⟨v, t, r₀.token⟩, rest, by simp [readFrom, read, abort, encode], left, rfl, rfl,
      by simp [abort]⟩
  · obtain ⟨tokNe, tokFits⟩ := tokenOk abort
    obtain ⟨rest, read, left⟩ := readFrom_frame errs abort tokNe tokFits r₀ bytes
    exact ⟨_, rest, valid ▸ read, left, rfl, rfl, fun _ => rfl⟩

/-- A GSSAPI message of version 1, aborting or with a token of 1 to 65535
bytes, goes through a writer that never fails as its encoding, and its fields
come back off those bytes. -/
theorem writeTo_readFrom {r : GSSAPIMessage} (version : r.version = 1)
    (token : r.msgType ≠ gssapiTypeAbort ∧ 1 ≤ r.token.length ∧ r.token.length ≤ 65535 ∨
      r.msgType = gssapiTypeAbort)
    {dst : Sink} (ok : ∀ x p, dst.answer x p = (p.length, none)) :
    writeTo errs r dst = ⟨r.encode.length, none, Sink.accepting (dst.written ++ r.encode)⟩ ∧
      ∀ (r₀ : GSSAPIMessage) (src : Source), src.bytes = r.encode →
        ∃ r' rest, readFrom errs r₀ src = ⟨r', r.encode.length, none, rest⟩ ∧
          r'.version = r.version ∧ r'.msgType = r.msgType ∧
            (r.msgType ≠ gssapiTypeAbort → r'.token = r.token) := by
  have valid : validate errs r = none := by
    refine (validate_eq_none errs).mpr ⟨version, fun notAbort => ?_⟩
    rcases token with ⟨-, long, fits⟩ | abort
    · exact ⟨List.ne_nil_of_length_pos long, fits⟩
    · exact absurd abort notAbort
  refine ⟨by simpa [← Sink.eq_accepting ok] using writeTo_accepting errs valid dst.written,
    fun r₀ src bytes => ?_⟩
  obtain ⟨r', rest, read, -, same⟩ :=
    readFrom_encode errs valid r₀ (show src.bytes = r.encode ++ [] by simp [bytes])
  exact ⟨r', rest, read, same⟩

end GSSAPIMessage

/-- An abort message is accepted before its version is looked at: the bytes
`0x00 0xFF` decode without error into a message that `Validate` rejects and
that `WriteTo` does not write. -/
theorem GSSAPIRequest.readFrom_accepts_abort_of_any_version :
    GSSAPIRequest.validate ⟨0, 0xFF, []⟩ = some (.socks5 .errInvalidGSSAPIVersion) ∧
      (GSSAPIRequest.writeTo ⟨0, 0xFF, []⟩ (Sink.accepting [])).n = 0 ∧
      let d := GSSAPIRequest.readFrom ⟨0, 0, []⟩ ⟨[[0x00, 0xFF]], .eof, by decide⟩
      d.msg = ⟨0, 0xFF, []⟩ ∧ d.n = 2 ∧ d.err = none := by
  decide

/-- **Round trip of the negotiation messages.** A valid handshake request,
username/password request, GSSAPI request or GSSAPI reply goes through any
writer that never fails as its encoding, counted whole, and `ReadFrom` on
those bytes, however they are split into reads, counts them all with no error
and gives the message back: the whole message for the first two, and for a
GSSAPI message its version, its type and, unless it aborts, its token. -/
theorem negotiation_round_trip :
    (∀ h : HandshakeRequest, h.version = socksVersion → 1 ≤ h.methods.length →
      h.methods.length ≤ 255 → h.nMethods.toNat = h.methods.length →
      ∀ dst : Sink, (∀ x p, dst.answer x p = (p.length, none)) →
        h.writeTo dst = ⟨h.encode.length, none, Sink.accepting (dst.written ++ h.encode)⟩ ∧
          ∀ (h₀ : HandshakeRequest) (src : Source), src.bytes = h.encode →
            ∃ rest, h₀.readFrom src = ⟨h, h.encode.length, none, rest⟩) ∧
    (∀ r : UserPassRequest, r.version = authVersionUserPass → 1 ≤ r.username.length →
      r.username.length ≤ 255 → 1 ≤ r.password.length → r.password.length ≤ 255 →
      ∀ dst : Sink, (∀ x p, dst.answer x p = (p.length, none)) →
        r.writeTo dst = ⟨r.encode.length, none, Sink.accepting (dst.written ++ r.encode)⟩ ∧
          ∀ (r₀ : UserPassRequest) (src : Source), src.bytes = r.encode →
            ∃ rest, r₀.readFrom src = ⟨r, r.encode.length, none, rest⟩) ∧
    (∀ r : GSSAPIRequest, r.version = 1 →
      (r.msgType ≠ gssapiTypeAbort ∧ 1 ≤ r.token.length ∧ r.token.length ≤ 65535 ∨
        r.msgType = gssapiTypeAbort) →
      ∀ dst : Sink, (∀ x p, dst.answer x p = (p.length, none)) →
        GSSAPIRequest.writeTo r dst =
            ⟨r.encode.length, none, Sink.accepting (dst.written ++ r.encode)⟩ ∧
          ∀ (r₀ : GSSAPIRequest) (src : Source), src.bytes = r.encode →
            ∃ r' rest, GSSAPIRequest.readFrom r₀ src = ⟨r', r.encode.length, none, rest⟩ ∧
              r'.version = r.version ∧ r'.msgType = r.msgType ∧
                (r.msgType ≠ gssapiTypeAbort → r'.token = r.token)) ∧
    ∀ r : GSSAPIReply, r.version = 1 →
      (r.msgType ≠ gssapiTypeAbort ∧ 1 ≤ r.token.length ∧ r.token.length ≤ 65535 ∨
        r.msgType = gssapiTypeAbort) →
      ∀ dst : Sink, (∀ x p, dst.answer x p = (p.length, none)) →
        GSSAPIReply.writeTo r dst =
            ⟨r.encode.length, none, Sink.accepting (dst.written ++ r.encode)⟩ ∧
          ∀ (r₀ : GSSAPIReply) (src : Source), src.bytes = r.encode →
            ∃ r' rest, GSSAPIReply.readFrom r₀ src = ⟨r', r.encode.length, none, rest⟩ ∧
              r'.version = r.version ∧ r'.msgType = r.msgType ∧
                (r.msgType ≠ gssapiTypeAbort → r'.token = r.token) := by
  refine ⟨fun h version some fits count dst ok => ?_,
    fun r version uLong uFits pLong pFits dst ok => ?_,
    fun r version token _ ok => GSSAPIMessage.writeTo_readFrom _ version token ok,
    fun r version token _ ok => GSSAPIMessage.writeTo_readFrom _ version token ok⟩
  · have nonzero : h.nMethods ≠ 0 := fun zero => by simp [zero] at count; omega
    have valid := HandshakeRequest.validate_eq_none.mpr ⟨version, nonzero, count.symm⟩
    refine ⟨by simpa [← Sink.eq_accepting ok] using
      HandshakeRequest.writeTo_accepting h dst.written, fun h₀ src bytes => ?_⟩
    obtain ⟨rest, read, -⟩ :=
      HandshakeRequest.readFrom_encode valid h₀ (show src.bytes = h.encode ++ [] by simp [bytes])
    exact ⟨rest, read⟩
  · have valid := UserPassRequest.validate_eq_none.mpr ⟨version,
      List.ne_nil_of_length_pos uLong, List.ne_nil_of_length_pos pLong, uFits, pFits⟩
    refine ⟨by simpa [← Sink.eq_accepting ok] using
      UserPassRequest.writeTo_accepting uFits pFits dst.written, fun r₀ src bytes => ?_⟩
    obtain ⟨rest, read, -⟩ :=
      UserPassRequest.readFrom_encode valid r₀ (show src.bytes = r.encode ++ [] by simp [bytes])
    exact ⟨rest, read⟩

/-- The methods `0x00, 0x02`, the credentials `a`/`b`, the GSSAPI request
with the token `0x07` and the aborting GSSAPI reply, through a writer that
takes everything, and read back from their bytes split into two reads. -/
theorem negotiation_round_trip_samples :
    (⟨5, 2, [0, 2]⟩ : HandshakeRequest).writeTo (Sink.accepting []) =
        ⟨4, none, Sink.accepting [5, 2, 0, 2]⟩ ∧
      (∃ rest, (⟨0, 0, []⟩ : HandshakeRequest).readFrom ⟨[[5, 2], [0, 2]], .eof, by decide⟩ =
        ⟨⟨5, 2, [0, 2]⟩, 4, none, rest⟩) ∧
      (⟨1, [97], [98]⟩ : UserPassRequest).writeTo (Sink.accepting []) =
        ⟨5, none, Sink.accepting [1, 1, 97, 1, 98]⟩ ∧
      (∃ rest, (⟨0, [], []⟩ : UserPassRequest).readFrom ⟨[[1, 1], [97, 1, 98]], .eof, by decide⟩ =
        ⟨⟨1, [97], [98]⟩, 5, none, rest⟩) ∧
      GSSAPIRequest.writeTo ⟨1, 1, [7]⟩ (Sink.accepting []) =
        ⟨5, none, Sink.accepting [1, 1, 0, 1, 7]⟩ ∧
      (∃ r' rest, GSSAPIRequest.readFrom ⟨0, 0, []⟩ ⟨[[1, 1], [0, 1, 7]], .eof, by decide⟩ =
        ⟨r', 5, none, rest⟩ ∧ r'.version = 1 ∧ r'.msgType = 1 ∧ (1 ≠ gssapiTypeAbort → r'.token = [7])) ∧
      GSSAPIReply.writeTo ⟨1, 0xFF, []⟩ (Sink.accepting []) =
        ⟨2, none, Sink.accepting [1, 0xFF]⟩ ∧
      (∃ r' rest, GSSAPIReply.readFrom ⟨0, 0, []⟩ ⟨[[1], [0xFF]], .eof, by decide⟩ =
        ⟨r', 2, none, rest⟩ ∧ r'.version = 1 ∧ r'.msgType = 0xFF ∧
          (0xFF ≠ gssapiTypeAbort → r'.token = [])) :=
  have handshake := negotiation_round_trip.1 ⟨5, 2, [0, 2]⟩ rfl (by decide) (by decide) rfl _
    fun _ _ => rfl
  have userPass := negotiation_round_trip.2.1 ⟨1, [97], [98]⟩ rfl (by decide) (by decide)
    (by decide) (by decide) _ fun _ _ => rfl
  have request := negotiation_round_trip.2.2.1 ⟨1, 1, [7]⟩ rfl
    (.inl ⟨by decide, by decide, by decide⟩) _ fun _ _ => rfl
  have reply := negotiation_round_trip.2.2.2 ⟨1, 0xFF, []⟩ rfl (.inr rfl) _ fun _ _ => rfl
  ⟨handshake.1, handshake.2 _ _ rfl, userPass.1, userPass.2 _ _ rfl, request.1,
    request.2 _ _ rfl, reply.1, reply.2 _ _ rfl⟩

/-! ## The address union -/

/-- The address of a `Request` or `Reply` comes back from its encoding: an IP
type whose `To4()` or `To16()` is not nil, and a domain that fits its length
byte. -/
def AddressReadable (addrType : UInt8) (ip : NetIP) (domain : Bytes) : Prop :=
  (addrType = addrTypeIPv4 → ip.to4 ≠ none) ∧ (addrType = addrTypeIPv6 → ip.to16 ≠ none) ∧
    (addrType = addrTypeDomain → domain.length ≤ 255)

/-- The IP the decoder reads back: what `To4()` or `To16()` wrote for an IP
type, the receiver's own `ip₀` otherwise. -/
def readBackIP (addrType : UInt8) (ip ip₀ : NetIP) : NetIP :=
  if addrType = addrTypeIPv4 then ip.to4 else if addrType = addrTypeIPv6 then ip.to16 else ip₀

/-- The domain the decoder reads back: the domain for the domain type, the
receiver's own `domain₀` otherwise. -/
def readBackDomain (addrType : UInt8) (domain domain₀ : Bytes) : Bytes :=
  if addrType = addrTypeDomain then domain else domain₀

/-- The address reads of `ReadFrom` on an encoded address and port. -/
theorem readAddress_addressBytes {addrType : UInt8} {ip ip₀ : NetIP} {domain domain₀ : Bytes}
    {port port₀ : UInt16}
    (known : addrType = addrTypeIPv4 ∨ addrType = addrTypeDomain ∨ addrType = addrTypeIPv6)
    (readable : AddressReadable addrType ip domain)
    (bytes : src.bytes = addressBytes addrType ip domain ++ putUint16 port ++ s) :
    ∃ rest, readAddress addrType ip₀ domain₀ port₀ src =
        ⟨readBackIP addrType ip ip₀, readBackDomain addrType domain domain₀, port,
          (addressBytes addrType ip domain).length + 2, none, rest⟩ ∧ rest.bytes = s := by
  obtain ⟨v4, v6, fits⟩ := readable
  have port' := uint16_putUint16 port
  rcases known with rfl | rfl | rfl
  · obtain ⟨rest₁, read₁, bytes₁⟩ := readFull_eq
      (show src.bytes = ip.to4.bytes ++ (putUint16 port ++ s) by simp [bytes, addressBytes])
      (NetIP.length_to4 (v4 rfl))
    obtain ⟨rest₂, read₂, bytes₂⟩ := readFull_eq bytes₁ (length_putUint16 port)
    refine ⟨rest₂, ?_, bytes₂⟩
    simp only [putUint16] at read₂
    simp [readAddress, read₁, read₂, port', readBackIP, readBackDomain, addressBytes,
      NetIP.some_bytes (v4 rfl), NetIP.length_to4 (v4 rfl), addrTypeIPv4, addrTypeDomain]
  · have len : (domain.length.toUInt8).toNat = domain.length := by simp; have := fits rfl; omega
    obtain ⟨rest₁, read₁, bytes₁⟩ := readFull_eq
      (show src.bytes = [domain.length.toUInt8] ++ (domain ++ putUint16 port ++ s) by
        simp [bytes, addressBytes, addrTypeIPv4, addrTypeIPv6, addrTypeDomain])
      (show [domain.length.toUInt8].length = 1 from rfl)
    obtain ⟨rest₂, read₂, bytes₂⟩ := readFull_eq
      (show rest₁.bytes = domain ++ (putUint16 port ++ s) by simp [bytes₁]) rfl
    obtain ⟨rest₃, read₃, bytes₃⟩ := readFull_eq bytes₂ (length_putUint16 port)
    refine ⟨rest₃, ?_, bytes₃⟩
    simp only [putUint16] at read₃
    simp [readAddress, read₁, read₂, read₃, port', len, readBackIP, readBackDomain,
      addressBytes, addrTypeIPv4, addrTypeIPv6, addrTypeDomain]
    omega
  · obtain ⟨rest₁, read₁, bytes₁⟩ := readFull_eq
      (show src.bytes = ip.to16.bytes ++ (putUint16 port ++ s) by
        simp [bytes, addressBytes, addrTypeIPv4, addrTypeIPv6])
      (NetIP.length_to16 (v6 rfl))
    obtain ⟨rest₂, read₂, bytes₂⟩ := readFull_eq bytes₁ (length_putUint16 port)
    refine ⟨rest₂, ?_, bytes₂⟩
    simp only [putUint16] at read₂
    simp [readAddress, read₁, read₂, port', readBackIP, readBackDomain, addressBytes,
      NetIP.some_bytes (v6 rfl), NetIP.length_to16 (v6 rfl), addrTypeIPv4, addrTypeIPv6,
      addrTypeDomain]

/-- The decoder's final `Validate` accepts the address it read back. -/
theorem validateAddress_readBack {errDomain errAddr : Error} {other : Option Error}
    {addrType : UInt8} {ip ip₀ : NetIP} {domain domain₀ : Bytes}
    (valid : validateAddress errDomain errAddr other addrType ip domain = none)
    (readable : AddressReadable addrType ip domain) :
    validateAddress errDomain errAddr other addrType (readBackIP addrType ip ip₀)
      (readBackDomain addrType domain domain₀) = none := by
  obtain ⟨v4, v6, -⟩ := readable
  by_cases dom : addrType = addrTypeDomain
  · simpa [validateAddress, readBackDomain, dom] using valid
  by_cases ip4 : addrType = addrTypeIPv4
  · simp [validateAddress, readBackIP, ip4, v4 ip4, addrTypeIPv4, addrTypeDomain]
  by_cases ip6 : addrType = addrTypeIPv6
  · simp [validateAddress, readBackIP, ip6, v6 ip6, addrTypeIPv4, addrTypeIPv6, addrTypeDomain]
  · simpa [validateAddress, readBackIP, readBackDomain, dom, ip4, ip6] using valid

/-! ## Requests and replies -/

/-- The request `ReadFrom` decodes from `r`'s encoding into `r₀`: `r` with the
address read back. -/
def Request.decodedInto (r₀ r : Request) : Request :=
  { r with
    ip := readBackIP r.addrType r.ip r₀.ip
    domain := readBackDomain r.addrType r.domain r₀.domain }

theorem Request.readFrom_encode {r : Request} (valid : r.validate = none)
    (readable : AddressReadable r.addrType r.ip r.domain) (r₀ : Request)
    (bytes : src.bytes = r.encode ++ s) :
    ∃ rest, r₀.readFrom src = ⟨r₀.decodedInto r, r.encode.length, none, rest⟩ ∧
      rest.bytes = s := by
  obtain ⟨header, address⟩ := Request.validate_eq_none.mp valid
  obtain ⟨rest₁, read₁, bytes₁⟩ := readFull_eq
    (show src.bytes = [r.version, r.command, r.reserved, r.addrType] ++
      (addressBytes r.addrType r.ip r.domain ++ putUint16 r.port ++ s) by
        simp [bytes, Request.encode])
    (show [r.version, r.command, r.reserved, r.addrType].length = 4 from rfl)
  obtain ⟨rest₂, read₂, bytes₂⟩ := @readAddress_addressBytes rest₁ s r.addrType r.ip r₀.ip
    r.domain r₀.domain r.port r₀.port (Request.addrType_of_validateHeader header) readable bytes₁
  have header' : ({ r₀ with
      version := r.version, command := r.command, reserved := r.reserved
      addrType := r.addrType } : Request).validateHeader = none := header
  have valid' : (r₀.decodedInto r).validate = none :=
    Request.validate_eq_none.mpr ⟨header, validateAddress_readBack address readable⟩
  refine ⟨rest₂, ?_, bytes₂⟩
  simp only [Request.readFrom, read₁, read₂, List.getD_cons_zero, List.getD_cons_succ, header']
  simp only [Request.decodedInto] at valid' ⊢
  simp [valid', Request.encode]
  omega

/-- `Validate` accepts a request of type IPv4 holding the IPv6 loopback
address; `WriteTo` writes it as six bytes without an address, and `ReadFrom`
on those six bytes fails. -/
theorem Request.readFrom_writeTo_fails_for_ipv6_in_ipv4 :
    let q : Request := ⟨5, 1, 0, 1, some (List.replicate 15 0 ++ [1]), [], 80⟩
    let w := q.writeTo (Sink.accepting [])
    let d := Request.readFrom ⟨0, 0, 0, 0, none, [], 0⟩ ⟨[w.dst.written], .eof, by decide⟩
    q.validate = none ∧ w.n = 6 ∧ w.err = none ∧ d.n = 6 ∧ d.err = some .unexpectedEOF := by
  decide

/-- The reply `ReadFrom` decodes from `r`'s encoding into `r₀`: `r` with the
address read back. -/
def Reply.decodedInto (r₀ r : Reply) : Reply :=
  { r with
    ip := readBackIP r.addrType r.ip r₀.ip
    domain := readBackDomain r.addrType r.domain r₀.domain }

theorem Reply.readFrom_encode {r : Reply} (valid : r.validate = none)
    (readable : AddressReadable r.addrType r.ip r.domain) (r₀ : Reply)
    (bytes : src.bytes = r.encode ++ s) :
    ∃ rest, r₀.readFrom src = ⟨r₀.decodedInto r, r.encode.length, none, rest⟩ ∧
      rest.bytes = s := by
  obtain ⟨header, address⟩ := Reply.validate_eq_none.mp valid
  obtain ⟨rest₁, read₁, bytes₁⟩ := readFull_eq
    (show src.bytes = [r.version, r.reply, r.reserved, r.addrType] ++
      (addressBytes r.addrType r.ip r.domain ++ putUint16 r.port ++ s) by
        simp [bytes, Reply.encode])
    (show [r.version, r.reply, r.reserved, r.addrType].length = 4 from rfl)
  obtain ⟨rest₂, read₂, bytes₂⟩ := @readAddress_addressBytes rest₁ s r.addrType r.ip r₀.ip
    r.domain r₀.domain r.port r₀.port (Reply.addrType_of_validateHeader header) readable bytes₁
  have header' : ({ r₀ with
      version := r.version, reply := r.reply, reserved := r.reserved
      addrType := r.addrType } : Reply).validateHeader = none := header
  have valid' : (r₀.decodedInto r).validate = none :=
    Reply.validate_eq_none.mpr ⟨header, validateAddress_readBack address readable⟩
  refine ⟨rest₂, ?_, bytes₂⟩
  simp only [Reply.readFrom, read₁, read₂, List.getD_cons_zero, List.getD_cons_succ, header']
  simp only [Reply.decodedInto] at valid' ⊢
  simp [valid', Reply.encode]
  omega

/-! ## UDP packets -/

/-- The packet `ReadFrom` decodes from `p`'s encoding into `p₀`: `p` with the
address read back. -/
def UDPPacket.decodedInto (p₀ p : UDPPacket) : UDPPacket :=
  { p with
    ip := readBackIP p.addrType p.ip p₀.ip
    domain := readBackDomain p.addrType p.domain p₀.domain }

/-- A UDP packet is read to the end of its datagram (`io.ReadAll`), so a
datagram holding exactly a valid packet's encoding is read back whole. -/
theorem UDPPacket.readFrom_encode {p : UDPPacket} (valid : p.validate = none)
    (readable : AddressReadable p.addrType p.ip p.domain) (p₀ : UDPPacket)
    (bytes : src.bytes = p.encode) (eof : src.ending = .eof) :
    ∃ rest, p₀.readFrom src = ⟨p₀.decodedInto p, p.encode.length, none, rest⟩ ∧
      rest.bytes = [] := by
  obtain ⟨reserved, frag, address, dataNe⟩ := UDPPacket.validate_eq_none.mp valid
  have known := UDPPacket.addrType_of_validateAddress address
  obtain ⟨rest₁, read₁, bytes₁⟩ := readFull_eq
    (show src.bytes = [p.reserved.1, p.reserved.2, p.frag, p.addrType] ++
      (addressBytes p.addrType p.ip p.domain ++ putUint16 p.port ++ p.data) by
        simp [bytes, UDPPacket.encode])
    (show [p.reserved.1, p.reserved.2, p.frag, p.addrType].length = 4 from rfl)
  obtain ⟨rest₂, read₂, bytes₂⟩ := @readAddress_addressBytes rest₁ p.data p.addrType p.ip p₀.ip
    p.domain p₀.domain p.port p₀.port known readable bytes₁
  have ending₂ : rest₂.ending = .eof :=
    calc rest₂.ending = (readAddress p.addrType p₀.ip p₀.domain p₀.port rest₁).rest.ending := by
          rw [read₂]
      _ = (src.readFull 4).rest.ending := by rw [ending_readAddress, read₁]
      _ = .eof := by rw [ending_readFull, eof]
  have header' : ({ p₀ with
      reserved := (p.reserved.1, p.reserved.2), frag := p.frag
      addrType := p.addrType } : UDPPacket).validateHeader = none := by
    simp only [UDPPacket.validateHeader, reserved, frag]
    simp; tauto
  have valid' : (p₀.decodedInto p).validate = none :=
    UDPPacket.validate_eq_none.mpr
      ⟨reserved, frag, validateAddress_readBack address readable, dataNe⟩
  refine ⟨⟨[], .eof, by simp⟩, ?_, rfl⟩
  simp only [UDPPacket.readFrom, read₁, read₂, List.getD_cons_zero, List.getD_cons_succ, header']
  simp only [UDPPacket.decodedInto] at valid' ⊢
  simp [valid', UDPPacket.encode, Source.readAll, bytes₂, ending₂]
  omega

end

end Socks.Socks5
