import Socks.Socks5.RoundTrip

/-!
# The SOCKS5 codec

Each decoder of package `socks5` reads its fields with `io.ReadFull`, in sizes
taken from the bytes already read, and ends with `Validate`. So it is exact
both ways: a valid message's encoding is read back whole and nothing after it
(the round trips), and a decoder that returns no error has read the encoding of
a valid message (`AcceptsOnly`). A decoder therefore succeeds exactly on the
connections that start with a valid message's encoding
(`Decodes.err_eq_none_iff`).

Valid is what `Validate` checks, with two differences. A request or reply must
also have an address that `To4()` or `To16()` writes (`AddressReadable`); every
address the decoder reads is one. A GSSAPI abort message is returned before
any check, so its version is never looked at.

A UDP packet is read to the end of its datagram: the decoder succeeds exactly
on the datagrams that hold one valid packet's encoding.
-/

namespace Socks.Socks5

open Source

theorem List.exists_of_length_eq_four {α : Type} {l : List α} (len : l.length = 4) :
    ∃ a b c d, l = [a, b, c, d] := by
  match l, len with
  | [a, b, c, d], _ => exact ⟨a, b, c, d, rfl⟩

/-! ## Method negotiation and authentication -/

theorem HandshakeRequest.acceptsOnly :
    AcceptsOnly (fun h : HandshakeRequest => h.validate = none) HandshakeRequest.encode
      HandshakeRequest.readFrom := by
  intro h₀ src ok
  unfold HandshakeRequest.readFrom at ok ⊢
  cases e₁ : (src.readFull 2).err with
  | some e => simp [e₁] at ok
  | none =>
    obtain ⟨len₁, bytes₁⟩ := readFull_of_err_eq_none e₁
    obtain ⟨v, nm, data₁⟩ := List.length_eq_two.mp len₁
    simp only [e₁, data₁, List.getD_cons_zero, List.getD_cons_succ, List.length_cons,
      List.length_nil] at ok ⊢
    split_ifs at ok ⊢
    cases e₂ : ((src.readFull 2).rest.readFull nm.toNat).err with
    | some e => simp [e₂] at ok
    | none =>
      obtain ⟨len₂, bytes₂⟩ := readFull_of_err_eq_none e₂
      simp only [e₂] at ok ⊢
      refine ⟨ok, by rw [bytes₁, data₁, bytes₂]; simp [HandshakeRequest.encode], ?_⟩
      simp [HandshakeRequest.encode]; omega

theorem HandshakeReply.acceptsOnly :
    AcceptsOnly (fun h : HandshakeReply => h.validate = none) HandshakeReply.encode
      HandshakeReply.readFrom := by
  intro h₀ src ok
  unfold HandshakeReply.readFrom at ok ⊢
  cases e₁ : (src.readFull 2).err with
  | some e => simp [e₁] at ok
  | none =>
    obtain ⟨len₁, bytes₁⟩ := readFull_of_err_eq_none e₁
    obtain ⟨v, m, data₁⟩ := List.length_eq_two.mp len₁
    simp only [e₁, data₁] at ok ⊢
    exact ⟨ok, by rw [bytes₁, data₁]; rfl, rfl⟩

theorem UserPassRequest.acceptsOnly :
    AcceptsOnly (fun r : UserPassRequest => r.validate = none) UserPassRequest.encode
      UserPassRequest.readFrom := by
  intro r₀ src ok
  unfold UserPassRequest.readFrom at ok ⊢
  cases e₁ : (src.readFull 2).err with
  | some e => simp [e₁] at ok
  | none =>
    obtain ⟨len₁, bytes₁⟩ := readFull_of_err_eq_none e₁
    obtain ⟨v, ulen, data₁⟩ := List.length_eq_two.mp len₁
    simp only [e₁, data₁, List.getD_cons_zero, List.getD_cons_succ] at ok ⊢
    by_cases noUser : ulen.toNat = 0
    · simp [noUser] at ok
    simp only [noUser, if_false] at ok ⊢
    cases e₂ : ((src.readFull 2).rest.readFull ulen.toNat).err with
    | some e => simp [e₂] at ok
    | none =>
      obtain ⟨len₂, bytes₂⟩ := readFull_of_err_eq_none e₂
      simp only [e₂] at ok ⊢
      cases e₃ : (((src.readFull 2).rest.readFull ulen.toNat).rest.readFull 1).err with
      | some e => simp [e₃] at ok
      | none =>
        obtain ⟨len₃, bytes₃⟩ := readFull_of_err_eq_none e₃
        obtain ⟨plen, data₃⟩ := List.length_eq_one.mp len₃
        simp only [e₃, data₃, List.getD_cons_zero] at ok ⊢
        by_cases noPassword : plen.toNat = 0
        · simp [noPassword] at ok
        simp only [noPassword, if_false] at ok ⊢
        cases e₄ : ((((src.readFull 2).rest.readFull ulen.toNat).rest.readFull 1).rest.readFull
            plen.toNat).err with
        | some e => simp [e₄] at ok
        | none =>
          obtain ⟨len₄, bytes₄⟩ := readFull_of_err_eq_none e₄
          simp only [e₄] at ok ⊢
          refine ⟨ok, ?_, ?_⟩
          · rw [bytes₁, data₁, bytes₂, bytes₃, data₃, bytes₄]
            simp [UserPassRequest.encode, len₂, len₄]
          · simp [UserPassRequest.encode, len₂, len₄]; omega

theorem UserPassReply.acceptsOnly :
    AcceptsOnly (fun r : UserPassReply => r.validate = none) UserPassReply.encode
      UserPassReply.readFrom := by
  intro r₀ src ok
  unfold UserPassReply.readFrom at ok ⊢
  cases e₁ : (src.readFull 2).err with
  | some e => simp [e₁] at ok
  | none =>
    obtain ⟨len₁, bytes₁⟩ := readFull_of_err_eq_none e₁
    obtain ⟨v, status, data₁⟩ := List.length_eq_two.mp len₁
    simp only [e₁, data₁] at ok ⊢
    exact ⟨ok, by rw [bytes₁, data₁]; rfl, rfl⟩

/-- A GSSAPI decoder accepts only valid messages and their encodings, except
that an abort message need not be valid. -/
theorem GSSAPIMessage.acceptsOnly (errs : GSSAPIErrors) :
    AcceptsOnly (fun r => r.msgType ≠ gssapiTypeAbort → validate errs r = none)
      GSSAPIMessage.encode (readFrom errs) := by
  intro r₀ src ok
  unfold readFrom at ok ⊢
  cases e₁ : (src.readFull 2).err with
  | some e => simp [e₁] at ok
  | none =>
    obtain ⟨len₁, bytes₁⟩ := readFull_of_err_eq_none e₁
    obtain ⟨v, t, data₁⟩ := List.length_eq_two.mp len₁
    simp only [e₁, data₁, List.getD_cons_zero, List.getD_cons_succ, List.length_cons,
      List.length_nil] at ok ⊢
    by_cases abort : t = gssapiTypeAbort
    · simp only [abort, if_true]
      exact ⟨fun ne => absurd rfl ne, by rw [bytes₁, data₁]; simp [encode, abort],
        by simp [encode, abort]⟩
    simp only [abort, if_false] at ok ⊢
    cases e₂ : ((src.readFull 2).rest.readFull 2).err with
    | some e => simp [e₂] at ok
    | none =>
      obtain ⟨len₂, bytes₂⟩ := readFull_of_err_eq_none e₂
      obtain ⟨b0, b1, data₂⟩ := List.length_eq_two.mp len₂
      simp only [e₂, data₂, List.getD_cons_zero, List.getD_cons_succ] at ok ⊢
      split_ifs at ok ⊢
      cases e₃ : (((src.readFull 2).rest.readFull 2).rest.readFull (uint16 b0 b1).toNat).err with
      | some e => simp [e₃] at ok
      | none =>
        obtain ⟨len₃, bytes₃⟩ := readFull_of_err_eq_none e₃
        simp only [e₃] at ok ⊢
        refine ⟨fun _ => ok, ?_, ?_⟩
        · rw [bytes₁, data₁, bytes₂, data₂, bytes₃]
          simp [encode, abort, len₃, putUint16_uint16]
        · simp [encode, abort, len₃]; omega

/-! ## Requests, replies and UDP packets -/

/-- What the address reads of `ReadFrom` took when they returned no error: the
address bytes of what they read, then the port. -/
theorem readAddress_sound {addrType : UInt8}
    (known : addrType = addrTypeIPv4 ∨ addrType = addrTypeDomain ∨ addrType = addrTypeIPv6)
    {ip : NetIP} {domain : Bytes} {port : UInt16} {src : Source}
    (ok : (readAddress addrType ip domain port src).err = none) :
    AddressReadable addrType (readAddress addrType ip domain port src).ip
        (readAddress addrType ip domain port src).domain ∧
    src.bytes = addressBytes addrType (readAddress addrType ip domain port src).ip
        (readAddress addrType ip domain port src).domain ++
      putUint16 (readAddress addrType ip domain port src).port ++
      (readAddress addrType ip domain port src).rest.bytes ∧
    (readAddress addrType ip domain port src).n =
      (addressBytes addrType (readAddress addrType ip domain port src).ip
        (readAddress addrType ip domain port src).domain).length + 2 := by
  rcases known with rfl | rfl | rfl
  · unfold readAddress at ok ⊢
    rw [if_pos rfl] at ok ⊢
    cases e₁ : (src.readFull 4).err with
    | some e => simp [e₁] at ok
    | none =>
      obtain ⟨len₁, bytes₁⟩ := readFull_of_err_eq_none e₁
      simp only [e₁, if_true] at ok ⊢
      cases e₂ : ((src.readFull 4).rest.readFull 2).err with
      | some e => simp [e₂] at ok
      | none =>
        obtain ⟨len₂, bytes₂⟩ := readFull_of_err_eq_none e₂
        obtain ⟨b0, b1, data₂⟩ := List.length_eq_two.mp len₂
        simp only [e₂, data₂] at ok ⊢
        rw [bytes₁, bytes₂, data₂]
        simp [AddressReadable, addressBytes, NetIP.to4, len₁, NetIP.bytes, putUint16_uint16,
          addrTypeIPv4, addrTypeIPv6, addrTypeDomain]
  · unfold readAddress at ok ⊢
    rw [if_neg (by decide : addrTypeDomain ≠ addrTypeIPv4),
      if_neg (by decide : addrTypeDomain ≠ addrTypeIPv6), if_pos rfl] at ok ⊢
    cases e₁ : (src.readFull 1).err with
    | some e => simp [e₁] at ok
    | none =>
      obtain ⟨len₁, bytes₁⟩ := readFull_of_err_eq_none e₁
      obtain ⟨l, data₁⟩ := List.length_eq_one.mp len₁
      simp only [e₁, data₁, List.getD_cons_zero] at ok ⊢
      cases e₂ : ((src.readFull 1).rest.readFull l.toNat).err with
      | some e => simp [e₂] at ok
      | none =>
        obtain ⟨len₂, bytes₂⟩ := readFull_of_err_eq_none e₂
        simp only [e₂, if_true] at ok ⊢
        cases e₃ : (((src.readFull 1).rest.readFull l.toNat).rest.readFull 2).err with
        | some e => simp [e₃] at ok
        | none =>
          obtain ⟨len₃, bytes₃⟩ := readFull_of_err_eq_none e₃
          obtain ⟨b0, b1, data₃⟩ := List.length_eq_two.mp len₃
          simp only [e₃, data₃] at ok ⊢
          rw [bytes₁, data₁, bytes₂, bytes₃, data₃]
          have bound : l.toNat < 256 := l.toNat_lt_size
          simp [AddressReadable, addressBytes, len₂, putUint16_uint16, addrTypeIPv4, addrTypeIPv6,
            addrTypeDomain]
          omega
  · unfold readAddress at ok ⊢
    rw [if_neg (by decide : addrTypeIPv6 ≠ addrTypeIPv4), if_pos rfl] at ok ⊢
    cases e₁ : (src.readFull 16).err with
    | some e => simp [e₁] at ok
    | none =>
      obtain ⟨len₁, bytes₁⟩ := readFull_of_err_eq_none e₁
      simp only [e₁, if_true] at ok ⊢
      cases e₂ : ((src.readFull 16).rest.readFull 2).err with
      | some e => simp [e₂] at ok
      | none =>
        obtain ⟨len₂, bytes₂⟩ := readFull_of_err_eq_none e₂
        obtain ⟨b0, b1, data₂⟩ := List.length_eq_two.mp len₂
        simp only [e₂, data₂] at ok ⊢
        rw [bytes₁, bytes₂, data₂]
        simp [AddressReadable, addressBytes, NetIP.to16, len₁, NetIP.bytes, putUint16_uint16,
          addrTypeIPv4, addrTypeIPv6, addrTypeDomain]

theorem Request.acceptsOnly :
    AcceptsOnly (fun r : Request => r.validate = none ∧ AddressReadable r.addrType r.ip r.domain)
      Request.encode Request.readFrom := by
  intro r₀ src ok
  unfold Request.readFrom at ok ⊢
  cases e₁ : (src.readFull 4).err with
  | some e => simp [e₁] at ok
  | none =>
    obtain ⟨len₁, bytes₁⟩ := readFull_of_err_eq_none e₁
    obtain ⟨v, c, rsv, atyp, data₁⟩ := List.exists_of_length_eq_four len₁
    simp only [e₁, data₁, List.getD_cons_zero, List.getD_cons_succ] at ok ⊢
    cases header : Request.validateHeader ⟨v, c, rsv, atyp, r₀.ip, r₀.domain, r₀.port⟩ with
    | some e => simp [header] at ok
    | none =>
      simp only [header] at ok ⊢
      cases e₂ : (readAddress atyp r₀.ip r₀.domain r₀.port (src.readFull 4).rest).err with
      | some e => simp [e₂] at ok
      | none =>
        obtain ⟨readable, bytes₂, n₂⟩ :=
          readAddress_sound (Request.addrType_of_validateHeader header) e₂
        simp only [e₂] at ok ⊢
        refine ⟨⟨ok, readable⟩, by rw [bytes₁, data₁, bytes₂]; simp [Request.encode], ?_⟩
        simp [Request.encode, n₂]; omega

theorem Reply.acceptsOnly :
    AcceptsOnly (fun r : Reply => r.validate = none ∧ AddressReadable r.addrType r.ip r.domain)
      Reply.encode Reply.readFrom := by
  intro r₀ src ok
  unfold Reply.readFrom at ok ⊢
  cases e₁ : (src.readFull 4).err with
  | some e => simp [e₁] at ok
  | none =>
    obtain ⟨len₁, bytes₁⟩ := readFull_of_err_eq_none e₁
    obtain ⟨v, rep, rsv, atyp, data₁⟩ := List.exists_of_length_eq_four len₁
    simp only [e₁, data₁, List.getD_cons_zero, List.getD_cons_succ] at ok ⊢
    cases header : Reply.validateHeader ⟨v, rep, rsv, atyp, r₀.ip, r₀.domain, r₀.port⟩ with
    | some e => simp [header] at ok
    | none =>
      simp only [header] at ok ⊢
      cases e₂ : (readAddress atyp r₀.ip r₀.domain r₀.port (src.readFull 4).rest).err with
      | some e => simp [e₂] at ok
      | none =>
        obtain ⟨readable, bytes₂, n₂⟩ :=
          readAddress_sound (Reply.addrType_of_validateHeader header) e₂
        simp only [e₂] at ok ⊢
        refine ⟨⟨ok, readable⟩, by rw [bytes₁, data₁, bytes₂]; simp [Reply.encode], ?_⟩
        simp [Reply.encode, n₂]; omega

/-! ## UDP packets -/

/-- A packet the decoder accepts is valid, and the datagram is its encoding. -/
theorem UDPPacket.readFrom_sound {p₀ : UDPPacket} {src : Source}
    (ok : (p₀.readFrom src).err = none) :
    let p := (p₀.readFrom src).msg
    (p.validate = none ∧ AddressReadable p.addrType p.ip p.domain) ∧ src.bytes = p.encode ∧
      (p₀.readFrom src).n = p.encode.length := by
  dsimp only
  unfold UDPPacket.readFrom at ok ⊢
  cases e₁ : (src.readFull 4).err with
  | some e => simp [e₁] at ok
  | none =>
    obtain ⟨len₁, bytes₁⟩ := readFull_of_err_eq_none e₁
    obtain ⟨r1, r2, frag, atyp, data₁⟩ := List.exists_of_length_eq_four len₁
    simp only [e₁, data₁, List.getD_cons_zero, List.getD_cons_succ] at ok ⊢
    cases header : UDPPacket.validateHeader
        { p₀ with reserved := (r1, r2), frag := frag, addrType := atyp } with
    | some e => simp [header] at ok
    | none =>
      have known : atyp = addrTypeIPv4 ∨ atyp = addrTypeDomain ∨ atyp = addrTypeIPv6 := by
        simp only [UDPPacket.validateHeader] at header
        split_ifs at header with _ _ h
        rcases h with h | h | h
        exacts [.inl h, .inr (.inr h), .inr (.inl h)]
      simp only [header] at ok ⊢
      cases e₂ : (readAddress atyp p₀.ip p₀.domain p₀.port (src.readFull 4).rest).err with
      | some e => simp [e₂] at ok
      | none =>
        obtain ⟨readable, bytes₂, n₂⟩ := readAddress_sound known e₂
        cases e₃ :
            (readAddress atyp p₀.ip p₀.domain p₀.port (src.readFull 4).rest).rest.readAll.err with
        | some e => simp [e₂, e₃] at ok
        | none =>
          simp only [e₂, e₃] at ok ⊢
          refine ⟨⟨ok, readable⟩, ?_, ?_⟩
          · rw [bytes₁, data₁, bytes₂]; simp [UDPPacket.encode]
          · simp [UDPPacket.encode, n₂]; omega

/-- **UDP packets.** On a datagram, the decoder returns no error exactly when
the datagram holds one valid packet's encoding. -/
theorem UDPPacket.readFrom_datagram (p₀ : UDPPacket) (src : Source) (eof : src.ending = .eof) :
    (p₀.readFrom src).err = none ↔
      ∃ p : UDPPacket, (p.validate = none ∧ AddressReadable p.addrType p.ip p.domain) ∧
        src.bytes = p.encode := by
  constructor
  · intro ok
    obtain ⟨valid, bytes, -⟩ := UDPPacket.readFrom_sound ok
    exact ⟨_, valid, bytes⟩
  · rintro ⟨p, ⟨valid, readable⟩, bytes⟩
    obtain ⟨rest, read, -⟩ := UDPPacket.readFrom_encode valid readable p₀ bytes eof
    simp [read]

/-- The datagram for `1.2.3.4:80` carrying the byte `A`, into a zero packet. -/
theorem readFrom_datagram_ipv4 :
    (UDPPacket.readFrom ⟨(0, 0), 0, 0, none, [], 0, []⟩
        ⟨[[0, 0, 0, 1, 1, 2, 3, 4, 0, 80, 65]], .eof, by decide⟩).err = none ↔
      ∃ p : UDPPacket, (p.validate = none ∧ AddressReadable p.addrType p.ip p.domain) ∧
        (⟨[[0, 0, 0, 1, 1, 2, 3, 4, 0, 80, 65]], .eof, by decide⟩ : Source).bytes = p.encode :=
  UDPPacket.readFrom_datagram ⟨(0, 0), 0, 0, none, [], 0, []⟩
    ⟨[[0, 0, 0, 1, 1, 2, 3, 4, 0, 80, 65]], .eof, by decide⟩ rfl

/-! ## The decoders -/

theorem HandshakeRequest.decodes :
    Decodes (fun h : HandshakeRequest => h.validate = none) HandshakeRequest.encode
      HandshakeRequest.readFrom :=
  ⟨.of_decode fun _ valid r₀ _ _ bytes => ⟨_, HandshakeRequest.readFrom_encode valid r₀ bytes⟩,
    HandshakeRequest.acceptsOnly⟩

theorem HandshakeReply.decodes :
    Decodes (fun h : HandshakeReply => h.validate = none) HandshakeReply.encode
      HandshakeReply.readFrom :=
  ⟨.of_decode fun _ valid r₀ _ _ bytes => ⟨_, HandshakeReply.readFrom_encode valid r₀ bytes⟩,
    HandshakeReply.acceptsOnly⟩

theorem UserPassRequest.decodes :
    Decodes (fun r : UserPassRequest => r.validate = none) UserPassRequest.encode
      UserPassRequest.readFrom :=
  ⟨.of_decode fun _ valid r₀ _ _ bytes => ⟨_, UserPassRequest.readFrom_encode valid r₀ bytes⟩,
    UserPassRequest.acceptsOnly⟩

theorem UserPassReply.decodes :
    Decodes (fun r : UserPassReply => r.validate = none) UserPassReply.encode
      UserPassReply.readFrom :=
  ⟨.of_decode fun _ valid r₀ _ _ bytes => ⟨_, UserPassReply.readFrom_encode valid r₀ bytes⟩,
    UserPassReply.acceptsOnly⟩

/-- An abort message ends after its two bytes, whatever its version. -/
theorem GSSAPIMessage.readFrom_abort (errs : GSSAPIErrors) {v : UInt8} (r₀ : GSSAPIMessage)
    {src : Source} {s : Bytes} (bytes : src.bytes = [v, gssapiTypeAbort] ++ s) :
    ∃ rest, readFrom errs r₀ src = ⟨⟨v, gssapiTypeAbort, r₀.token⟩, 2, none, rest⟩ ∧
      rest.bytes = s := by
  obtain ⟨rest, read, left⟩ := readFull_eq bytes (show [v, gssapiTypeAbort].length = 2 from rfl)
  exact ⟨rest, by simp [readFrom, read], left⟩

theorem GSSAPIMessage.decodes (errs : GSSAPIErrors) :
    Decodes (fun r => r.msgType ≠ gssapiTypeAbort → validate errs r = none) GSSAPIMessage.encode
      (readFrom errs) := by
  refine ⟨.of_decode fun m ok r₀ src s bytes => ?_, GSSAPIMessage.acceptsOnly errs⟩
  by_cases abort : m.msgType = gssapiTypeAbort
  · obtain ⟨rest, read, left⟩ := GSSAPIMessage.readFrom_abort errs r₀
      (show src.bytes = [m.version, gssapiTypeAbort] ++ s by simp [bytes, encode, abort])
    exact ⟨⟨m.version, gssapiTypeAbort, r₀.token⟩, rest, by simp [read, encode, abort], left⟩
  · obtain ⟨r', rest, read, left, -⟩ := readFrom_encode errs (ok abort) r₀ bytes
    exact ⟨r', rest, read, left⟩

theorem Request.decodes :
    Decodes (fun r : Request => r.validate = none ∧ AddressReadable r.addrType r.ip r.domain)
      Request.encode Request.readFrom :=
  ⟨.of_decode fun _ ok r₀ _ _ bytes => ⟨_, Request.readFrom_encode ok.1 ok.2 r₀ bytes⟩,
    Request.acceptsOnly⟩

theorem Reply.decodes :
    Decodes (fun r : Reply => r.validate = none ∧ AddressReadable r.addrType r.ip r.domain)
      Reply.encode Reply.readFrom :=
  ⟨.of_decode fun _ ok r₀ _ _ bytes => ⟨_, Reply.readFrom_encode ok.1 ok.2 r₀ bytes⟩,
    Reply.acceptsOnly⟩

/-- **The SOCKS5 codec.** Every stream decoder of package `socks5` takes
exactly the encodings of the messages it decodes off a connection and accepts
nothing else: valid handshake and authentication messages, GSSAPI messages
valid unless they abort, and valid requests and replies whose address comes
back. -/
theorem readFrom_decodes :
    Decodes (fun h : HandshakeRequest => h.validate = none) HandshakeRequest.encode
        HandshakeRequest.readFrom ∧
      Decodes (fun h : HandshakeReply => h.validate = none) HandshakeReply.encode
        HandshakeReply.readFrom ∧
      Decodes (fun r : UserPassRequest => r.validate = none) UserPassRequest.encode
        UserPassRequest.readFrom ∧
      Decodes (fun r : UserPassReply => r.validate = none) UserPassReply.encode
        UserPassReply.readFrom ∧
      Decodes (fun r : GSSAPIRequest => r.msgType ≠ gssapiTypeAbort → r.validate = none)
        GSSAPIMessage.encode GSSAPIRequest.readFrom ∧
      Decodes (fun r : GSSAPIReply => r.msgType ≠ gssapiTypeAbort → r.validate = none)
        GSSAPIMessage.encode GSSAPIReply.readFrom ∧
      Decodes (fun r : Request => r.validate = none ∧ AddressReadable r.addrType r.ip r.domain)
        Request.encode Request.readFrom ∧
      Decodes (fun r : Reply => r.validate = none ∧ AddressReadable r.addrType r.ip r.domain)
        Reply.encode Reply.readFrom :=
  ⟨HandshakeRequest.decodes, HandshakeReply.decodes, UserPassRequest.decodes,
    UserPassReply.decodes, GSSAPIMessage.decodes _, GSSAPIMessage.decodes _, Request.decodes,
    Reply.decodes⟩

end Socks.Socks5
