import Socks.Socks5.Handshake

/-!
# SOCKS5 requests, replies and UDP packets

`Request` and `Reply` (`VER CMD|REP RSV ATYP DST.ADDR DST.PORT`) and
`UDPPacket` (`RSV RSV FRAG ATYP DST.ADDR DST.PORT DATA`) carry the same
address union. Its reading (`readAddress`), its writing (`writeAddress`) and
its check (`validateAddress`) are one definition each, applied to each
message's fields and errors.

The address is written as `IP.To4()` or `IP.To16()`; `Validate` asks only that
`IP` is not nil, so an IP that these conversions map to nil passes it and is
written as no bytes at all.
-/

namespace Socks.Socks5

/-! ## The address union -/

/-- The switch of `Validate` over the address type: a domain of 1 to 255
bytes, or an IP that is not nil; `other` for any other type. -/
def validateAddress (errDomain errAddr : Error) (other : Option Error) (addrType : UInt8)
    (ip : NetIP) (domain : Bytes) : Option Error :=
  if addrType = addrTypeDomain then
    if domain.length = 0 ∨ domain.length > 255 then some errDomain else none
  else if addrType = addrTypeIPv4 ∨ addrType = addrTypeIPv6 then
    if ip = none then some errAddr else none
  else other

/-- What the address part of `ReadFrom` leaves: the IP, domain and port as the
receiver holds them, the bytes it counted, its error and the connection. -/
structure AddrRead where
  ip : NetIP
  domain : Bytes
  port : UInt16
  n : Nat
  err : Option Error
  rest : Source

/-- The reads of `ReadFrom` after the header: the address for the type (4 or 16
bytes, or a length byte and the domain), then the big-endian port. A field is
set only once its bytes arrived. -/
def readAddress (addrType : UInt8) (ip : NetIP) (domain : Bytes) (port : UInt16)
    (src : Source) : AddrRead :=
  let addr : NetIP × Bytes × Nat × Option Error × Source :=
    if addrType = addrTypeIPv4 then
      let g := src.readFull 4
      (if g.err = none then some g.data else ip, domain, g.data.length, g.err, g.rest)
    else if addrType = addrTypeIPv6 then
      let g := src.readFull 16
      (if g.err = none then some g.data else ip, domain, g.data.length, g.err, g.rest)
    else if addrType = addrTypeDomain then
      let g := src.readFull 1
      match g.err with
      | some e => (ip, domain, g.data.length, some e, g.rest)
      | none =>
        let g' := g.rest.readFull (g.data.getD 0 0).toNat
        (ip, if g'.err = none then g'.data else domain, g.data.length + g'.data.length, g'.err,
          g'.rest)
    else (ip, domain, 0, none, src)
  let (ip, domain, n, err, src) := addr
  match err with
  | some e => ⟨ip, domain, port, n, some e, src⟩
  | none =>
    let g := src.readFull 2
    match g.err with
    | some e => ⟨ip, domain, port, n + g.data.length, some e, g.rest⟩
    | none => ⟨ip, domain, uint16 (g.data.getD 0 0) (g.data.getD 1 0), n + g.data.length, none, g.rest⟩

@[simp] theorem ending_readAddress (addrType : UInt8) (ip : NetIP) (domain : Bytes) (port : UInt16)
    (src : Source) : (readAddress addrType ip domain port src).rest.ending = src.ending := by
  unfold readAddress
  split_ifs <;> dsimp only <;> (repeat' split) <;> simp

/-- The address bytes: `To4()`, `To16()`, or the length byte and the domain. -/
def addressBytes (addrType : UInt8) (ip : NetIP) (domain : Bytes) : Bytes :=
  if addrType = addrTypeIPv4 then ip.to4.bytes
  else if addrType = addrTypeIPv6 then ip.to16.bytes
  else if addrType = addrTypeDomain then [domain.length.toUInt8] ++ domain
  else []

/-- The address part of `WriteTo`, from the header's count `n`: the switch
assigns `n, err` (the domain case adding its length byte to `total` first),
then `total += n`. An unknown type assigns nothing, so the header's `n` is
added again. -/
def writeAddress (addrType : UInt8) (ip : NetIP) (domain : Bytes) (dst : Sink) (total n : Nat) :
    Wrote :=
  if addrType = addrTypeIPv4 then
    let w := dst.write ip.to4.bytes
    ⟨total + w.n, w.err, w.dst⟩
  else if addrType = addrTypeIPv6 then
    let w := dst.write ip.to16.bytes
    ⟨total + w.n, w.err, w.dst⟩
  else if addrType = addrTypeDomain then
    let w := dst.write [domain.length.toUInt8]
    match w.err with
    | some e => ⟨total + w.n + w.n, some e, w.dst⟩
    | none =>
      let w' := w.dst.write domain
      ⟨total + w.n + w'.n, w'.err, w'.dst⟩
  else ⟨total + n, none, dst⟩

theorem writeAddress_accepting {addrType : UInt8}
    (known : addrType = addrTypeIPv4 ∨ addrType = addrTypeDomain ∨ addrType = addrTypeIPv6)
    (ip : NetIP) (domain w : Bytes) (total n : Nat) :
    writeAddress addrType ip domain (Sink.accepting w) total n =
      ⟨total + (addressBytes addrType ip domain).length, none,
        Sink.accepting (w ++ addressBytes addrType ip domain)⟩ := by
  rcases known with rfl | rfl | rfl
  · simp [writeAddress, addressBytes]
  · simp [writeAddress, addressBytes, addrTypeIPv4, addrTypeIPv6, addrTypeDomain]; omega
  · simp [writeAddress, addressBytes, addrTypeIPv4, addrTypeIPv6]

/-! ## `Request` -/

/-- `socks5.Request`. -/
structure Request where
  version : UInt8
  command : UInt8
  reserved : UInt8
  addrType : UInt8
  ip : NetIP
  domain : Bytes
  port : UInt16
  deriving DecidableEq, Repr

namespace Request

/-- `ValidateHeader`. -/
def validateHeader (r : Request) : Option Error :=
  if r.version ≠ socksVersion then some (.socks5 .errInvalidVersion)
  else if r.reserved ≠ 0 then some (.socks5 .errInvalidRSV)
  else if ¬ (r.command = cmdConnect ∨ r.command = cmdBind ∨ r.command = cmdUDPAssociate ∨
      r.command = cmdResolve ∨ r.command = cmdResolvePTR) then some (.socks5 .errInvalidCommand)
  else if ¬ (r.addrType = addrTypeIPv4 ∨ r.addrType = addrTypeDomain ∨
      r.addrType = addrTypeIPv6) then some (.socks5 .errInvalidAddr)
  else none

/-- `Validate`. -/
def validate (r : Request) : Option Error :=
  match r.validateHeader with
  | some e => some e
  | none =>
    validateAddress (.socks5 .errInvalidDomain) (.socks5 .errInvalidAddr) none r.addrType r.ip
      r.domain

/-- `ReadFrom`: the header, `ValidateHeader`, the address, then `Validate`. -/
def readFrom (r : Request) (src : Source) : Decoded Request :=
  let g := src.readFull 4
  match g.err with
  | some e => ⟨r, g.data.length, some e, g.rest⟩
  | none =>
    let r := { r with
      version := g.data.getD 0 0, command := g.data.getD 1 0
      reserved := g.data.getD 2 0, addrType := g.data.getD 3 0 }
    match r.validateHeader with
    | some e => ⟨r, g.data.length, some e, g.rest⟩
    | none =>
      let a := readAddress r.addrType r.ip r.domain r.port g.rest
      let r := { r with ip := a.ip, domain := a.domain, port := a.port }
      match a.err with
      | some e => ⟨r, g.data.length + a.n, some e, a.rest⟩
      | none => ⟨r, g.data.length + a.n, r.validate, a.rest⟩

/-- `WriteTo`: a domain out of 1 to 255 bytes is refused first (with the
reply's error); the rest is not validated. -/
def writeTo (r : Request) (dst : Sink) : Wrote :=
  if r.addrType = addrTypeDomain ∧ (r.domain.length = 0 ∨ r.domain.length > 255) then
    ⟨0, some (.socks5 .errInvalidReplyDomain), dst⟩
  else
    let w := dst.write [r.version, r.command, r.reserved, r.addrType]
    match w.err with
    | some e => ⟨w.n, some e, w.dst⟩
    | none =>
      let a := writeAddress r.addrType r.ip r.domain w.dst w.n w.n
      match a.err with
      | some e => ⟨a.n, some e, a.dst⟩
      | none =>
        let wp := a.dst.write (putUint16 r.port)
        ⟨a.n + wp.n, wp.err, wp.dst⟩

/-- The request on the wire. -/
def encode (r : Request) : Bytes :=
  [r.version, r.command, r.reserved, r.addrType] ++ addressBytes r.addrType r.ip r.domain ++
    putUint16 r.port

theorem validate_eq_none {r : Request} :
    r.validate = none ↔
      r.validateHeader = none ∧
        validateAddress (.socks5 .errInvalidDomain) (.socks5 .errInvalidAddr) none r.addrType r.ip
          r.domain = none := by
  unfold validate; split <;> simp_all

theorem addrType_of_validateHeader {r : Request} (header : r.validateHeader = none) :
    r.addrType = addrTypeIPv4 ∨ r.addrType = addrTypeDomain ∨ r.addrType = addrTypeIPv6 := by
  unfold validateHeader at header; split_ifs at header; simp_all

/-- On a writer that accepts everything, `WriteTo` of a valid request writes
`encode` and counts it. -/
theorem writeTo_accepting {r : Request} (valid : r.validate = none) (w : Bytes) :
    r.writeTo (Sink.accepting w) = ⟨r.encode.length, none, Sink.accepting (w ++ r.encode)⟩ := by
  obtain ⟨header, address⟩ := validate_eq_none.mp valid
  have domainOk : ¬(r.addrType = addrTypeDomain ∧ (r.domain = [] ∨ 255 < r.domain.length)) := by
    rintro ⟨domainType, bad⟩
    simp [validateAddress, domainType] at address
    rcases bad with empty | long
    · exact address.1 empty
    · omega
  simp [writeTo, domainOk, writeAddress_accepting (addrType_of_validateHeader header), encode]
  omega

end Request

/-! ## `Reply` -/

/-- `socks5.Reply`. -/
structure Reply where
  version : UInt8
  reply : UInt8
  reserved : UInt8
  addrType : UInt8
  ip : NetIP
  domain : Bytes
  port : UInt16
  deriving DecidableEq, Repr

namespace Reply

/-- `ValidateHeader`. -/
def validateHeader (r : Reply) : Option Error :=
  if r.version ≠ socksVersion then some (.socks5 .errInvalidReplyVersion)
  else if r.reserved ≠ 0 then some (.socks5 .errInvalidReplyRSV)
  else if ¬ (r.addrType = addrTypeIPv4 ∨ r.addrType = addrTypeDomain ∨
      r.addrType = addrTypeIPv6) then some (.socks5 .errInvalidReplyAddr)
  else none

/-- `Validate`. -/
def validate (r : Reply) : Option Error :=
  match r.validateHeader with
  | some e => some e
  | none =>
    validateAddress (.socks5 .errInvalidReplyDomain) (.socks5 .errInvalidReplyAddr) none
      r.addrType r.ip r.domain

/-- `ReadFrom`: the header, `ValidateHeader`, the address, then `Validate`. -/
def readFrom (r : Reply) (src : Source) : Decoded Reply :=
  let g := src.readFull 4
  match g.err with
  | some e => ⟨r, g.data.length, some e, g.rest⟩
  | none =>
    let r := { r with
      version := g.data.getD 0 0, reply := g.data.getD 1 0
      reserved := g.data.getD 2 0, addrType := g.data.getD 3 0 }
    match r.validateHeader with
    | some e => ⟨r, g.data.length, some e, g.rest⟩
    | none =>
      let a := readAddress r.addrType r.ip r.domain r.port g.rest
      let r := { r with ip := a.ip, domain := a.domain, port := a.port }
      match a.err with
      | some e => ⟨r, g.data.length + a.n, some e, a.rest⟩
      | none => ⟨r, g.data.length + a.n, r.validate, a.rest⟩

/-- `WriteTo`: `Validate` first. -/
def writeTo (r : Reply) (dst : Sink) : Wrote :=
  match r.validate with
  | some e => ⟨0, some e, dst⟩
  | none =>
    let w := dst.write [r.version, r.reply, r.reserved, r.addrType]
    match w.err with
    | some e => ⟨w.n, some e, w.dst⟩
    | none =>
      let a := writeAddress r.addrType r.ip r.domain w.dst w.n w.n
      match a.err with
      | some e => ⟨a.n, some e, a.dst⟩
      | none =>
        let wp := a.dst.write (putUint16 r.port)
        ⟨a.n + wp.n, wp.err, wp.dst⟩

/-- The reply on the wire. -/
def encode (r : Reply) : Bytes :=
  [r.version, r.reply, r.reserved, r.addrType] ++ addressBytes r.addrType r.ip r.domain ++
    putUint16 r.port

theorem validate_eq_none {r : Reply} :
    r.validate = none ↔
      r.validateHeader = none ∧
        validateAddress (.socks5 .errInvalidReplyDomain) (.socks5 .errInvalidReplyAddr) none
          r.addrType r.ip r.domain = none := by
  unfold validate; split <;> simp_all

theorem addrType_of_validateHeader {r : Reply} (header : r.validateHeader = none) :
    r.addrType = addrTypeIPv4 ∨ r.addrType = addrTypeDomain ∨ r.addrType = addrTypeIPv6 := by
  unfold validateHeader at header; split_ifs at header; simp_all

/-- On a writer that accepts everything, `WriteTo` of a valid reply writes
`encode` and counts it. -/
theorem writeTo_accepting {r : Reply} (valid : r.validate = none) (w : Bytes) :
    r.writeTo (Sink.accepting w) = ⟨r.encode.length, none, Sink.accepting (w ++ r.encode)⟩ := by
  have header := (validate_eq_none.mp valid).1
  simp [writeTo, valid, writeAddress_accepting (addrType_of_validateHeader header), encode]
  omega

end Reply

/-! ## `UDPPacket` -/

/-- `socks5.UDPPacket`. -/
structure UDPPacket where
  reserved : UInt8 × UInt8
  frag : UInt8
  addrType : UInt8
  ip : NetIP
  domain : Bytes
  port : UInt16
  data : Bytes
  deriving DecidableEq, Repr

namespace UDPPacket

/-- `ValidateHeader`. -/
def validateHeader (p : UDPPacket) : Option Error :=
  if p.reserved ≠ (0, 0) then some (.socks5 .errInvalidUDPReserved)
  else if p.frag ≠ 0 then some (.socks5 .errUnsupportedFrag)
  else if ¬ (p.addrType = addrTypeIPv4 ∨ p.addrType = addrTypeIPv6 ∨
      p.addrType = addrTypeDomain) then some (.socks5 .errInvalidUDPAddrType)
  else none

/-- `Validate`: the header checks, the address with an error for any other
type, then a payload. -/
def validate (p : UDPPacket) : Option Error :=
  if p.reserved ≠ (0, 0) then some (.socks5 .errInvalidUDPReserved)
  else if p.frag ≠ 0 then some (.socks5 .errUnsupportedFrag)
  else
    match validateAddress (.socks5 .errInvalidUDPDomain) (.socks5 .errInvalidUDPAddrType)
        (some (.socks5 .errInvalidUDPAddrType)) p.addrType p.ip p.domain with
    | some e => some e
    | none => if p.data.length = 0 then some (.socks5 .errMissingUDPData) else none

/-- `ReadFrom`: the header, `ValidateHeader`, the address, all remaining bytes
as the payload (`io.ReadAll`), then `Validate`. -/
def readFrom (p : UDPPacket) (src : Source) : Decoded UDPPacket :=
  let g := src.readFull 4
  match g.err with
  | some e => ⟨p, g.data.length, some e, g.rest⟩
  | none =>
    let p := { p with
      reserved := (g.data.getD 0 0, g.data.getD 1 0), frag := g.data.getD 2 0
      addrType := g.data.getD 3 0 }
    match p.validateHeader with
    | some e => ⟨p, g.data.length, some e, g.rest⟩
    | none =>
      let a := readAddress p.addrType p.ip p.domain p.port g.rest
      let p := { p with ip := a.ip, domain := a.domain, port := a.port }
      match a.err with
      | some e => ⟨p, g.data.length + a.n, some e, a.rest⟩
      | none =>
        let d := a.rest.readAll
        match d.err with
        | some e => ⟨p, g.data.length + a.n + d.data.length, some e, d.rest⟩
        | none =>
          let p := { p with data := d.data }
          ⟨p, g.data.length + a.n + d.data.length, p.validate, d.rest⟩

/-- `WriteTo`: `Validate` first. -/
def writeTo (p : UDPPacket) (dst : Sink) : Wrote :=
  match p.validate with
  | some e => ⟨0, some e, dst⟩
  | none =>
    let w := dst.write [p.reserved.1, p.reserved.2, p.frag, p.addrType]
    match w.err with
    | some e => ⟨w.n, some e, w.dst⟩
    | none =>
      let a := writeAddress p.addrType p.ip p.domain w.dst w.n w.n
      match a.err with
      | some e => ⟨a.n, some e, a.dst⟩
      | none =>
        let wp := a.dst.write (putUint16 p.port)
        match wp.err with
        | some e => ⟨a.n + wp.n, some e, wp.dst⟩
        | none =>
          let wd := wp.dst.write p.data
          ⟨a.n + wp.n + wd.n, wd.err, wd.dst⟩

/-- The packet on the wire. -/
def encode (p : UDPPacket) : Bytes :=
  [p.reserved.1, p.reserved.2, p.frag, p.addrType] ++ addressBytes p.addrType p.ip p.domain ++
    putUint16 p.port ++ p.data

theorem validate_eq_none {p : UDPPacket} :
    p.validate = none ↔
      p.reserved = (0, 0) ∧ p.frag = 0 ∧
        validateAddress (.socks5 .errInvalidUDPDomain) (.socks5 .errInvalidUDPAddrType)
          (some (.socks5 .errInvalidUDPAddrType)) p.addrType p.ip p.domain = none ∧
        p.data ≠ [] := by
  unfold validate
  cases validateAddress (.socks5 .errInvalidUDPDomain) (.socks5 .errInvalidUDPAddrType)
    (some (.socks5 .errInvalidUDPAddrType)) p.addrType p.ip p.domain <;> split_ifs <;> simp_all

/-- The address check of `Validate`, with an error for any other type, passes
only for the three address types. -/
theorem addrType_of_validateAddress {errDomain errAddr e : Error} {addrType : UInt8} {ip : NetIP}
    {domain : Bytes}
    (address : validateAddress errDomain errAddr (some e) addrType ip domain = none) :
    addrType = addrTypeIPv4 ∨ addrType = addrTypeDomain ∨ addrType = addrTypeIPv6 := by
  unfold validateAddress at address; split_ifs at address <;> simp_all

/-- On a writer that accepts everything, `WriteTo` of a valid packet writes
`encode` and counts it. -/
theorem writeTo_accepting {p : UDPPacket} (valid : p.validate = none) (w : Bytes) :
    p.writeTo (Sink.accepting w) = ⟨p.encode.length, none, Sink.accepting (w ++ p.encode)⟩ := by
  have address := (validate_eq_none.mp valid).2.2.1
  simp [writeTo, valid, writeAddress_accepting (addrType_of_validateAddress address), encode]
  omega

end UDPPacket
end Socks.Socks5
