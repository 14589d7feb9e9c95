import Socks.Stream.Bufio

/-!
# SOCKS4 and SOCKS4a requests

`socks4.Request` with its validation, its decoder and its encoder
(`socks4/request.go`). The decoder reads the 8-byte header with
`io.ReadFull`, then scans `USERID` and, for SOCKS4a, `DOMAIN` through one
pooled `bufio.Reader` over an `internal.LimitedReader` that is re-armed with
`maxLen + 1` (an `int64` sum) before each field.
-/

namespace Socks.Socks4

/-- `SocksVersion`. -/
def socksVersion : UInt8 := 4
/-- `CmdConnect`. -/
def cmdConnect : UInt8 := 1
/-- `CmdBind`. -/
def cmdBind : UInt8 := 2
/-- `DefaultMaxUserIDLen`. -/
def defaultMaxUserIDLen : Int := 256
/-- `DefaultMaxDomainLen`. -/
def defaultMaxDomainLen : Int := 256

/-- `net.IPv4zero`, the IPv4-mapped form of `0.0.0.0`. -/
def ipv4zero : NetIP := some (v4InV6Prefix ++ [0, 0, 0, 0])

/-- `socks4.Request`. -/
structure Request where
  version : UInt8
  command : UInt8
  port : UInt16
  ip : IP4
  userID : Bytes
  domain : Bytes
  deriving DecidableEq, Repr

namespace Request

/-- The zero value `var req Request`. -/
def zero : Request := ⟨0, 0, 0, IP4.zero, [], []⟩

/-- `IsSOCKS4a`: the address is `0.0.0.x` with `x ≠ 0`. -/
def isSOCKS4a (r : Request) : Bool :=
  r.ip.a == 0 && r.ip.b == 0 && r.ip.c == 0 && r.ip.d != 0

/-- `Init`: the address is copied from `ip.To4()`, so a nil or non-IPv4 `ip`
leaves it as it was. -/
def init (r : Request) (version command : UInt8) (port : UInt16) (ip : NetIP)
    (userID domain : Bytes) : Request :=
  { version, command, port, ip := r.ip.copy (NetIP.to4 ip).bytes, userID, domain }

/-- `GetIP`: the four bytes, which `To4()` keeps as they are. -/
def getIP (r : Request) : NetIP := some r.ip.toBytes

/-- `GetHost`: the domain for SOCKS4a, the dotted quad otherwise. -/
def getHost (r : Request) : Bytes := if r.isSOCKS4a then r.domain else r.ip.toString

/-- `ValidateHeader`. -/
def validateHeader (r : Request) : Option Error :=
  if r.version ≠ socksVersion then some (.socks4 .errInvalidVersion)
  else if r.command ≠ cmdConnect ∧ r.command ≠ cmdBind then some (.socks4 .errInvalidCommand)
  else if NetIP.to4 (some r.ip.toBytes) = none then some (.socks4 .errInvalidIP)
  else if (NetIP.to4 (some r.ip.toBytes)).equal ipv4zero ∧ r.command = cmdConnect then
    some (.socks4 .errInvalidIP)
  else none

/-- `ValidateDomain`: a domain exactly for SOCKS4a. -/
def validateDomain (r : Request) : Option Error :=
  if r.isSOCKS4a then (if r.domain.length = 0 then some (.socks4 .errInvalidDomain) else none)
  else if r.domain.length > 0 then some (.socks4 .errInvalidDomain) else none

/-- `Validate`. -/
def validate (r : Request) : Option Error :=
  match r.validateHeader with
  | some e => some e
  | none => r.validateDomain

/-- `ReadHeaderFrom`: `io.ReadFull` of the zeroed `hdr [8]byte`, then the
fields from it and `ValidateHeader`. -/
def readHeaderFrom (r : Request) (src : Source) : Decoded Request :=
  let g := src.readFull 8
  match g.err with
  | some e => ⟨r, g.data.length, some e, g.rest⟩
  | none =>
    let hdr := g.data
    let r := { r with
      version := hdr.getD 0 0, command := hdr.getD 1 0
      port := uint16 (hdr.getD 2 0) (hdr.getD 3 0)
      ip := r.ip.copy [hdr.getD 4 0, hdr.getD 5 0, hdr.getD 6 0, hdr.getD 7 0] }
    ⟨r, hdr.length, r.validateHeader, g.rest⟩

/-- `ReadUserIDAndDomain`: one pooled reader over the limited reader, re-armed
with `maxDomainLen + 1` before the domain; whatever the reader holds when the
call returns is dropped with it (`PutReader`). -/
def readUserIDAndDomain (r : Request) (src : Source) (maxUserIDLen maxDomainLen : Int) :
    Decoded Request :=
  let (userID, err, rdr) := BufReader.readString 0 ⟨[], none, ⟨src, wrapInt64 (maxUserIDLen + 1)⟩⟩
  match err with
  | some e => ⟨r, userID.length, some e, rdr.rd.R⟩
  | none =>
    let r := { r with userID := userID.dropLast }
    if r.isSOCKS4a then
      let (domain, err, rdr) :=
        BufReader.readString 0 { rdr with rd := ⟨rdr.rd.R, wrapInt64 (maxDomainLen + 1)⟩ }
      match err with
      | some e => ⟨r, userID.length + domain.length, some e, rdr.rd.R⟩
      | none => ⟨{ r with domain := domain.dropLast }, userID.length + domain.length, none, rdr.rd.R⟩
    else ⟨r, userID.length, none, rdr.rd.R⟩

/-- `ReadFromWithLimits`. -/
def readFromWithLimits (r : Request) (src : Source) (maxUserIDLen maxDomainLen : Int) :
    Decoded Request :=
  let d := r.readHeaderFrom src
  match d.err with
  | some _ => d
  | none =>
    let d' := d.msg.readUserIDAndDomain d.rest maxUserIDLen maxDomainLen
    ⟨d'.msg, d.n + d'.n, d'.err, d'.rest⟩

/-- `ReadFrom`: the default limits. -/
def readFrom (r : Request) (src : Source) : Decoded Request :=
  r.readFromWithLimits src defaultMaxUserIDLen defaultMaxDomainLen

/-- The 8 header bytes `WriteTo` assembles. -/
def header (r : Request) : Bytes := [r.version, r.command] ++ putUint16 r.port ++ r.ip.toBytes

/-- `writeCString`: the bytes unless empty, then a NUL. -/
def writeCString (dst : Sink) (s : Bytes) : Wrote :=
  if s.length ≠ 0 then
    let w := dst.write s
    match w.err with
    | some e => ⟨w.n, some e, w.dst⟩
    | none =>
      let w' := w.dst.write [0]
      ⟨w.n + w'.n, w'.err, w'.dst⟩
  else dst.write [0]

/-- `WriteTo`. -/
def writeTo (r : Request) (dst : Sink) : Wrote :=
  let w := dst.write r.header
  match w.err with
  | some e => ⟨w.n, some e, w.dst⟩
  | none =>
    let u := writeCString w.dst r.userID
    match u.err with
    | some e => ⟨w.n + u.n, some e, u.dst⟩
    | none =>
      if r.isSOCKS4a then
        let d := writeCString u.dst r.domain
        ⟨w.n + u.n + d.n, d.err, d.dst⟩
      else ⟨w.n + u.n, none, u.dst⟩

/-- The request on the wire: `VN CD DSTPORT DSTIP USERID 0`, then `DOMAIN 0`
for SOCKS4a. -/
def encode (r : Request) : Bytes :=
  r.header ++ r.userID ++ [0] ++ (if r.isSOCKS4a then r.domain ++ [0] else [])

@[simp] theorem length_header (r : Request) : r.header.length = 8 := rfl

theorem writeCString_accepting (w s : Bytes) :
    writeCString (Sink.accepting w) s =
      ⟨(s ++ [0]).length, none, Sink.accepting (w ++ s ++ [0])⟩ := by
  by_cases empty : s.length = 0
  · simp [writeCString, empty, List.eq_nil_of_length_eq_zero empty]
  · simp [writeCString, empty]

/-- On a writer that accepts everything, `WriteTo` writes `encode` and counts it. -/
theorem writeTo_accepting (r : Request) (w : Bytes) :
    r.writeTo (Sink.accepting w) = ⟨r.encode.length, none, Sink.accepting (w ++ r.encode)⟩ := by
  by_cases socks4a : r.isSOCKS4a
  · simp [writeTo, writeCString_accepting, encode, socks4a, List.append_assoc]; omega
  · simp [writeTo, writeCString_accepting, encode, socks4a, List.append_assoc]

end Request
end Socks.Socks4
