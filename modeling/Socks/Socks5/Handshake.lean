import Socks.Stream.Source

/-!
# SOCKS5 constants and the method negotiation

The protocol constants of package `socks5`, and `HandshakeRequest`
(`VER NMETHODS METHODS`) and `HandshakeReply` (`VER METHOD`).
-/

namespace Socks.Socks5

/-- `SocksVersion`. -/
def socksVersion : UInt8 := 5

/-- `CmdConnect`, `CmdBind`, `CmdUDPAssociate`, `CmdResolve`, `CmdResolvePTR`. -/
def cmdConnect : UInt8 := 1
def cmdBind : UInt8 := 2
def cmdUDPAssociate : UInt8 := 3
def cmdResolve : UInt8 := 0xF0
def cmdResolvePTR : UInt8 := 0xF1

/-- `AddrTypeIPv4`, `AddrTypeDomain`, `AddrTypeIPv6`. -/
def addrTypeIPv4 : UInt8 := 1
def addrTypeDomain : UInt8 := 3
def addrTypeIPv6 : UInt8 := 4

/-- `AuthVersionUserPass`. -/
def authVersionUserPass : UInt8 := 1

/-- `GSSAPITypeAbort`. -/
def gssapiTypeAbort : UInt8 := 0xFF

/-- The check shared by the messages whose only constraint is their version. -/
def validateVersion (expected : UInt8) (err : Error) (version : UInt8) : Option Error :=
  if version ≠ expected then some err else none

/-! ## `HandshakeRequest` -/

/-- `socks5.HandshakeRequest`. -/
structure HandshakeRequest where
  version : UInt8
  nMethods : UInt8
  methods : Bytes
  deriving DecidableEq, Repr

namespace HandshakeRequest

/-- `Init(version, methods...)`: `NMethods` is `byte(len(methods))`. -/
def init (version : UInt8) (methods : Bytes) : HandshakeRequest :=
  ⟨version, methods.length.toUInt8, methods⟩

/-- `Validate`. -/
def validate (h : HandshakeRequest) : Option Error :=
  if h.version ≠ socksVersion then some (.socks5 .errInvalidHandshakeVersion)
  else if h.nMethods = 0 then some (.socks5 .errNoMethodsProvided)
  else if h.methods.length ≠ h.nMethods.toNat then some (.socks5 .errTooManyMethods)
  else none

/-- `ReadFrom`: the header, a zero `NMETHODS` rejected at once, then the methods
and `Validate`. -/
def readFrom (h : HandshakeRequest) (src : Source) : Decoded HandshakeRequest :=
  let g := src.readFull 2
  match g.err with
  | some e => ⟨h, g.data.length, some e, g.rest⟩
  | none =>
    let h := { h with version := g.data.getD 0 0, nMethods := g.data.getD 1 0 }
    if h.nMethods = 0 then ⟨h, g.data.length, some (.socks5 .errNoMethodsProvided), g.rest⟩
    else
      let g' := g.rest.readFull h.nMethods.toNat
      match g'.err with
      | some e => ⟨h, g.data.length + g'.data.length, some e, g'.rest⟩
      | none =>
        let h := { h with methods := g'.data }
        ⟨h, g.data.length + g'.data.length, h.validate, g'.rest⟩

/-- `WriteTo`: the header, then the methods, unchecked. -/
def writeTo (h : HandshakeRequest) (dst : Sink) : Wrote :=
  let w := dst.write [h.version, h.nMethods]
  match w.err with
  | some e => ⟨w.n, some e, w.dst⟩
  | none =>
    let w' := w.dst.write h.methods
    ⟨w.n + w'.n, w'.err, w'.dst⟩

/-- The request on the wire. -/
def encode (h : HandshakeRequest) : Bytes := [h.version, h.nMethods] ++ h.methods

theorem writeTo_accepting (h : HandshakeRequest) (w : Bytes) :
    h.writeTo (Sink.accepting w) = ⟨h.encode.length, none, Sink.accepting (w ++ h.encode)⟩ := by
  simp [writeTo, encode]; omega

theorem validate_eq_none {h : HandshakeRequest} :
    h.validate = none ↔
      h.version = socksVersion ∧ h.nMethods ≠ 0 ∧ h.methods.length = h.nMethods.toNat := by
  unfold validate; split_ifs <;> simp_all

/-- `Init` keeps the method count as a byte, modulo 256, and `WriteTo` writes it
and every method unchecked: on a writer that takes everything, the frame's
count byte is the number of methods that follow exactly when there are fewer
than 256. -/
theorem init_writeTo_accepting (version : UInt8) (methods w : Bytes) :
    (init version methods).writeTo (Sink.accepting w) =
        ⟨methods.length + 2, none,
          Sink.accepting (w ++ [version, methods.length.toUInt8] ++ methods)⟩ ∧
      ((init version methods).nMethods.toNat = methods.length ↔ methods.length < 256) := by
  refine ⟨by rw [writeTo_accepting]; simp [init, encode], ?_⟩
  simp only [init]
  simp only [Nat.toUInt8, UInt8.toNat, UInt8.ofNat, Fin.val_ofNat']
  exact ⟨fun wraps => by omega, fun fits => Nat.mod_eq_of_lt fits⟩

/-- With 256 methods the count byte wraps to 0, and the frame is written with
it and all 256 methods, without error. -/
theorem init_writeTo_wraps_method_count :
    ((init socksVersion (List.replicate 256 0)).writeTo (Sink.accepting [])).err = none ∧
      ((init socksVersion (List.replicate 256 0)).writeTo (Sink.accepting [])).dst.written =
        [5, 0] ++ List.replicate 256 0 := by
  rw [(init_writeTo_accepting _ _ _).1]
  simp only [Sink.written_accepting, List.length_replicate, List.nil_append, true_and]
  rfl

end HandshakeRequest

/-! ## `HandshakeReply` -/

/-- `socks5.HandshakeReply`. -/
structure HandshakeReply where
  version : UInt8
  method : UInt8
  deriving DecidableEq, Repr

namespace HandshakeReply

/-- `Validate`. -/
def validate (h : HandshakeReply) : Option Error :=
  validateVersion socksVersion (.socks5 .errInvalidHandshakeReplyVersion) h.version

/-- `ReadFrom`. -/
def readFrom (h : HandshakeReply) (src : Source) : Decoded HandshakeReply :=
  let g := src.readFull 2
  match g.err with
  | some e => ⟨h, g.data.length, some e, g.rest⟩
  | none =>
    let h := ⟨g.data.getD 0 0, g.data.getD 1 0⟩
    ⟨h, g.data.length, h.validate, g.rest⟩

/-- The reply on the wire. -/
def encode (h : HandshakeReply) : Bytes := [h.version, h.method]

/-- `WriteTo`. -/
def writeTo (h : HandshakeReply) (dst : Sink) : Wrote := dst.write h.encode

theorem writeTo_accepting (h : HandshakeReply) (w : Bytes) :
    h.writeTo (Sink.accepting w) = ⟨h.encode.length, none, Sink.accepting (w ++ h.encode)⟩ := by
  simp [writeTo]

end HandshakeReply
end Socks.Socks5
