import Socks.Stream.Source

/-!
# SOCKS4 replies

`socks4.Response` (`VN CD DSTPORT DSTIP`, 8 bytes), its validation, decoder
and encoder.
-/

namespace Socks.Socks4

/-- `RepGranted`, also `ReqGranted`. -/
def repGranted : UInt8 := 90
/-- `RepRejected`, also `ReqRejected`. -/
def repRejected : UInt8 := 91
/-- `RepIdentFailed`. -/
def repIdentFailed : UInt8 := 92
/-- `RepUserIDMismatch`. -/
def repUserIDMismatch : UInt8 := 93

/-- `socks4.Response`. -/
structure Response where
  version : UInt8
  code : UInt8
  port : UInt16
  ip : IP4
  deriving DecidableEq, Repr

namespace Response

/-- The zero value `var resp Response`. -/
def zero : Response := ⟨0, 0, 0, IP4.zero⟩

/-- `Init`: the address is copied from `ip.To4()`. -/
def init (r : Response) (version code : UInt8) (port : UInt16) (ip : NetIP) : Response :=
  { version, code, port, ip := r.ip.copy (NetIP.to4 ip).bytes }

/-- `Validate`: version 0 and one of the four reply codes. -/
def validate (r : Response) : Option Error :=
  if r.version ≠ 0 then some (.socks4 .errInvalidResponseVersion)
  else if r.code = repGranted ∨ r.code = repRejected ∨ r.code = repIdentFailed ∨
      r.code = repUserIDMismatch then none
  else some (.socks4 .errInvalidResponseCode)

/-- `IsGranted`. -/
def isGranted (r : Response) : Bool := r.code == repGranted

/-- `ReadFrom`: `io.ReadFull` of the zeroed 8-byte header, the fields, then
`Validate`. The fields are set only when all 8 bytes arrived. -/
def readFrom (r : Response) (src : Source) : Decoded Response :=
  let g := src.readFull 8
  match g.err with
  | some e => ⟨r, g.data.length, some e, g.rest⟩
  | none =>
    let hdr := g.data
    let r := { r with
      version := hdr.getD 0 0, code := hdr.getD 1 0
      port := uint16 (hdr.getD 2 0) (hdr.getD 3 0)
      ip := r.ip.copy [hdr.getD 4 0, hdr.getD 5 0, hdr.getD 6 0, hdr.getD 7 0] }
    ⟨r, hdr.length, r.validate, g.rest⟩

/-- The reply on the wire. -/
def encode (r : Response) : Bytes := [r.version, r.code] ++ putUint16 r.port ++ r.ip.toBytes

/-- `WriteTo`: one write of the 8 bytes. -/
def writeTo (r : Response) (dst : Sink) : Wrote := dst.write r.encode

@[simp] theorem length_encode (r : Response) : r.encode.length = 8 := rfl

/-- A valid reply comes back whole from its encoding, into any receiver, and
the connection is left at what follows it. -/
theorem readFrom_encode {r : Response} (valid : r.validate = none) (r₀ : Response) {src : Source}
    {s : Bytes} (bytes : src.bytes = r.encode ++ s) :
    ∃ rest, r₀.readFrom src = ⟨r, 8, none, rest⟩ ∧ rest.bytes = s := by
  obtain ⟨rest, read, left⟩ := Source.readFull_eq bytes r.length_encode
  refine ⟨rest, ?_, left⟩
  have port := uint16_putUint16 r.port
  simp [readFrom, read, encode, putUint16, port, IP4.toBytes, IP4.copy, valid]

/-- A reply the decoder accepts is valid, and its encoding is the 8 bytes it
read. -/
theorem acceptsOnly : AcceptsOnly (fun r : Response => r.validate = none) encode readFrom := by
  intro r₀ src ok
  unfold readFrom at ok ⊢
  cases e : (src.readFull 8).err with
  | some e' => simp [e] at ok
  | none =>
    obtain ⟨len, bytes⟩ := Source.readFull_of_err_eq_none e
    simp only [e] at ok ⊢
    rw [bytes]
    generalize (src.readFull 8).data = hdr at len ok ⊢
    match hdr, len with
    | [b0, b1, b2, b3, b4, b5, b6, b7], _ =>
      exact ⟨ok, by simp [encode, putUint16_uint16, IP4.copy, IP4.toBytes], rfl⟩

/-- The reply decoder takes exactly the encodings of valid replies. -/
theorem decodes : Decodes (fun r : Response => r.validate = none) encode readFrom :=
  ⟨.of_decode fun _ valid r₀ _ _ bytes => ⟨_, readFrom_encode valid r₀ bytes⟩, acceptsOnly⟩

end Response
end Socks.Socks4
