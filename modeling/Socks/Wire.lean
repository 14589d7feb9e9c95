import Mathlib.Algebra.Group.Int
import Mathlib.Data.List.Basic

/-!
# Wire-level values of the SOCKS codecs

Bytes and strings, the error values the codecs return, the big-endian
`uint16` of `encoding/binary`, and the two address forms of the packages: the
fixed `[4]byte` of a SOCKS4 request and the `net.IP` slice of SOCKS5 messages,
with the `To4`, `To16` and `Equal` that the codecs call.

A Go `string` and a Go `[]byte` are both byte sequences here (`Bytes`); only
`net.IP` keeps the difference between a nil slice and an empty one, because
`Validate` compares it with `nil`.
-/

namespace Socks

/-- A Go `[]byte` or `string`. -/
abbrev Bytes := List UInt8

/-! ## Error values -/

/-- The exported errors of package `socks4`. -/
inductive Socks4Error where
  | errInvalidVersion
  | errInvalidCommand
  | errInvalidIP
  | errInvalidDomain
  | errInvalidResponseVersion
  | errInvalidResponseCode
  deriving DecidableEq, Repr

/-- The exported errors of package `socks5`. -/
inductive Socks5Error where
  | errInvalidVersion
  | errInvalidCommand
  | errInvalidAddr
  | errInvalidDomain
  | errInvalidRSV
  | errInvalidReplyVersion
  | errInvalidReplyRSV
  | errInvalidReplyAddr
  | errInvalidReplyDomain
  | errInvalidHandshakeVersion
  | errTooManyMethods
  | errNoMethodsProvided
  | errInvalidHandshakeReplyVersion
  | errInvalidUserPassVersion
  | errEmptyUserPassUsername
  | errEmptyUserPassPassword
  | errUserPassTooLong
  | errInvalidUserPassReplyVersion
  | errInvalidGSSAPIVersion
  | errEmptyGSSAPIToken
  | errGSSAPITokenTooLong
  | errInvalidGSSAPIReplyVersion
  | errEmptyGSSAPIReplyToken
  | errGSSAPIReplyTooLong
  | errInvalidUDPReserved
  | errUnsupportedFrag
  | errInvalidUDPAddrType
  | errInvalidUDPDomain
  | errMissingUDPData
  deriving DecidableEq, Repr

/-- An `error` a codec returns: `io.EOF`, `io.ErrUnexpectedEOF`,
`io.ErrShortWrite`, `net.ErrClosed` from a connection already closed, an error
of the underlying connection (`fault`, told apart by a code), or a validation
error. -/
inductive Error where
  | eof
  | unexpectedEOF
  | shortWrite
  | closed
  | fault (code : Nat)
  | socks4 (e : Socks4Error)
  | socks5 (e : Socks5Error)
  deriving DecidableEq, Repr

/-! ## `encoding/binary` -/

/-- `binary.BigEndian.PutUint16`: `byte(v >> 8)`, then `byte(v)`. -/
def putUint16 (v : UInt16) : Bytes :=
  [(v.toNat / 256).toUInt8, v.toNat.toUInt8]

/-- `binary.BigEndian.Uint16`: `uint16(b1) | uint16(b0) << 8`; the two parts do
not overlap, so the `|` is a sum. -/
def uint16 (b0 b1 : UInt8) : UInt16 :=
  (b0.toNat * 256 + b1.toNat).toUInt16

@[simp] theorem toNat_toUInt8 (n : Nat) : n.toUInt8.toNat = n % 256 := by
  simp [Nat.toUInt8, UInt8.ofNat, UInt8.toNat]

@[simp] theorem toUInt8_toNat (b : UInt8) : b.toNat.toUInt8 = b := by
  apply UInt8.toNat.inj; simp; exact b.toNat_lt_size

@[simp] theorem toNat_toUInt16 (n : Nat) : n.toUInt16.toNat = n % 65536 := by
  simp [Nat.toUInt16, UInt16.ofNat, UInt16.toNat]

@[simp] theorem toUInt16_toNat (v : UInt16) : v.toNat.toUInt16 = v := by
  apply UInt16.toNat.inj; simp; exact v.toNat_lt_size

@[simp] theorem length_putUint16 (v : UInt16) : (putUint16 v).length = 2 := rfl

theorem uint16_putUint16 (v : UInt16) :
    uint16 (v.toNat / 256).toUInt8 v.toNat.toUInt8 = v := by
  have bound := v.toNat_lt_size
  apply UInt16.toNat.inj
  simp only [uint16, toNat_toUInt8, toNat_toUInt16]
  simp only [UInt16.size] at bound
  omega

theorem putUint16_uint16 (b0 b1 : UInt8) : putUint16 (uint16 b0 b1) = [b0, b1] := by
  have bound0 := b0.toNat_lt_size
  have bound1 := b1.toNat_lt_size
  simp only [UInt8.size] at bound0 bound1
  simp only [putUint16, uint16, toNat_toUInt16, List.cons.injEq, and_true]
  constructor <;> apply UInt8.toNat.inj <;> simp only [toNat_toUInt8] <;> omega

/-! ## Addresses -/

/-- A Go `[4]byte`: the `DSTIP` of a SOCKS4 request or reply. -/
structure IP4 where
  a : UInt8
  b : UInt8
  c : UInt8
  d : UInt8
  deriving DecidableEq, Repr

/-- The zero value `[4]byte{}`. -/
def IP4.zero : IP4 := ⟨0, 0, 0, 0⟩

/-- The four bytes in wire order. -/
def IP4.toBytes (ip : IP4) : Bytes := [ip.a, ip.b, ip.c, ip.d]

/-- `copy(dst[:], src)` into a `[4]byte`: the first `min(4, len(src))` bytes. -/
def IP4.copy (dst : IP4) : Bytes → IP4
  | [] => dst
  | [a] => { dst with a }
  | [a, b] => { dst with a, b }
  | [a, b, c] => { dst with a, b, c }
  | a :: b :: c :: d :: _ => ⟨a, b, c, d⟩

/-- `strconv.Itoa`: the decimal digits in ASCII. -/
def decimal (n : Nat) : Bytes := (Nat.toDigits 10 n).map (fun c => c.toNat.toUInt8)

/-- `net.IP.String` of a 4-byte address: the dotted quad. -/
def IP4.toString (ip : IP4) : Bytes :=
  decimal ip.a.toNat ++ [46] ++ decimal ip.b.toNat ++ [46] ++ decimal ip.c.toNat ++ [46] ++
    decimal ip.d.toNat

/-- A Go `net.IP`: a byte slice, `none` being the nil slice. -/
abbrev NetIP := Option Bytes

/-- `v4InV6Prefix`, the first twelve bytes of an IPv4-mapped IPv6 address. -/
def v4InV6Prefix : Bytes := [0, 0, 0, 0, 0, 0, 0, 0, 0, 0, 0xff, 0xff]

/-- `net.IP.To4`: a 4-byte slice as it is, the last four bytes of an
IPv4-mapped 16-byte slice, and nil otherwise. -/
def NetIP.to4 : NetIP → NetIP
  | some bs =>
    if bs.length = 4 then some bs
    else if bs.length = 16 ∧ bs.take 12 = v4InV6Prefix then some (bs.drop 12)
    else none
  | none => none

/-- `net.IP.To16`: a 4-byte slice mapped into IPv6, a 16-byte slice as it is,
and nil otherwise. -/
def NetIP.to16 : NetIP → NetIP
  | some bs =>
    if bs.length = 4 then some (v4InV6Prefix ++ bs)
    else if bs.length = 16 then some bs
    else none
  | none => none

/-- The bytes `dst.Write(ip)` is handed: a nil slice writes nothing. -/
def NetIP.bytes : NetIP → Bytes
  | some bs => bs
  | none => []

theorem NetIP.some_bytes {ip : NetIP} (ne : ip ≠ none) : some ip.bytes = ip := by
  cases ip
  · exact absurd rfl ne
  · rfl

theorem NetIP.length_to4 : ∀ {ip : NetIP}, ip.to4 ≠ none → ip.to4.bytes.length = 4
  | none, ne => absurd rfl ne
  | some bs, ne => by
    simp only [NetIP.to4] at ne ⊢
    split_ifs at ne ⊢ <;> simp_all [NetIP.bytes]

theorem NetIP.length_to16 : ∀ {ip : NetIP}, ip.to16 ≠ none → ip.to16.bytes.length = 16
  | none, ne => absurd rfl ne
  | some bs, ne => by
    simp only [NetIP.to16] at ne ⊢
    split_ifs at ne ⊢ <;> simp_all [NetIP.bytes, v4InV6Prefix]

/-- `net.IP.Equal`: equal bytes, or one 4-byte slice and one IPv4-mapped
16-byte slice holding it. -/
def NetIP.equal (ip x : NetIP) : Bool :=
  let p := ip.bytes
  let q := x.bytes
  if p.length = q.length then p == q
  else if p.length = 4 ∧ q.length = 16 then q.take 12 == v4InV6Prefix && p == q.drop 12
  else if p.length = 16 ∧ q.length = 4 then p.take 12 == v4InV6Prefix && p.drop 12 == q
  else false

end Socks
