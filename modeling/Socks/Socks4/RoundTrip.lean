import Socks.Socks4.Request

/-!
# Decoding an encoded SOCKS4 request

`readFromWithLimits_encode` decodes `encode r` for every request whose fields
carry no NUL and fit the limits, with the limits below `2^63 - 1` so that the
`int64` sum `maxLen + 1` does not wrap. The decoder returns `r`'s fields and
the length of `encode r`, but its buffer reads ahead: the connection is left
at a suffix of what followed the request, and exactly at what followed it
when the request ended where one read of the connection ends.
-/

namespace Socks.Socks4

open BufReader

namespace Request

/-- The bytes after the header: `USERID 0`, then `DOMAIN 0` for SOCKS4a. -/
def tail (r : Request) : Bytes :=
  r.userID ++ [0] ++ (if r.isSOCKS4a then r.domain ++ [0] else [])

theorem encode_eq (r : Request) : r.encode = r.header ++ r.tail := by
  simp [encode, tail, List.append_assoc]

/-- The header fields a decoded request takes from `r`'s header. -/
def withHeaderOf (r₀ r : Request) : Request :=
  { r₀ with version := r.version, command := r.command, port := r.port, ip := r.ip }

@[simp] theorem isSOCKS4a_withHeaderOf (r₀ r : Request) :
    (r₀.withHeaderOf r).isSOCKS4a = r.isSOCKS4a := rfl

@[simp] theorem validateHeader_withHeaderOf (r₀ r : Request) :
    (r₀.withHeaderOf r).validateHeader = r.validateHeader := rfl

/-- `ReadHeaderFrom` on a connection whose leading chunks hold `r`'s header:
`r`'s header fields, the count 8, `r`'s header verdict, and the chunks after
the header as they were. -/
theorem readHeaderFrom_header (r₀ : Request) {r : Request} {src : Source} {A B : List Bytes}
    {tail : Bytes} (chunks : src.chunks = A ++ B) (flat : A.flatten = r.header ++ tail) :
    (r₀.readHeaderFrom src).msg = r₀.withHeaderOf r ∧ (r₀.readHeaderFrom src).n = 8 ∧
      (r₀.readHeaderFrom src).err = r.validateHeader ∧
      ∃ A', (r₀.readHeaderFrom src).rest.chunks = A' ++ B ∧ A'.flatten = tail := by
  have bytes : src.bytes = r.header ++ (tail ++ B.flatten) := by
    simp [Source.bytes, chunks, flat, List.append_assoc]
  obtain ⟨data, err, -⟩ := @Source.readFull_of_le src 8 (by simp [bytes])
  obtain ⟨A', rest, restFlat⟩ := @Source.readFull_append_chunks src A B chunks 8 (by simp [flat])
  rw [bytes, List.take_left' (length_header r)] at data
  rw [flat, List.drop_left' (length_header r)] at restFlat
  have port := uint16_putUint16 r.port
  simp only [readHeaderFrom, err, data]
  refine ⟨?_, rfl, rfl, A', rest, restFlat⟩
  simp [header, putUint16, IP4.toBytes, port, IP4.copy, withHeaderOf]

/-- Where a decoder leaves the connection: the chunks `B` untouched, behind
the rest `A'` of the leading chunks; the buffer dropped with the pooled reader
held the other bytes `x` of `mid`. -/
def LeftAt (B : List Bytes) (mid : Bytes) (src : Source) : Prop :=
  ∃ A' x, src.chunks = A' ++ B ∧ x ++ A'.flatten = mid

theorem wrapInt64_of_lt {x : Int} (lo : -2 ^ 63 ≤ x) (hi : x < 2 ^ 63) : wrapInt64 x = x := by
  unfold wrapInt64
  rw [Int.emod_eq_of_lt (by omega) (by omega)]
  omega

@[simp] theorem isSOCKS4a_with_userID (r : Request) (u : Bytes) :
    ({ r with userID := u } : Request).isSOCKS4a = r.isSOCKS4a := rfl

/-- `ReadUserIDAndDomain` on leading chunks that hold `r`'s fields: `r`'s user
ID and, for SOCKS4a, its domain, counted whole, without error. -/
theorem readUserIDAndDomain_tail (r₀ r : Request) (sameKind : r₀.isSOCKS4a = r.isSOCKS4a)
    (userNul : 0 ∉ r.userID) (domainNul : r.isSOCKS4a → 0 ∉ r.domain) {maxU maxD : Int}
    (userFits : r.userID.length ≤ maxU) (userLimit : maxU < 2 ^ 63 - 1)
    (domainFits : r.isSOCKS4a → r.domain.length ≤ maxD ∧ maxD < 2 ^ 63 - 1)
    {src : Source} {A B : List Bytes} {mid : Bytes}
    (chunks : src.chunks = A ++ B) (flat : A.flatten = r.tail ++ mid) :
    (r₀.readUserIDAndDomain src maxU maxD).msg =
        { r₀ with userID := r.userID, domain := if r.isSOCKS4a then r.domain else r₀.domain } ∧
      (r₀.readUserIDAndDomain src maxU maxD).n = r.tail.length ∧
      (r₀.readUserIDAndDomain src maxU maxD).err = none ∧
      LeftAt B mid (r₀.readUserIDAndDomain src maxU maxD).rest := by
  have wrapU : wrapInt64 (maxU + 1) = maxU + 1 := wrapInt64_of_lt (by omega) (by omega)
  obtain ⟨b, found, post⟩ := scanFrom_found 0 B _ ⟨[], none, ⟨src, wrapInt64 (maxU + 1)⟩⟩
    (Nat.lt_succ_self _) [] r.userID ((if r.isSOCKS4a then r.domain ++ [0] else []) ++ mid) A
    userNul rfl chunks (by simp [flat, tail, List.append_assoc]) (.inr (by simp [wrapU]; omega))
  obtain ⟨A', chunks', flat'⟩ := post.chunks
  cases socks4a : r.isSOCKS4a
  · simp only [socks4a] at flat'
    unfold readUserIDAndDomain readString
    rw [found]
    simp only [List.nil_append, sameKind, socks4a, isSOCKS4a_with_userID, List.dropLast_concat,
      Bool.false_eq_true, if_false]
    exact ⟨trivial, by simp [tail, socks4a], trivial, A', b.buffered, chunks', by simpa using flat'⟩
  · obtain ⟨domainFits, domainLimit⟩ := domainFits socks4a
    have wrapD : wrapInt64 (maxD + 1) = maxD + 1 := wrapInt64_of_lt (by omega) (by omega)
    simp only [socks4a, if_true, List.append_assoc, List.singleton_append] at flat'
    obtain ⟨b', found', post'⟩ :=
      scanFrom_found 0 B _ { b with rd := ⟨b.rd.R, wrapInt64 (maxD + 1)⟩ }
      (Nat.lt_succ_self _) [] r.domain mid A' (domainNul socks4a) post.err chunks' flat'
      (.inr (by simp [wrapD]; omega))
    obtain ⟨A'', chunks'', flat''⟩ := post'.chunks
    unfold readUserIDAndDomain readString
    rw [found]
    simp only [List.nil_append, sameKind, socks4a, isSOCKS4a_with_userID, List.dropLast_concat,
      if_true]
    rw [found']
    simp only [List.nil_append, List.dropLast_concat]
    exact ⟨trivial, by simp [tail, socks4a]; omega, trivial, A'', b'.buffered, chunks'', flat''⟩

/-- The request `readFromWithLimits` decodes from `r`'s encoding into `r₀`:
`r`'s fields, except that a SOCKS4 request leaves `r₀`'s domain. -/
def decodedInto (r₀ r : Request) : Request :=
  { r₀.withHeaderOf r with
    userID := r.userID, domain := if r.isSOCKS4a then r.domain else r₀.domain }

/-- **Decoding an encoded request.** On a connection whose leading chunks `A`
hold `encode r` and then `mid`, `ReadFromWithLimits` returns `r`'s fields and
the length of `encode r`, and leaves the chunks `B` after `A` untouched. -/
theorem readFromWithLimits_encode {r : Request} (r₀ : Request) (maxU maxD : Int)
    (headerOk : r.validateHeader = none)
    (userNul : 0 ∉ r.userID) (domainNul : r.isSOCKS4a → 0 ∉ r.domain)
    (userFits : r.userID.length ≤ maxU) (userLimit : maxU < 2 ^ 63 - 1)
    (domainFits : r.isSOCKS4a → r.domain.length ≤ maxD ∧ maxD < 2 ^ 63 - 1)
    {src : Source} {A B : List Bytes} {mid : Bytes}
    (chunks : src.chunks = A ++ B) (flat : A.flatten = r.encode ++ mid) :
    (r₀.readFromWithLimits src maxU maxD).msg = r₀.decodedInto r ∧
      (r₀.readFromWithLimits src maxU maxD).n = r.encode.length ∧
      (r₀.readFromWithLimits src maxU maxD).err = none ∧
      LeftAt B mid (r₀.readFromWithLimits src maxU maxD).rest := by
  obtain ⟨msg, n, err, A', rest, flat'⟩ := readHeaderFrom_header r₀ chunks
    (by rw [flat, encode_eq, List.append_assoc])
  obtain ⟨msg', n', err', left⟩ := readUserIDAndDomain_tail (r₀.withHeaderOf r) r rfl userNul
    domainNul userFits userLimit domainFits rest flat'
  simp only [readFromWithLimits, err, headerOk, msg]
  refine ⟨msg', ?_, err', left⟩
  rw [n, n', encode_eq, List.length_append, length_header]

/-- At the limit `2^63 - 1` the `int64` sum `maxUserIDLen + 1` wraps to
`-2^63`, the limited reader ends at once, and a request that fits the limits
is written whole but not read back. -/
theorem readFromWithLimits_fails_at_max_limit :
    let r : Request := ⟨4, 1, 80, ⟨1, 2, 3, 4⟩, [], []⟩
    let d := zero.readFromWithLimits ⟨[r.encode], .eof, by decide⟩ (2 ^ 63 - 1) (2 ^ 63 - 1)
    r.validate = none ∧ (r.writeTo (Sink.accepting [])).n = 9 ∧
      (r.writeTo (Sink.accepting [])).err = none ∧ d.n = 8 ∧ d.err = some .eof := by
  decide

/-- The decoder checks the header only: a SOCKS4a request with an empty
domain is accepted with its ten bytes, and `Validate` rejects it. -/
theorem readFrom_accepts_empty_domain :
    validate ⟨4, 1, 80, ⟨0, 0, 0, 1⟩, [], []⟩ = some (.socks4 .errInvalidDomain) ∧
      let d := zero.readFrom ⟨[[4, 1, 0, 80, 0, 0, 0, 1, 0, 0]], .eof, by decide⟩
      d.msg = ⟨4, 1, 80, ⟨0, 0, 0, 1⟩, [], []⟩ ∧ d.n = 10 ∧ d.err = none := by
  decide

theorem validateHeader_of_validate {r : Request} (valid : r.validate = none) :
    r.validateHeader = none := by
  unfold validate at valid; split at valid <;> simp_all

theorem validateDomain_of_validate {r : Request} (valid : r.validate = none) :
    r.validateDomain = none := by
  unfold validate at valid; split at valid <;> simp_all

/-- A valid request decodes into a fresh receiver as itself: a SOCKS4 request
has no domain to leave behind. -/
theorem decodedInto_zero {r : Request} (valid : r.validate = none) : zero.decodedInto r = r := by
  have domain := validateDomain_of_validate valid
  obtain ⟨v, c, p, ip, u, d⟩ := r
  unfold validateDomain at domain
  cases socks4a : isSOCKS4a ⟨v, c, p, ip, u, d⟩ <;> simp_all [decodedInto, withHeaderOf, zero]

/-- `ReadFrom` reads `r` back whole, into a fresh receiver, off any connection
holding its encoding, whatever follows it. -/
def ReadsBack (r : Request) : Prop :=
  ∀ (src : Source) (s : Bytes), src.bytes = r.encode ++ s →
    (zero.readFrom src).msg = r ∧ (zero.readFrom src).n = r.encode.length ∧
      (zero.readFrom src).err = none

/-- A valid request with NUL-free fields that fit the default limits is read
back whole by `ReadFrom` into a fresh receiver. -/
theorem readFrom_encode {r : Request} (valid : r.validate = none) (userNul : 0 ∉ r.userID)
    (domainNul : r.isSOCKS4a → 0 ∉ r.domain) (userFits : r.userID.length ≤ 256)
    (domainFits : r.isSOCKS4a → r.domain.length ≤ 256) {src : Source} {s : Bytes}
    (bytes : src.bytes = r.encode ++ s) :
    (zero.readFrom src).msg = r ∧ (zero.readFrom src).n = r.encode.length ∧
      (zero.readFrom src).err = none := by
  obtain ⟨msg, n, err, -⟩ := readFromWithLimits_encode zero defaultMaxUserIDLen
    defaultMaxDomainLen (validateHeader_of_validate valid) userNul domainNul
    (by simp [defaultMaxUserIDLen]; omega) (by decide)
    (fun socks4a => ⟨by have := domainFits socks4a; simp [defaultMaxDomainLen]; omega, by decide⟩)
    (show src.chunks = src.chunks ++ [] by simp) bytes
  exact ⟨msg.trans (decodedInto_zero valid), n, err⟩

/-- Nothing of `mid` is left to the connection's leading chunks when `mid` is
empty: the connection is left exactly at `B`. -/
theorem LeftAt.chunks_eq {B : List Bytes} {src : Source} (left : LeftAt B [] src) :
    src.chunks = B := by
  obtain ⟨A', x, chunks, flat⟩ := left
  have empty : A'.flatten = [] := (List.append_eq_nil.mp flat).2
  have : A' = [] := by
    cases A' with
    | nil => rfl
    | cons c A' =>
      exact absurd (List.flatten_eq_nil_iff.mp empty c (by simp))
        (src.chunks_ne_nil c (by simp [chunks]))
  simpa [this] using chunks

/-- Whatever follows the request, the decoder leaves a suffix of it. -/
theorem LeftAt.bytes_suffix {src : Source} {mid : Bytes} (left : LeftAt [] mid src) :
    ∃ t, mid = t ++ src.bytes := by
  obtain ⟨A', x, chunks, flat⟩ := left
  exact ⟨x, by simpa [Source.bytes, chunks] using flat.symm⟩

/-- A SOCKS4 request whose 8-byte header fails `ValidateHeader` costs those
8 bytes, whatever the limits: no field is scanned. -/
theorem readFromWithLimits_bad_header (r₀ : Request) {src : Source}
    {hdr s : Bytes} (bytes : src.bytes = hdr ++ s) (eight : hdr.length = 8) {e : Error}
    (bad : (r₀.readHeaderFrom src).err = some e) (maxU maxD : Int) :
    ∃ rest, r₀.readFromWithLimits src maxU maxD = ⟨(r₀.readHeaderFrom src).msg, 8, some e, rest⟩ ∧
      rest.bytes = s := by
  obtain ⟨rest, read, left⟩ := Source.readFull_eq bytes eight
  refine ⟨rest, ?_, left⟩
  simp only [readFromWithLimits, bad]
  rw [← bad]
  simp [readHeaderFrom, read, eight]

end Request
end Socks.Socks4
