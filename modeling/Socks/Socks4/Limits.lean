import Socks.Socks4.RoundTrip

/-!
# The field limits of `ReadFromWithLimits`

`ReadUserIDAndDomain` arms the limited reader with `maxUserIDLen + 1` bytes,
reads the user ID through the pooled `bufio.Reader`, then re-arms the same
limited reader with `maxDomainLen + 1` and reads the domain through the same
`bufio.Reader`. One `fill` may take bytes past the user ID's NUL: they stay in
the buffer, so the domain is read first from them, and they were counted
against the user ID's limit, not the domain's.

* `Request.readUserIDAndDomain_within`: on success the user ID fits its limit,
  and the user ID and the domain together fit the two limits together; the
  domain alone can exceed its own.
* `Request.readUserIDAndDomain_err`: every error of the scan is `io.EOF` or the
  error the connection ends with, whether the limit ran out or the
  connection did.
* `Request.readUserIDAndDomain_unterminated`: a user ID with no NUL within its
  limit fails with `io.EOF` when the connection holds more bytes than the
  limit, and with the connection's ending otherwise.
-/

namespace Socks.Socks4

open BufReader

namespace Request

/-- **One budget for both fields.** When `ReadUserIDAndDomain` succeeds with
limits below `2^63 - 1`, the user ID fits its limit, and the user ID and the
domain together fit the two limits together. -/
theorem readUserIDAndDomain_within (r : Request) (src : Source) {maxU maxD : Int}
    (uLo : 0 ≤ maxU) (uHi : maxU < 2 ^ 63 - 1) (dLo : 0 ≤ maxD) (dHi : maxD < 2 ^ 63 - 1)
    (ok : (r.readUserIDAndDomain src maxU maxD).err = none) :
    ((r.readUserIDAndDomain src maxU maxD).msg.userID.length : Int) ≤ maxU ∧
      ((r.readUserIDAndDomain src maxU maxD).msg.isSOCKS4a = true →
        ((r.readUserIDAndDomain src maxU maxD).msg.userID.length +
          (r.readUserIDAndDomain src maxU maxD).msg.domain.length : Int) ≤ maxU + maxD) := by
  have wrapU : wrapInt64 (maxU + 1) = maxU + 1 := wrapInt64_of_lt (by omega) (by omega)
  have wrapD : wrapInt64 (maxD + 1) = maxD + 1 := wrapInt64_of_lt (by omega) (by omega)
  clear uHi dHi
  have budget₁ := scanFrom_budget 0 [] ⟨[], none, ⟨src, wrapInt64 (maxU + 1)⟩⟩
  have found₁ := scanFrom_length_of_found 0 [] ⟨[], none, ⟨src, wrapInt64 (maxU + 1)⟩⟩
  unfold readUserIDAndDomain readString at ok ⊢
  generalize scanFrom 0 [] ⟨[], none, ⟨src, wrapInt64 (maxU + 1)⟩⟩ = first at budget₁ found₁ ok ⊢
  obtain ⟨userID, err₁, rdr⟩ := first
  cases err₁ with
  | some e => cases ok
  | none =>
    have found₁ := found₁ rfl
    simp only [wrapU, List.length_nil] at budget₁ found₁
    have userFits : (userID.dropLast.length : Int) ≤ maxU := by
      rw [List.length_dropLast]; omega
    cases kind : r.isSOCKS4a
    · simp only [isSOCKS4a_with_userID, kind, Bool.false_eq_true, if_false]
      exact ⟨userFits, nofun⟩
    · have budget₂ :=
        scanFrom_budget 0 [] ⟨rdr.buffered, rdr.err, ⟨rdr.rd.R, wrapInt64 (maxD + 1)⟩⟩
      have found₂ :=
        scanFrom_length_of_found 0 [] ⟨rdr.buffered, rdr.err, ⟨rdr.rd.R, wrapInt64 (maxD + 1)⟩⟩
      simp only [isSOCKS4a_with_userID, kind, if_true] at ok ⊢
      generalize scanFrom 0 [] ⟨rdr.buffered, rdr.err, ⟨rdr.rd.R, wrapInt64 (maxD + 1)⟩⟩ = second
        at budget₂ found₂ ok ⊢
      obtain ⟨domain, err₂, rdr₂⟩ := second
      cases err₂ with
      | some e => cases ok
      | none =>
        have found₂ := found₂ rfl
        simp only [wrapD, List.length_nil] at budget₂ found₂
        simp only [List.length_dropLast]
        exact ⟨by omega, fun _ => by omega⟩

/-- The errors of the scan. `ReadUserIDAndDomain` fails only with
`io.EOF`, from the limited reader or from a connection that ends cleanly, or
with the error the connection ends with. -/
theorem readUserIDAndDomain_err (r : Request) (src : Source) (maxU maxD : Int) :
    (r.readUserIDAndDomain src maxU maxD).err = none ∨
      (r.readUserIDAndDomain src maxU maxD).err = some .eof ∨
      (r.readUserIDAndDomain src maxU maxD).err = some src.ending := by
  have userScan := scanFrom_err 0 [] ⟨[], none, ⟨src, wrapInt64 (maxU + 1)⟩⟩ (.inl rfl)
  unfold readUserIDAndDomain readString
  generalize scanFrom 0 [] ⟨[], none, ⟨src, wrapInt64 (maxU + 1)⟩⟩ = first at userScan ⊢
  obtain ⟨userID, err₁, rdr⟩ := first
  obtain ⟨result₁, pending₁, ending₁⟩ := userScan
  simp only at result₁ pending₁ ending₁
  cases err₁ with
  | some e => exact result₁
  | none =>
    cases kind : r.isSOCKS4a
    · simp [kind]
    · have domainScan := scanFrom_err 0 [] ⟨rdr.buffered, rdr.err, ⟨rdr.rd.R, wrapInt64 (maxD + 1)⟩⟩
        (by rw [ending₁]; exact pending₁)
      simp only [isSOCKS4a_with_userID, kind, if_true]
      generalize scanFrom 0 [] ⟨rdr.buffered, rdr.err, ⟨rdr.rd.R, wrapInt64 (maxD + 1)⟩⟩ = second
        at domainScan ⊢
      obtain ⟨domain, err₂, rdr₂⟩ := second
      obtain ⟨result₂, -, -⟩ := domainScan
      rw [ending₁] at result₂
      cases err₂ with
      | none => simp
      | some e => simpa using result₂

/-- A user ID with no NUL within its limit. The scan returns every byte
the limit lets through, with `io.EOF` when the connection holds that many
and with the connection's ending when it ends first. -/
theorem readUserIDAndDomain_unterminated (r : Request) (src : Source) {maxU : Int} (maxD : Int)
    (uLo : 0 ≤ maxU) (uHi : maxU < 2 ^ 63 - 1) (absent : 0 ∉ src.bytes.take (maxU + 1).toNat) :
    (r.readUserIDAndDomain src maxU maxD).n = (src.bytes.take (maxU + 1).toNat).length ∧
      (r.readUserIDAndDomain src maxU maxD).err =
        some (if (maxU + 1).toNat ≤ src.bytes.length then .eof else src.ending) := by
  have wrapU : wrapInt64 (maxU + 1) = maxU + 1 := wrapInt64_of_lt (by omega) (by omega)
  obtain ⟨scanned, err⟩ := scanFrom_not_found 0 [] ⟨[], none, ⟨src, wrapInt64 (maxU + 1)⟩⟩ rfl
    (by simpa [wrapU] using absent)
  unfold readUserIDAndDomain readString
  generalize scanFrom 0 [] ⟨[], none, ⟨src, wrapInt64 (maxU + 1)⟩⟩ = first at scanned err ⊢
  obtain ⟨userID, err₁, rdr⟩ := first
  simp only [wrapU] at scanned err
  subst scanned err
  simp

@[simp] theorem ending_readHeaderFrom (r : Request) (src : Source) :
    (r.readHeaderFrom src).rest.ending = src.ending := by
  unfold readHeaderFrom; dsimp only; split <;> simp

/-- A valid header followed by `s`: the fields are scanned from `s`. -/
theorem readHeaderFrom_rest (r₀ : Request) {src : Source} {hdr s : Bytes}
    (bytes : src.bytes = hdr ++ s) (eight : hdr.length = 8) :
    (r₀.readHeaderFrom src).rest.bytes = s := by
  obtain ⟨rest, read, left⟩ := Source.readFull_eq bytes eight
  simpa [readHeaderFrom, read] using left

/-- `ReadFromWithLimits` with limits below `2^63 - 1` that returns no error
returns a user ID within its limit, and a user ID and a domain within the two
limits together. -/
theorem readFromWithLimits_within (r₀ : Request) (src : Source) {maxU maxD : Int}
    (uLo : 0 ≤ maxU) (uHi : maxU < 2 ^ 63 - 1) (dLo : 0 ≤ maxD) (dHi : maxD < 2 ^ 63 - 1)
    (ok : (r₀.readFromWithLimits src maxU maxD).err = none) :
    ((r₀.readFromWithLimits src maxU maxD).msg.userID.length : Int) ≤ maxU ∧
      ((r₀.readFromWithLimits src maxU maxD).msg.isSOCKS4a = true →
        ((r₀.readFromWithLimits src maxU maxD).msg.userID.length +
          (r₀.readFromWithLimits src maxU maxD).msg.domain.length : Int) ≤ maxU + maxD) := by
  cases header : (r₀.readHeaderFrom src).err with
  | some e => simp [readFromWithLimits, header] at ok
  | none =>
    simp only [readFromWithLimits, header] at ok ⊢
    exact readUserIDAndDomain_within _ _ uLo uHi dLo dHi ok

/-- The SOCKS4a request for `ab` with the user ID `A`, decoded with the limits
1 and 2. -/
theorem readFromWithLimits_within_socks4a :
    ((zero.readFromWithLimits ⟨[[4, 1, 0, 80, 0, 0, 0, 1, 65, 0, 97, 98, 0]], .eof, by decide⟩
        1 2).msg.userID.length : Int) ≤ 1 ∧
      ((zero.readFromWithLimits ⟨[[4, 1, 0, 80, 0, 0, 0, 1, 65, 0, 97, 98, 0]], .eof, by decide⟩
          1 2).msg.isSOCKS4a = true →
        ((zero.readFromWithLimits ⟨[[4, 1, 0, 80, 0, 0, 0, 1, 65, 0, 97, 98, 0]], .eof, by decide⟩
            1 2).msg.userID.length +
          (zero.readFromWithLimits ⟨[[4, 1, 0, 80, 0, 0, 0, 1, 65, 0, 97, 98, 0]], .eof, by decide⟩
            1 2).msg.domain.length : Int) ≤ 1 + 2) :=
  readFromWithLimits_within _ _ (by decide) (by decide) (by decide) (by decide) (by decide)

/-- The domain is not held to its limit when its bytes came in with the user
ID: the SOCKS4a request for `abc` with an empty user ID, in one read, is
accepted with `maxUserIDLen = 10` and `maxDomainLen = 1`. -/
theorem readFromWithLimits_accepts_domain_over_limit :
    let d : Decoded Request := zero.readFromWithLimits
      ⟨[[4, 1, 0, 80, 0, 0, 0, 1, 0, 97, 98, 99, 0]], .eof, by decide⟩ 10 1
    d.err = none ∧ d.msg.isSOCKS4a = true ∧ d.msg.domain = [97, 98, 99] := by
  decide

/-- A user ID with no NUL within its limit of one byte (plus the NUL) fails
with `io.EOF` whether the connection holds a third byte or ends after the
first. -/
theorem readFromWithLimits_same_error_at_limit_and_end :
    (zero.readFromWithLimits ⟨[[4, 1, 0, 80, 1, 2, 3, 4, 65, 65, 65]], .eof, by decide⟩ 1 1).err =
        some .eof ∧
      (zero.readFromWithLimits ⟨[[4, 1, 0, 80, 1, 2, 3, 4, 65]], .eof, by decide⟩ 1 1).err =
        some .eof := by
  decide

/-- **What a failed field scan returns.** After a valid header followed by
`s`, a user ID with no NUL within its limit fails with `io.EOF` when `s`
holds more than the limit lets through, and with the connection's ending
when `s` ends first; and every failure after a valid header is `io.EOF` or
the connection's ending. On a connection that ends with `io.EOF` the two
causes give the same error. -/
theorem readFromWithLimits_unterminated_errors :
    (∀ (r₀ : Request) (src : Source) (hdr s : Bytes) (maxU maxD : Int), src.bytes = hdr ++ s →
      hdr.length = 8 → (r₀.readHeaderFrom src).err = none → 0 ≤ maxU → maxU < 2 ^ 63 - 1 →
      0 ∉ s.take (maxU + 1).toNat →
        (r₀.readFromWithLimits src maxU maxD).err =
          some (if (maxU + 1).toNat ≤ s.length then .eof else src.ending)) ∧
    ∀ (r₀ : Request) (src : Source) (maxU maxD : Int), (r₀.readHeaderFrom src).err = none →
      (r₀.readFromWithLimits src maxU maxD).err = none ∨
        (r₀.readFromWithLimits src maxU maxD).err = some .eof ∨
        (r₀.readFromWithLimits src maxU maxD).err = some src.ending := by
  refine ⟨fun r₀ src hdr s maxU maxD bytes eight header uLo uHi absent => ?_,
    fun r₀ src maxU maxD header => ?_⟩
  · have rest := readHeaderFrom_rest r₀ bytes eight
    have scanned := (readUserIDAndDomain_unterminated (r₀.readHeaderFrom src).msg
      (r₀.readHeaderFrom src).rest maxD uLo uHi (by rwa [rest])).2
    simp only [readFromWithLimits, header]
    rw [scanned, rest, ending_readHeaderFrom]
  · have failed := readUserIDAndDomain_err (r₀.readHeaderFrom src).msg (r₀.readHeaderFrom src).rest
      maxU maxD
    simp only [readFromWithLimits, header]
    rwa [ending_readHeaderFrom] at failed

/-- A user ID past its limit and one cut short by a connection that ends with
a fault: the first fails with `io.EOF` and the second with the fault, so the
two causes are told apart once the connection does not end with `io.EOF`. -/
theorem readFromWithLimits_unterminated_errors_at_limit :
    (zero.readFromWithLimits ⟨[[4, 1, 0, 80, 1, 2, 3, 4, 65, 65, 65]], .fault 1, by decide⟩ 1 1).err =
        some .eof ∧
      (zero.readFromWithLimits ⟨[[4, 1, 0, 80, 1, 2, 3, 4, 65]], .fault 1, by decide⟩ 1 1).err =
        some (.fault 1) ∧
      ((zero.readFromWithLimits ⟨[[4, 1, 0, 80, 1, 2, 3, 4, 65]], .fault 1, by decide⟩ 1 1).err = none ∨
        (zero.readFromWithLimits ⟨[[4, 1, 0, 80, 1, 2, 3, 4, 65]], .fault 1, by decide⟩ 1 1).err =
          some .eof ∨
        (zero.readFromWithLimits ⟨[[4, 1, 0, 80, 1, 2, 3, 4, 65]], .fault 1, by decide⟩ 1 1).err =
          some (.fault 1)) :=
  ⟨readFromWithLimits_unterminated_errors.1 zero ⟨[[4, 1, 0, 80, 1, 2, 3, 4, 65, 65, 65]], .fault 1,
      by decide⟩ [4, 1, 0, 80, 1, 2, 3, 4] [65, 65, 65] 1 1 rfl rfl (by decide) (by decide)
      (by decide) (by decide),
    readFromWithLimits_unterminated_errors.1 zero ⟨[[4, 1, 0, 80, 1, 2, 3, 4, 65]], .fault 1,
      by decide⟩ [4, 1, 0, 80, 1, 2, 3, 4] [65] 1 1 rfl rfl (by decide) (by decide)
      (by decide) (by decide),
    readFromWithLimits_unterminated_errors.2 zero ⟨[[4, 1, 0, 80, 1, 2, 3, 4, 65]], .fault 1,
      by decide⟩ 1 1 (by decide)⟩

end Request

end Socks.Socks4
