import Socks.Socks4.RoundTrip

/-!
# What the SOCKS4 decoder accepts

`readFromWithLimits_encode` reads every encoded request back; this module
proves the converse. A request that `ReadFromWithLimits` returns without
error passed `ValidateHeader`, has a user ID with no NUL and, for SOCKS4a, a
domain with no NUL, and was taken off the connection as its own encoding: the
count is the length of `encode`, and the connection began with `encode`
followed by the bytes the pooled `bufio.Reader` had read ahead and dropped.

The header is `io.ReadFull` of eight bytes; each field is a scan that returns
its fragments up to and including the first NUL, which `ReadString`'s caller
drops with `userID[:len(userID)-1]`.

`readFromWithLimits_counts` covers every outcome, errors included: the count
is the bytes at the head of the connection the decoder consumed, and only a
successful decode drops bytes it read ahead; a failed one leaves the
connection right after what it counted.
-/

namespace Socks.Socks4

open BufReader

namespace Request

@[simp] theorem isSOCKS4a_with_fields (r : Request) (u d : Bytes) :
    ({ r with userID := u, domain := d } : Request).isSOCKS4a = r.isSOCKS4a := rfl

/-- Eight bytes, read back through `getD` as `ReadHeaderFrom` reads them. -/
theorem eq_getD_of_length_eight {hdr : Bytes} (eight : hdr.length = 8) :
    hdr = [hdr.getD 0 0, hdr.getD 1 0, hdr.getD 2 0, hdr.getD 3 0, hdr.getD 4 0, hdr.getD 5 0,
      hdr.getD 6 0, hdr.getD 7 0] := by
  match hdr, eight with
  | [_, _, _, _, _, _, _, _], _ => rfl

/-- What `ReadHeaderFrom` accepted. A header read without error passed
`ValidateHeader`, cost eight bytes, and is the first eight bytes of the
connection; the user ID and the domain are the receiver's. -/
theorem readHeaderFrom_sound (r₀ : Request) (src : Source)
    (ok : (r₀.readHeaderFrom src).err = none) :
    (r₀.readHeaderFrom src).msg.validateHeader = none ∧ (r₀.readHeaderFrom src).n = 8 ∧
      src.bytes = (r₀.readHeaderFrom src).msg.header ++ (r₀.readHeaderFrom src).rest.bytes ∧
      (r₀.readHeaderFrom src).msg.userID = r₀.userID ∧
      (r₀.readHeaderFrom src).msg.domain = r₀.domain := by
  cases read : (src.readFull 8).err with
  | some e => simp [readHeaderFrom, read] at ok
  | none =>
    obtain ⟨eight, bytes⟩ := Source.readFull_of_err_eq_none read
    simp only [readHeaderFrom, read] at ok ⊢
    refine ⟨ok, eight, ?_, trivial, trivial⟩
    rw [bytes, eq_getD_of_length_eight eight]
    simp [header, putUint16_uint16, IP4.copy, IP4.toBytes]

/-- What `ReadUserIDAndDomain` accepted. Fields read without error carry
no NUL, the header fields and, for SOCKS4, the domain are the receiver's, the
count is the length of the fields with their NULs, and the connection began
with those fields, then the bytes the pooled reader dropped. -/
theorem readUserIDAndDomain_sound (r : Request) (src : Source) (maxU maxD : Int)
    (ok : (r.readUserIDAndDomain src maxU maxD).err = none) :
    (r.readUserIDAndDomain src maxU maxD).msg =
        { r with userID := (r.readUserIDAndDomain src maxU maxD).msg.userID,
                 domain := (r.readUserIDAndDomain src maxU maxD).msg.domain } ∧
      0 ∉ (r.readUserIDAndDomain src maxU maxD).msg.userID ∧
      (r.isSOCKS4a = true → 0 ∉ (r.readUserIDAndDomain src maxU maxD).msg.domain) ∧
      (r.isSOCKS4a = false → (r.readUserIDAndDomain src maxU maxD).msg.domain = r.domain) ∧
      (r.readUserIDAndDomain src maxU maxD).n = (r.readUserIDAndDomain src maxU maxD).msg.tail.length ∧
      ∃ ahead, src.bytes = (r.readUserIDAndDomain src maxU maxD).msg.tail ++ ahead ++
        (r.readUserIDAndDomain src maxU maxD).rest.bytes := by
  have user := scanFrom_sound 0 [] ⟨[], none, ⟨src, wrapInt64 (maxU + 1)⟩⟩
  unfold readUserIDAndDomain readString at ok ⊢
  generalize scanFrom 0 [] ⟨[], none, ⟨src, wrapInt64 (maxU + 1)⟩⟩ = first at user ok ⊢
  obtain ⟨userID, err₁, rdr⟩ := first
  cases err₁ with
  | some e => cases ok
  | none =>
    obtain ⟨pre, userNul, rfl, total⟩ := user rfl
    simp only [List.nil_append] at total
    cases kind : r.isSOCKS4a
    · simp only [isSOCKS4a_with_userID, kind, Bool.false_eq_true, if_false, List.nil_append,
        List.dropLast_concat]
      refine ⟨trivial, userNul, nofun, fun _ => trivial, by simp [tail, kind], rdr.buffered, ?_⟩
      simpa [tail, kind, List.append_assoc] using total
    · have domain := scanFrom_sound 0 [] ⟨rdr.buffered, rdr.err, ⟨rdr.rd.R, wrapInt64 (maxD + 1)⟩⟩
      simp only [isSOCKS4a_with_userID, kind, if_true, List.nil_append, List.dropLast_concat]
        at ok ⊢
      generalize scanFrom 0 [] ⟨rdr.buffered, rdr.err, ⟨rdr.rd.R, wrapInt64 (maxD + 1)⟩⟩ = second
        at domain ok ⊢
      obtain ⟨domainBytes, err₂, rdr₂⟩ := second
      cases err₂ with
      | some e => cases ok
      | none =>
        obtain ⟨pre₂, domainNul, rfl, total₂⟩ := domain rfl
        simp only [List.nil_append, List.dropLast_concat]
        refine ⟨trivial, userNul, fun _ => domainNul, nofun, by simp [tail, kind]; omega,
          rdr₂.buffered, ?_⟩
        simp only [List.nil_append] at total₂
        rw [total, List.append_assoc, List.append_assoc, total₂]
        simp [tail, kind, List.append_assoc]

/-- A request decoded without error has the command of the connection's second
byte: the field scan keeps the header `ReadHeaderFrom` read. -/
theorem command_readFromWithLimits (r₀ : Request) (src : Source) (maxU maxD : Int)
    (ok : (r₀.readFromWithLimits src maxU maxD).err = none) :
    (r₀.readFromWithLimits src maxU maxD).msg.command = src.bytes.getD 1 0 := by
  cases header : (r₀.readHeaderFrom src).err with
  | some e => simp [readFromWithLimits, header] at ok
  | none =>
    obtain ⟨-, -, bytes, -, -⟩ := readHeaderFrom_sound r₀ src header
    simp only [readFromWithLimits, header] at ok ⊢
    rw [(readUserIDAndDomain_sound _ _ maxU maxD ok).1, bytes]
    rfl

/-- **What `ReadFromWithLimits` accepted.** A request decoded without error,
whatever the limits, passed `ValidateHeader`, has a user ID with no NUL and,
for SOCKS4a, a domain with no NUL (a SOCKS4 request keeps the receiver's
domain), is counted as the length of its encoding, and was taken off the
connection as that encoding; the bytes between it and where the connection
is left are those the pooled reader read ahead and dropped. -/
theorem readFromWithLimits_sound (r₀ : Request) (src : Source) (maxU maxD : Int)
    (ok : (r₀.readFromWithLimits src maxU maxD).err = none) :
    let d : Decoded Request := r₀.readFromWithLimits src maxU maxD
    d.msg.validateHeader = none ∧ 0 ∉ d.msg.userID ∧ (d.msg.isSOCKS4a = true → 0 ∉ d.msg.domain) ∧
      (d.msg.isSOCKS4a = false → d.msg.domain = r₀.domain) ∧ d.n = d.msg.encode.length ∧
      ∃ ahead, src.bytes = d.msg.encode ++ ahead ++ d.rest.bytes := by
  cases header : (r₀.readHeaderFrom src).err with
  | some e => simp [readFromWithLimits, header] at ok
  | none =>
    obtain ⟨valid, eight, bytes, -, domainKept⟩ := readHeaderFrom_sound r₀ src header
    simp only [readFromWithLimits, header] at ok ⊢
    obtain ⟨frame, userNul, domainNul, domainSame, count, ahead, rest⟩ :=
      readUserIDAndDomain_sound _ _ maxU maxD ok
    generalize (r₀.readHeaderFrom src).msg.readUserIDAndDomain (r₀.readHeaderFrom src).rest
      maxU maxD = d at frame userNul domainNul domainSame count rest
    have sameHeader : d.msg.header = (r₀.readHeaderFrom src).msg.header := by rw [frame]; rfl
    have sameKind : d.msg.isSOCKS4a = (r₀.readHeaderFrom src).msg.isSOCKS4a := by rw [frame]; rfl
    have sameCheck : d.msg.validateHeader = (r₀.readHeaderFrom src).msg.validateHeader := by
      rw [frame]; rfl
    refine ⟨sameCheck.trans valid, userNul, fun kind => domainNul (sameKind ▸ kind),
      fun kind => (domainSame (sameKind ▸ kind)).trans domainKept, ?_, ahead, ?_⟩
    · rw [encode_eq, List.length_append, length_header, eight, count]
    · rw [bytes, rest, encode_eq, sameHeader]; simp [List.append_assoc]

/-- A decoded SOCKS4a request, through the general statement: the bytes of
one read hold the header, an empty user ID and the domain `a`. -/
theorem readFromWithLimits_sound_socks4a :
    (zero.readFromWithLimits ⟨[[4, 1, 0, 80, 0, 0, 0, 1, 0, 97, 0]], .eof, by decide⟩ 1 1).err =
        none ∧
      let d : Decoded Request :=
        zero.readFromWithLimits ⟨[[4, 1, 0, 80, 0, 0, 0, 1, 0, 97, 0]], .eof, by decide⟩ 1 1
      d.msg.validateHeader = none ∧ 0 ∉ d.msg.userID ∧
        (d.msg.isSOCKS4a = true → 0 ∉ d.msg.domain) ∧
        (d.msg.isSOCKS4a = false → d.msg.domain = zero.domain) ∧ d.n = d.msg.encode.length ∧
        ∃ ahead, (⟨[[4, 1, 0, 80, 0, 0, 0, 1, 0, 97, 0]], .eof, by decide⟩ : Source).bytes =
          d.msg.encode ++ ahead ++ d.rest.bytes :=
  ⟨by decide, readFromWithLimits_sound zero _ 1 1 (by decide)⟩

/-! ## What a decode takes off the connection -/

/-- `ReadHeaderFrom` counts what it took off the connection and leaves the
rest, whatever it returns. -/
theorem readHeaderFrom_conserves (r₀ : Request) (src : Source) :
    ∃ taken, taken.length = (r₀.readHeaderFrom src).n ∧
      src.bytes = taken ++ (r₀.readHeaderFrom src).rest.bytes := by
  have n : (r₀.readHeaderFrom src).n = (src.readFull 8).data.length := by
    unfold readHeaderFrom; dsimp only; split <;> rfl
  have rest : (r₀.readHeaderFrom src).rest = (src.readFull 8).rest := by
    unfold readHeaderFrom; dsimp only; split <;> rfl
  exact ⟨_, n.symm, by rw [rest, Source.readFull_conserves]⟩

/-- `ReadUserIDAndDomain` counts what its scans returned; the connection held
those bytes, then the bytes the pooled reader still buffered, which it drops,
then what it leaves. A scan that fails leaves nothing buffered. -/
theorem readUserIDAndDomain_conserves (r : Request) (src : Source) (maxU maxD : Int) :
    ∃ taken ahead, taken.length = (r.readUserIDAndDomain src maxU maxD).n ∧
      src.bytes = taken ++ ahead ++ (r.readUserIDAndDomain src maxU maxD).rest.bytes ∧
      ((r.readUserIDAndDomain src maxU maxD).err ≠ none → ahead = []) := by
  have user := scanFrom_conserves 0 [] ⟨[], none, ⟨src, wrapInt64 (maxU + 1)⟩⟩
  unfold readUserIDAndDomain readString
  generalize scanFrom 0 [] ⟨[], none, ⟨src, wrapInt64 (maxU + 1)⟩⟩ = first at user ⊢
  obtain ⟨userID, err₁, rdr⟩ := first
  obtain ⟨taken, userEq, total, emptied⟩ := user
  simp only [List.nil_append] at userEq total
  subst userEq
  dsimp only
  cases err₁ with
  | some e =>
    have emptied : rdr.buffered = [] := emptied (by simp)
    exact ⟨userID, [], rfl, by rw [total, emptied], fun _ => rfl⟩
  | none =>
    cases kind : r.isSOCKS4a
    · simp only [isSOCKS4a_with_userID, kind, Bool.false_eq_true, if_false]
      exact ⟨userID, rdr.buffered, rfl, total, nofun⟩
    · have domain := scanFrom_conserves 0 [] ⟨rdr.buffered, rdr.err, ⟨rdr.rd.R, wrapInt64 (maxD + 1)⟩⟩
      simp only [isSOCKS4a_with_userID, kind, if_true]
      generalize scanFrom 0 [] ⟨rdr.buffered, rdr.err, ⟨rdr.rd.R, wrapInt64 (maxD + 1)⟩⟩ = second
        at domain ⊢
      obtain ⟨domainBytes, err₂, rdr₂⟩ := second
      obtain ⟨taken₂, domainEq, total₂, emptied₂⟩ := domain
      simp only [List.nil_append] at domainEq total₂
      subst domainEq
      have bytes : src.bytes = userID ++ domainBytes ++ rdr₂.buffered ++ rdr₂.rd.R.bytes := by
        rw [total, List.append_assoc, total₂]; simp only [List.append_assoc]
      cases err₂ with
      | some e =>
        have emptied₂ : rdr₂.buffered = [] := emptied₂ (by simp)
        exact ⟨userID ++ domainBytes, [], by simp, by rw [bytes, emptied₂], fun _ => rfl⟩
      | none => exact ⟨userID ++ domainBytes, rdr₂.buffered, by simp, bytes, nofun⟩

end Request

end Socks.Socks4
