import Socks.Stream.Limit

/-!
# The bounded scanner of `ReadUserIDAndDomain`

`internal.LimitedReader` over the connection (`Limited Source`, reading it
through `Source.asReader`), read through the pooled 256-byte `bufio.Reader`
of `internal.ReaderPool`, and the loop of
`bufio.Reader.ReadString`: `collectFragments` calling `ReadSlice`, which
searches the buffer, returns a pending error, gives up a full buffer
(`ErrBufferFull`) or calls `fill`.

The buffer reads ahead: one `fill` takes up to 256 bytes, bounded only by the
limited reader's `N`, so bytes past the delimiter stay in the buffer after
`ReadString` returns. `scanFrom_found` says what a successful scan returns and
where it leaves the stream, and it tracks a group of leading chunks `A`: the
scan reads nothing past them while the delimiter lies inside them.

The loop runs on fuel; `BufReader.measure` bounds the turns it takes, and
`scanFrom` supplies that much, so the fuel never runs out (`scan_congr`).
-/

namespace Socks

/-- Go's `int64` addition: the sum wrapped into `[-2^63, 2^63)`. -/
def wrapInt64 (x : Int) : Int := (x + 2 ^ 63) % 2 ^ 64 - 2 ^ 63

/-- The size of the buffers of `internal.ReaderPool`. -/
def readerPoolSize : Nat := 256

/-- The state of the pooled `bufio.Reader` that `ReadString` uses: the unread
bytes `buf[r:w]`, the pending error `err`, and its reader. -/
structure BufReader where
  buffered : Bytes
  err : Option Error
  rd : Limited Source

namespace BufReader

/-- `bufio.Reader.fill` on a buffer that is not full and has no pending error:
slide `buf[r:w]` to the front and read once into the free space. A read
here returns bytes or an error, never neither, so `fill`'s retry of empty
reads never runs. -/
def fill (b : BufReader) : BufReader :=
  let (p, err, rd) := b.rd.read Source.asReader (readerPoolSize - b.buffered.length)
  ⟨b.buffered ++ p, err, rd⟩

/-- What one `fill` does: with `N ≤ 0` it takes the limited reader's
`io.EOF`; on a connection with nothing left, the connection's ending; and
otherwise it appends at least one byte and at most `N` and the free space,
taken off the front of the connection, with no error. -/
theorem fill_cases (b : BufReader) (room : b.buffered.length < readerPoolSize) :
    (b.rd.N ≤ 0 ∧ b.fill = { b with err := some .eof }) ∨
    (0 < b.rd.N ∧ b.rd.R.chunks = [] ∧ b.fill = { b with err := some b.rd.R.ending }) ∨
    (0 < b.rd.N ∧ ∃ p, p ≠ [] ∧ (p.length : Int) ≤ b.rd.N ∧
      p.length ≤ readerPoolSize - b.buffered.length ∧ b.fill.buffered = b.buffered ++ p ∧
      b.fill.err = none ∧ b.fill.rd.N = b.rd.N - p.length ∧
      b.rd.R.bytes = p ++ b.fill.rd.R.bytes ∧ b.fill.rd.R.ending = b.rd.R.ending) := by
  obtain ⟨buf, err, R, N⟩ := b
  dsimp only at room ⊢
  by_cases exhausted : N ≤ 0
  · exact .inl ⟨exhausted, by simp [fill, Limited.read, Source.asReader, exhausted]⟩
  refine .inr ?_
  cases chunks : R.chunks with
  | nil =>
    exact .inl ⟨by omega, rfl,
      by simp [fill, Limited.read, Source.asReader, exhausted, Source.read_of_chunks_nil chunks]⟩
  | cons c cs =>
    let k := if N < ↑(readerPoolSize - buf.length) then N.toNat else readerPoolSize - buf.length
    have kBound : 0 < k ∧ (k : Int) ≤ N ∧ k ≤ readerPoolSize - buf.length := by
      simp only [k]; split <;> omega
    obtain ⟨data, noErr, -⟩ := Source.read_of_chunks_cons chunks k
    have nonempty : 0 < c.length := List.length_pos.mpr (R.chunks_ne_nil c (by simp [chunks]))
    have taken : 0 < (R.read k).data.length ∧ (R.read k).data.length ≤ k := by
      rw [data, List.length_take]; omega
    refine .inr ⟨by omega, (R.read k).data, List.ne_nil_of_length_pos taken.1, by omega, by omega,
      ?_⟩
    simp only [fill, Limited.read, Source.asReader, exhausted, if_false]
    exact ⟨trivial, noErr, trivial, (Source.read_data_append_bytes R k).symm,
      Source.ending_read R k⟩

/-- A bound on the turns `ReadString` still takes: each fill moves at least
one byte from the connection into the buffer or sets the error, and each full
buffer given up empties it. -/
def measure (b : BufReader) : Nat :=
  2 * b.rd.R.bytes.length + b.buffered.length + (if b.err = none then 1 else 0)

/-- The loop of `ReadString(delim)` with the fragments `acc` collected so far:
`ReadSlice` finds the delimiter in the buffer, or returns the pending error
(clearing it), or gives up a full buffer, or fills. -/
def scan (delim : UInt8) : Nat → Bytes → BufReader → Bytes × Option Error × BufReader
  | 0, acc, b => (acc ++ b.buffered, some .eof, b)
  | fuel + 1, acc, b =>
    let i := b.buffered.indexOf delim
    if i < b.buffered.length then
      (acc ++ b.buffered.take (i + 1), none, { b with buffered := b.buffered.drop (i + 1) })
    else
      match b.err with
      | some e => (acc ++ b.buffered, some e, { b with buffered := [], err := none })
      | none =>
        if readerPoolSize ≤ b.buffered.length then
          scan delim fuel (acc ++ b.buffered) { b with buffered := [] }
        else scan delim fuel acc b.fill

/-- `ReadString(delim)` continuing with fragments `acc`, given fuel for every
turn it takes. -/
def scanFrom (delim : UInt8) (acc : Bytes) (b : BufReader) : Bytes × Option Error × BufReader :=
  scan delim (b.measure + 1) acc b

/-- `bufio.Reader.ReadString(delim)`. -/
def readString (delim : UInt8) (b : BufReader) : Bytes × Option Error × BufReader :=
  scanFrom delim [] b

/-! ## The loop terminates within its fuel -/

theorem measure_flush_lt {b : BufReader} (full : readerPoolSize ≤ b.buffered.length) :
    measure { b with buffered := [] } < b.measure := by
  simp only [measure, readerPoolSize, List.length_nil] at *; omega

theorem measure_fill_lt {b : BufReader} (noErr : b.err = none)
    (room : b.buffered.length < readerPoolSize) : b.fill.measure < b.measure := by
  unfold fill Limited.read Source.asReader
  by_cases exhausted : b.rd.N ≤ 0
  · simp [measure, exhausted, noErr]
  · simp only [exhausted, if_false]
    cases chunks : b.rd.R.chunks with
    | nil => simp [measure, Source.read_of_chunks_nil chunks, noErr]
    | cons c cs =>
      have conserve := Source.read_data_append_bytes b.rd.R
        (if b.rd.N < ↑(readerPoolSize - b.buffered.length) then b.rd.N.toNat
          else readerPoolSize - b.buffered.length)
      obtain ⟨data, err, -⟩ := Source.read_of_chunks_cons chunks
        (if b.rd.N < ↑(readerPoolSize - b.buffered.length) then b.rd.N.toNat
          else readerPoolSize - b.buffered.length)
      have nonempty : c ≠ [] := b.rd.R.chunks_ne_nil c (by simp [chunks])
      have took : 0 < (b.rd.R.read (if b.rd.N < ↑(readerPoolSize - b.buffered.length)
          then b.rd.N.toNat else readerPoolSize - b.buffered.length)).data.length := by
        rw [data, List.length_take]
        have := List.length_pos.mpr nonempty
        split <;> omega
      have lengths := congrArg List.length conserve
      simp only [List.length_append] at lengths
      simp only [measure, err, noErr, List.length_append]
      omega

theorem scan_congr (delim : UInt8) :
    ∀ (f g : Nat) (acc : Bytes) (b : BufReader), b.measure < f → b.measure < g →
      scan delim f acc b = scan delim g acc b
  | 0, _, _, _, enough, _ => absurd enough (Nat.not_lt_zero _)
  | _, 0, _, _, _, enough => absurd enough (Nat.not_lt_zero _)
  | f + 1, g + 1, acc, b, enoughF, enoughG => by
    simp only [scan]
    split
    · rfl
    · split
      · rfl
      · rename_i noErr
        split
        · rename_i full
          have := measure_flush_lt full
          exact scan_congr delim f g _ _ (by omega) (by omega)
        · rename_i room
          have := measure_fill_lt noErr (Nat.lt_of_not_le room)
          exact scan_congr delim f g _ _ (by omega) (by omega)

/-- One turn of `ReadString`'s loop. -/
theorem scanFrom_eq (delim : UInt8) (acc : Bytes) (b : BufReader) :
    scanFrom delim acc b =
      if b.buffered.indexOf delim < b.buffered.length then
        (acc ++ b.buffered.take (b.buffered.indexOf delim + 1), none,
          { b with buffered := b.buffered.drop (b.buffered.indexOf delim + 1) })
      else
        match b.err with
        | some e => (acc ++ b.buffered, some e, { b with buffered := [], err := none })
        | none =>
          if readerPoolSize ≤ b.buffered.length then
            scanFrom delim (acc ++ b.buffered) { b with buffered := [] }
          else scanFrom delim acc b.fill := by
  conv_lhs => simp only [scanFrom, scan]
  split
  · rfl
  · split
    · rfl
    · rename_i noErr
      split
      · rename_i full
        exact scan_congr delim _ _ _ _ (measure_flush_lt full) (Nat.lt_succ_self _)
      · rename_i room
        exact scan_congr delim _ _ _ _ (measure_fill_lt noErr (Nat.lt_of_not_le room))
          (Nat.lt_succ_self _)

/-! ## Invariants of the loop -/

/-- **Invariants of `ReadString`'s loop.** A property `P` of the fragments
and the reader that every turn going round again keeps, and that every turn
returning turns into `Q`, holds of what the loop returns, given the fuel. -/
theorem scan_invariant (delim : UInt8) {P : Bytes → BufReader → Prop}
    {Q : Bytes × Option Error × BufReader → Prop}
    (found : ∀ acc b, P acc b → b.buffered.indexOf delim < b.buffered.length →
      Q (acc ++ b.buffered.take (b.buffered.indexOf delim + 1), none,
        { b with buffered := b.buffered.drop (b.buffered.indexOf delim + 1) }))
    (failed : ∀ acc b e, P acc b → ¬ b.buffered.indexOf delim < b.buffered.length →
      b.err = some e → Q (acc ++ b.buffered, some e, { b with buffered := [], err := none }))
    (flush : ∀ acc b, P acc b → ¬ b.buffered.indexOf delim < b.buffered.length → b.err = none →
      readerPoolSize ≤ b.buffered.length → P (acc ++ b.buffered) { b with buffered := [] })
    (fill : ∀ acc b, P acc b → ¬ b.buffered.indexOf delim < b.buffered.length → b.err = none →
      b.buffered.length < readerPoolSize → P acc b.fill) :
    ∀ fuel acc b, b.measure < fuel → P acc b → Q (scan delim fuel acc b)
  | 0, _, _, enough, _ => absurd enough (Nat.not_lt_zero _)
  | fuel + 1, acc, b, enough, holds => by
    simp only [scan]
    split
    · exact found acc b holds ‹_›
    · rename_i notFound
      split
      · rename_i e pending
        exact failed acc b e holds notFound pending
      · rename_i noErr
        split
        · rename_i full
          exact scan_invariant delim found failed flush fill fuel _ _
            (by have := measure_flush_lt full; omega) (flush acc b holds notFound noErr full)
        · rename_i room
          have room := Nat.lt_of_not_le room
          exact scan_invariant delim found failed flush fill fuel _ _
            (by have := measure_fill_lt noErr room; omega) (fill acc b holds notFound noErr room)

/-- A `fill` keeps the bytes of the buffer plus the limited reader's
remaining `N`. -/
theorem fill_budget (b : BufReader) (room : b.buffered.length < readerPoolSize) :
    b.fill.buffered.length + b.fill.rd.N.toNat = b.buffered.length + b.rd.N.toNat := by
  rcases fill_cases b room with ⟨-, filled⟩ | ⟨-, -, filled⟩ |
    ⟨-, p, -, within, -, buffered, -, lowered, -⟩
  · rw [filled]
  · rw [filled]
  · rw [buffered, lowered, List.length_append]; omega

/-- `ReadString` shares one budget. What it returns, what it leaves in
the buffer and the limited reader's remaining `N` add up to the fragments
collected before, the buffer and `N` it started from: bytes it took from the
connection past the delimiter stay in the buffer, counted against no later
limit. -/
theorem scanFrom_budget (delim : UInt8) (acc : Bytes) (b : BufReader) :
    (scanFrom delim acc b).1.length + (scanFrom delim acc b).2.2.buffered.length +
        (scanFrom delim acc b).2.2.rd.N.toNat = acc.length + b.buffered.length + b.rd.N.toNat :=
  @scan_invariant delim
    (fun acc' b' => acc'.length + b'.buffered.length + b'.rd.N.toNat =
      acc.length + b.buffered.length + b.rd.N.toNat)
    (fun r => r.1.length + r.2.2.buffered.length + r.2.2.rd.N.toNat =
      acc.length + b.buffered.length + b.rd.N.toNat)
    (fun acc' b' holds found => by simp only [List.length_append, List.length_take,
      List.length_drop] at holds ⊢; omega)
    (fun acc' b' _ holds _ _ => by
      simp only [List.length_append, List.length_nil] at holds ⊢; omega)
    (fun acc' b' holds _ _ _ => by
      simp only [List.length_append, List.length_nil] at holds ⊢; omega)
    (fun acc' b' holds _ _ room => by have := fill_budget b' room; simp only at holds ⊢; omega)
    _ acc b (Nat.lt_succ_self _) rfl

/-- A scan that returns no error has found the delimiter: it returns more
than the fragments it started with. -/
theorem scanFrom_length_of_found (delim : UInt8) (acc : Bytes) (b : BufReader)
    (ok : (scanFrom delim acc b).2.1 = none) : acc.length < (scanFrom delim acc b).1.length :=
  @scan_invariant delim (fun acc' _ => acc.length ≤ acc'.length)
    (fun r => r.2.1 = none → acc.length < r.1.length)
    (fun acc' b' holds found _ => by simp only [List.length_append, List.length_take]; omega)
    (fun _ _ _ _ _ _ failed => nomatch failed)
    (fun acc' b' holds _ _ _ => by simp only [List.length_append]; omega)
    (fun _ _ holds _ _ _ => holds)
    _ acc b (Nat.lt_succ_self _) le_rfl ok

/-- The errors of a scan over a connection that ends with `ending`: none, the
limited reader's `io.EOF`, or `ending`; and the connection keeps its ending. -/
theorem scanFrom_err (delim : UInt8) (acc : Bytes) (b : BufReader)
    (pending : b.err = none ∨ b.err = some .eof ∨ b.err = some b.rd.R.ending) :
    ((scanFrom delim acc b).2.1 = none ∨ (scanFrom delim acc b).2.1 = some .eof ∨
        (scanFrom delim acc b).2.1 = some b.rd.R.ending) ∧
      ((scanFrom delim acc b).2.2.err = none ∨ (scanFrom delim acc b).2.2.err = some .eof ∨
        (scanFrom delim acc b).2.2.err = some b.rd.R.ending) ∧
      (scanFrom delim acc b).2.2.rd.R.ending = b.rd.R.ending :=
  @scan_invariant delim
    (fun _ b' => (b'.err = none ∨ b'.err = some .eof ∨ b'.err = some b.rd.R.ending) ∧
      b'.rd.R.ending = b.rd.R.ending)
    (fun r => (r.2.1 = none ∨ r.2.1 = some .eof ∨ r.2.1 = some b.rd.R.ending) ∧
      (r.2.2.err = none ∨ r.2.2.err = some .eof ∨ r.2.2.err = some b.rd.R.ending) ∧
      r.2.2.rd.R.ending = b.rd.R.ending)
    (fun _ _ holds _ => ⟨.inl rfl, holds⟩)
    (fun _ _ _ holds _ failed => ⟨by simpa [failed] using holds.1, .inl rfl, holds.2⟩)
    (fun _ _ holds _ _ _ => holds)
    (fun _ b' holds _ _ room => by
      rcases fill_cases b' room with ⟨-, filled⟩ | ⟨-, -, filled⟩ |
        ⟨-, p, -, -, -, -, noErr, -, -, ending⟩
      · rw [filled]; exact ⟨.inr (.inl rfl), holds.2⟩
      · rw [filled]; exact ⟨.inr (.inr (by rw [holds.2])), holds.2⟩
      · exact ⟨.inl noErr, ending.trans holds.2⟩)
    _ acc b (Nat.lt_succ_self _) ⟨pending, rfl⟩

/-- A `fill` while no delimiter is within reach keeps the reach, the bytes
buffered and those the limited reader still lets through, and the error
the scan ends with: `io.EOF` if `N` runs out before the connection, its
ending otherwise. -/
theorem fill_within_reach {b : BufReader} {E : Error} (room : b.buffered.length < readerPoolSize)
    (ends : (if b.rd.N.toNat ≤ b.rd.R.bytes.length then Error.eof else b.rd.R.ending) = E) :
    b.fill.buffered ++ b.fill.rd.R.bytes.take b.fill.rd.N.toNat =
        b.buffered ++ b.rd.R.bytes.take b.rd.N.toNat ∧
      (if b.fill.rd.N.toNat ≤ b.fill.rd.R.bytes.length then Error.eof else b.fill.rd.R.ending) = E ∧
      (b.fill.err = none ∨
        b.fill.err = some E ∧ b.fill.rd.R.bytes.take b.fill.rd.N.toNat = []) := by
  rcases fill_cases b room with ⟨exhausted, filled⟩ | ⟨positive, chunks, filled⟩ |
    ⟨positive, p, -, within, -, buffered, noErr, lowered, bytes, ending⟩
  · have zero : b.rd.N.toNat = 0 := Int.toNat_eq_zero.mpr exhausted
    simp only [filled, zero] at ends ⊢
    simp [← ends]
  · have empty : b.rd.R.bytes = [] := (Source.bytes_eq_nil_iff _).mpr chunks
    have far : ¬ b.rd.N.toNat ≤ b.rd.R.bytes.length := by rw [empty]; simp; omega
    simp only [filled, if_neg far] at ends ⊢
    simp [empty, ends]
  · have reach :
        b.rd.R.bytes.take b.rd.N.toNat = p ++ b.fill.rd.R.bytes.take b.fill.rd.N.toNat := by
      rw [bytes, List.take_append_eq_append_take, List.take_of_length_le (by omega), lowered]
      congr 2; omega
    have lengths := congrArg List.length bytes
    simp only [List.length_append] at lengths
    have sameSide : (b.fill.rd.N.toNat ≤ b.fill.rd.R.bytes.length) ↔
        (b.rd.N.toNat ≤ b.rd.R.bytes.length) := by rw [lowered]; omega
    refine ⟨by rw [buffered, reach, List.append_assoc], ?_, .inl noErr⟩
    rw [← ends, ending]
    exact if_congr sameSide rfl rfl

/-- No delimiter within reach. When neither the buffer nor the bytes the
limited reader still lets through hold the delimiter, `ReadString` returns
all of them, with `io.EOF` if the limit runs out before the connection does
and with the connection's ending otherwise. -/
theorem scanFrom_not_found (delim : UInt8) (acc : Bytes) (b : BufReader) (noErr : b.err = none)
    (absent : delim ∉ b.buffered ++ b.rd.R.bytes.take b.rd.N.toNat) :
    (scanFrom delim acc b).1 = acc ++ b.buffered ++ b.rd.R.bytes.take b.rd.N.toNat ∧
      (scanFrom delim acc b).2.1 =
        some (if b.rd.N.toNat ≤ b.rd.R.bytes.length then .eof else b.rd.R.ending) := by
  generalize endsEq : (if b.rd.N.toNat ≤ b.rd.R.bytes.length then Error.eof else b.rd.R.ending) = E
  rw [List.append_assoc]
  refine @scan_invariant delim
    (fun acc' b' => delim ∉ b'.buffered ++ b'.rd.R.bytes.take b'.rd.N.toNat ∧
      acc' ++ (b'.buffered ++ b'.rd.R.bytes.take b'.rd.N.toNat) =
        acc ++ (b.buffered ++ b.rd.R.bytes.take b.rd.N.toNat) ∧
      (if b'.rd.N.toNat ≤ b'.rd.R.bytes.length then Error.eof else b'.rd.R.ending) = E ∧
      (b'.err = none ∨ b'.err = some E ∧ b'.rd.R.bytes.take b'.rd.N.toNat = []))
    (fun r => r.1 = acc ++ (b.buffered ++ b.rd.R.bytes.take b.rd.N.toNat) ∧ r.2.1 = some E)
    (fun _ _ holds found =>
      absurd (List.mem_append_left _ (List.indexOf_lt_length.mp found)) holds.1)
    (fun acc' b' e holds _ failed => ?_) (fun acc' b' holds _ _ _ => ?_)
    (fun acc' b' holds _ _ room => ?_) _ acc b (Nat.lt_succ_self _)
    ⟨absent, rfl, endsEq, .inl noErr⟩
  · -- the error is pending only once nothing is within reach
    obtain ⟨-, total, -, none' | ⟨pending, empty⟩⟩ := holds
    · rw [failed] at none'; cases none'
    · rw [failed] at pending
      exact ⟨by rw [← total, empty, List.append_nil], pending⟩
  · -- a full buffer moves to the fragments
    obtain ⟨absent', total, ends, err⟩ := holds
    exact ⟨fun mem => absent' (List.mem_append_right _ (by simpa using mem)),
      by simpa using total, ends, err⟩
  · -- a fill keeps what is within reach
    obtain ⟨absent', total, ends, -⟩ := holds
    obtain ⟨reach, ends', err⟩ := fill_within_reach room ends
    exact ⟨by rwa [reach], by rw [reach]; exact total, ends', err⟩

/-! ## A successful scan -/

/-- Where the first delimiter of `bs ++ rest` lies: inside `bs`, or in `rest`. -/
theorem split_first {delim : UInt8} {bs rest pre mid : Bytes} (notMem : delim ∉ pre)
    (split : bs ++ rest = pre ++ delim :: mid) :
    (∃ x, bs = pre ++ delim :: x ∧ mid = x ++ rest) ∨
      (delim ∉ bs ∧ ∃ pre₂, pre = bs ++ pre₂ ∧ rest = pre₂ ++ delim :: mid) := by
  rcases List.append_eq_append_iff.mp split with ⟨a, rfl, rest⟩ | ⟨c, rfl, tail⟩
  · exact .inr ⟨fun mem => notMem (List.mem_append_left a mem), a, rfl, rest⟩
  · cases c with
    | nil => exact .inr ⟨by simpa using notMem, [], by simp, by simpa using tail.symm⟩
    | cons y c =>
      obtain ⟨rfl, rfl⟩ := List.cons_eq_cons.mp tail
      exact .inl ⟨c, rfl, rfl⟩

theorem indexOf_split {delim : UInt8} {pre x : Bytes} (notMem : delim ∉ pre) :
    (pre ++ delim :: x).indexOf delim = pre.length := by
  rw [List.indexOf_append_of_not_mem notMem, List.indexOf_cons_self, Nat.add_zero]

@[simp] theorem take_split (pre x : Bytes) (d : UInt8) :
    (pre ++ d :: x).take (pre.length + 1) = pre ++ [d] := by
  rw [← List.singleton_append, ← List.append_assoc]; exact List.take_left' (by simp)

@[simp] theorem drop_split (pre x : Bytes) (d : UInt8) :
    (pre ++ d :: x).drop (pre.length + 1) = x := by
  rw [← List.singleton_append, ← List.append_assoc]; exact List.drop_left' (by simp)

/-- A fill while the delimiter is still on the connection, inside the leading
chunks `A`: it reads from `A` only, and without error. -/
theorem fill_of_chunks_append {b : BufReader} (positive : 0 < b.rd.N) {A B : List Bytes}
    (chunks : b.rd.R.chunks = A ++ B) (nonempty : A ≠ []) :
    ∃ p A', b.fill.buffered = b.buffered ++ p ∧ b.fill.err = none ∧
      b.fill.rd.N = b.rd.N - p.length ∧ b.fill.rd.R.chunks = A' ++ B ∧
      p ++ A'.flatten = A.flatten ∧ b.fill.rd.R.ending = b.rd.R.ending ∧
      b.rd.R.bytes = p ++ b.fill.rd.R.bytes := by
  obtain ⟨c, A₀, rfl⟩ := List.exists_cons_of_ne_nil nonempty
  have notExhausted : ¬ b.rd.N ≤ 0 := by omega
  let k := if b.rd.N < ↑(readerPoolSize - b.buffered.length) then b.rd.N.toNat
    else readerPoolSize - b.buffered.length
  obtain ⟨A', rest, flat⟩ := Source.read_append_chunks chunks nonempty k
  obtain ⟨-, err, -⟩ := Source.read_of_chunks_cons chunks k
  refine ⟨(b.rd.R.read k).data, A', ?_, ?_, ?_, ?_, flat, ?_, ?_⟩ <;>
    simp only [fill, Limited.read, Source.asReader, notExhausted, if_false, k] at err rest ⊢
  · exact err
  · exact rest
  · exact Source.ending_read _ _
  · exact (Source.read_data_append_bytes _ _).symm

/-- Where a successful scan leaves the reader: no pending error, the chunks
`B` untouched, the bytes `mid` after the delimiter split between the buffer
and the leading chunks still on the connection, and `N` lowered by exactly
what the connection gave. -/
structure Scanned (B : List Bytes) (mid : Bytes) (b b' : BufReader) : Prop where
  err : b'.err = none
  chunks : ∃ A', b'.rd.R.chunks = A' ++ B ∧ b'.buffered ++ A'.flatten = mid
  ending : b'.rd.R.ending = b.rd.R.ending
  taken : ∃ t, b.rd.R.bytes = t ++ b'.rd.R.bytes ∧ b'.rd.N = b.rd.N - t.length

/-- **A successful scan.** When the buffer followed by the leading chunks `A`
holds `pre ++ delim :: mid` with no delimiter in `pre`, and the bytes still to
be read for it fit in `N`, `ReadString` returns `pre ++ [delim]` with no error;
it leaves `mid` between the buffer and `A`'s rest, and never reads into `B`. -/
theorem scanFrom_found (delim : UInt8) (B : List Bytes) :
    ∀ (n : Nat) (b : BufReader), b.measure < n →
      ∀ (acc pre mid : Bytes) (A : List Bytes), delim ∉ pre → b.err = none →
        b.rd.R.chunks = A ++ B → b.buffered ++ A.flatten = pre ++ delim :: mid →
        (pre.length < b.buffered.length ∨ (pre.length : Int) + 1 ≤ b.buffered.length + b.rd.N) →
        ∃ b', scanFrom delim acc b = (acc ++ pre ++ [delim], none, b') ∧ Scanned B mid b b'
  | 0, _, small => absurd small (Nat.not_lt_zero _)
  | n + 1, b, small => by
    intro acc pre mid A notMem noErr chunks split budget
    obtain ⟨buf, err, rd⟩ := b
    subst noErr
    rw [scanFrom_eq]
    rcases split_first notMem split with ⟨x, buffered, rfl⟩ | ⟨notFound, pre₂, rfl, flat⟩
    · -- the delimiter is already in the buffer
      subst buffered
      refine ⟨⟨x, none, rd⟩, ?_, ⟨rfl, ⟨A, chunks, rfl⟩, rfl, ⟨[], by simp⟩⟩⟩
      simp [indexOf_split notMem]
    · have notIdx : ¬ buf.indexOf delim < buf.length := by
        rwa [List.indexOf_lt_length]
      rw [if_neg notIdx]
      simp only [List.length_append] at budget
      have nonempty : A ≠ [] := by
        rintro rfl; simp at flat
      by_cases full : readerPoolSize ≤ buf.length
      · -- a full buffer is given up as a fragment
        rw [if_pos full]
        have shorter : (⟨[], none, rd⟩ : BufReader).measure < n := by
          have := @measure_flush_lt ⟨buf, none, rd⟩ full; simp only at this; omega
        obtain ⟨b', eq, post⟩ := scanFrom_found delim B n ⟨[], none, rd⟩ shorter (acc ++ buf) pre₂
          mid A (fun mem => notMem (List.mem_append_right _ mem)) rfl chunks (by simpa using flat)
          (.inr (by simp; omega))
        exact ⟨b', by simpa using eq, post.err, post.chunks, post.ending, post.taken⟩
      · rw [if_neg full]
        obtain ⟨p, A', buffered, err, limit, rest, taken, ending, conserve⟩ :=
          fill_of_chunks_append (by simp at budget ⊢; omega) chunks nonempty
        obtain ⟨b', eq, post⟩ := scanFrom_found delim B n (BufReader.fill ⟨buf, none, rd⟩)
          (by have := @measure_fill_lt ⟨buf, none, rd⟩ rfl (Nat.lt_of_not_le full); omega) acc
          (buf ++ pre₂) mid A' notMem err rest
          (by rw [buffered, List.append_assoc, taken, flat, List.append_assoc])
          (by rw [buffered, limit]; simp only [List.length_append] at budget ⊢; push_cast; omega)
        refine ⟨b', eq, post.err, post.chunks, post.ending.trans ending, ?_⟩
        obtain ⟨t, bytes, left⟩ := post.taken
        exact ⟨p ++ t, by rw [conserve, bytes, List.append_assoc],
          by rw [left, limit]; simp; omega⟩

/-! ## What a successful scan took -/

/-- A delimiter in a list: the list is the bytes before its first occurrence,
the delimiter, and the rest. -/
theorem split_at_indexOf {delim : UInt8} :
    ∀ {l : Bytes}, l.indexOf delim < l.length →
      ∃ pre x, delim ∉ pre ∧ l = pre ++ delim :: x ∧ l.indexOf delim = pre.length
  | [], found => absurd found (Nat.not_lt_zero _)
  | y :: ys, found => by
    by_cases first : y = delim
    · exact ⟨[], ys, List.not_mem_nil _, by rw [first]; rfl, List.indexOf_cons_eq _ first⟩
    · rw [List.indexOf_cons_ne _ first, List.length_cons] at found
      obtain ⟨pre, x, notMem, split, index⟩ := split_at_indexOf (Nat.lt_of_succ_lt_succ found)
      refine ⟨y :: pre, x, ?_, by rw [split]; rfl, ?_⟩
      · simpa [Ne.symm first] using notMem
      · rw [List.indexOf_cons_ne _ first, index]; rfl

/-- A `fill` moves bytes from the front of the connection to the end of the
buffer: the buffer followed by the connection stays as it was. -/
theorem fill_conserves (b : BufReader) (room : b.buffered.length < readerPoolSize) :
    b.fill.buffered ++ b.fill.rd.R.bytes = b.buffered ++ b.rd.R.bytes := by
  rcases fill_cases b room with ⟨-, filled⟩ | ⟨-, -, filled⟩ |
    ⟨-, p, -, -, -, buffered, -, -, bytes, -⟩
  · rw [filled]
  · rw [filled]
  · rw [buffered, bytes, List.append_assoc]

/-- What a successful `ReadString` took. A scan that returns no error
returns the fragments it started with, then bytes with no delimiter and the
delimiter; and the buffer followed by the connection held exactly those
bytes, then what the scan leaves in the buffer and on the connection. -/
theorem scanFrom_sound (delim : UInt8) (acc : Bytes) (b : BufReader)
    (ok : (scanFrom delim acc b).2.1 = none) :
    ∃ pre, delim ∉ pre ∧ (scanFrom delim acc b).1 = acc ++ pre ++ [delim] ∧
      b.buffered ++ b.rd.R.bytes = pre ++ [delim] ++ (scanFrom delim acc b).2.2.buffered ++
        (scanFrom delim acc b).2.2.rd.R.bytes :=
  @scan_invariant delim
    (fun acc' b' => ∃ seen, delim ∉ seen ∧ acc' = acc ++ seen ∧
      b.buffered ++ b.rd.R.bytes = seen ++ b'.buffered ++ b'.rd.R.bytes)
    (fun r => r.2.1 = none → ∃ pre, delim ∉ pre ∧ r.1 = acc ++ pre ++ [delim] ∧
      b.buffered ++ b.rd.R.bytes = pre ++ [delim] ++ r.2.2.buffered ++ r.2.2.rd.R.bytes)
    (fun acc' b' ⟨seen, unseen, accEq, total⟩ found _ => by
      obtain ⟨pre, x, notMem, split, index⟩ := split_at_indexOf found
      rw [index]
      rw [split] at total ⊢
      refine ⟨seen ++ pre, fun mem => ?_, ?_, ?_⟩
      · rcases List.mem_append.mp mem with inSeen | inPre
        exacts [unseen inSeen, notMem inPre]
      · simp [accEq, List.append_assoc]
      · simp [total, List.append_assoc])
    (fun _ _ _ _ _ _ failed => nomatch failed)
    (fun acc' b' ⟨seen, unseen, accEq, total⟩ notFound _ _ => by
      have notMem : delim ∉ b'.buffered := fun mem => notFound (List.indexOf_lt_length.mpr mem)
      refine ⟨seen ++ b'.buffered, fun mem => ?_, by rw [accEq, List.append_assoc], ?_⟩
      · rcases List.mem_append.mp mem with inSeen | inBuf
        exacts [unseen inSeen, notMem inBuf]
      · simpa [List.append_assoc] using total)
    (fun acc' b' ⟨seen, unseen, accEq, total⟩ _ _ room =>
      ⟨seen, unseen, accEq, by rw [total, List.append_assoc, List.append_assoc,
        fill_conserves b' room]⟩)
    _ acc b (Nat.lt_succ_self _) ⟨[], List.not_mem_nil _, by simp, by simp⟩ ok

/-- `ReadString` loses no byte. Whatever a scan returns, the buffer
followed by the connection held the bytes it returned past its fragments,
then what it leaves in the buffer and on the connection; a scan that returns
an error leaves the buffer empty. -/
theorem scanFrom_conserves (delim : UInt8) (acc : Bytes) (b : BufReader) :
    ∃ taken, (scanFrom delim acc b).1 = acc ++ taken ∧
      b.buffered ++ b.rd.R.bytes = taken ++ (scanFrom delim acc b).2.2.buffered ++
        (scanFrom delim acc b).2.2.rd.R.bytes ∧
      ((scanFrom delim acc b).2.1 ≠ none → (scanFrom delim acc b).2.2.buffered = []) :=
  @scan_invariant delim
    (fun acc' b' => ∃ seen, acc' = acc ++ seen ∧
      b.buffered ++ b.rd.R.bytes = seen ++ b'.buffered ++ b'.rd.R.bytes)
    (fun r => ∃ taken, r.1 = acc ++ taken ∧
      b.buffered ++ b.rd.R.bytes = taken ++ r.2.2.buffered ++ r.2.2.rd.R.bytes ∧
      (r.2.1 ≠ none → r.2.2.buffered = []))
    (fun acc' b' ⟨seen, accEq, total⟩ _ =>
      ⟨seen ++ b'.buffered.take (b'.buffered.indexOf delim + 1), by simp [accEq],
        by simpa [List.append_assoc] using total, nofun⟩)
    (fun acc' b' _ ⟨seen, accEq, total⟩ _ _ =>
      ⟨seen ++ b'.buffered, by simp [accEq], by simpa [List.append_assoc] using total,
        fun _ => rfl⟩)
    (fun acc' b' ⟨seen, accEq, total⟩ _ _ _ =>
      ⟨seen ++ b'.buffered, by rw [accEq, List.append_assoc],
        by simpa [List.append_assoc] using total⟩)
    (fun acc' b' ⟨seen, accEq, total⟩ _ _ room =>
      ⟨seen, accEq, by rw [total, List.append_assoc, List.append_assoc,
        fill_conserves b' room]⟩)
    _ acc b (Nat.lt_succ_self _) ⟨[], by simp, by simp⟩

end BufReader
end Socks
