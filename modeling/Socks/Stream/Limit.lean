import Socks.Stream.Source

/-!
# `internal.LimitedReader` over any reader

`LimitedReader.Read(p)` returns `io.EOF` once `N ≤ 0`; otherwise it cuts `p`
down to `N` bytes, calls `R.Read`, and lowers `N` by the count `R` returned.
Here `R` is any reader: a state of some type and a `Read` on it that returns
at most `len(p)` bytes, as `io.Reader` requires. A run is a list of buffer
sizes, one `Read` call each.

* `Limited.readEach_budget`: over every run from `N ≥ 0`, the bytes returned
  stay within the initial `N`, `N` is the initial `N` less those bytes, and
  once `N ≤ 0` a `Read` returns nothing and `io.EOF` and leaves the reader as
  it was, so every later `Read` does the same.
* `Source.asReader`: a connection is such a reader; the scanner of
  `ReadUserIDAndDomain` reads the connection through `Limited Source`.
-/

namespace Socks

/-- `internal.LimitedReader` over a reader whose state has type `σ`. -/
structure Limited (σ : Type) where
  R : σ
  N : Int

namespace Limited

variable {σ : Type} (readR : σ → Nat → Bytes × Option Error × σ)

/-- `LimitedReader.Read(p)` with `len(p) = k`, `readR` being `R.Read`. -/
def read (l : Limited σ) (k : Nat) : Bytes × Option Error × Limited σ :=
  if l.N ≤ 0 then ([], some .eof, l)
  else
    let got := readR l.R (if l.N < k then l.N.toNat else k)
    (got.1, got.2.1, ⟨got.2.2, l.N - got.1.length⟩)

/-- `Read` calls with buffers of the sizes `ks`, one after another: the bytes
each returned, and the reader after them. -/
def readEach (l : Limited σ) : List Nat → List Bytes × Limited σ
  | [] => ([], l)
  | k :: ks =>
    let got := l.read readR k
    let later := readEach got.2.2 ks
    (got.1 :: later.1, later.2)

/-- An exhausted reader returns nothing and `io.EOF`, and stays as it is. -/
theorem read_of_exhausted {l : Limited σ} (exhausted : l.N ≤ 0) (k : Nat) :
    l.read readR k = ([], some .eof, l) := by
  simp [read, exhausted]

variable {readR}

/-- One `Read` from `N ≥ 0` of a reader that returns at most `len(p)` bytes:
it returns at most `N` bytes and lowers `N` by exactly their count. -/
theorem read_budget (short : ∀ s k, (readR s k).1.length ≤ k) {l : Limited σ} (nonneg : 0 ≤ l.N)
    (k : Nat) :
    ((l.read readR k).1.length : Int) ≤ l.N ∧
      (l.read readR k).2.2.N = l.N - (l.read readR k).1.length := by
  by_cases exhausted : l.N ≤ 0
  · simp [read, exhausted, nonneg]
  have capped : ((if l.N < k then l.N.toNat else k : Nat) : Int) ≤ l.N := by split <;> omega
  have bound := short l.R (if l.N < k then l.N.toNat else k)
  simp only [read, exhausted, if_false, and_true]
  omega

/-- What a run spends: from `N ≥ 0`, the bytes returned stay within `N`, and
`N` drops by exactly their count. -/
theorem readEach_spent (short : ∀ s k, (readR s k).1.length ≤ k) :
    ∀ (l : Limited σ), 0 ≤ l.N → ∀ ks,
      ((l.readEach readR ks).1.flatten.length : Int) ≤ l.N ∧
        (l.readEach readR ks).2.N = l.N - (l.readEach readR ks).1.flatten.length := by
  intro l nonneg ks
  induction ks generalizing l with
  | nil => simp [readEach, nonneg]
  | cons k ks ih =>
    obtain ⟨within, lowered⟩ := read_budget short nonneg k
    obtain ⟨withinRest, loweredRest⟩ := ih (l.read readR k).2.2 (by omega)
    simp only [readEach, List.flatten_cons, List.length_append, Nat.cast_add]
    omega

/-- **The limit holds over every run.** For every reader that returns at most
`len(p)` bytes, every `N ≥ 0` and every list of buffer sizes: the bytes the
calls return stay within `N`, the reader's `N` is the initial `N` less those
bytes, and once it is `≤ 0` a `Read` returns nothing and `io.EOF` and leaves
the reader as it was. -/
theorem readEach_budget (readR : σ → Nat → Bytes × Option Error × σ)
    (short : ∀ s k, (readR s k).1.length ≤ k) (l : Limited σ) (nonneg : 0 ≤ l.N) (ks : List Nat) :
    ((l.readEach readR ks).1.flatten.length : Int) ≤ l.N ∧
      (l.readEach readR ks).2.N = l.N - (l.readEach readR ks).1.flatten.length ∧
      ((l.readEach readR ks).2.N ≤ 0 →
        ∀ k, (l.readEach readR ks).2.read readR k = ([], some .eof, (l.readEach readR ks).2)) :=
  ⟨(readEach_spent short l nonneg ks).1, (readEach_spent short l nonneg ks).2,
    fun exhausted => read_of_exhausted readR exhausted⟩

end Limited

namespace Source

/-- A connection as an `io.Reader`: a `Read` call and the connection after it. -/
def asReader (src : Source) (k : Nat) : Bytes × Option Error × Source :=
  ((src.read k).data, (src.read k).err, (src.read k).rest)

/-- A read of a connection returns at most `len(p)` bytes. -/
theorem read_length_le (src : Source) (k : Nat) : (src.asReader k).1.length ≤ k := by
  cases chunks : src.chunks with
  | nil => simp [asReader, read_of_chunks_nil chunks]
  | cons c cs =>
    simp only [asReader, (read_of_chunks_cons chunks k).1]
    exact List.length_take_le k c

end Source

/-- Five bytes on the connection, `N = 3`, and three reads of two bytes: two
bytes, one byte, then `io.EOF`. -/
theorem Limited.readEach_budget_of_connection :
    let l : Limited Source := ⟨⟨[[1, 2, 3, 4, 5]], .eof, by decide⟩, 3⟩
    ((l.readEach Source.asReader [2, 2, 2]).1.flatten.length : Int) ≤ l.N ∧
      (l.readEach Source.asReader [2, 2, 2]).2.N =
        l.N - (l.readEach Source.asReader [2, 2, 2]).1.flatten.length ∧
      ((l.readEach Source.asReader [2, 2, 2]).2.N ≤ 0 → ∀ k,
        (l.readEach Source.asReader [2, 2, 2]).2.read Source.asReader k =
          ([], some .eof, (l.readEach Source.asReader [2, 2, 2]).2)) :=
  Limited.readEach_budget Source.asReader Source.read_length_le _ (by decide) [2, 2, 2]

end Socks
