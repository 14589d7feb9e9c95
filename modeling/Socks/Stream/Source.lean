import Socks.Wire

/-!
# Readers and writers

The connection a codec reads is a `Source`: the chunks that successive `Read`
calls hand out, then the error that ends the stream. A chunk is handed out
whole or in prefixes, never merged with the next one, so a source fixes how
the stream is split into reads. `io.ReadFull`, `io.ReadAll` and the byte
accounting of `Write` are modelled over it.

The main facts are conservation (`read_data_append_bytes`): what a read
returns followed by what is left is what was there, and the shapes of
`readFull` on a stream that is long enough (`readFull_of_le`) or too short
(`readFull_of_lt`).
-/

namespace Socks

/-- A byte stream as successive `Read` calls hand it out. Each call returns a
prefix of the first chunk; once no chunk is left every call returns
`ending` (`io.EOF` for a stream that closes cleanly). Chunks are not empty, so
no call returns zero bytes without an error. -/
structure Source where
  chunks : List Bytes
  ending : Error
  chunks_ne_nil : ∀ c ∈ chunks, c ≠ []

/-- What a read leaves behind: the bytes it returned, its error, and the
source after it. -/
structure Got where
  data : Bytes
  err : Option Error
  rest : Source

/-- What a `ReadFrom` call leaves behind: the receiver as the call left it, the
count it returns, its error, and the connection after the bytes it took. -/
structure Decoded (α : Type) where
  msg : α
  n : Nat
  err : Option Error
  rest : Source

namespace Source

/-- The bytes still to be read. -/
def bytes (src : Source) : Bytes := src.chunks.flatten

/-- The source with its first chunk replaced by `c.drop k`, for `k < len(c)`. -/
def dropHead (src : Source) (c : Bytes) (cs : List Bytes) (chunks : src.chunks = c :: cs)
    (k : Nat) (short : k < c.length) : Source :=
  ⟨c.drop k :: cs, src.ending, by
    intro x mem
    rcases List.mem_cons.mp mem with rfl | mem
    · simpa using short
    · exact src.chunks_ne_nil x (by simp [chunks, mem])⟩

/-- The source without its first chunk. -/
def dropChunk (src : Source) (c : Bytes) (cs : List Bytes) (chunks : src.chunks = c :: cs) :
    Source :=
  ⟨cs, src.ending, fun x mem => src.chunks_ne_nil x (by simp [chunks, mem])⟩

/-- `Read(p)` with `len(p) = k`: the first `k` bytes of the first chunk, all of
it when it is shorter, and the ending once the chunks are gone. -/
def read (src : Source) (k : Nat) : Got :=
  match chunks : src.chunks with
  | [] => ⟨[], some src.ending, src⟩
  | c :: cs =>
    if short : k < c.length then ⟨c.take k, none, src.dropHead c cs chunks k short⟩
    else ⟨c, none, src.dropChunk c cs chunks⟩

/-- The source holding `chunks` then the ending `ending`. -/
def ofChunks (chunks : List Bytes) (ending : Error) (ne : ∀ c ∈ chunks, c ≠ []) : Source :=
  ⟨chunks, ending, ne⟩

@[simp] theorem chunks_dropHead {src : Source} {c : Bytes} {cs : List Bytes}
    {chunks : src.chunks = c :: cs} {k : Nat} {short : k < c.length} :
    (src.dropHead c cs chunks k short).chunks = c.drop k :: cs := rfl

@[simp] theorem chunks_dropChunk {src : Source} {c : Bytes} {cs : List Bytes}
    {chunks : src.chunks = c :: cs} : (src.dropChunk c cs chunks).chunks = cs := rfl

@[simp] theorem bytes_dropHead {src : Source} {c : Bytes} {cs : List Bytes}
    {chunks : src.chunks = c :: cs} {k : Nat} {short : k < c.length} :
    (src.dropHead c cs chunks k short).bytes = c.drop k ++ cs.flatten := rfl

@[simp] theorem bytes_dropChunk {src : Source} {c : Bytes} {cs : List Bytes}
    {chunks : src.chunks = c :: cs} : (src.dropChunk c cs chunks).bytes = cs.flatten := rfl

@[simp] theorem ending_read (src : Source) (k : Nat) : (src.read k).rest.ending = src.ending := by
  unfold read; split
  · rfl
  · split <;> rfl

theorem bytes_eq_nil_iff (src : Source) : src.bytes = [] ↔ src.chunks = [] := by
  constructor
  · intro empty
    cases chunks : src.chunks with
    | nil => rfl
    | cons c cs =>
      have : c = [] := by simpa [bytes, chunks] using congrArg (·.take c.length) empty
      exact absurd this (src.chunks_ne_nil c (by simp [chunks]))
  · intro chunks; simp [bytes, chunks]

/-- Conservation: what a read returns, then what it leaves, is what was there. -/
theorem read_data_append_bytes (src : Source) (k : Nat) :
    (src.read k).data ++ (src.read k).rest.bytes = src.bytes := by
  unfold read; split
  · rename_i chunks; simp [bytes, chunks]
  · rename_i c cs chunks
    split <;> simp [bytes, chunks, ← List.append_assoc]

/-- A read returns `min k n` bytes, `n` the length of the first chunk, and an
error exactly when no chunk is left. -/
theorem read_of_chunks_cons {src : Source} {c : Bytes} {cs : List Bytes}
    (chunks : src.chunks = c :: cs) (k : Nat) :
    (src.read k).data = c.take k ∧ (src.read k).err = none ∧
      (src.read k).rest.chunks = (if k < c.length then [c.drop k] else []) ++ cs := by
  unfold read; split
  · rename_i h; simp [h] at chunks
  · rename_i c' cs' h
    rw [h] at chunks; cases chunks
    by_cases short : k < c.length
    · simp [short]
    · simp [short, List.take_of_length_le (Nat.le_of_not_lt short)]

theorem read_of_chunks_nil {src : Source} (chunks : src.chunks = []) (k : Nat) :
    src.read k = ⟨[], some src.ending, src⟩ := by
  unfold read; split
  · rfl
  · rename_i h; simp [h] at chunks

/-- Reading fewer bytes than a leading group of chunks `A` holds never
touches the chunks `B` after it. -/
theorem read_append_chunks {src : Source} {A B : List Bytes} (chunks : src.chunks = A ++ B)
    (nonempty : A ≠ []) (k : Nat) :
    ∃ A', (src.read k).rest.chunks = A' ++ B ∧ (src.read k).data ++ A'.flatten = A.flatten := by
  obtain ⟨c, A, rfl⟩ := List.exists_cons_of_ne_nil nonempty
  obtain ⟨data, -, rest⟩ := read_of_chunks_cons chunks k
  refine ⟨(if k < c.length then [c.drop k] else []) ++ A, by simp [rest], ?_⟩
  rw [data]
  by_cases short : k < c.length
  · simp [short, ← List.append_assoc]
  · simp [short, List.take_of_length_le (Nat.le_of_not_lt short)]

/-! ## `io.ReadFull` and `io.ReadAll` -/

/-- The loop of `io.ReadAtLeast(src, buf, k)` over the chunks `cs`: each
`Read(buf[n:])` asks for the `k - n` bytes still missing and gets them from
the first chunk, or the whole chunk when it is shorter. -/
def readLoop (ending : Error) : (cs : List Bytes) → (∀ c ∈ cs, c ≠ []) → Nat → Got
  | cs, ne, 0 => ⟨[], none, ⟨cs, ending, ne⟩⟩
  | [], ne, _ + 1 => ⟨[], some ending, ⟨[], ending, ne⟩⟩
  | c :: cs, ne, k + 1 =>
    if short : k + 1 < c.length then
      ⟨c.take (k + 1), none, ⟨c.drop (k + 1) :: cs, ending, by
        intro x mem
        rcases List.mem_cons.mp mem with rfl | mem
        · simpa using short
        · exact ne x (List.mem_cons_of_mem c mem)⟩⟩
    else
      let g := readLoop ending cs (fun x mem => ne x (List.mem_cons_of_mem c mem))
        (k + 1 - c.length)
      ⟨c ++ g.data, g.err, g.rest⟩

/-- `io.ReadFull(src, buf)` with `len(buf) = k`: the loop's error is dropped when
`k` bytes arrived, and an `io.EOF` after some bytes becomes
`io.ErrUnexpectedEOF`. -/
def readFull (src : Source) (k : Nat) : Got :=
  let g := readLoop src.ending src.chunks src.chunks_ne_nil k
  ⟨g.data,
    if k ≤ g.data.length then none
    else if g.data ≠ [] ∧ g.err = some .eof then some .unexpectedEOF else g.err,
    g.rest⟩

/-- `io.ReadAll(src)`: every chunk, then `nil` for an `io.EOF` ending and the
ending itself otherwise. -/
def readAll (src : Source) : Got :=
  ⟨src.bytes, if src.ending = .eof then none else some src.ending, ⟨[], src.ending, by simp⟩⟩

@[simp] theorem data_readAll (src : Source) : src.readAll.data = src.bytes := rfl

@[simp] theorem bytes_readAll (src : Source) : src.readAll.rest.bytes = [] := rfl

theorem ending_readLoop (ending : Error) :
    ∀ (cs : List Bytes) (ne : ∀ c ∈ cs, c ≠ []) (k : Nat),
      (readLoop ending cs ne k).rest.ending = ending
  | cs, ne, 0 => by simp [readLoop]
  | [], ne, _ + 1 => by simp [readLoop]
  | c :: cs, ne, k + 1 => by
    unfold readLoop
    split
    · rfl
    · exact ending_readLoop ending cs _ _

/-- Reads never change how the stream ends. -/
@[simp] theorem ending_readFull (src : Source) (k : Nat) :
    (src.readFull k).rest.ending = src.ending :=
  ending_readLoop src.ending src.chunks src.chunks_ne_nil k

theorem readLoop_of_le (ending : Error) :
    ∀ (cs : List Bytes) (ne : ∀ c ∈ cs, c ≠ []) (k : Nat), k ≤ cs.flatten.length →
      (readLoop ending cs ne k).data = cs.flatten.take k ∧ (readLoop ending cs ne k).err = none ∧
        (readLoop ending cs ne k).rest.bytes = cs.flatten.drop k
  | cs, ne, 0, _ => by simp [readLoop, bytes]
  | [], ne, k + 1, long => by simp at long
  | c :: cs, ne, k + 1, long => by
    by_cases short : k + 1 < c.length
    · simp [readLoop, short, bytes, List.take_append_of_le_length (Nat.le_of_lt short),
        List.drop_append_of_le_length (Nat.le_of_lt short)]
    · have rest := readLoop_of_le ending cs (fun x mem => ne x (List.mem_cons_of_mem c mem))
        (k + 1 - c.length) (by rw [List.flatten_cons, List.length_append] at long; omega)
      simp only [readLoop, short, dite_false]
      refine ⟨?_, rest.2.1, ?_⟩
      · rw [rest.1, List.flatten_cons, List.take_append_eq_append_take,
          List.take_of_length_le (show c.length ≤ k + 1 by omega)]
      · rw [rest.2.2, List.flatten_cons, List.drop_append_eq_append_drop,
          List.drop_of_length_le (show c.length ≤ k + 1 by omega), List.nil_append]

theorem readLoop_of_lt (ending : Error) :
    ∀ (cs : List Bytes) (ne : ∀ c ∈ cs, c ≠ []) (k : Nat), cs.flatten.length < k →
      (readLoop ending cs ne k).data = cs.flatten ∧ (readLoop ending cs ne k).err = some ending ∧
        (readLoop ending cs ne k).rest.chunks = []
  | cs, ne, 0, short => by simp at short
  | [], ne, k + 1, _ => by simp [readLoop]
  | c :: cs, ne, k + 1, short => by
    rw [List.flatten_cons, List.length_append] at short
    have long : ¬ k + 1 < c.length := by omega
    have rest := readLoop_of_lt ending cs (fun x mem => ne x (List.mem_cons_of_mem c mem))
      (k + 1 - c.length) (by omega)
    simp only [readLoop, long, dite_false, List.flatten_cons]
    exact ⟨by rw [rest.1], rest.2.1, rest.2.2⟩

/-- `io.ReadFull` on a stream holding at least `k` bytes returns the first `k`
and leaves the others. -/
theorem readFull_of_le {src : Source} {k : Nat} (long : k ≤ src.bytes.length) :
    (src.readFull k).data = src.bytes.take k ∧ (src.readFull k).err = none ∧
      (src.readFull k).rest.bytes = src.bytes.drop k := by
  obtain ⟨data, -, rest⟩ := readLoop_of_le src.ending src.chunks src.chunks_ne_nil k long
  refine ⟨data, ?_, rest⟩
  simp only [readFull, data, List.length_take]
  simp [bytes] at long ⊢; omega

/-- `io.ReadFull` of exactly the length of a prefix `pre` returns `pre` and
leaves the rest. -/
theorem readFull_eq {src : Source} {pre post : Bytes} (bytes : src.bytes = pre ++ post)
    {k : Nat} (length : pre.length = k) :
    ∃ rest, src.readFull k = ⟨pre, none, rest⟩ ∧ rest.bytes = post := by
  subst length
  obtain ⟨data, err, rest⟩ := @readFull_of_le src pre.length (by simp [bytes])
  rw [bytes, List.take_left' rfl] at data
  rw [bytes, List.drop_left' rfl] at rest
  generalize src.readFull pre.length = g at data err rest
  cases g
  exact ⟨_, by simp_all, rest⟩

/-- `io.ReadFull` on a stream shorter than `k` bytes returns all of it, with
`io.ErrUnexpectedEOF` when some bytes came before an `io.EOF`. -/
theorem readFull_of_lt {src : Source} {k : Nat} (short : src.bytes.length < k) :
    (src.readFull k).data = src.bytes ∧
      (src.readFull k).err = (if src.bytes ≠ [] ∧ src.ending = .eof then some .unexpectedEOF
        else some src.ending) ∧
      (src.readFull k).rest.bytes = [] := by
  obtain ⟨data, err, rest⟩ := readLoop_of_lt src.ending src.chunks src.chunks_ne_nil k short
  have notLe : ¬ k ≤ src.chunks.flatten.length := Nat.not_le_of_lt short
  refine ⟨data, ?_, by simp [bytes, readFull, rest]⟩
  simp only [readFull, data, err, bytes, if_neg notLe, Option.some.injEq]

/-- `io.ReadFull` that returns no error has read the first `k` bytes of the
stream and left the others. -/
theorem readFull_of_err_eq_none {src : Source} {k : Nat} (ok : (src.readFull k).err = none) :
    (src.readFull k).data.length = k ∧
      src.bytes = (src.readFull k).data ++ (src.readFull k).rest.bytes := by
  by_cases long : k ≤ src.bytes.length
  · obtain ⟨data, -, rest⟩ := readFull_of_le long
    rw [data, rest, List.take_append_drop, List.length_take]
    exact ⟨Nat.min_eq_left long, rfl⟩
  · obtain ⟨-, err, -⟩ := readFull_of_lt (Nat.lt_of_not_le long)
    rw [ok] at err
    split at err <;> simp at err

/-- `io.ReadFull` loses no byte: what it returns, then what it leaves, is the
stream, whatever the error. -/
theorem readFull_conserves (src : Source) (k : Nat) :
    (src.readFull k).data ++ (src.readFull k).rest.bytes = src.bytes := by
  by_cases long : k ≤ src.bytes.length
  · obtain ⟨data, -, rest⟩ := readFull_of_le long
    rw [data, rest, List.take_append_drop]
  · obtain ⟨data, -, rest⟩ := readFull_of_lt (Nat.lt_of_not_le long)
    rw [data, rest, List.append_nil]

theorem readLoop_append_chunks (ending : Error) (B : List Bytes) :
    ∀ (A : List Bytes) (ne : ∀ c ∈ A ++ B, c ≠ []) (k : Nat), k ≤ A.flatten.length →
      ∃ A', (readLoop ending (A ++ B) ne k).rest.chunks = A' ++ B ∧
        A'.flatten = A.flatten.drop k
  | A, ne, 0, _ => ⟨A, by simp [readLoop]⟩
  | [], ne, k + 1, long => by simp at long
  | c :: A, ne, k + 1, long => by
    rw [List.flatten_cons, List.length_append] at long
    by_cases short : k + 1 < c.length
    · refine ⟨c.drop (k + 1) :: A, by simp [readLoop, short], ?_⟩
      simp [List.drop_append_of_le_length (Nat.le_of_lt short)]
    · obtain ⟨A', rest, flat⟩ := readLoop_append_chunks ending B A
        (fun x mem => ne x (List.mem_cons_of_mem c mem)) (k + 1 - c.length) (by omega)
      refine ⟨A', by simpa [readLoop, short] using rest, ?_⟩
      rw [flat, List.flatten_cons, List.drop_append_eq_append_drop,
        List.drop_of_length_le (show c.length ≤ k + 1 by omega), List.nil_append]

/-- `io.ReadFull` of `k` bytes from chunks `A ++ B` with `A` holding at least
`k` bytes leaves `B` as it was. -/
theorem readFull_append_chunks {src : Source} {A B : List Bytes} (chunks : src.chunks = A ++ B)
    {k : Nat} (long : k ≤ A.flatten.length) :
    ∃ A', (src.readFull k).rest.chunks = A' ++ B ∧ A'.flatten = A.flatten.drop k := by
  obtain ⟨cs, e, ne⟩ := src
  subst chunks
  exact readLoop_append_chunks e B A ne k long

end Source

/-- `readFrom` takes exactly the encoding of every message satisfying `ok` off
any connection, whatever follows it and however the connection's reads split
the bytes, and leaves what follows. -/
def ReadsExactly {α : Type} (ok : α → Prop) (encode : α → Bytes)
    (readFrom : α → Source → Decoded α) : Prop :=
  ∀ m, ok m → ∀ (r₀ : α) (src : Source) (s : Bytes), src.bytes = encode m ++ s →
    (readFrom r₀ src).n = (encode m).length ∧ (readFrom r₀ src).err = none ∧
      (readFrom r₀ src).rest.bytes = s

/-- `readFrom` accepts only messages satisfying `ok`, and the encoding of what it
accepted is exactly the bytes it took off the connection. -/
def AcceptsOnly {α : Type} (ok : α → Prop) (encode : α → Bytes)
    (readFrom : α → Source → Decoded α) : Prop :=
  ∀ (r₀ : α) (src : Source), (readFrom r₀ src).err = none →
    ok (readFrom r₀ src).msg ∧
      src.bytes = encode (readFrom r₀ src).msg ++ (readFrom r₀ src).rest.bytes ∧
      (readFrom r₀ src).n = (encode (readFrom r₀ src).msg).length

/-- A decoder that returns some message, the encoding's length and no error on
every connection holding an encoding, and leaves what follows, reads exactly. -/
theorem ReadsExactly.of_decode {α : Type} {ok : α → Prop} {encode : α → Bytes}
    {readFrom : α → Source → Decoded α}
    (decode : ∀ m, ok m → ∀ (r₀ : α) (src : Source) (s : Bytes), src.bytes = encode m ++ s →
      ∃ m' rest, readFrom r₀ src = ⟨m', (encode m).length, none, rest⟩ ∧ rest.bytes = s) :
    ReadsExactly ok encode readFrom := by
  intro m valid r₀ src s bytes
  obtain ⟨m', rest, read, left⟩ := decode m valid r₀ src s bytes
  simp [read, left]

theorem ReadsExactly.mono {α : Type} {ok ok' : α → Prop} {encode : α → Bytes}
    {readFrom : α → Source → Decoded α} (reads : ReadsExactly ok encode readFrom)
    (imp : ∀ m, ok' m → ok m) : ReadsExactly ok' encode readFrom :=
  fun m valid => reads m (imp m valid)

/-- `readFrom` decodes the messages satisfying `ok`, written as `encode` writes
them: it takes exactly their encodings off a connection, and nothing else. -/
def Decodes {α : Type} (ok : α → Prop) (encode : α → Bytes)
    (readFrom : α → Source → Decoded α) : Prop :=
  ReadsExactly ok encode readFrom ∧ AcceptsOnly ok encode readFrom

/-- A decoder returns no error exactly on the connections that start with the
encoding of a message it decodes. -/
theorem Decodes.err_eq_none_iff {α : Type} {ok : α → Prop} {encode : α → Bytes}
    {readFrom : α → Source → Decoded α} (decodes : Decodes ok encode readFrom) (r₀ : α)
    (src : Source) : (readFrom r₀ src).err = none ↔ ∃ m s, ok m ∧ src.bytes = encode m ++ s :=
  ⟨fun accepted => let ⟨valid, bytes, _⟩ := decodes.2 r₀ src accepted; ⟨_, _, valid, bytes⟩,
    fun ⟨m, s, valid, bytes⟩ => (decodes.1 m valid r₀ src s bytes).2.1⟩

/-! ## Writers -/

/-- A writer. `answer written p` is what `Write(p)` returns when the writer has
accepted `written` so far; it keeps the first `n` bytes of `p`, and `n` is at
most `len(p)`, as `io.Writer` requires. -/
structure Sink where
  written : Bytes
  answer : Bytes → Bytes → Nat × Option Error

/-- What a write leaves behind: the count it returns, its error, and the
writer after it. -/
structure Wrote where
  n : Nat
  err : Option Error
  dst : Sink

namespace Sink

/-- `dst.Write(p)`, and `io.WriteString(dst, s)` with the same bytes. -/
def write (w : Sink) (p : Bytes) : Wrote :=
  let n := min (w.answer w.written p).1 p.length
  ⟨n, (w.answer w.written p).2, { w with written := w.written ++ p.take n }⟩

/-- A writer that accepts every byte it is handed. -/
def accepting (written : Bytes) : Sink := ⟨written, fun _ p => (p.length, none)⟩

@[simp] theorem written_accepting (written : Bytes) : (accepting written).written = written := rfl

@[simp] theorem write_accepting (written p : Bytes) :
    (accepting written).write p = ⟨p.length, none, accepting (written ++ p)⟩ := by
  simp [write, accepting]

/-- A writer whose every `Write` takes the whole buffer with a nil error is
`accepting`. -/
theorem eq_accepting {w : Sink} (ok : ∀ x p, w.answer x p = (p.length, none)) :
    w = accepting w.written := by
  obtain ⟨written, answer⟩ := w
  simp only [accepting, mk.injEq, true_and]
  funext x p
  exact ok x p

/-- A write appends what the writer took, as many bytes as it counts. -/
theorem write_appends (w : Sink) (p : Bytes) :
    (w.write p).dst = ⟨w.written ++ p.take (w.write p).n, w.answer⟩ ∧
      (p.take (w.write p).n).length = (w.write p).n := by
  refine ⟨rfl, ?_⟩
  simp only [write, List.length_take]
  omega

/-! ### Writing a frame in pieces -/

/-- The writes of a `WriteTo`: one `Write` per piece, in order, stopping at
the first error, with the counts added up. -/
def writeAll (dst : Sink) : List Bytes → Wrote
  | [] => ⟨0, none, dst⟩
  | p :: ps =>
    let w := dst.write p
    match w.err with
    | some e => ⟨w.n, some e, w.dst⟩
    | none =>
      let rest := w.dst.writeAll ps
      ⟨w.n + rest.n, rest.err, rest.dst⟩

@[simp] theorem writeAll_nil (dst : Sink) : dst.writeAll [] = ⟨0, none, dst⟩ := rfl

theorem writeAll_cons (dst : Sink) (p : Bytes) (ps : List Bytes) :
    dst.writeAll (p :: ps) =
      match (dst.write p).err with
      | some e => ⟨(dst.write p).n, some e, (dst.write p).dst⟩
      | none =>
        ⟨(dst.write p).n + ((dst.write p).dst.writeAll ps).n, ((dst.write p).dst.writeAll ps).err,
          ((dst.write p).dst.writeAll ps).dst⟩ := rfl

theorem writeAll_singleton (dst : Sink) (p : Bytes) : dst.writeAll [p] = dst.write p := by
  simp only [writeAll]
  generalize dst.write p = w
  obtain ⟨n, err, w⟩ := w
  cases err <;> rfl

/-- Two writes, the second only if the first returned a nil error. -/
theorem writeAll_pair (dst : Sink) (p q : Bytes) :
    dst.writeAll [p, q] =
      match (dst.write p).err with
      | some e => ⟨(dst.write p).n, some e, (dst.write p).dst⟩
      | none =>
        ⟨(dst.write p).n + ((dst.write p).dst.write q).n, ((dst.write p).dst.write q).err,
          ((dst.write p).dst.write q).dst⟩ := by
  rw [writeAll_cons, writeAll_singleton]

/-- A run of writes that returned no error had no error at its first write,
nor at the rest. -/
theorem writeAll_ok_cons {dst : Sink} {p : Bytes} {ps : List Bytes}
    (ok : (dst.writeAll (p :: ps)).err = none) :
    (dst.write p).err = none ∧ ((dst.write p).dst.writeAll ps).err = none := by
  rw [writeAll_cons] at ok
  cases first : (dst.write p).err with
  | some e => rw [first] at ok; nomatch ok
  | none => rw [first] at ok; exact ⟨rfl, ok⟩

/-- Writing `ps ++ qs` is writing `ps` and, unless that failed, `qs` after it. -/
theorem writeAll_append (dst : Sink) (ps qs : List Bytes) :
    dst.writeAll (ps ++ qs) =
      match (dst.writeAll ps).err with
      | some e => ⟨(dst.writeAll ps).n, some e, (dst.writeAll ps).dst⟩
      | none =>
        ⟨(dst.writeAll ps).n + ((dst.writeAll ps).dst.writeAll qs).n,
          ((dst.writeAll ps).dst.writeAll qs).err, ((dst.writeAll ps).dst.writeAll qs).dst⟩ := by
  induction ps generalizing dst with
  | nil => simp
  | cons p ps ih =>
    simp only [List.cons_append, writeAll, List.append_eq]
    split
    · rfl
    · rw [ih]
      cases ((dst.write p).dst.writeAll ps).err <;> simp [Nat.add_assoc]

/-- The `io.Writer` contract: a `Write` that takes fewer bytes than it was
handed returns a non-nil error. -/
def ErrsOnShortWrite (w : Sink) : Prop :=
  ∀ x p, (w.answer x p).1 < p.length → (w.answer x p).2 ≠ none

/-- Under the contract, a `Write` that returns a nil error took every byte. -/
theorem write_length_of_ok {w : Sink} (honest : w.ErrsOnShortWrite) {p : Bytes}
    (ok : (w.write p).err = none) : (w.write p).n = p.length := by
  have whole := mt (honest w.written p) (not_not.mpr ok)
  simp only [write]
  omega

/-- **What a run of writes owes its caller.** On a writer that keeps the
`io.Writer` contract, the pieces' writes append a prefix of their bytes, all of
them unless an error comes back, and count exactly that prefix. -/
theorem writeAll_prefix {dst : Sink} (honest : dst.ErrsOnShortWrite) (ps : List Bytes) :
    ∃ t, t <+: ps.flatten ∧ (dst.writeAll ps).dst = ⟨dst.written ++ t, dst.answer⟩ ∧
      (dst.writeAll ps).n = t.length ∧ ((dst.writeAll ps).err = none → t = ps.flatten) := by
  induction ps generalizing dst with
  | nil => exact ⟨[], by simp⟩
  | cons p ps ih =>
    obtain ⟨wrote, counted⟩ := write_appends dst p
    simp only [writeAll, List.flatten_cons]
    split
    · next e failed =>
      exact ⟨_, (List.take_prefix _ p).trans (List.prefix_append _ _), wrote, counted.symm,
        fun ok => by simp at ok⟩
    · next ok =>
      have whole : p.take (dst.write p).n = p := by
        rw [write_length_of_ok honest ok, List.take_length]
      obtain ⟨t, pre, rest, restCounted, restWhole⟩ := @ih (dst.write p).dst honest
      refine ⟨p ++ t, (List.prefix_append_right_inj p).mpr pre, ?_, ?_, fun done => ?_⟩
      · rw [rest, wrote, whole, List.append_assoc]
      · rw [restCounted, List.length_append, ← write_length_of_ok honest ok]
      · rw [restWhole done]

end Sink
end Socks
