import SynchroSonic.Machine.ReadScript

/-!
# A reader behind a buffer

The buffer the standard library puts in front of a source: `read` hands out what the buffer still
holds, refills it with one call to the source when it is empty, and goes around it when the caller
has at least as much room as the buffer. Either way one call asks the source for
`max capacity size` symbols.

What a caller sees depends on the source only through `ReadScript.arrivals`, what its calls return up
to the first error: each arrival is handed out in `pieces` of the caller's size (`read_cases`). Pieces
never span two arrivals.
-/

/-! ### Pieces -/

section Pieces

variable {α : Type*} {n d : ℕ} {data : List α}

/-- Cut into pieces of `n` symbols; the last one takes what is left. -/
def pieces (n : ℕ) (data : List α) : List (List α) :=
  if _h : data = [] ∨ n = 0 then [] else data.take n :: pieces n (data.drop n)
termination_by data.length
decreasing_by
  obtain ⟨hdata, hn⟩ := not_or.1 _h
  have := List.length_pos_of_ne_nil hdata
  rw [List.length_drop]
  omega

@[simp] theorem pieces_nil : pieces n ([] : List α) = [] := by
  rw [pieces]
  simp

theorem pieces_of_ne_nil (hn : 0 < n) (h : data ≠ []) :
    pieces n data = data.take n :: pieces n (data.drop n) := by
  rw [pieces, dif_neg (not_or.2 ⟨h, by omega⟩)]

/-- A piece is not longer than `n`, nor than the data. -/
theorem length_le_of_mem_pieces {piece : List α} (h : piece ∈ pieces n data) :
    piece.length ≤ n ∧ piece.length ≤ data.length := by
  induction data using pieces.induct n with
  | case1 data hstop => simp [pieces, hstop] at h
  | case2 data hgo ih =>
    rw [pieces, dif_neg hgo, List.mem_cons] at h
    rcases h with rfl | h
    · rw [List.length_take]
      omega
    · have := ih h
      rw [List.length_drop] at this
      omega

/-- **Pieces measure what they are cut from.** If `d` divides the size of a piece, it divides the
length of every piece exactly when it divides the length of the data. -/
theorem dvd_length_pieces_iff (hn : 0 < n) (hd : d ∣ n) :
    (∀ piece ∈ pieces n data, d ∣ piece.length) ↔ d ∣ data.length := by
  induction data using pieces.induct n with
  | case1 data hstop =>
    have hnil : data = [] := hstop.resolve_right (by omega)
    simp [hnil]
  | case2 data hgo ih =>
    rw [pieces, dif_neg hgo, List.forall_mem_cons, ih, List.length_take, List.length_drop]
    rcases Nat.le_total n data.length with hle | hle
    · rw [Nat.min_eq_left hle, and_iff_right hd, Nat.dvd_sub_iff_left hle hd]
    · rw [Nat.min_eq_right hle, Nat.sub_eq_zero_of_le hle]
      simp

end Pieces

namespace ReadScript

variable {α ε : Type*}

/-- What the calls to a source return before the first error, if every call has room enough. -/
def arrivals : ReadScript α ε → List (List α)
  | [] => []
  | .fail _ :: _ => []
  | .chunk data _ :: rest => data :: arrivals rest

@[simp] theorem arrivals_nil : arrivals ([] : ReadScript α ε) = [] := rfl

@[simp] theorem arrivals_fail (error : ε) (rest : ReadScript α ε) :
    arrivals (.fail error :: rest) = [] := rfl

@[simp] theorem arrivals_chunk (data : List α) (h : data ≠ []) (rest : ReadScript α ε) :
    arrivals (.chunk data h :: rest) = data :: arrivals rest := rfl

/-- No call returns more than `n` symbols. -/
def Within (n : ℕ) (script : ReadScript α ε) : Prop := ∀ data ∈ script.arrivals, data.length ≤ n

theorem read_of_length_le {n : ℕ} {data : List α} (hdata : data ≠ []) (h : data.length ≤ n)
    (rest : ReadScript α ε) : read n (.chunk data hdata :: rest) = (.ok data, rest) := by
  rw [read, dif_neg (Nat.not_lt.2 h)]

end ReadScript

/-! ### The reader -/

/-- A source behind a buffer of `capacity` symbols. -/
structure BufReader (α ε : Type*) where
  capacity : ℕ
  /-- What was read ahead and not handed out. -/
  buffer : List α := []
  inner : ReadScript α ε

namespace BufReader

variable {α ε : Type*}

/-- `fill_buf`: one call to the source if the buffer is used up. -/
def fillBuf (reader : BufReader α ε) : Except ε Unit × BufReader α ε :=
  if reader.buffer.isEmpty then
    match reader.inner.read reader.capacity with
    | (.error error, inner) => (.error error, { reader with inner })
    | (.ok data, inner) => (.ok (), { reader with buffer := data, inner })
  else (.ok (), reader)

/-- `read`, with room for `size` symbols. An empty buffer is bypassed when the room is at least its
capacity. -/
def read (size : ℕ) (reader : BufReader α ε) : Except ε (List α) × BufReader α ε :=
  if reader.buffer.isEmpty ∧ reader.capacity ≤ size then
    match reader.inner.read size with
    | (result, inner) => (result, { reader with inner })
  else
    match reader.fillBuf with
    | (.error error, reader) => (.error error, reader)
    | (.ok (), reader) =>
      (.ok (reader.buffer.take size), { reader with buffer := reader.buffer.drop size })

/-- What calls to `read` with room for `size` symbols hand out before the first error. -/
def deliveries (size : ℕ) (reader : BufReader α ε) : List (List α) :=
  pieces size reader.buffer ++ reader.inner.arrivals.flatMap (pieces size)

/-- The number of symbols and errors to come, which bounds the number of calls. -/
def remaining (reader : BufReader α ε) : ℕ :=
  reader.buffer.length + (reader.inner.items fun _ ↦ false).length

variable {size : ℕ} {reader : BufReader α ε}

theorem read_of_buffered (h : reader.buffer ≠ []) :
    reader.read size =
      (.ok (reader.buffer.take size), { reader with buffer := reader.buffer.drop size }) := by
  have hempty : reader.buffer.isEmpty = false := by simpa using h
  simp only [read, fillBuf, hempty, Bool.false_eq_true, false_and, if_false]

/-- At the end of the source nothing is handed out. -/
theorem read_of_end (h : reader.buffer = []) (hinner : reader.inner = []) :
    reader.read size = (.ok [], reader) := by
  obtain ⟨capacity, buffer, inner⟩ := reader
  obtain rfl : buffer = [] := h
  obtain rfl : inner = [] := hinner
  simp only [read, fillBuf, List.isEmpty_nil, true_and, ReadScript.read, List.take_nil,
    List.drop_nil, ite_self]

theorem read_of_fail (h : reader.buffer = []) {error : ε} {rest : ReadScript α ε}
    (hinner : reader.inner = .fail error :: rest) :
    reader.read size = (.error error, { reader with inner := rest }) := by
  simp only [read, fillBuf, h, hinner, List.isEmpty_nil, true_and, if_true, ReadScript.read, ite_self]

/-- An arrival goes into the buffer and out of it again, or past it. -/
theorem read_of_arrival (h : reader.buffer = []) {data : List α} {hdata : data ≠ []}
    {rest : ReadScript α ε} (hinner : reader.inner = .chunk data hdata :: rest)
    (hwithin : data.length ≤ max reader.capacity size) :
    reader.read size =
      (.ok (data.take size), { reader with buffer := data.drop size, inner := rest }) := by
  rcases Nat.lt_or_ge size reader.capacity with hroom | hroom
  · have hread := ReadScript.read_of_length_le (n := reader.capacity) hdata (by omega) rest
    simp only [read, fillBuf, h, hinner, List.isEmpty_nil, true_and, if_true, hread,
      Nat.not_le.2 hroom, if_false]
  · have hlen : data.length ≤ size := by omega
    have hread := ReadScript.read_of_length_le hdata hlen rest
    simp only [read, h, hinner, List.isEmpty_nil, true_and, if_true, hread, hroom,
      List.take_of_length_le hlen, List.drop_eq_nil_of_le hlen]

/-- What a call does: hand out the next delivery, or find that there is none. -/
inductive ReadOutcome (size : ℕ) (reader : BufReader α ε) :
    Except ε (List α) × BufReader α ε → Prop
  /-- The next piece. -/
  | piece {data : List α} {next : BufReader α ε} (nonempty : data ≠ [])
      (capacity : next.capacity = reader.capacity)
      (within : next.inner.Within (max reader.capacity size))
      (deliveries : reader.deliveries size = data :: next.deliveries size)
      (remaining : next.remaining < reader.remaining) : ReadOutcome size reader (.ok data, next)
  /-- The end of the source. -/
  | ended {next : BufReader α ε} (deliveries : reader.deliveries size = []) :
      ReadOutcome size reader (.ok [], next)
  /-- The source fails. -/
  | failed {error : ε} {next : BufReader α ε} (deliveries : reader.deliveries size = []) :
      ReadOutcome size reader (.error error, next)

/-- **What a call does.** -/
theorem read_cases (hsize : 0 < size) (hwithin : reader.inner.Within (max reader.capacity size)) :
    ReadOutcome size reader (reader.read size) := by
  by_cases hbuffer : reader.buffer = []
  · rcases hinner : reader.inner with - | ⟨⟨data, hdata⟩ | error, rest⟩
    · rw [read_of_end hbuffer hinner]
      exact .ended (by simp [deliveries, hbuffer, hinner])
    · have hlen : data.length ≤ max reader.capacity size :=
        hwithin data (by rw [hinner]; exact List.mem_cons_self)
      have hpos := List.length_pos_of_ne_nil hdata
      rw [read_of_arrival hbuffer hinner hlen]
      refine .piece ?_ rfl (fun later hmem ↦ hwithin later ?_) ?_ ?_
      · simpa [List.take_eq_nil_iff] using ⟨by omega, hdata⟩
      · rw [hinner]
        exact List.mem_cons_of_mem _ hmem
      · simp [deliveries, hbuffer, hinner, pieces_of_ne_nil hsize hdata]
      · simp [remaining, hbuffer, hinner]
        omega
    · rw [read_of_fail hbuffer hinner]
      exact .failed (by simp [deliveries, hbuffer, hinner])
  · have hpos := List.length_pos_of_ne_nil hbuffer
    rw [read_of_buffered hbuffer]
    refine .piece ?_ rfl hwithin ?_ ?_
    · simpa [List.take_eq_nil_iff] using ⟨by omega, hbuffer⟩
    · simp [deliveries, pieces_of_ne_nil hsize hbuffer]
    · simp only [remaining, List.length_drop]
      omega

end BufReader
