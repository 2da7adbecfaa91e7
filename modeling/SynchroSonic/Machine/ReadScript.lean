import Mathlib.Tactic

/-!
# Blocking byte sources, as scripts

A source that is only ever *read from* is determined by what its successive `read` calls meet: a
chunk of data that has arrived, or an error. A **read script** lists these in order; the end of the
script is the end of the stream. Chunks are non-empty by construction, since a read of zero bytes
is how a source reports its end.

`read` is one call with a buffer of the given size, and `readExact` is the loop the standard library
puts around it: it retries the errors `retry` singles out, fails with `eof` when the data ends
early, and — the point of the model — **forgets what it already read when it fails**.

Chunk boundaries are invisible to `readExact`. `items` is the view that makes this precise: the
script as a list of single symbols and of errors that are reported rather than retried. The laws of
`readExact` are stated on that view:

* `items_of_readExact_ok` — a success consumes exactly what it returns;
* `items_of_readExact_error` — a failure consumes fewer symbols than were asked for, and the error;
* `readExact_of_items` — enough symbols in a row are a success;
* `readExact_of_items_error`, `readExact_of_items_end` — an error or the end in front of enough
  symbols is a failure.
-/

/-- What one `read` call on a source meets. -/
inductive ReadItem (α ε : Type*)
  /-- Data that has arrived, and is handed out as far as the caller's buffer goes. -/
  | chunk (data : List α) (nonempty : data ≠ [])
  /-- The call fails with `error`. -/
  | fail (error : ε)

/-- The successive outcomes of reading a source, oldest first. -/
abbrev ReadScript (α ε : Type*) := List (ReadItem α ε)

namespace ReadScript

variable {α ε : Type*}

theorem drop_ne_nil {n : ℕ} {data : List α} (h : n < data.length) : data.drop n ≠ [] := by
  rw [ne_eq, List.drop_eq_nil_iff]
  omega

/-- One `read` call with room for `n` symbols: the next chunk, cut off at `n` symbols, or the next
error, or nothing at the end of the stream. -/
def read (n : ℕ) : ReadScript α ε → Except ε (List α) × ReadScript α ε
  | [] => (.ok [], [])
  | .fail error :: rest => (.error error, rest)
  | .chunk data _ :: rest =>
    if h : n < data.length then (.ok (data.take n), .chunk (data.drop n) (drop_ne_nil h) :: rest)
    else (.ok data, rest)

variable (retry : ε → Bool) (eof : ε)

/-- `read_exact`: call `read` until `n` symbols have arrived. Errors that satisfy `retry` are tried
again; any other error, and the end of the stream, end the call, and the symbols read so far are
lost. -/
def readExact : ℕ → ReadScript α ε → Except ε (List α) × ReadScript α ε
  | 0, script => (.ok [], script)
  | _ + 1, [] => (.error eof, [])
  | n + 1, .fail error :: rest =>
    if retry error then readExact (n + 1) rest else (.error error, rest)
  | n + 1, .chunk data _ :: rest =>
    if h : n + 1 < data.length then
      (.ok (data.take (n + 1)), .chunk (data.drop (n + 1)) (drop_ne_nil h) :: rest)
    else
      match readExact (n + 1 - data.length) rest with
      | (.ok more, rest') => (.ok (data ++ more), rest')
      | (.error error, rest') => (.error error, rest')

/-! ### The script, symbol by symbol -/

/-- What one outcome contributes to the symbol-by-symbol view. -/
def itemsOf : ReadItem α ε → List (α ⊕ ε)
  | .chunk data _ => data.map .inl
  | .fail error => if retry error then [] else [.inr error]

/-- The script as single symbols and reported errors: chunk boundaries and retried errors are
gone. -/
def items (script : ReadScript α ε) : List (α ⊕ ε) := script.flatMap (itemsOf retry)

@[simp] theorem items_nil : items retry ([] : ReadScript α ε) = [] := rfl

@[simp] theorem items_cons (item : ReadItem α ε) (script : ReadScript α ε) :
    items retry (item :: script) = itemsOf retry item ++ items retry script := rfl

@[simp] theorem itemsOf_chunk (data : List α) (h : data ≠ []) :
    itemsOf retry (.chunk data h : ReadItem α ε) = data.map .inl := rfl

theorem itemsOf_fail_of_retry {error : ε} (h : retry error = true) :
    itemsOf retry (.fail error : ReadItem α ε) = [] := by
  simp [itemsOf, h]

theorem itemsOf_fail_of_report {error : ε} (h : retry error = false) :
    itemsOf retry (.fail error : ReadItem α ε) = [.inr error] := by
  simp [itemsOf, h]

/-- A string of symbols, handed out as one chunk. -/
def ofList : List α → ReadScript α ε
  | [] => []
  | a :: as => [.chunk (a :: as) (by simp)]

@[simp] theorem items_ofList (as : List α) :
    items retry (ofList as : ReadScript α ε) = as.map .inl := by
  cases as <;> simp [ofList]

/-- The symbols of a view, without the errors between them. -/
def symbols (view : List (α ⊕ ε)) : List α := view.filterMap Sum.getLeft?

@[simp] theorem symbols_nil : symbols ([] : List (α ⊕ ε)) = [] := rfl

@[simp] theorem symbols_inl_cons (a : α) (view : List (α ⊕ ε)) :
    symbols (.inl a :: view) = a :: symbols view := rfl

@[simp] theorem symbols_inr_cons (error : ε) (view : List (α ⊕ ε)) :
    symbols (.inr error :: view) = symbols view := rfl

@[simp] theorem symbols_append (view view' : List (α ⊕ ε)) :
    symbols (view ++ view') = symbols view ++ symbols view' := List.filterMap_append

@[simp] theorem symbols_map_inl (data : List α) :
    symbols (data.map .inl : List (α ⊕ ε)) = data := by
  induction data with
  | nil => rfl
  | cons a data ih => rw [List.map_cons, symbols_inl_cons, ih]

/-- A view starts with `n` symbols in a row, or an error comes in front of the `n`-th. -/
theorem symbols_or_error (n : ℕ) (view : List (α ⊕ ε)) (hn : n ≤ (symbols view).length) :
    (∃ rest, view = ((symbols view).take n).map .inl ++ rest) ∨
      ∃ (data : List α) (error : ε) (after : List (α ⊕ ε)),
        view = data.map .inl ++ .inr error :: after ∧ data.length < n := by
  induction n generalizing view with
  | zero => exact Or.inl ⟨view, by simp⟩
  | succ n ih =>
    rcases view with - | ⟨a | error, view⟩
    · simp at hn
    · simp only [symbols_inl_cons, List.length_cons, Nat.add_le_add_iff_right] at hn
      rcases ih view hn with ⟨rest, hrest⟩ | ⟨data, error, after, heq, hlen⟩
      · refine Or.inl ⟨rest, ?_⟩
        rw [symbols_inl_cons, List.take_succ_cons, List.map_cons, List.cons_append, ← hrest]
      · refine Or.inr ⟨a :: data, error, after, by rw [heq]; rfl, ?_⟩
        rw [List.length_cons]
        omega
    · exact Or.inr ⟨[], error, view, rfl, by simp⟩

variable {retry eof}

/-! ### The laws of `readExact` -/

/-- **A success consumes exactly what it returns.** -/
theorem items_of_readExact_ok {n : ℕ} {script rest : ReadScript α ε} {data : List α}
    (h : readExact retry eof n script = (.ok data, rest)) :
    data.length = n ∧ items retry script = data.map .inl ++ items retry rest := by
  induction script generalizing n data rest with
  | nil => cases n with
    | zero => obtain ⟨⟨⟩, rfl⟩ := Prod.mk.inj h; simp
    | succ n => simp [readExact] at h
  | cons item script ih =>
    cases n with
    | zero => obtain ⟨⟨⟩, rfl⟩ := Prod.mk.inj h; simp
    | succ n =>
      cases item with
      | fail error =>
        simp only [readExact] at h
        split at h
        · next hr =>
          obtain ⟨hlen, hitems⟩ := ih h
          exact ⟨hlen, by rw [items_cons, itemsOf_fail_of_retry retry hr]; exact hitems⟩
        · simp at h
      | chunk chunk hne =>
        simp only [readExact] at h
        split at h
        · next hlt =>
          obtain ⟨⟨⟩, rfl⟩ := Prod.mk.inj h
          refine ⟨by simp only [List.length_take]; omega, ?_⟩
          rw [items_cons, items_cons, itemsOf_chunk, itemsOf_chunk, ← List.append_assoc,
            ← List.map_append, List.take_append_drop]
        · next hge =>
          split at h
          · next more rest' hmore =>
            obtain ⟨⟨⟩, rfl⟩ := Prod.mk.inj h
            obtain ⟨hlen, hitems⟩ := ih hmore
            refine ⟨by rw [List.length_append, hlen]; omega, ?_⟩
            rw [items_cons, itemsOf_chunk, hitems, List.map_append, List.append_assoc]
          · simp at h

/-- **A failure loses what it had read**: fewer symbols than asked for, followed by the error
itself or by the end of the stream. -/
theorem items_of_readExact_error {n : ℕ} {script rest : ReadScript α ε} {error : ε}
    (h : readExact retry eof n script = (.error error, rest)) :
    ∃ lost : List α, lost.length < n ∧
      (items retry script = lost.map .inl ++ .inr error :: items retry rest ∨
        error = eof ∧ items retry script = lost.map .inl ∧ rest = []) := by
  -- what has been read before the error is lost: it belongs to no later read
  induction script generalizing n with
  | nil => cases n with
    | zero => simp [readExact] at h
    | succ n =>
      obtain ⟨⟨⟩, rfl⟩ := Prod.mk.inj h
      exact ⟨[], by simp, Or.inr ⟨rfl, rfl, rfl⟩⟩
  | cons item script ih =>
    cases n with
    | zero => simp [readExact] at h
    | succ n =>
      cases item with
      | fail error' =>
        simp only [readExact] at h
        split at h
        · next hr =>
          obtain ⟨lost, hlen, hlost⟩ := ih h
          refine ⟨lost, hlen, ?_⟩
          rw [items_cons, itemsOf_fail_of_retry retry hr]
          exact hlost
        · next hr =>
          obtain ⟨⟨⟩, rfl⟩ := Prod.mk.inj h
          refine ⟨[], by simp, Or.inl ?_⟩
          rw [items_cons, itemsOf_fail_of_report retry (by simpa using hr)]
          rfl
      | chunk chunk hne =>
        simp only [readExact] at h
        split at h
        · simp at h
        · next hge =>
          split at h
          · simp at h
          · next error' rest' hmore =>
            obtain ⟨⟨⟩, rfl⟩ := Prod.mk.inj h
            obtain ⟨lost, hlen, hlost⟩ := ih hmore
            refine ⟨chunk ++ lost, by rw [List.length_append]; omega, ?_⟩
            rw [items_cons, itemsOf_chunk, List.map_append, List.append_assoc]
            rcases hlost with hlost | ⟨rfl, hlost, rfl⟩
            · exact Or.inl (by rw [hlost])
            · exact Or.inr ⟨rfl, by rw [hlost], rfl⟩

/-- Two scripts that start with the same kind of symbols agree on how far the symbols go. -/
theorem length_le_of_map_inl {data lost : List α} {rest rest' : List (α ⊕ ε)} {error : ε}
    (h : data.map .inl ++ rest = lost.map .inl ++ .inr error :: rest') :
    data.length ≤ lost.length := by
  induction data generalizing lost with
  | nil => simp
  | cons a data ih =>
    cases lost with
    | nil => simp at h
    | cons b lost =>
      simp only [List.map_cons, List.cons_append, List.cons.injEq] at h
      simpa using ih h.2

/-- **Enough symbols in a row are a success.** -/
theorem readExact_of_items {script : ReadScript α ε} {data : List α} {tail : List (α ⊕ ε)}
    (h : items retry script = data.map .inl ++ tail) :
    ∃ rest, readExact retry eof data.length script = (.ok data, rest) ∧
      items retry rest = tail := by
  rcases hread : readExact retry eof data.length script with ⟨error | data', rest⟩
  · obtain ⟨lost, hlen, hlost⟩ := items_of_readExact_error hread
    rw [h] at hlost
    rcases hlost with hlost | ⟨-, hlost, -⟩
    · have := length_le_of_map_inl hlost
      omega
    · have := congrArg List.length hlost
      simp only [List.length_append, List.length_map] at this
      omega
  · obtain ⟨hlen, hitems⟩ := items_of_readExact_ok hread
    have hsplit := List.append_inj (h.symm.trans hitems) (by simp [hlen])
    have hdata : data = data' := List.map_injective_iff.2 Sum.inl_injective hsplit.1
    exact ⟨rest, by rw [hdata], hsplit.2.symm⟩

/-- The symbols in front of the first error, and that error, are determined. -/
theorem map_inl_inr_inj {data lost : List α} {rest rest' : List (α ⊕ ε)} {error error' : ε}
    (h : data.map .inl ++ .inr error :: rest = lost.map .inl ++ .inr error' :: rest') :
    error = error' ∧ rest = rest' := by
  have hlen : data.length = lost.length :=
    le_antisymm (length_le_of_map_inl h) (length_le_of_map_inl h.symm)
  have htail := (List.append_inj h (by simpa using hlen)).2
  simp only [List.cons.injEq, Sum.inr.injEq] at htail
  exact htail

/-- **An error in front of enough symbols is a failure.** -/
theorem readExact_of_items_error {n : ℕ} {script : ReadScript α ε} {lost : List α} {error : ε}
    {tail : List (α ⊕ ε)} (hlen : lost.length < n)
    (h : items retry script = lost.map .inl ++ .inr error :: tail) :
    ∃ rest, readExact retry eof n script = (.error error, rest) ∧ items retry rest = tail := by
  rcases hread : readExact retry eof n script with ⟨error' | data, rest⟩
  · obtain ⟨lost', -, hitems | ⟨-, hitems, -⟩⟩ := items_of_readExact_error hread
    · obtain ⟨rfl, rfl⟩ := map_inl_inr_inj (h.symm.trans hitems)
      exact ⟨rest, rfl, rfl⟩
    · have hmem : Sum.inr error ∈ lost'.map (Sum.inl : α → α ⊕ ε) := by
        rw [← hitems, h]
        simp
      simp at hmem
  · obtain ⟨hdata, hitems⟩ := items_of_readExact_ok hread
    have := length_le_of_map_inl (hitems.symm.trans h)
    omega

/-- **The end of the stream in front of enough symbols is a failure.** -/
theorem readExact_of_items_end {n : ℕ} {script : ReadScript α ε} {lost : List α}
    (hlen : lost.length < n) (h : items retry script = lost.map .inl) :
    readExact retry eof n script = (.error eof, []) := by
  rcases hread : readExact retry eof n script with ⟨error | data, rest⟩
  · obtain ⟨lost', -, hitems | ⟨rfl, -, rfl⟩⟩ := items_of_readExact_error hread
    · have hmem : Sum.inr error ∈ lost.map (Sum.inl : α → α ⊕ ε) := by
        rw [← h, hitems]
        simp
      simp at hmem
    · rfl
  · obtain ⟨hdata, hitems⟩ := items_of_readExact_ok hread
    have := congrArg List.length (h.symm.trans hitems)
    simp only [List.length_append, List.length_map] at this
    omega

end ReadScript
