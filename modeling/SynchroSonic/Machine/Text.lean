import Mathlib.Tactic

/-!
# Text as bytes

Strings in UTF-8, and the lines of a byte sequence, as the standard library reads them. Bytes that are
no valid UTF-8 have no string (`decode`); a line keeps its newline, so that the lines of a byte sequence
are the byte sequence (`flatten_lines`).
-/

namespace Text

/-! ### UTF-8 -/

/-- The bytes of a string. -/
def encode (text : String) : List UInt8 := text.toByteArray.data.toList

/-- The string these bytes are. -/
def decode (bytes : List UInt8) : Option String := String.fromUTF8? ⟨bytes.toArray⟩

theorem decode_eq_some_iff {bytes : List UInt8} {text : String} :
    decode bytes = some text ↔ encode text = bytes := by
  rw [decode, String.fromUTF8?, encode]
  constructor
  · intro h
    split at h
    next hvalid =>
      obtain rfl := Option.some.inj h
      rfl
    · cases h
  · rintro rfl
    rw [dif_pos text.isValidUTF8]
    rfl

@[simp] theorem decode_encode (text : String) : decode (encode text) = some text :=
  decode_eq_some_iff.2 rfl

theorem encode_injective : Function.Injective encode := fun text text' h ↦
  Option.some.inj (by rw [← decode_encode text, h, decode_encode])

theorem encode_append (text text' : String) : encode (text ++ text') = encode text ++ encode text' := by
  simp only [encode, String.toByteArray_append, ByteArray.data_append, Array.toList_append]

theorem encode_ofList (chars : List Char) :
    encode (String.ofList chars) = chars.flatMap String.utf8EncodeChar := by
  rw [encode, String.toByteArray_ofList, List.utf8Encode, List.data_toByteArray]

/-- An ASCII character is one byte. -/
theorem encode_ofList_of_ascii {chars : List Char} (h : ∀ char ∈ chars, char.val.toNat < 128) :
    encode (String.ofList chars) = chars.map fun char ↦ UInt8.ofNat char.val.toNat := by
  rw [encode_ofList]
  induction chars with
  | nil => rfl
  | cons char chars ih =>
    obtain ⟨hchar, hchars⟩ := List.forall_mem_cons.1 h
    rw [List.flatMap_cons, List.map_cons, ih hchars, String.utf8EncodeChar,
      if_pos (Nat.le_of_lt_succ hchar), List.singleton_append]

/-- A number is written in digits. -/
theorem digit_of_mem_encode_toString {n : ℕ} {byte : UInt8} (h : byte ∈ encode (toString n)) :
    48 ≤ byte.toNat ∧ byte.toNat ≤ 57 := by
  have hdigits : ∀ char ∈ Nat.toDigits 10 n, 48 ≤ char.val.toNat ∧ char.val.toNat ≤ 57 := by
    intro char hchar
    have hdigit := Nat.isDigit_of_mem_toDigits (by decide) le_rfl hchar
    simp only [Char.isDigit, Bool.and_eq_true, decide_eq_true_eq, ge_iff_le,
      UInt32.le_iff_toNat_le] at hdigit
    exact hdigit
  have hbytes := encode_ofList_of_ascii fun char hchar ↦
    (hdigits char hchar).2.trans_lt (by decide : 57 < 128)
  obtain ⟨char, hchar, rfl⟩ := List.mem_map.1 (hbytes ▸ h)
  obtain ⟨hlow, hhigh⟩ := hdigits char hchar
  rw [UInt8.toNat_ofNat', Nat.mod_eq_of_lt (hhigh.trans_lt (by decide))]
  exact ⟨hlow, hhigh⟩

/-! ### Lines -/

/-- The lines of a byte sequence, each with its newline; the last one may lack it. -/
def lines : List UInt8 → List (List UInt8)
  | [] => []
  | byte :: rest =>
    if byte = 10 then [10] :: lines rest
    else
      match lines rest with
      | [] => [[byte]]
      | line :: later => (byte :: line) :: later

theorem flatten_lines (bytes : List UInt8) : (lines bytes).flatten = bytes := by
  induction bytes with
  | nil => rfl
  | cons byte rest ih =>
    rw [lines]
    split
    next hnewline => rw [List.flatten_cons, ih, hnewline, List.singleton_append]
    · split
      next hnil =>
        rw [hnil] at ih
        rw [← ih]
        rfl
      next line later hcons =>
        rw [hcons] at ih
        rw [← ih]
        rfl

/-- Symbols without a newline lengthen the first line. -/
theorem lines_append {start : List UInt8} (hstart : (10 : UInt8) ∉ start) (hne : start ≠ [])
    (rest : List UInt8) :
    lines (start ++ rest) =
      (start ++ (lines rest).headD []) :: (lines rest).tail := by
  induction start with
  | nil => exact absurd rfl hne
  | cons byte more ih =>
    obtain ⟨hbyte, hmore⟩ := not_or.1 (List.mem_cons.not.1 hstart)
    rw [List.cons_append, lines, if_neg (Ne.symm hbyte)]
    rcases more with - | ⟨second, more⟩
    · rw [List.nil_append]
      rcases lines rest with - | ⟨line, later⟩
      · rfl
      · rfl
    · rw [ih hmore (List.cons_ne_nil _ _)]
      rfl

theorem newline_notMem_utf8EncodeChar {char : Char} (h : char ≠ '\n') :
    (10 : UInt8) ∉ String.utf8EncodeChar char := by
  have hbyte {code : ℕ} (hcode : code < 256) (hne : code ≠ 10) : (10 : UInt8) ≠ UInt8.ofNat code := by
    intro heq
    have hnat := congrArg UInt8.toNat heq
    rw [UInt8.toNat_ofNat', Nat.mod_eq_of_lt hcode] at hnat
    exact hne hnat.symm
  rw [String.utf8EncodeChar]
  split
  next hascii =>
    refine List.mem_singleton.not.2 (hbyte (by omega) fun hcode ↦ h ?_)
    exact Char.ext (UInt32.toNat_inj.1 hcode)
  split
  · simp only [List.mem_cons, List.not_mem_nil, or_false, not_or]
    exact ⟨hbyte (by omega) (by omega), hbyte (by omega) (by omega)⟩
  split
  · simp only [List.mem_cons, List.not_mem_nil, or_false, not_or]
    exact ⟨hbyte (by omega) (by omega), hbyte (by omega) (by omega), hbyte (by omega) (by omega)⟩
  · simp only [List.mem_cons, List.not_mem_nil, or_false, not_or]
    exact ⟨hbyte (by omega) (by omega), hbyte (by omega) (by omega), hbyte (by omega) (by omega),
      hbyte (by omega) (by omega)⟩

/-- The lines of a text are texts. -/
theorem exists_encode_of_mem_lines (chars : List Char) :
    ∀ line ∈ lines (chars.flatMap String.utf8EncodeChar), ∃ text, encode text = line := by
  induction chars with
  | nil => exact fun line hline ↦ absurd hline List.not_mem_nil
  | cons char chars ih =>
    rw [List.flatMap_cons]
    by_cases hnewline : char = '\n'
    · rw [hnewline]
      refine List.forall_mem_cons.2 ⟨⟨"\n", by decide +kernel⟩, ih⟩
    · rw [lines_append (newline_notMem_utf8EncodeChar hnewline) String.utf8EncodeChar_ne_nil]
      have hsingle : encode (String.singleton char) = String.utf8EncodeChar char := by
        rw [String.singleton_eq_ofList, encode_ofList, List.flatMap_singleton]
      rcases hlines : lines (chars.flatMap String.utf8EncodeChar) with - | ⟨line, later⟩
      · refine List.forall_mem_singleton.2 ⟨String.singleton char, ?_⟩
        rw [hsingle, List.headD_nil, List.append_nil]
      · rw [hlines] at ih
        obtain ⟨⟨text, htext⟩, hlater⟩ := List.forall_mem_cons.1 ih
        refine List.forall_mem_cons.2 ⟨⟨String.singleton char ++ text, ?_⟩, hlater⟩
        rw [encode_append, hsingle, htext, List.headD_cons]

/-- **A byte sequence is text exactly if each of its lines is.** -/
theorem forall_lines_decode_iff (bytes : List UInt8) :
    (∀ line ∈ lines bytes, (decode line).isSome = true) ↔ (decode bytes).isSome = true := by
  constructor
  · intro h
    have hconcat (pieces : List (List UInt8)) (hpieces : ∀ piece ∈ pieces, (decode piece).isSome) :
        ∃ text, encode text = pieces.flatten := by
      induction pieces with
      | nil => exact ⟨"", by decide +kernel⟩
      | cons piece pieces ih =>
        obtain ⟨hpiece, hrest⟩ := List.forall_mem_cons.1 hpieces
        obtain ⟨text, htext⟩ := Option.isSome_iff_exists.1 hpiece
        obtain ⟨more, hmore⟩ := ih hrest
        exact ⟨text ++ more, by rw [encode_append, decode_eq_some_iff.1 htext, hmore,
          List.flatten_cons]⟩
    obtain ⟨text, htext⟩ := hconcat _ h
    rw [flatten_lines] at htext
    rw [decode_eq_some_iff.2 htext, Option.isSome_some]
  · intro h line hline
    obtain ⟨text, htext⟩ := Option.isSome_iff_exists.1 h
    rw [← decode_eq_some_iff.1 htext, ← String.ofList_toList (s := text), encode_ofList] at hline
    obtain ⟨piece, rfl⟩ := exists_encode_of_mem_lines _ line hline
    rw [decode_encode, Option.isSome_some]

/-- What stands in front of the first occurrence of a symbol is determined. -/
theorem append_cons_inj {α : Type*} {symbol : α} {start start' rest rest' : List α}
    (hstart : symbol ∉ start) (hstart' : symbol ∉ start')
    (h : start ++ symbol :: rest = start' ++ symbol :: rest') : start = start' ∧ rest = rest' := by
  induction start generalizing start' with
  | nil =>
    cases start' with
    | nil => exact ⟨rfl, (List.cons.inj h).2⟩
    | cons first more => exact absurd ((List.cons.inj h).1 ▸ List.mem_cons_self) hstart'
  | cons first more ih =>
    cases start' with
    | nil => exact absurd ((List.cons.inj h).1 ▸ List.mem_cons_self) hstart
    | cons first' more' =>
      obtain ⟨rfl, htail⟩ := List.cons.inj h
      obtain ⟨rfl, rfl⟩ := ih (fun hmem ↦ hstart (List.mem_cons_of_mem _ hmem))
        (fun hmem ↦ hstart' (List.mem_cons_of_mem _ hmem)) htail
      exact ⟨rfl, rfl⟩

end Text
