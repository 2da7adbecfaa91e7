import Mathlib.Data.List.TakeWhile
import Mathlib.Tactic

/-!
# Reading an address

The parser of the standard library for IP addresses and socket addresses. A `Reader` takes something off
the front of a text, or nothing at all; a whole text is parsed if a reader leaves nothing of it.

An IPv6 address of a socket address stands in brackets, because a colon goes on with such an address. A
reader that does not go on at a character is `Unaffected` by what stands there: `readIpv4Addr` by a colon,
`readIpv6Addr` by a bracket.
-/

namespace AddrParser

/-- Take something off the front of a text. -/
abbrev Reader (α : Type*) := List Char → Option (α × List Char)

variable {α β : Type*}

/-- One after the other; nothing is taken if either takes nothing. -/
def andThen (reader : Reader α) (next : α → Reader β) : Reader β := fun input ↦
  (reader input).bind fun read ↦ next read.1 read.2

/-- The reader leaves nothing of the text. -/
def parseWith (reader : Reader α) (input : List Char) : Option α :=
  (reader input).bind fun read ↦ if read.2 = [] then some read.1 else none

def readGivenChar (target : Char) : Reader Unit
  | [] => none
  | char :: rest => if char = target then some ((), rest) else none

/-- Behind the first one, a separator stands in front. -/
def readSeparator (separator : Char) (index : ℕ) (inner : Reader α) : Reader α :=
  if 0 < index then andThen (readGivenChar separator) fun _ ↦ inner else inner

/-- `char::to_digit`, for a radix up to 36. -/
def toDigit (radix : ℕ) (char : Char) : Option ℕ :=
  let value :=
    if char.isDigit then char.toNat - '0'.toNat
    else if char.isLower then char.toNat - 'a'.toNat + 10
    else if char.isUpper then char.toNat - 'A'.toNat + 10
    else radix
  if value < radix then some value else none

def isDigit (radix : ℕ) (char : Char) : Bool := (toDigit radix char).isSome

/-- The value of digits, the most significant one first. -/
def digitsValue (radix : ℕ) (digits : List Char) : ℕ :=
  (digits.filterMap (toDigit radix)).foldl (fun result digit ↦ result * radix + digit) 0

/-- All digits at the front, unless there are none, too many, or their value reaches the limit. -/
def readNumber (radix : ℕ) (maxDigits : Option ℕ) (allowZeroPrefix : Bool) (limit : ℕ) : Reader ℕ :=
  fun input ↦
    let digits := input.takeWhile (isDigit radix)
    if digits = [] then none
    else if maxDigits.any (· < digits.length) then none
    else if allowZeroPrefix = false ∧ digits.head? = some '0' ∧ 1 < digits.length then none
    else if digitsValue radix digits < limit then
      some (digitsValue radix digits, input.dropWhile (isDigit radix))
    else none

/-! ### Addresses -/

/-- So many octets, from the given index on. An octet is not written with zeros in front. -/
def readOctets : (remaining index : ℕ) → Reader (List ℕ)
  | 0, _ => fun input ↦ some ([], input)
  | remaining + 1, index =>
    andThen (readSeparator '.' index (readNumber 10 (some 3) false 256)) fun octet ↦
      andThen (readOctets remaining (index + 1)) fun octets input ↦ some (octet :: octets, input)

def readIpv4Addr : Reader (BitVec 32) :=
  andThen (readOctets 4 0) fun octets input ↦
    some (BitVec.ofNat 32 (octets.foldl (fun bits octet ↦ bits * 256 + octet) 0), input)

/-- The groups of an IPv6 address, as far as they go, and whether the last two were written as an IPv4
address. There is room for `remaining` of `limit` groups. -/
def readGroups (limit : ℕ) : (remaining index : ℕ) → List Char → (List ℕ × Bool) × List Char
  | 0, _, input => (([], false), input)
  | remaining + 1, index, input =>
    match if index < limit - 1 then readSeparator ':' index readIpv4Addr input else none with
    | some (bits, rest) => (([bits.toNat / 65536, bits.toNat % 65536], true), rest)
    | none =>
      match readSeparator ':' index (readNumber 16 (some 4) true 65536) input with
      | some (group, rest) =>
        let groups := readGroups limit remaining (index + 1) rest
        ((group :: groups.1.1, groups.1.2), groups.2)
      | none => (([], false), input)

def ofGroups (groups : List ℕ) : BitVec 128 :=
  BitVec.ofNat 128 (groups.foldl (fun bits group ↦ bits * 65536 + group) 0)

/-- What `::` leaves room for. -/
def readTail (head : List ℕ) : Reader (BitVec 128) := fun input ↦
  let limit := 8 - (head.length + 1)
  let tail := readGroups limit limit 0 input
  let zeros := List.replicate (8 - head.length - tail.1.1.length) 0
  some (ofGroups (head ++ zeros ++ tail.1.1), tail.2)

def readIpv6Addr : Reader (BitVec 128) := fun input ↦
  let head := readGroups 8 8 0 input
  if head.1.1.length = 8 then some (ofGroups head.1.1, head.2)
  -- an IPv4 part stands at the end of the address only
  else if head.1.2 then none
  else
    andThen (readGivenChar ':') (fun _ ↦ andThen (readGivenChar ':') fun _ ↦ readTail head.1.1) head.2

def readIpAddr : Reader (BitVec 32 ⊕ BitVec 128) := fun input ↦
  ((readIpv4Addr input).map fun read ↦ (.inl read.1, read.2)).or
    ((readIpv6Addr input).map fun read ↦ (.inr read.1, read.2))

def readPort : Reader ℕ := andThen (readGivenChar ':') fun _ ↦ readNumber 10 none true 65536

/-- The scope behind an IPv6 address, if there is one. -/
def skipScopeId : Reader Unit := fun input ↦
  let scope := (andThen (readGivenChar '%') fun _ ↦ readNumber 10 none true (2 ^ 32)) input
  some ((), scope.elim input Prod.snd)

def readSocketAddrV4 : Reader (BitVec 32 × ℕ) :=
  andThen readIpv4Addr fun ip ↦ andThen readPort fun port input ↦ some ((ip, port), input)

def readSocketAddrV6 : Reader (BitVec 128 × ℕ) :=
  andThen (readGivenChar '[') fun _ ↦ andThen readIpv6Addr fun ip ↦ andThen skipScopeId fun _ ↦
    andThen (readGivenChar ']') fun _ ↦ andThen readPort fun port input ↦ some ((ip, port), input)

def readSocketAddr : Reader ((BitVec 32 ⊕ BitVec 128) × ℕ) := fun input ↦
  ((readSocketAddrV4 input).map fun read ↦ ((.inl read.1.1, read.1.2), read.2)).or
    ((readSocketAddrV6 input).map fun read ↦ ((.inr read.1.1, read.1.2), read.2))

/-! ### What a reader does not go on at -/

/-- Whatever stands at this character does not matter to the reader. -/
def Unaffected (char : Char) (reader : Reader α) : Prop :=
  ∀ input more, reader (input ++ char :: more) =
    (reader input).map fun read ↦ (read.1, read.2 ++ char :: more)

variable {char : Char}

theorem unaffected_some {f : α} : Unaffected char fun input ↦ some (f, input) := fun _ _ ↦ rfl

theorem Unaffected.andThen {reader : Reader α} {next : α → Reader β} (h : Unaffected char reader)
    (hnext : ∀ a, Unaffected char (next a)) : Unaffected char (andThen reader next) := by
  intro input more
  rw [AddrParser.andThen, AddrParser.andThen, h input more]
  cases reader input with
  | none => rfl
  | some read => exact hnext read.1 read.2 more

theorem unaffected_readGivenChar {target : Char} (h : char ≠ target) :
    Unaffected char (readGivenChar target) := by
  intro input more
  cases input with
  | nil => exact if_neg h
  | cons first rest =>
    show (if first = target then _ else _) = Option.map _ (if first = target then _ else _)
    split <;> rfl

theorem Unaffected.readSeparator {separator : Char} {reader : Reader α} (h : Unaffected char reader)
    (hseparator : char ≠ separator) (index : ℕ) :
    Unaffected char (readSeparator separator index reader) := by
  rw [AddrParser.readSeparator]
  split
  · exact (unaffected_readGivenChar hseparator).andThen fun _ ↦ h
  · exact h

theorem unaffected_readNumber {radix limit : ℕ} {maxDigits : Option ℕ} {allowZeroPrefix : Bool}
    (h : toDigit radix char = none) :
    Unaffected char (readNumber radix maxDigits allowZeroPrefix limit) := by
  intro input more
  have hstop : ¬isDigit radix char = true := by
    rw [isDigit, h]
    exact Bool.false_ne_true
  have htake : (input ++ char :: more).takeWhile (isDigit radix) = input.takeWhile (isDigit radix) := by
    rw [List.takeWhile_append, List.takeWhile_cons_of_neg hstop, List.append_nil]
    split
    next hall => exact ((List.takeWhile_prefix _).eq_of_length hall).symm
    next => rfl
  have hdrop : (input ++ char :: more).dropWhile (isDigit radix) =
      input.dropWhile (isDigit radix) ++ char :: more := by
    rw [List.dropWhile_append, List.dropWhile_cons_of_neg hstop]
    split
    next hnil => rw [List.isEmpty_iff.mp hnil, List.nil_append]
    next => rfl
  simp only [readNumber, htake, hdrop]
  split
  · rfl
  · split
    · rfl
    · split
      · rfl
      · split <;> rfl

theorem unaffected_readOctets (hdigit : toDigit 10 char = none) (hdot : char ≠ '.')
    (remaining index : ℕ) : Unaffected char (readOctets remaining index) := by
  induction remaining generalizing index with
  | zero => exact unaffected_some
  | succ remaining ih =>
    exact ((unaffected_readNumber hdigit).readSeparator hdot index).andThen fun _ ↦
      (ih (index + 1)).andThen fun _ ↦ unaffected_some

theorem unaffected_readIpv4Addr (hdigit : toDigit 10 char = none) (hdot : char ≠ '.') :
    Unaffected char readIpv4Addr :=
  (unaffected_readOctets hdigit hdot 4 0).andThen fun _ ↦ unaffected_some

theorem unaffected_readGroups (hdigit : toDigit 10 char = none) (hhex : toDigit 16 char = none)
    (hdot : char ≠ '.') (hcolon : char ≠ ':') (limit remaining index : ℕ) (input more : List Char) :
    readGroups limit remaining index (input ++ char :: more) =
      ((readGroups limit remaining index input).1,
        (readGroups limit remaining index input).2 ++ char :: more) := by
  induction remaining generalizing index input with
  | zero => rfl
  | succ remaining ih =>
    have hipv4 := (unaffected_readIpv4Addr hdigit hdot).readSeparator hcolon index input more
    have hgroup := (@unaffected_readNumber char 16 65536 (some 4) true hhex).readSeparator hcolon index
      input more
    have hfirst : (if index < limit - 1 then
          readSeparator ':' index readIpv4Addr (input ++ char :: more) else none) =
        (if index < limit - 1 then readSeparator ':' index readIpv4Addr input else none).map
          fun read ↦ (read.1, read.2 ++ char :: more) := by
      split
      · exact hipv4
      · rfl
    rw [readGroups, readGroups, hfirst, hgroup]
    cases (if index < limit - 1 then readSeparator ':' index readIpv4Addr input else none) with
    | some read => rfl
    | none =>
      cases readSeparator ':' index (readNumber 16 (some 4) true 65536) input with
      | none => rfl
      | some read =>
        simp only [Option.map_none, Option.map_some, ih]

theorem unaffected_readIpv6Addr (hdigit : toDigit 10 char = none) (hhex : toDigit 16 char = none)
    (hdot : char ≠ '.') (hcolon : char ≠ ':') : Unaffected char readIpv6Addr := by
  have hgroups := @unaffected_readGroups char hdigit hhex hdot hcolon
  have htail (head : List ℕ) : Unaffected char (readTail head) := by
    intro input more
    simp only [readTail, hgroups, Option.map_some]
  have hgap (head : List ℕ) : Unaffected char (AddrParser.andThen (readGivenChar ':') fun _ ↦
      AddrParser.andThen (readGivenChar ':') fun _ ↦ readTail head) :=
    (unaffected_readGivenChar hcolon).andThen fun _ ↦
      (unaffected_readGivenChar hcolon).andThen fun _ ↦ htail head
  intro input more
  simp only [readIpv6Addr, hgroups]
  split
  · rfl
  · split
    · rfl
    · exact hgap _ _ more

/-! ### Decimal numbers -/

theorem toDigit_of_isDigit (h : char.isDigit = true) :
    toDigit 10 char = some (char.toNat - '0'.toNat) := by
  have hvalue : char.toNat - '0'.toNat < 10 := by
    obtain ⟨-, hnine⟩ := Char.isDigit_iff_toNat.mp h
    have hzero : '0'.toNat = 48 := rfl
    have hlast : '9'.toNat = 57 := rfl
    omega
  simp only [toDigit, h, if_true, hvalue]

theorem digitsValue_eq_ofDigitChars {digits : List Char} (h : ∀ digit ∈ digits, digit.isDigit = true) :
    digitsValue 10 digits = Nat.ofDigitChars 10 digits 0 := by
  have hfrom (start : ℕ) : (digits.filterMap (toDigit 10)).foldl
      (fun result digit ↦ result * 10 + digit) start = Nat.ofDigitChars 10 digits start := by
    induction digits generalizing start with
    | nil => rw [Nat.ofDigitChars_nil, List.filterMap_nil, List.foldl_nil]
    | cons digit digits ih =>
      obtain ⟨hdigit, hdigits⟩ := List.forall_mem_cons.mp h
      rw [List.filterMap_cons, toDigit_of_isDigit hdigit, Nat.ofDigitChars_cons, ← ih hdigits,
        Nat.mul_comm 10 start]
      rfl
  exact hfrom 0

/-- **A number is read from its digits.** -/
theorem readNumber_toDigits {n limit : ℕ} {maxDigits : Option ℕ} (hlimit : n < limit)
    (hmax : maxDigits.any (· < (Nat.toDigits 10 n).length) = false) :
    readNumber 10 maxDigits true limit (Nat.toDigits 10 n) = some (n, []) := by
  have hdigits : ∀ digit ∈ Nat.toDigits 10 n, digit.isDigit = true := fun _ hmem ↦
    Nat.isDigit_of_mem_toDigits (by omega) (by omega) hmem
  have hall : ∀ digit ∈ Nat.toDigits 10 n, isDigit 10 digit = true := fun digit hmem ↦ by
    rw [isDigit, toDigit_of_isDigit (hdigits digit hmem)]
    rfl
  have hvalue : digitsValue 10 (Nat.toDigits 10 n) = n := by
    rw [digitsValue_eq_ofDigitChars hdigits, Nat.ofDigitChars_ten_toDigits]
  simp only [readNumber, List.takeWhile_eq_self_iff.mpr hall, List.dropWhile_eq_nil_iff.mpr hall,
    Nat.toDigits_ne_nil, hmax, hvalue, hlimit, Bool.true_eq_false, Bool.false_eq_true, false_and,
    if_false, if_true]

theorem readPort_toDigits {port : ℕ} (h : port < 65536) :
    readPort (':' :: Nat.toDigits 10 port) = some (port, []) := by
  show readNumber 10 none true 65536 (Nat.toDigits 10 port) = some (port, [])
  exact readNumber_toDigits h rfl

/-- An octet is read from its digits, whatever stands at the dot behind it. -/
theorem readNumber_octet {octet : ℕ} (h : octet < 256) :
    readNumber 10 (some 3) false 256 (Nat.toDigits 10 octet) = some (octet, []) := by
  have hall : ∀ octet : Fin 256, readNumber 10 (some 3) false 256 (Nat.toDigits 10 octet) =
      some (octet.val, []) := by decide +kernel
  exact hall ⟨octet, h⟩

@[simp] theorem readGivenChar_cons (target : Char) (rest : List Char) :
    readGivenChar target (target :: rest) = some ((), rest) := if_pos rfl

theorem readOctets_toDigits {octet : ℕ} (h : octet < 256) {remaining index : ℕ} {octets : List ℕ}
    {more : List Char} (hmore : readOctets remaining (index + 1) more = some (octets, []))
    (hdot : more = [] ∨ more.head? = some '.') :
    readOctets (remaining + 1) index
        ((if 0 < index then ['.'] else []) ++ Nat.toDigits 10 octet ++ more) =
      some (octet :: octets, []) := by
  have hread : readNumber 10 (some 3) false 256 (Nat.toDigits 10 octet ++ more) =
      some (octet, more) := by
    rcases hdot with rfl | hdot
    · rw [List.append_nil, readNumber_octet h]
    · obtain ⟨rest, rfl⟩ := List.head?_eq_some_iff.mp hdot
      rw [unaffected_readNumber (by decide), readNumber_octet h]
      rfl
  rw [readOctets, andThen, readSeparator]
  split
  · rw [List.append_assoc]
    show Option.bind (andThen _ _ ('.' :: (Nat.toDigits 10 octet ++ more))) _ = _
    rw [andThen, readGivenChar_cons, Option.bind_some, hread, Option.bind_some, andThen, hmore]
    rfl
  · rw [List.nil_append, hread, Option.bind_some, andThen, hmore]
    rfl

/-- **Dotted decimal.** -/
theorem readIpv4Addr_toDigits {a b c d : ℕ} (ha : a < 256) (hb : b < 256) (hc : c < 256)
    (hd : d < 256) :
    readIpv4Addr (Nat.toDigits 10 a ++ '.' :: (Nat.toDigits 10 b ++ '.' :: (Nat.toDigits 10 c ++
      '.' :: Nat.toDigits 10 d))) =
      some (BitVec.ofNat 32 (((a * 256 + b) * 256 + c) * 256 + d), []) := by
  have hd := @readOctets_toDigits d hd 0 3 [] [] rfl (Or.inl rfl)
  have hc := @readOctets_toDigits c hc 1 2 [d] _ hd (Or.inr rfl)
  have hb := @readOctets_toDigits b hb 2 1 [c, d] _ hc (Or.inr rfl)
  have ha := @readOctets_toDigits a ha 3 0 [b, c, d] _ hb (Or.inr rfl)
  simp only [lt_self_iff_false, Nat.zero_lt_succ, if_true, if_false, List.nil_append, List.cons_append,
    List.append_nil] at ha
  rw [readIpv4Addr, andThen, ha]
  simp

/-! ### An address and a port -/

section Port

variable {text : List Char} {port : ℕ}

theorem parseWith_eq_some {reader : Reader α} {input : List Char} {a : α} :
    parseWith reader input = some a ↔ reader input = some (a, []) := by
  constructor
  · intro h
    obtain ⟨⟨read, rest⟩, hread, hrest⟩ := Option.bind_eq_some_iff.mp h
    obtain ⟨hnil, hsame⟩ := Option.ite_none_right_eq_some.mp hrest
    obtain rfl : rest = [] := hnil
    obtain rfl : read = a := Option.some.inj hsame
    exact hread
  · intro h
    rw [parseWith, h]
    rfl

theorem readIpAddr_eq_inl {bits : BitVec 32} :
    readIpAddr text = some (.inl bits, []) ↔ readIpv4Addr text = some (bits, []) := by
  rw [readIpAddr]
  cases hipv4 : readIpv4Addr text with
  | some read => simp [Prod.ext_iff]
  | none => simp

/-- An IPv6 address is looked for only where no IPv4 address is read. -/
theorem readIpAddr_eq_inr {bits : BitVec 128} :
    readIpAddr text = some (.inr bits, []) ↔
      readIpv4Addr text = none ∧ readIpv6Addr text = some (bits, []) := by
  rw [readIpAddr]
  cases hipv4 : readIpv4Addr text with
  | some read => simp
  | none => simp [Prod.ext_iff]

/-- **An IPv4 address with a port behind it.** -/
theorem parse_ipv4_port {bits : BitVec 32} (h : parseWith readIpAddr text = some (.inl bits))
    (hport : port < 65536) :
    parseWith readSocketAddr (text ++ ':' :: Nat.toDigits 10 port) = some (.inl bits, port) := by
  have hipv4 := readIpAddr_eq_inl.mp (parseWith_eq_some.mp h)
  have hread : readIpv4Addr (text ++ ':' :: Nat.toDigits 10 port) =
      some (bits, ':' :: Nat.toDigits 10 port) := by
    rw [unaffected_readIpv4Addr (by decide) (by decide), hipv4]
    rfl
  rw [parseWith_eq_some, readSocketAddr, readSocketAddrV4, andThen, hread, Option.bind_some, andThen,
    readPort_toDigits hport]
  rfl

/-- **An IPv6 address with a port behind it** is no socket address. -/
theorem parse_ipv6_port {bits : BitVec 128} (h : parseWith readIpAddr text = some (.inr bits))
    (more : List Char) : parseWith readSocketAddr (text ++ ':' :: more) = none := by
  obtain ⟨hnone, hipv6⟩ := readIpAddr_eq_inr.mp (parseWith_eq_some.mp h)
  have hipv4 : readIpv4Addr (text ++ ':' :: more) = none := by
    rw [unaffected_readIpv4Addr (by decide) (by decide), hnone]
    rfl
  have hbracket : readGivenChar '[' (text ++ ':' :: more) = none := by
    cases text with
    | nil => rfl
    | cons first rest =>
      refine if_neg fun hfirst ↦ ?_
      rw [hfirst] at hipv6
      have hstops : readIpv6Addr ('[' :: rest) = none := rfl
      exact Option.some_ne_none _ (hipv6.symm.trans hstops)
  rw [parseWith, readSocketAddr, readSocketAddrV4, readSocketAddrV6, andThen, hipv4, andThen, hbracket]
  rfl

/-- **In brackets it is one.** -/
theorem parse_bracketed_port {bits : BitVec 128} (h : parseWith readIpAddr text = some (.inr bits))
    (hport : port < 65536) :
    parseWith readSocketAddr ('[' :: text ++ ']' :: ':' :: Nat.toDigits 10 port) =
      some (.inr bits, port) := by
  obtain ⟨-, hipv6⟩ := readIpAddr_eq_inr.mp (parseWith_eq_some.mp h)
  have hread : readIpv6Addr (text ++ ']' :: ':' :: Nat.toDigits 10 port) =
      some (bits, ']' :: ':' :: Nat.toDigits 10 port) := by
    rw [unaffected_readIpv6Addr (by decide) (by decide) (by decide) (by decide), hipv6]
    rfl
  have hipv4 (rest : List Char) : readSocketAddrV4 ('[' :: rest) = none := rfl
  have hscope (rest : List Char) : skipScopeId (']' :: rest) = some ((), ']' :: rest) := rfl
  have hipv6 : readSocketAddrV6 ('[' :: (text ++ ']' :: ':' :: Nat.toDigits 10 port)) =
      some ((bits, port), []) := by
    simp only [readSocketAddrV6, andThen, readGivenChar_cons, Option.bind_some, hread, hscope,
      readPort_toDigits hport]
  rw [parseWith_eq_some, readSocketAddr, List.cons_append, hipv4, hipv6]
  rfl

end Port

end AddrParser
