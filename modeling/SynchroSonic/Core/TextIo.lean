import SynchroSonic.Core.Error
import SynchroSonic.Machine.Text

/-!
# Reading text

White space, and `read_to_string`, `read_line` and `lines` of the standard library. All of them refuse bytes that are no
valid UTF-8; `read_line` and `lines` do so line by line.
-/

namespace SynchroSonic

/-- `ErrorKind::NotFound`. -/
@[match_pattern] abbrev ErrorKind.notFound : ErrorKind := .other 0

/-- `ErrorKind::InvalidData`. -/
@[match_pattern] abbrev ErrorKind.invalidData : ErrorKind := .other 1

/-- `char::is_whitespace`: the characters with the property `White_Space`. -/
def isWhitespace (char : Char) : Bool :=
  (0x9 ≤ char.toNat && char.toNat ≤ 0xd) || (0x2000 ≤ char.toNat && char.toNat ≤ 0x200a) ||
    [0x20, 0x85, 0xa0, 0x1680, 0x2028, 0x2029, 0x202f, 0x205f, 0x3000].contains char.toNat

/-- `trim().is_empty()`. -/
def isBlank (text : String) : Bool := text.toList.all isWhitespace

/-- `split_whitespace`. -/
def splitWhitespace (text : String) : List String :=
  ((text.toList.splitOnP isWhitespace).filter (· ≠ [])).map String.ofList

/-- What a text reader reports when the bytes are no text. -/
def IoError.invalidUtf8 : IoError := ⟨.invalidData, "stream did not contain valid UTF-8"⟩

/-- Bytes, as text. -/
def decodeText (bytes : List UInt8) : Except IoError String :=
  match Text.decode bytes with
  | some text => .ok text
  | none => .error .invalidUtf8

theorem decodeText_encode (text : String) : decodeText (Text.encode text) = .ok text := by
  rw [decodeText, Text.decode_encode]

/-- A stream of bytes, and the error it ends with, if it ends with one. -/
structure ByteSource where
  bytes : List UInt8
  failure : Option IoError := none
  deriving DecidableEq, Repr

namespace ByteSource

/-- The end of the stream is reached. -/
def atEnd (source : ByteSource) : Except IoError Unit :=
  match source.failure with
  | none => .ok ()
  | some error => .error error

/-- `read_line`, of a line of this source: the last line is not read if the stream fails within it. -/
def readLine (source : ByteSource) (line : List UInt8) : Except IoError String :=
  if line.getLast? = some 10 then decodeText line
  else source.atEnd.bind fun () ↦ decodeText line

end ByteSource

/-- An item of `lines`: a line without its newline. -/
def chomp (line : String) : String :=
  match line.toList.reverse with
  | '\n' :: '\r' :: chars | '\n' :: chars => String.ofList chars.reverse
  | _ => line

/-- `lines`, up to the first error. -/
def readLines (bytes : List UInt8) : Except IoError (List String) :=
  (Text.lines bytes).mapM fun line ↦ (decodeText line).map chomp

end SynchroSonic
