import WideColumn.Text.Hex
import WideColumn.Text.Unprintable

/-! # Quoted text
Texts and byte strings between double quotes, as diagnostic output shows them. Quotes and
backslashes are escaped, and so is every character that has no glyph of its own. -/

namespace WideColumn.Text

/-- One character of a quoted text: the usual two-character escapes, and the code point in braces
for a character without a glyph. -/
def quoteChar (c : Char) : List Char :=
  match c with
  | '\x00' => ['\\', '0']
  | '\t' => ['\\', 't']
  | '\r' => ['\\', 'r']
  | '\n' => ['\\', 'n']
  | '\\' => ['\\', '\\']
  | '"' => ['\\', '"']
  | c => if isUnprintable c then ['\\', 'u', '\x7b'] ++ Nat.toDigits 16 c.toNat ++ ['\x7d'] else [c]

/-- A text between double quotes. -/
def quoted (cs : List Char) : List Char := '"' :: cs.flatMap quoteChar ++ ['"']

/-- One byte of a quoted byte string: ASCII as itself, the rest by two hexadecimal digits. -/
def quoteByte (b : UInt8) : List Char :=
  let c := Char.ofNat b.toNat
  match c with
  | '\x00' => ['\\', '0']
  | '\t' => ['\\', 't']
  | '\r' => ['\\', 'r']
  | '\n' => ['\\', 'n']
  | '\\' => ['\\', '\\']
  | '"' => ['\\', '"']
  | c => if 0x20 ≤ b.toNat ∧ b.toNat < 0x7F then [c] else ['\\', 'x'] ++ byteHex b

/-- A byte string between double quotes, marked by the letter `b`. -/
def quotedBytes (bytes : List UInt8) : List Char := ['b', '"'] ++ bytes.flatMap quoteByte ++ ['"']

end WideColumn.Text
