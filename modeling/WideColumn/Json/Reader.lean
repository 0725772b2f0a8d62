import WideColumn.Binary.Arithmetic
import WideColumn.Json.Basic
import WideColumn.Text.Bytes
import WideColumn.Text.Hex
import WideColumn.Text.Numeral

/-! # Reading JSON text
A reader for JSON text that says what is wrong with a text and where. Positions count bytes. Arrays
and objects nest at most 127 deep. -/

namespace WideColumn.Json

open Binary (Double)

/-- What can be wrong with JSON text. -/
inductive Cause
  | endOfValue
  | endOfString
  | endOfList
  | endOfObject
  | expectedColon
  | expectedListEnd
  | expectedObjectEnd
  | expectedWord
  | expectedValue
  | invalidEscape
  | invalidNumber
  | numberOutOfRange
  | controlCharacter
  | keyNotString
  | loneSurrogate
  | unfinishedSurrogate
  | trailingComma
  | trailingCharacters
  | tooDeep

/-- The wording of a cause. -/
def Cause.message : Cause → String
  | endOfValue => "EOF while parsing a value"
  | endOfString => "EOF while parsing a string"
  | endOfList => "EOF while parsing a list"
  | endOfObject => "EOF while parsing an object"
  | expectedColon => "expected `:`"
  | expectedListEnd => "expected `,` or `]`"
  | expectedObjectEnd => "expected `,` or `\x7d`"
  | expectedWord => "expected ident"
  | expectedValue => "expected value"
  | invalidEscape => "invalid escape"
  | invalidNumber => "invalid number"
  | numberOutOfRange => "number out of range"
  | controlCharacter => "control character (\\u0000-\\u001F) found while parsing a string"
  | keyNotString => "key must be a string"
  | loneSurrogate => "lone leading surrogate in hex escape"
  | unfinishedSurrogate => "unexpected end of hex escape"
  | trailingComma => "trailing comma"
  | trailingCharacters => "trailing characters"
  | tooDeep => "recursion limit exceeded"

/-- A cause and the number of bytes in front of it. -/
structure Fault where
  cause : Cause
  position : Nat

/-- What is left of a text and how many bytes have been read. -/
structure Cursor where
  rest : List Char
  position : Nat

/-- A step of reading. -/
abbrev Step (α : Type) := StateT Cursor (Except Fault) α

namespace Step

/-- Fails at the bytes read so far. -/
def fail {α : Type} (cause : Cause) : Step α := fun c => .error ⟨cause, c.position⟩

/-- Fails at the byte that would be read next. -/
def failNext {α : Type} (cause : Cause) : Step α := fun c =>
  .error ⟨cause, if c.rest = [] then c.position else c.position + 1⟩

/-- The next character, which stays where it is. -/
def peek : Step (Option Char) := fun c => .ok (c.rest.head?, c)

/-- Passes over the next character. -/
def skip : Step Unit := fun c =>
  match c.rest with
  | [] => .ok ((), c)
  | d :: rest => .ok ((), ⟨rest, c.position + d.utf8Size⟩)

/-- Passes over the characters of a class. -/
def skipWhile (p : Char → Bool) : Step Unit := fun c =>
  let passed := c.rest.takeWhile p
  .ok ((), ⟨c.rest.dropWhile p, c.position + Text.byteLength passed⟩)

/-- Passes over white space and gives the next character. -/
def peekToken : Step (Option Char) := do
  skipWhile fun c => c = ' ' || c = '\n' || c = '\t' || c = '\r'
  peek

end Step

open Step

/-- Reads the rest of a word. -/
def word (value : Json) : List Char → Step Json
  | [] => return value
  | expected :: letters => do
    match ← peek with
    | none => fail .endOfValue
    | some c => if c = expected then do skip; word value letters else failNext .expectedWord

/-! ## Numbers -/

/-- The greatest significand that is collected. -/
def significandBound : Nat := 18446744073709551616

/-- Appends the digits that follow to a significand, as long as it stays within its bound. Gives the
number of digits as well. -/
def digitsStep (significand count : Nat) : List Char → Nat × Nat × List Char
  | [] => (significand, count, [])
  | c :: rest =>
    match Text.digitValue? c with
    | none => (significand, count, c :: rest)
    | some d =>
      if 10 * significand + d < significandBound then
        digitsStep (10 * significand + d) (count + 1) rest
      else (significand, count, c :: rest)

/-- Appends the digits that follow to a significand. -/
def digits (significand : Nat) : Step (Nat × Nat) := fun c =>
  let (value, count, rest) := digitsStep significand 0 c.rest
  .ok ((value, count), ⟨rest, c.position + count⟩)

/-- A power of ten, rounded. -/
def powerOfTen (exponent : Nat) : Double := .nearest Binary.double false (Nat.pow 10 exponent) 1

/-- Scales a number by a power of ten in steps of at most 308 places, rounding at each. The fuel is
more than the steps until every significand has become zero. -/
def scale : (fuel : Nat) → Double → Int → Option Double
  | 0, x, _ => some x
  | fuel + 1, x, exponent =>
    if exponent.natAbs ≤ 308 then
      if 0 ≤ exponent then
        let y := x.mul (powerOfTen exponent.natAbs)
        if y.isInfinite then none else some y
      else some (x.div (powerOfTen exponent.natAbs))
    else if x = .zero false then some x
    else if 0 ≤ exponent then none
    else scale fuel (x.div (powerOfTen 308)) (exponent + 308)

/-- The number of a sign, a significand and a power of ten. -/
def ofParts (negative : Bool) (significand : Nat) (exponent : Int) : Step Json :=
  match scale 4 (.ofInt Binary.double significand) exponent with
  | none => fail .numberOutOfRange
  | some x => return .real (if negative then x.neg else x)

/-- The digits of an exponent, which fails where they leave 32 bits and the number is not zero. -/
def exponentStep (negative : Bool) (significand : Nat) (start : Int) (down : Bool) :
    (fuel : Nat) → (exponent : Nat) → Step Json
  | 0, _ => fail .invalidNumber
  | fuel + 1, exponent => do
    match (← peek).bind Text.digitValue? with
    | none =>
      ofParts negative significand (if down then start - exponent else start + exponent)
    | some d =>
      skip
      if 10 * exponent + d < 2147483648 then
        exponentStep negative significand start down fuel (10 * exponent + d)
      else if significand ≠ 0 ∧ !down then fail .numberOutOfRange
      else do
        skipWhile Char.isDigit
        return .real (.zero negative)

/-- Reads an exponent from its mark on. -/
def exponent (negative : Bool) (significand : Nat) (start : Int) : Step Json := do
  skip
  let sign ← peek
  if sign = some '+' ∨ sign = some '-' then skip
  match ← peek with
  | none => fail .endOfValue
  | some c =>
    match Text.digitValue? c with
    | none => failNext .invalidNumber
    | some d =>
      skip
      fun cursor =>
        exponentStep negative significand start (sign = some '-') (cursor.rest.length + 1) d cursor

/-- Reads an exponent, if there is one, and settles the number. -/
def exponentOrEnd (negative : Bool) (significand : Nat) (start : Int) : Step Json := do
  let mark ← peek
  if mark = some 'e' ∨ mark = some 'E' then exponent negative significand start
  else ofParts negative significand start

/-- Reads a fraction from its point on. Digits that the significand cannot hold are passed over. -/
def fraction (negative : Bool) (significand : Nat) (start : Int) : Step Json := do
  skip
  let (value, count) ← digits significand
  match ← peek with
  | some c =>
    if c.isDigit then do
      skipWhile Char.isDigit
      exponentOrEnd negative value (start - count)
    else if count = 0 then failNext .invalidNumber
    else exponentOrEnd negative value (start - count)
  | none => if count = 0 then failNext .endOfValue else ofParts negative value (start - count)

/-- Settles a number whose whole part fits in its significand. -/
def afterDigits (negative : Bool) (significand : Nat) : Step Json := do
  match ← peek with
  | some '.' => fraction negative significand 0
  | some 'e' => exponent negative significand 0
  | some 'E' => exponent negative significand 0
  | _ =>
    if !negative then return .integer significand
    else if significand = 0 ∨ 9223372036854775808 < significand then
      return .real (Binary.Number.ofInt Binary.double significand).neg
    else return .integer (-(significand : Int))

/-- Reads a number behind its sign. -/
def number (negative : Bool) : Step Json := do
  match ← peek with
  | none => fail .endOfValue
  | some '0' =>
    skip
    match (← peek).bind Text.digitValue? with
    | some _ => failNext .invalidNumber
    | none => afterDigits negative 0
  | some c =>
    match Text.digitValue? c with
    | none => failNext .invalidNumber
    | some d =>
      skip
      let (value, _) ← digits d
      match (← peek).bind Text.digitValue? with
      | none => afterDigits negative value
      | some _ =>
        let before : Cursor ← get
        skipWhile Char.isDigit
        let after : Cursor ← get
        let dropped : Int := (after.position - before.position : Nat)
        match ← peek with
        | some '.' => fraction negative value dropped
        | _ => exponentOrEnd negative value dropped

/-! ## Strings -/

/-- Reads four hexadecimal digits. -/
def fourDigits : Step Nat := fun c =>
  let next := c.rest.take 4
  let bytes := Text.byteLength next
  if bytes < 4 then .error ⟨.endOfString, c.position + bytes⟩
  else
    match Text.hexNumber? next with
    | some n => .ok (n, ⟨c.rest.drop 4, c.position + 4⟩)
    | none => .error ⟨.invalidEscape, c.position + 4⟩

/-- Reads a character that has to follow in the middle of an escape. -/
def escapeMark (expected : Char) : Step Unit := do
  match ← peek with
  | none => fail .endOfString
  | some c => if c = expected then skip else failNext .unfinishedSurrogate

/-- Reads a code point behind its mark: one unit of sixteen bits, or a pair of surrogates. -/
def codePoint : Step Char := do
  let high ← fourDigits
  if 0xDC00 ≤ high ∧ high ≤ 0xDFFF then fail .loneSurrogate
  else if high < 0xD800 ∨ 0xDBFF < high then return Char.ofNat high
  else do
    escapeMark '\\'
    escapeMark 'u'
    let low ← fourDigits
    if low < 0xDC00 ∨ 0xDFFF < low then fail .loneSurrogate
    else return Char.ofNat ((high - 0xD800) * 0x400 + (low - 0xDC00) + 0x10000)

/-- Reads an escape behind its backslash. -/
def escape : Step Char := do
  match ← peek with
  | none => fail .endOfString
  | some c =>
    match c with
    | '"' | '\\' | '/' => do skip; return c
    | 'b' => do skip; return '\x08'
    | 'f' => do skip; return '\x0c'
    | 'n' => do skip; return '\n'
    | 'r' => do skip; return '\r'
    | 't' => do skip; return '\t'
    | 'u' => do skip; codePoint
    | _ => failNext .invalidEscape

/-- Reads a string behind its opening quote. -/
def stringStep : (fuel : Nat) → (reversed : List Char) → Step String
  | 0, _ => fail .endOfString
  | fuel + 1, reversed => do
    match ← peek with
    | none => fail .endOfString
    | some c =>
      if c = '"' then do
        skip
        return String.ofList reversed.reverse
      else if c = '\\' then do
        skip
        stringStep fuel ((← escape) :: reversed)
      else if c.toNat < 0x20 then failNext .controlCharacter
      else do
        skip
        stringStep fuel (c :: reversed)

/-- Reads a string from its opening quote on. -/
def stringBody (fuel : Nat) : Step String := do
  skip
  stringStep fuel []

/-! ## Values -/

mutual

/-- Reads a value; `depth` is how many more arrays and objects may be open at once. -/
def value : (fuel depth : Nat) → Step Json
  | 0, _ => fail .tooDeep
  | fuel + 1, depth => do
    match ← peekToken with
    | none => failNext .endOfValue
    | some 'n' => do skip; word .null ['u', 'l', 'l']
    | some 't' => do skip; word (.bool true) ['r', 'u', 'e']
    | some 'f' => do skip; word (.bool false) ['a', 'l', 's', 'e']
    | some '-' => do skip; number true
    | some '"' => return .string (← stringBody fuel)
    | some '[' =>
      if depth = 0 then failNext .tooDeep
      else do skip; return .array (← items fuel (depth - 1) true)
    | some '\x7b' =>
      if depth = 0 then failNext .tooDeep
      else do skip; return .ofMembers (← members fuel (depth - 1) true)
    | some c => if c.isDigit then number false else failNext .expectedValue

/-- Reads the items of an array up to its end. -/
def items : (fuel depth : Nat) → (first : Bool) → Step (List Json)
  | 0, _, _ => fail .tooDeep
  | fuel + 1, depth, first => do
    match ← peekToken with
    | none => failNext .endOfList
    | some ']' => do skip; return []
    | some c =>
      if first then return (← value fuel depth) :: (← items fuel depth false)
      else if c = ',' then do
        skip
        match ← peekToken with
        | some ']' => failNext .trailingComma
        | none => failNext .endOfValue
        | some _ => return (← value fuel depth) :: (← items fuel depth false)
      else failNext .expectedListEnd

/-- Reads the members of an object up to its end. -/
def members : (fuel depth : Nat) → (first : Bool) → Step (List (String × Json))
  | 0, _, _ => fail .tooDeep
  | fuel + 1, depth, first => do
    match ← peekToken with
    | none => failNext .endOfObject
    | some '\x7d' => do skip; return []
    | some c =>
      if first then
        if c = '"' then return (← member fuel depth) :: (← members fuel depth false)
        else failNext .keyNotString
      else if c = ',' then do
        skip
        match ← peekToken with
        | some '"' => return (← member fuel depth) :: (← members fuel depth false)
        | some '\x7d' => failNext .trailingComma
        | some _ => failNext .keyNotString
        | none => failNext .endOfValue
      else failNext .expectedObjectEnd

/-- Reads a member of an object. -/
def member : (fuel depth : Nat) → Step (String × Json)
  | 0, _ => fail .tooDeep
  | fuel + 1, depth => do
    let name ← stringBody fuel
    match ← peekToken with
    | some ':' => do skip; return (name, ← value fuel depth)
    | some _ => failNext .expectedColon
    | none => failNext .endOfObject

end

/-- Reads a value that is the whole of a text. -/
def document (fuel : Nat) : Step Json := do
  let result ← value fuel 127
  match ← peekToken with
  | none => return result
  | some _ => failNext .trailingCharacters

/-- The wording of a fault: its cause and its line and column, both counted in bytes. -/
def Fault.message (f : Fault) (text : String) : String :=
  let before := text.toUTF8.toList.take f.position
  let line := before.count 10 + 1
  let column := (before.reverse.takeWhile (· != 10)).length
  f.cause.message ++ " at line " ++ toString line ++ " column " ++ toString column

/-- The value that a text denotes. On its way to any character the reader spends less than four
units of fuel for each character in front of it, so that the fuel is never used up. -/
def read (text : String) : Except Fault Json :=
  (document (4 * text.length + 4) ⟨text.toList, 0⟩).map Prod.fst

end WideColumn.Json
