import WideColumn.Binary.Layout
import WideColumn.Json.Basic
import WideColumn.Text.Hex

/-! # JSON text
Compact JSON text: no white space, members in their order. -/

namespace WideColumn.Json

/-- One character of a string: quotes, backslashes and control characters are escaped. -/
def escapeChar (c : Char) : List Char :=
  match c with
  | '"' => ['\\', '"']
  | '\\' => ['\\', '\\']
  | '\n' => ['\\', 'n']
  | '\r' => ['\\', 'r']
  | '\t' => ['\\', 't']
  | '\x08' => ['\\', 'b']
  | '\x0c' => ['\\', 'f']
  | c => if c.toNat < 0x20 then ['\\', 'u'] ++ Text.hexPadded 4 c.toNat else [c]

/-- A string between quotes. -/
def quote (s : String) : String := String.ofList ('"' :: s.toList.flatMap escapeChar ++ ['"'])

/-- A number that is no integer; infinities and not-a-number have no JSON form of their own. -/
def realText (x : Binary.Double) : String :=
  if x.isFinite then Binary.jsonLayout.write x else "null"

/-- Members of an object, given as texts. -/
def braced (members : List (String × String)) : String :=
  "\x7b" ++ ",".intercalate (members.map fun m => quote m.1 ++ ":" ++ m.2) ++ "\x7d"

mutual

/-- The compact text of a value. -/
def toText : Json → String
  | null => "null"
  | bool value => if value then "true" else "false"
  | integer value => Text.ofInt value
  | real value => realText value
  | string value => quote value
  | array items => "[" ++ ",".intercalate (itemTexts items) ++ "]"
  | object members => braced (memberTexts members)

/-- The texts of items. -/
def itemTexts : List Json → List String
  | [] => []
  | item :: rest => item.toText :: itemTexts rest

/-- The texts of members, with their names. -/
def memberTexts : List (String × Json) → List (String × String)
  | [] => []
  | (name, value) :: rest => (name, value.toText) :: memberTexts rest

end

end WideColumn.Json
