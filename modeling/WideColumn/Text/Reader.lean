import WideColumn.Text.Numeral

/-! # Reading text step by step
Steps that take a part off the front of a text. A step that does not fit fails, and the whole
reading with it. -/

namespace WideColumn.Text

/-- A step of reading: it takes a part off the front of the text, or fails. -/
abbrev Reader (α : Type) := StateT (List Char) Option α

namespace Reader

/-- Takes one given character. -/
def char (expected : Char) : Reader Unit := fun cs =>
  match cs with
  | c :: rest => if c = expected then some ((), rest) else none
  | [] => none

/-- Takes as many digits as there are, between `least` and `most` of them. -/
def digits (least most : Nat) : Reader (List Char) := fun cs =>
  let found := (cs.take most).takeWhile Char.isDigit
  if least ≤ found.length then some (found, cs.drop found.length) else none

/-- Takes a number of `least` to `most` digits. -/
def number (least most : Nat) : Reader Nat := do
  return Text.digitsValue (← digits least most)

/-- Takes a number of all digits that follow, at least one. -/
def anyNumber : Reader Nat := fun cs => number 1 cs.length cs

/-- Takes the end of the text. -/
def finished : Reader Unit := fun cs => if cs = [] then some ((), []) else none

/-- The result of a step that takes the whole of a text. -/
def whole {α : Type} (read : Reader α) (cs : List Char) : Option α :=
  ((do let x ← read; finished; return x : Reader α).run cs).map Prod.fst

end Reader

end WideColumn.Text
