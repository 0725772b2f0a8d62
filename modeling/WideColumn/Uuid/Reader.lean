import WideColumn.Text.Bytes
import WideColumn.Uuid.Basic

/-! # Identifier text
Reading an identifier from 32 digits, or from five hyphenated groups, which may stand in braces or
behind `urn:uuid:`. A text that is refused is examined once more for what is wrong with it. -/

namespace WideColumn.Uuid

/-- Why a text or a byte string is no identifier. -/
inductive ReadFault
  /-- The text has a length that no notation has. -/
  | length (found : Nat)
  /-- A character is neither a digit nor a hyphen. -/
  | character (found : Char) (position : Nat)
  /-- The number of groups is not five. -/
  | groupCount (found : Nat)
  /-- A group has the wrong number of digits. -/
  | groupLength (group expected found : Nat)
  /-- The number of bytes is not sixteen. -/
  | byteCount (found : Nat)

/-- The wording of a fault. -/
def ReadFault.message : ReadFault → String
  | .length found => "invalid length: found " ++ toString found
  | .character found position =>
    "invalid character: found `" ++ String.singleton found ++ "` at " ++ toString position
  | .groupCount found => "invalid group count: expected 5, found " ++ toString found
  | .groupLength group expected found =>
    "invalid group length in group " ++ toString group ++ ": expected " ++ toString expected ++
      ", found " ++ toString found
  | .byteCount found => "invalid length: expected 16 bytes, found " ++ toString found

/-- What stands between braces, if the text has them at its ends. -/
def inBraces? : List Char → Option (List Char)
  | '\x7b' :: rest => if rest.getLast? = some '\x7d' then some rest.dropLast else none
  | _ => none

/-- What stands behind `urn:uuid:`, in any letter case, if the text begins so. -/
def behindUrn? (cs : List Char) : Option (List Char) :=
  if (cs.take 9).map Char.toLower = "urn:uuid:".toList then some (cs.drop 9) else none

/-- The first character that can stand in no group, with its position in bytes. -/
def strayCharacter? (position : Nat) : List Char → Option (Char × Nat)
  | [] => none
  | c :: rest =>
    if c = '-' ∨ (Text.hexValue? c).isSome then strayCharacter? (position + c.utf8Size) rest
    else some (c, position)

/-- The positions of the hyphens. -/
def hyphens (cs : List Char) : List Nat :=
  (cs.zipIdx.filter fun p => p.1 == '-').map Prod.snd

/-- The first of the leading groups, each given by its start, its expected length and its end, that
has another length. -/
def badGroup? (group : Nat) : List (Nat × Nat × Nat) → Option ReadFault
  | [] => none
  | (start, expected, stop) :: rest =>
    if stop = start + expected then badGroup? (group + 1) rest
    else some (.groupLength group expected (stop - start))

/-- The part of a refused text that is examined, with its position and whether it may lack groups.
A text of the length of five groups is examined for them as it stands; any other may be in braces or
behind `urn:uuid:`. -/
def examined (cs : List Char) : List Char × Nat × Bool :=
  if Text.byteLength cs = 36 then (cs, 0, false)
  else
    match inBraces? cs, behindUrn? cs with
    | some digits, _ => (digits, 1, false)
    | none, some digits => (digits, 9, false)
    | none, none => (cs, 0, true)

/-- What is wrong with a text that no notation fits. -/
def diagnose (cs : List Char) : ReadFault :=
  let length := Text.byteLength cs
  let (digits, start, bare) := examined cs
  if 45 < length then .length length
  else
    match strayCharacter? start digits with
    | some (c, position) => .character c position
    | none =>
      match hyphens digits with
      | [] => if bare then .length length else .groupCount 1
      | [a, b, c, d] =>
        (badGroup? 0 [(0, 8, a), (9, 4, b), (14, 4, c), (19, 4, d)]).getD
          (.groupLength 4 12 (length - 24))
      | positions => .groupCount (positions.length + 1)

/-- The identifier of 32 digits. -/
def ofDigits? (cs : List Char) : Option Uuid := (Text.ofHex? cs).bind ofBytes?

/-- The identifier of five groups. -/
def ofGroups? (cs : List Char) : Option Uuid :=
  if cs[8]? = some '-' ∧ cs[13]? = some '-' ∧ cs[18]? = some '-' ∧ cs[23]? = some '-' then
    ofDigits? (cs.take 8 ++ (cs.drop 9).take 4 ++ (cs.drop 14).take 4 ++ (cs.drop 19).take 4 ++
      cs.drop 24)
  else none

/-- The part of a text that holds the digits, and how they are read. -/
def notation? (cs : List Char) : Option (List Char × (List Char → Option Uuid)) :=
  match Text.byteLength cs with
  | 32 => some (cs, ofDigits?)
  | 36 => some (cs, ofGroups?)
  | 38 => (inBraces? cs).map fun digits => (digits, ofGroups?)
  | 45 => (behindUrn? cs).map fun digits => (digits, ofGroups?)
  | _ => none

/-- The identifier that a text denotes. -/
def read (cs : List Char) : Except ReadFault Uuid :=
  match notation? cs with
  | none => .error (diagnose cs)
  | some (digits, convert) =>
    match convert digits with
    | some u => .ok u
    | none => .error (diagnose digits)

/-- The identifier of a byte string. -/
def readBytes (bytes : List UInt8) : Except ReadFault Uuid :=
  match ofBytes? bytes with
  | some u => .ok u
  | none => .error (.byteCount bytes.length)

end WideColumn.Uuid
