import WideColumn.Binary.Number

/-! # JSON values
JSON values in which whole numbers are exact and all other numbers have double precision. The
members of an object stand in the code point order of their names, each name once. -/

namespace WideColumn

open Binary (Double)

/-- A JSON value. -/
inductive Json
  | null
  | bool (value : Bool)
  /-- A number written without fraction and exponent. -/
  | integer (value : Int)
  /-- Any other number. -/
  | real (value : Double)
  | string (value : String)
  | array (items : List Json)
  | object (members : List (String × Json))

namespace Json

instance : Inhabited Json := ⟨null⟩

/-- Members with one more: the name keeps its place where it is new and takes the new value where it
is not. -/
def insertMember (name : String) (value : Json) :
    List (String × Json) → List (String × Json)
  | [] => [(name, value)]
  | (other, kept) :: rest =>
    if name < other then (name, value) :: (other, kept) :: rest
    else if name = other then (name, value) :: rest
    else (other, kept) :: insertMember name value rest

@[simp] theorem insertMember_nil (name : String) (value : Json) :
    insertMember name value [] = [(name, value)] := rfl

/-- The object of members in any order; of a repeated name the last value counts. -/
def ofMembers (members : List (String × Json)) : Json :=
  object (members.foldl (fun sorted m => insertMember m.1 m.2 sorted) [])

/-- The value of a member of an object. -/
def member? (name : String) : Json → Option Json
  | object members => members.lookup name
  | _ => none

end Json

end WideColumn
