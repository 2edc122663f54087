import ProfileClient.Decimal.Binary64
/-!
JSON values. Objects read from a text hold each name once, in ascending order; `Json.object` itself
takes members in any order, so that a value can also be written as its author listed it.
-/
namespace ProfileClient

/-- Whole numbers within the ranges of 64-bit integers stay whole, all others are binary64. -/
inductive Json.Number where
  | whole (value : Int)
  | real (value : Binary64)
deriving DecidableEq, Repr

inductive Json where
  | null
  | bool (value : Bool)
  | number (value : Json.Number)
  | string (value : String)
  | array (items : List Json)
  | object (members : List (String × Json))
deriving Repr

namespace Json

/-- Puts a member in its place unless the name is already taken. -/
def insertNew (name : String) (value : Json) : List (String × Json) → List (String × Json)
  | [] => [(name, value)]
  | (name', value') :: rest =>
    if name < name' then (name, value) :: (name', value') :: rest
    else if name = name' then (name', value') :: rest
    else (name', value') :: insertNew name value rest

/-- The object of members met one after the other, the last one first: of two members with one
name the later one counts. -/
def ofMembersReversed (members : List (String × Json)) : Json :=
  .object (members.foldl (fun object member => insertNew member.1 member.2 object) [])

def member? (name : String) : Json → Option Json
  | .object members => (members.find? (·.1 == name)).map (·.2)
  | _ => none

def string? : Json → Option String
  | .string value => some value
  | _ => none

end Json
end ProfileClient
