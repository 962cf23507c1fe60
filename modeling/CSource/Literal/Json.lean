import CSource.Number.Basic

/-!
# JSON values

A JSON value is of one of six kinds. What stands for a number is up to a library, as are the text
of a number and which numbers are equal: a library is known by `JsonNumbers`. An object holds its
members in the order of their names, each name once (`Json.ofMembers`). Two values are alike when
they are built alike from equal numbers (`Json.same`).
-/

namespace CSource

/-- How a library of JSON values represents numbers. -/
class JsonNumbers where
  /-- What stands for a number. -/
  Numeral : Type
  /-- The number that a numeral stands for. -/
  value : Numeral → Number
  /-- The text of a number. -/
  text : Numeral → String
  /-- Whether two numbers are equal. -/
  same : Numeral → Numeral → Bool

mutual

/-- A JSON value. -/
inductive Json [JsonNumbers] where
  /-- The value without content. -/
  | null
  /-- A truth value. -/
  | bool (value : Bool)
  /-- A number. -/
  | number (numeral : JsonNumbers.Numeral)
  /-- A text. -/
  | string (value : String)
  /-- Values in order. -/
  | array (items : List Json)
  /-- Named values, in the order of their names. -/
  | object (members : List Member)

/-- A named value in an object. -/
structure Member [JsonNumbers] where
  /-- The name. -/
  name : String
  /-- The value. -/
  value : Json

end

namespace Json

variable [JsonNumbers]

instance : Inhabited Json := ⟨null⟩

/-- Members with one more, in the place of an earlier one of its name. -/
def insertMember (added : Member) : List Member → List Member
  | [] => [added]
  | member :: others =>
    if added.name < member.name then added :: member :: others
    else if added.name = member.name then added :: others
    else member :: insertMember added others

/-- The object with some members; of those with one name the last counts. -/
def ofMembers (members : List Member) : Json :=
  object (members.foldl (fun sorted member => insertMember member sorted) [])

mutual

/-- Whether two values are built alike from equal numbers. -/
def same : Json → Json → Bool
  | null, null => true
  | bool left, bool right => left = right
  | number left, number right => JsonNumbers.same left right
  | string left, string right => left = right
  | array left, array right => sameItems left right
  | object left, object right => sameMembers left right
  | _, _ => false

/-- Whether two lists of values are built alike. -/
def sameItems : List Json → List Json → Bool
  | [], [] => true
  | left :: lefts, right :: rights => same left right && sameItems lefts rights
  | _, _ => false

/-- Whether two members are built alike. -/
def sameMember : Member → Member → Bool
  | ⟨name, left⟩, ⟨other, right⟩ => name = other && same left right

/-- Whether two lists of members are built alike. -/
def sameMembers : List Member → List Member → Bool
  | [], [] => true
  | left :: lefts, right :: rights => sameMember left right && sameMembers lefts rights
  | _, _ => false

end

end Json
end CSource
