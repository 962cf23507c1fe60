import CSource.Literal.Library
import CSource.Text.Quoted

/-!
# Literals

A literal is a JSON value, or a number that JSON has no spelling for. Nothing, texts and finite
numbers have a spelling in C, which for numbers is the text that the JSON library writes; any other
literal is refused with its kind.
-/

namespace CSource

/-- A value to be spelled in C. -/
inductive Literal [JsonLibrary] where
  /-- A JSON value. -/
  | json (value : Json)
  /-- An infinity, or what is no number. -/
  | nonFinite

section

variable [JsonLibrary]

/-- Literals are equal when their JSON values are; all that are not finite are equal. -/
def Literal.same : Literal → Literal → Bool
  | .json left, .json right => JsonLibrary.equal left right
  | .nonFinite, .nonFinite => true
  | _, _ => false

instance : BEq Literal := ⟨Literal.same⟩

end

/-- The kinds of value without a spelling in C. -/
inductive UnsupportedValue where
  /-- A truth value. -/
  | boolean
  /-- An array. -/
  | array
  /-- An object. -/
  | object
  /-- An infinity, or what is no number. -/
  | nonFiniteNumber
deriving DecidableEq, Repr

namespace UnsupportedValue

/-- The word for a kind. -/
def kind : UnsupportedValue → String
  | boolean => "boolean"
  | array => "array"
  | object => "object"
  | nonFiniteNumber => "non-finite number"

/-- What is said of a refused value. -/
def message (refused : UnsupportedValue) : String :=
  "cannot build a C literal from a " ++ refused.kind ++ " value"

/-- The code that all refusals are reported under. -/
def code : String := "cweave::unsupported_value"

/-- The advice given with a refusal. -/
def help : String :=
  "only null, strings and finite numbers have a literal spelling; " ++
    "use Expression::raw for anything else"

end UnsupportedValue

/-- The spelling of a literal in C. -/
def Literal.spelling [JsonLibrary] : Literal → Except UnsupportedValue String
  | .json .null => .ok "NULL"
  | .json (.string value) => .ok (Text.quoted value)
  | .json (.number numeral) => .ok (JsonNumbers.text numeral)
  | .json (.bool _) => .error .boolean
  | .json (.array _) => .error .array
  | .json (.object _) => .error .object
  | .nonFinite => .error .nonFiniteNumber

end CSource
