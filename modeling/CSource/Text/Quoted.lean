/-!
# Quoted text

The inside of a double-quoted C literal. Six characters are written as a backslash and a letter
or quote; every other character, the backslash among them, stands for itself. Escaping works one
character at a time.
-/

namespace CSource.Text

/-- The spelling of one character inside a double-quoted literal. -/
def escapeChar : Char → List Char
  | '"' => ['\\', '"']
  | '\x08' => ['\\', 'b']
  | '\r' => ['\\', 'r']
  | '\x0c' => ['\\', 'f']
  | '\n' => ['\\', 'n']
  | '\t' => ['\\', 't']
  | char => [char]

/-- The spelling of a text inside a double-quoted literal. -/
def escape (text : String) : String :=
  String.ofList (text.toList.flatMap escapeChar)

/-- A text as a double-quoted literal. -/
def quoted (text : String) : String :=
  "\"" ++ escape text ++ "\""

/-- The characters of an escaped text are the spellings of its characters in order. -/
@[simp] theorem toList_escape (text : String) :
    (escape text).toList = text.toList.flatMap escapeChar := by
  simp [escape]
end CSource.Text
