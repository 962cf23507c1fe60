import CSource.Expr.Basic

/-!
# What a string literal denotes

The inside of a string literal is read from left to right: a backslash and the character after it
stand for one character, any other character stands for itself, and a bare quote or line break
may not be there. A text is read back from its own literal exactly where it has no backslash
(`Text.unescape?_flatMap_iff`): a backslash of the text joins with what is written after it, and
then what is read is too short or has another character there.
-/

namespace CSource

namespace Text

/-- The character that a backslash and a character stand for, if they stand for one. -/
def unescapeChar? : Char → Option Char
  | '"' => some '"'
  | '\\' => some '\\'
  | 'b' => some '\x08'
  | 'r' => some '\r'
  | 'f' => some '\x0c'
  | 'n' => some '\n'
  | 't' => some '\t'
  | _ => none

/-- The characters that the inside of a string literal stands for, if it can be one. -/
def unescape? : List Char → Option (List Char)
  | [] => some []
  | ['\\'] => none
  | '\\' :: char :: rest => do
    let meant ← unescapeChar? char
    let others ← unescape? rest
    some (meant :: others)
  | char :: rest =>
    if char = '"' ∨ char = '\n' then none else (unescape? rest).map (char :: ·)

/-- The text that the inside of a string literal stands for, if it can be one. -/
def read? (inside : String) : Option String := (unescape? inside.toList).map String.ofList

/-- A character that is neither a backslash nor forbidden stands for itself. -/
theorem unescape?_cons {char : Char} (plain : char ≠ '\\') (unquoted : char ≠ '"')
    (unbroken : char ≠ '\n') (rest : List Char) :
    unescape? (char :: rest) = (unescape? rest).map (char :: ·) := by
  simp [unescape?, plain, unquoted, unbroken]

/-- A backslash and a character that it stands for something with are read as that. -/
theorem unescape?_backslash (char : Char) (rest : List Char) :
    unescape? ('\\' :: char :: rest) =
      (unescapeChar? char).bind fun meant => (unescape? rest).map (meant :: ·) := by
  rw [unescape?]
  cases unescapeChar? char with
  | none => rfl
  | some meant => cases unescape? rest <;> rfl

/-- A character is written as itself, a quote after a backslash, or any other character as a
backslash and a letter that stand for it. -/
theorem escapeChar_cases (char : Char) :
    (escapeChar char = [char] ∧ char ≠ '"' ∧ char ≠ '\n') ∨ char = '"' ∨
      ∃ letter, escapeChar char = ['\\', letter] ∧ unescapeChar? letter = some char ∧
        char ≠ '\\' ∧ char ≠ '"' ∧ letter.isAlpha = true ∧ letter ≠ char := by
  unfold escapeChar
  split
  · exact .inr (.inl rfl)
  · exact .inr (.inr ⟨'b', rfl, rfl, by decide⟩)
  · exact .inr (.inr ⟨'r', rfl, rfl, by decide⟩)
  · exact .inr (.inr ⟨'f', rfl, rfl, by decide⟩)
  · exact .inr (.inr ⟨'n', rfl, rfl, by decide⟩)
  · exact .inr (.inr ⟨'t', rfl, rfl, by decide⟩)
  · exact .inl ⟨rfl, by assumption, by assumption⟩

/-- A letter stands for itself. -/
theorem unescape?_letter {letter : Char} (alpha : letter.isAlpha = true) (rest : List Char) :
    unescape? (letter :: rest) = (unescape? rest).map (letter :: ·) := by
  have other : ∀ char : Char, char.isAlpha = false → letter ≠ char := by
    rintro char mark rfl
    rw [alpha] at mark
    contradiction
  exact unescape?_cons (other '\\' (by decide)) (other '"' (by decide)) (other '\n' (by decide))
    rest

/-- The spelling of a character other than a backslash is read as that character. -/
theorem unescape?_escapeChar {char : Char} (plain : char ≠ '\\') (rest : List Char) :
    unescape? (escapeChar char ++ rest) = (unescape? rest).map (char :: ·) := by
  rcases escapeChar_cases char with
    ⟨spelled, unquoted, unbroken⟩ | rfl | ⟨letter, spelled, meant, _⟩
  · rw [spelled]
    exact unescape?_cons plain unquoted unbroken rest
  · have spelled : escapeChar '"' = ['\\', '"'] := rfl
    simp [spelled, unescape?_backslash, unescapeChar?]
  · simp [spelled, unescape?_backslash, meant]

/-- What is read from the spelling of a text is no longer than the text, and at most one longer
where a backslash stands before it. -/
theorem length_unescape?_le (chars : List Char) :
    (∀ meant, unescape? (chars.flatMap escapeChar) = some meant →
        meant.length ≤ chars.length) ∧
      ∀ meant, unescape? ('\\' :: chars.flatMap escapeChar) = some meant →
        meant.length ≤ chars.length + 1 := by
  -- A backslash of the text takes the next character with it, so both halves go together.
  induction chars with
  | nil =>
    refine ⟨fun meant read => ?_, fun meant read => ?_⟩
    · obtain rfl := Option.some.inj read
      exact Nat.le_refl _
    · simp [unescape?] at read
  | cons char chars ih =>
    obtain ⟨aligned, shifted⟩ := ih
    constructor
    · intro meant read
      rw [List.flatMap_cons] at read
      by_cases backslash : char = '\\'
      · subst backslash
        exact shifted meant read
      · rw [unescape?_escapeChar backslash] at read
        obtain ⟨others, rest, rfl⟩ := Option.map_eq_some_iff.1 read
        exact Nat.succ_le_succ (aligned others rest)
    · intro meant read
      rw [List.flatMap_cons] at read
      rcases escapeChar_cases char with ⟨spelled, _⟩ | rfl | ⟨letter, spelled, _, _, _, alpha, _⟩
      · rw [spelled, List.singleton_append, unescape?_backslash] at read
        obtain ⟨first, _, later⟩ := Option.bind_eq_some_iff.1 read
        obtain ⟨others, rest, rfl⟩ := Option.map_eq_some_iff.1 later
        exact Nat.le_succ_of_le (Nat.succ_le_succ (aligned others rest))
      · simp [escapeChar, unescape?] at read
      · rw [spelled, List.cons_append, List.singleton_append, unescape?_backslash,
          unescape?_letter alpha] at read
        obtain ⟨first, _, later⟩ := Option.bind_eq_some_iff.1 read
        obtain ⟨others, rest, rfl⟩ := Option.map_eq_some_iff.1 later
        obtain ⟨inner, last, rfl⟩ := Option.map_eq_some_iff.1 rest
        exact Nat.succ_le_succ (Nat.succ_le_succ (aligned inner last))

/-- The spelling of a text that starts with a backslash is not read as the text. -/
theorem unescape?_ne_of_backslash (chars : List Char) :
    unescape? ('\\' :: chars.flatMap escapeChar) ≠ some ('\\' :: chars) := by
  intro read
  cases chars with
  | nil => simp [unescape?] at read
  | cons char chars =>
    rw [List.flatMap_cons] at read
    rcases escapeChar_cases char with ⟨spelled, _⟩ | rfl | ⟨letter, spelled, _, _, _, alpha, other⟩
    · -- The two would have to be read as a backslash, so the second is one too, and one is read
      -- where the text has two.
      rw [spelled, List.singleton_append, unescape?_backslash] at read
      obtain ⟨first, meant, later⟩ := Option.bind_eq_some_iff.1 read
      obtain ⟨others, rest, same⟩ := Option.map_eq_some_iff.1 later
      obtain ⟨_, rfl⟩ := List.cons.inj same
      have bound := (length_unescape?_le chars).1 _ rest
      rw [List.length_cons] at bound
      omega
    · simp [escapeChar, unescape?] at read
    · rw [spelled, List.cons_append, List.singleton_append, unescape?_backslash,
        unescape?_letter alpha] at read
      obtain ⟨first, _, later⟩ := Option.bind_eq_some_iff.1 read
      obtain ⟨others, rest, same⟩ := Option.map_eq_some_iff.1 later
      obtain ⟨_, rfl⟩ := List.cons.inj same
      obtain ⟨inner, _, same⟩ := Option.map_eq_some_iff.1 rest
      exact other (List.cons.inj same).1

/-- A text is read from its spelling exactly where it has no backslash. -/
theorem unescape?_flatMap_iff (chars : List Char) :
    unescape? (chars.flatMap escapeChar) = some chars ↔ '\\' ∉ chars := by
  induction chars with
  | nil => simp [unescape?]
  | cons char chars ih =>
    rw [List.flatMap_cons]
    by_cases backslash : char = '\\'
    · subst backslash
      have unread := unescape?_ne_of_backslash chars
      exact ⟨fun read => absurd read unread, fun free => absurd List.mem_cons_self free⟩
    · have same : (unescape? (chars.flatMap escapeChar)).map (char :: ·) = some (char :: chars) ↔
          unescape? (chars.flatMap escapeChar) = some chars := by
        rw [Option.map_eq_some_iff]
        simp
      rw [unescape?_escapeChar backslash, same, ih, List.mem_cons, not_or]
      exact ⟨fun free => ⟨Ne.symm backslash, free⟩, fun free => free.2⟩

/-- A text is read from its spelling exactly where it has no backslash. -/
theorem read?_escape_iff (text : String) :
    read? (escape text) = some text ↔ '\\' ∉ text.toList := by
  rw [← unescape?_flatMap_iff, read?, toList_escape, Option.map_eq_some_iff]
  constructor
  · rintro ⟨chars, read, rfl⟩
    rwa [String.toList_ofList] at read ⊢
  · intro read
    exact ⟨text.toList, read, String.ofList_toList⟩

end Text

namespace Expr

/-- The text that an expression denotes as a string literal, if it is one. -/
def denoted? (expr : Expr) : Option String :=
  match expr.code.toList with
  | '"' :: rest =>
    if rest.getLast? = some '"' then Text.read? (String.ofList rest.dropLast) else none
  | _ => none

/-- The literal of a text denotes what its inside stands for. -/
theorem denoted?_quoted (text : String) :
    denoted? ⟨Text.quoted text⟩ = Text.read? (Text.escape text) := by
  have code : (Text.quoted text).toList = '"' :: ((Text.escape text).toList ++ ['"']) := by
    simp [Text.quoted]
  simp only [denoted?, code, List.getLast?_concat, List.dropLast_concat, if_true,
    String.ofList_toList]

/-- The literal of a text is its spelling between quotes. -/
theorem value_string [JsonLibrary] (text : String) :
    Expr.value text = .ok ⟨Text.quoted text⟩ := rfl

/-- A text is read from its own literal exactly where it has no backslash, so the literals of two
texts without backslashes are one only where the texts are. -/
theorem denoted?_value_iff [JsonLibrary] (text : String) :
    (Text.read? (Text.escape text) = some text ↔ '\\' ∉ text.toList) ∧
      (∃ expr, Expr.value text = .ok expr ∧
        (expr.denoted? = some text ↔ '\\' ∉ text.toList)) ∧
      ∀ other : String, '\\' ∉ text.toList → '\\' ∉ other.toList →
        Expr.value text = Expr.value other → text = other := by
  refine ⟨Text.read?_escape_iff text, ⟨_, value_string text, ?_⟩, ?_⟩
  · rw [denoted?_quoted]
    exact Text.read?_escape_iff text
  · intro other free clear same
    rw [value_string, value_string] at same
    have literals : Expr.mk (Text.quoted text) = ⟨Text.quoted other⟩ := Except.ok.inj same
    have first := (Text.read?_escape_iff text).2 free
    have second := (Text.read?_escape_iff other).2 clear
    rw [← denoted?_quoted] at first second
    rw [literals, second] at first
    exact (Option.some.inj first).symm

/-- The literal of a greeting denotes the greeting, its quotes and line break included. -/
theorem denoted?_value_greeting :
    let text := "say \"hi\"\n"
    '\\' ∉ text.toList ∧ '\\' ∉ "say".toList ∧
      (∃ expr, Expr.value text = .ok expr ∧ expr.code = "\"say \\\"hi\\\"\\n\"" ∧
        expr.denoted? = some text) ∧
      (Expr.value text = Expr.value "say" → text = "say") := by
  intro text
  have free : '\\' ∉ text.toList := by decide
  have clear : '\\' ∉ "say".toList := by decide
  obtain ⟨_, ⟨expr, value, denoted⟩, same⟩ := denoted?_value_iff text
  refine ⟨free, clear, ⟨expr, value, ?_, denoted.2 free⟩, same "say" free clear⟩
  obtain rfl : Expr.mk (Text.quoted text) = expr := Except.ok.inj value
  decide

end Expr
end CSource
