import CSource.Proofs.Declarator.Token
import CSource.Proofs.Number.Whole
import CSource.Proofs.Text.Comment

/-!
# Tokens of C

A text is cut into tokens from left to right, and what stands first is always cut off as long as it
can be: a name, a number or a literal goes on as far as its characters do, and of the marks of C the
longest one counts (`Lexeme.length_le_of_mark?`). White space and comments separate tokens and mean
nothing else. A token is cut off on its own where nothing after it makes it longer (`scan_mark`,
`scan_word`, `scan_number`).
-/

namespace CSource

/-- A token of C. -/
inductive Lexeme where
  /-- A name or a keyword. -/
  | word (text : String)
  /-- A number, in whatever form. -/
  | number (text : String)
  /-- A string or character literal, with its quotes. -/
  | literal (text : String)
  /-- An operator or another mark. -/
  | mark (text : String)
  /-- A character that no token starts with. -/
  | stray (char : Char)
deriving DecidableEq, Repr

namespace Lexeme

/-- White space. -/
def isBlank (char : Char) : Bool :=
  char = ' ' || char = '\t' || char = '\n' || char = '\r' || char = '\x0b' || char = '\x0c'

/-- The quotes of strings and of characters. -/
def isQuote (char : Char) : Bool := char = '"' || char = '\''

/-- The words that a literal may have right before its opening quote. -/
def encodings : List String := ["L", "u", "U", "u8"]

/-- The marks of C and the two that open a comment, the longest first. -/
def marks : List String :=
  ["%:%:",
   "...", "<<=", ">>=",
   "//", "/*", "->", "++", "--", "<<", ">>", "<=", ">=", "==", "!=", "&&", "||", "*=", "/=", "%=",
   "+=", "-=", "&=", "^=", "|=", "##", "<:", ":>", "<%", "%>", "%:",
   "[", "]", "(", ")", "\x7b", "\x7d", ".", "&", "*", "+", "-", "~", "!", "/", "%", "<", ">", "^",
   "|", "?", ":", ";", "=", ",", "#"]

/-- The longest mark that a text starts with. -/
def mark? (text : List Char) : Option String :=
  marks.find? fun listed => listed.toList.isPrefixOf text

/-- The characters that a number goes on with after its last one, and what follows them: letters,
digits, points, and a sign after the letter of an exponent. -/
def numberTail (last : Char) : List Char → List Char × List Char
  | [] => ([], [])
  | char :: rest =>
    if isWordChar char || char = '.' ||
        (char = '+' || char = '-') && "eEpP".toList.contains last then
      (char :: (numberTail char rest).1, (numberTail char rest).2)
    else ([], char :: rest)

/-- The inside of a literal with its closing quote, and what follows it, if it is closed before the
end of the line. -/
def literalTail? (quote : Char) : List Char → Option (List Char × List Char)
  | [] => none
  | '\\' :: char :: rest => (literalTail? quote rest).map fun (inside, later) =>
      ('\\' :: char :: inside, later)
  | char :: rest =>
    if char = quote then some ([char], rest)
    else if char = '\n' then none
    else (literalTail? quote rest).map fun (inside, later) => (char :: inside, later)

/-- The literal that a text starts with, and what follows it. -/
def literal? : List Char → Option (List Char × List Char)
  | [] => none
  | quote :: rest =>
    if isQuote quote then
      (literalTail? quote rest).map fun (inside, later) => (quote :: inside, later)
    else none

/-- What stands first in a text that is not empty, if it is a token, and what follows it. -/
def cut (char : Char) (rest : List Char) : Option Lexeme × List Char :=
  if isBlank char then (none, rest)
  else if char.isDigit || char = '.' && rest.head?.any Char.isDigit then
    (some (.number (String.ofList (char :: (numberTail char rest).1))), (numberTail char rest).2)
  else if isWordChar char then
    let word := String.ofList (char :: rest.takeWhile isWordChar)
    let later := rest.dropWhile isWordChar
    match if word ∈ encodings then literal? later else none with
    | some (inside, later) => (some (.literal (word ++ String.ofList inside)), later)
    | none => (some (.word word), later)
  else if isQuote char then
    match literal? (char :: rest) with
    | some (inside, later) => (some (.literal (String.ofList inside)), later)
    | none => (some (.stray char), rest)
  else
    match mark? (char :: rest) with
    | some longest =>
      let later := rest.drop (longest.length - 1)
      if longest = "//" then (none, Text.afterLine later)
      else if longest = "/*" then (none, Text.afterBlock later)
      else (some (.mark longest), later)
    | none => (some (.stray char), rest)

/-- What follows a number is no longer than the text after its first character. -/
theorem length_numberTail_le (last : Char) (text : List Char) :
    (numberTail last text).2.length ≤ text.length := by
  induction text generalizing last with
  | nil => exact Nat.le_refl _
  | cons char rest ih =>
    rw [numberTail]
    split
    · exact Nat.le_succ_of_le (ih char)
    · exact Nat.le_refl _

/-- What follows a literal is no longer than the text after its opening quote. -/
theorem length_literalTail?_le {quote : Char} {text inside later : List Char}
    (found : literalTail? quote text = some (inside, later)) : later.length ≤ text.length := by
  fun_induction literalTail? quote text generalizing inside later with
  | case1 => contradiction
  | case2 char rest ih =>
    obtain ⟨⟨first, last⟩, tail, same⟩ := Option.map_eq_some_iff.1 found
    obtain ⟨_, rfl⟩ := Prod.mk.inj same
    exact Nat.le_succ_of_le (Nat.le_succ_of_le (ih tail))
  | case3 rest _ =>
    obtain ⟨_, rfl⟩ := Prod.mk.inj (Option.some.inj found)
    exact Nat.le_succ _
  | case4 => contradiction
  | case5 char rest _ _ _ ih =>
    obtain ⟨⟨first, last⟩, tail, same⟩ := Option.map_eq_some_iff.1 found
    obtain ⟨_, rfl⟩ := Prod.mk.inj same
    exact Nat.le_succ_of_le (ih tail)

/-- What follows a literal is shorter than the text that it stands at the start of. -/
theorem length_literal?_lt {text inside later : List Char}
    (found : literal? text = some (inside, later)) : later.length < text.length := by
  cases text with
  | nil => contradiction
  | cons quote rest =>
    rw [literal?] at found
    split at found
    · obtain ⟨⟨first, last⟩, tail, same⟩ := Option.map_eq_some_iff.1 found
      obtain ⟨_, rfl⟩ := Prod.mk.inj same
      exact Nat.lt_succ_of_le (length_literalTail?_le tail)
    · contradiction

/-- What follows the first token is shorter than the text. -/
theorem length_cut_le (char : Char) (rest : List Char) :
    (cut char rest).2.length ≤ rest.length := by
  have word : (rest.dropWhile isWordChar).length ≤ rest.length :=
    (List.dropWhile_sublist _).length_le
  unfold cut
  split
  · exact Nat.le_refl _
  split
  · exact length_numberTail_le char rest
  split
  · dsimp only
    split
    · rename_i inside later found
      split at found
      · exact Nat.le_trans (Nat.le_of_lt (length_literal?_lt found)) word
      · contradiction
    · exact word
  split
  · split
    · rename_i inside later found
      exact Nat.le_of_lt_succ (length_literal?_lt found)
    · exact Nat.le_refl _
  · split
    · rename_i longest found
      have dropped : (rest.drop (longest.length - 1)).length ≤ rest.length := by simp
      dsimp only
      split
      · exact Nat.le_trans (Text.length_afterLine_le _) dropped
      split
      · exact Nat.le_trans (Text.length_afterBlock_le _) dropped
      · exact dropped
    · exact Nat.le_refl _

/-- The tokens of a text. -/
def scan : List Char → List Lexeme
  | [] => []
  | char :: rest => (cut char rest).1.toList ++ scan (cut char rest).2
termination_by text => text.length
decreasing_by exact Nat.lt_succ_of_le (length_cut_le char rest)

/-- The tokens of a text. -/
def ofText (text : String) : List Lexeme := scan text.toList

/-- An empty text has no tokens. -/
@[simp] theorem scan_nil : scan [] = [] := by rw [scan]

/-- A space means nothing. -/
@[simp] theorem scan_space (rest : List Char) : scan (' ' :: rest) = scan rest := by
  rw [scan]
  rfl

/-- The longest mark is found. -/
theorem length_le_of_mark? {text : List Char} {found other : String}
    (longest : mark? text = some found) (listed : other ∈ marks) (starts : other.toList <+: text) :
    other.length ≤ found.length := by
  have sorted : marks.Pairwise fun longer shorter => shorter.length ≤ longer.length := by decide
  obtain ⟨_, before, after, parts, unmatched⟩ := List.find?_eq_some_iff_append.1 longest
  rw [parts] at sorted listed
  rcases List.mem_append.1 listed with earlier | later
  · have prefixed : other.toList.isPrefixOf text = true := List.isPrefixOf_iff_prefix.2 starts
    have refused := unmatched other earlier
    rw [prefixed] at refused
    contradiction
  · rcases List.mem_cons.1 later with rfl | later
    · exact Nat.le_refl _
    · exact (List.pairwise_cons.1 (List.pairwise_append.1 sorted).2.1).1 other later

/-- Whether a character after a mark makes it longer, or makes it the point of a number. -/
def isLonger (shorter : String) (next : Char) : Bool :=
  (marks.any fun longer => (shorter.toList ++ [next]).isPrefixOf longer.toList) ||
    shorter = "." && next.isDigit

/-- A mark that the next character does not make longer is the longest one that the text starts
with. -/
theorem mark?_append {text : String} (listed : text ∈ marks) {rest : List Char}
    (ends : ∀ next ∈ rest.head?, isLonger text next = false) :
    mark? (text.toList ++ rest) = some text := by
  have starts : text.toList <+: text.toList ++ rest := List.prefix_append _ _
  cases longest : mark? (text.toList ++ rest) with
  | none =>
    have refused := List.find?_eq_none.1 longest text listed
    exact absurd (List.isPrefixOf_iff_prefix.2 starts) refused
  | some found =>
    have matched : found.toList <+: text.toList ++ rest := by
      simpa using List.find?_some longest
    have length := length_le_of_mark? longest listed starts
    rw [← String.length_toList, ← String.length_toList] at length
    obtain ⟨more, shape⟩ := List.prefix_of_prefix_length_le starts matched length
    cases more with
    | nil => rw [List.append_nil, String.toList_inj] at shape; rw [shape]
    | cons next others =>
      rw [← shape, List.prefix_append_right_inj] at matched
      obtain ⟨last, rfl⟩ := matched
      have longer : (text.toList ++ [next]).isPrefixOf found.toList = true := by
        rw [List.isPrefixOf_iff_prefix, ← shape]
        simp
      have fixed := ends next rfl
      rw [isLonger, Bool.or_eq_false_iff, List.any_eq_false] at fixed
      exact absurd longer (fixed.1 found (List.mem_of_find?_eq_some longest))

/-- A text that is not empty begins with its first token. -/
theorem scan_cons (char : Char) (rest : List Char) :
    scan (char :: rest) = (cut char rest).1.toList ++ scan (cut char rest).2 := by
  rw [scan]

/-- Whether a character can only belong to a mark, as far as tokens go. -/
def isMarkChar (char : Char) : Bool := !isBlank char && !isWordChar char && !isQuote char

/-- Marks are made of characters that belong to no other token. -/
theorem all_isMarkChar : ∀ text ∈ marks, text.toList ≠ [] ∧ text.toList.all isMarkChar = true := by
  decide

/-- A point at the start of a mark is all of it or stands before another one. -/
theorem point_of_mem_marks : ∀ text ∈ marks, text.toList.head? = some '.' →
    text = "." ∨ text.toList[1]? = some '.' := by
  decide

/-- A point that begins a mark begins no number where the next character does not make the mark
longer. -/
theorem point_of_ends {text : String} (listed : text ∈ marks) {first : Char}
    {others rest : List Char} (shape : text.toList = first :: others)
    (ends : ∀ next ∈ rest.head?, isLonger text next = false) :
    (first = '.' && (others ++ rest).head?.any Char.isDigit) = false := by
  have point := point_of_mem_marks text listed
  rw [shape] at point
  rw [Bool.and_eq_false_imp, decide_eq_true_eq]
  rintro rfl
  rcases point rfl with rfl | second
  · obtain rfl : others = [] := (List.cons.inj shape).2.symm
    cases rest with
    | nil => rfl
    | cons next rest =>
      have fixed := ends next rfl
      rw [isLonger, Bool.or_eq_false_iff] at fixed
      simpa using fixed.2
  · cases others with
    | nil => contradiction
    | cons next others =>
      obtain rfl : next = '.' := Option.some.inj second
      rfl

/-- A mark is cut off where the next character does not make it longer. -/
theorem scan_mark {text : String} (listed : text ∈ marks) (token : text ≠ "//" ∧ text ≠ "/*")
    {rest : List Char} (ends : ∀ next ∈ rest.head?, isLonger text next = false) :
    scan (text.toList ++ rest) = .mark text :: scan rest := by
  have longest := mark?_append listed ends
  obtain ⟨nonempty, plain⟩ := all_isMarkChar text listed
  cases shape : text.toList with
  | nil => exact absurd shape nonempty
  | cons first others =>
    rw [shape] at plain longest
    rw [List.cons_append] at longest
    simp only [List.all_cons, isMarkChar, Bool.and_eq_true, Bool.not_eq_true'] at plain
    have undigit : first.isDigit = false := by
      have alphanum := plain.1.1.2
      simp only [isWordChar, Char.isAlphanum, Bool.or_eq_false_iff] at alphanum
      exact alphanum.1.2
    have number := point_of_ends listed shape ends
    have length : text.length - 1 = others.length := by
      rw [← String.length_toList, shape, List.length_cons, Nat.add_sub_cancel]
    rw [List.cons_append, scan_cons]
    have first_cut : cut first (others ++ rest) = (some (.mark text), rest) := by
      unfold cut
      rw [plain.1.1.1, undigit, number, plain.1.1.2, plain.1.2]
      simp [longest, token, length]
    rw [first_cut]
    rfl

/-- Characters of names and numbers are no white space. -/
theorem isBlank_of_isWordChar {char : Char} (word : isWordChar char = true) :
    isBlank char = false := by
  rw [Bool.eq_false_iff]
  intro blank
  simp only [isBlank, Bool.or_eq_true, decide_eq_true_eq] at blank
  rcases blank with ((((rfl | rfl) | rfl) | rfl) | rfl) | rfl <;> exact absurd word (by decide)

/-- Digits are characters of names and numbers. -/
theorem isWordChar_of_isDigit {char : Char} (digit : char.isDigit = true) :
    isWordChar char = true := by
  simp [isWordChar, Char.isAlphanum, digit]

/-- Characters of a run are taken up to the first that does not go on with it. -/
theorem span_word {chars rest : List Char} (word : ∀ char ∈ chars, isWordChar char = true)
    (ends : ∀ next ∈ rest.head?, isWordChar next = false) :
    (chars ++ rest).takeWhile isWordChar = chars ∧
      (chars ++ rest).dropWhile isWordChar = rest := by
  rw [List.takeWhile_append_of_pos word, List.dropWhile_append_of_pos word]
  cases rest with
  | nil => simp
  | cons next rest => simp [ends next rfl]

/-- A name is cut off where no further character of a name, and no quote, stands after it. -/
theorem scan_word {text : String} (identifier : isIdentifier text = true) {rest : List Char}
    (ends : ∀ next ∈ rest.head?, isWordChar next = false ∧ isQuote next = false) :
    scan (text.toList ++ rest) = .word text :: scan rest := by
  unfold isIdentifier at identifier
  cases shape : text.toList with
  | nil => simp [shape] at identifier
  | cons first others =>
    simp only [shape, Bool.and_eq_true, Bool.not_eq_true', List.all_eq_true] at identifier
    obtain ⟨⟨word, undigit⟩, all⟩ := identifier
    have unblank := isBlank_of_isWordChar word
    have unpoint : first ≠ '.' := by
      rintro rfl
      contradiction
    obtain ⟨taken, dropped⟩ := span_word all fun next head => (ends next head).1
    have unquoted : literal? rest = none := by
      cases rest with
      | nil => rfl
      | cons next rest => simp [literal?, ends next rfl]
    have name : String.ofList (first :: others) = text := by rw [← shape, String.ofList_toList]
    have first_cut : cut first (others ++ rest) = (some (.word text), rest) := by
      unfold cut
      simp [unblank, undigit, unpoint, word, taken, dropped, unquoted, name]
    rw [List.cons_append, scan_cons, first_cut]
    rfl

/-- Digits go on with a number up to the first character that does not. -/
theorem numberTail_append (last : Char) {digits rest : List Char}
    (all : ∀ char ∈ digits, char.isDigit = true)
    (ends : ∀ next ∈ rest.head?, isWordChar next = false ∧ next ≠ '.' ∧ next ≠ '+' ∧ next ≠ '-') :
    numberTail last (digits ++ rest) = (digits, rest) := by
  induction digits generalizing last with
  | nil =>
    cases rest with
    | nil => rfl
    | cons next rest => simp [numberTail, ends next rfl]
  | cons digit digits ih =>
    have word := isWordChar_of_isDigit (all digit List.mem_cons_self)
    have later := ih digit fun char mem => all char (List.mem_cons_of_mem _ mem)
    simp [numberTail, word, later]

/-- A whole number is cut off where no character goes on with it. -/
theorem scan_number (value : Nat) {rest : List Char}
    (ends : ∀ next ∈ rest.head?, isWordChar next = false ∧ next ≠ '.' ∧ next ≠ '+' ∧ next ≠ '-') :
    scan ((toString value).toList ++ rest) = .number (toString value) :: scan rest := by
  have digits : ∀ char ∈ (toString value).toList, char.isDigit = true := fun _ =>
    isDigit_of_mem_toString
  cases shape : (toString value).toList with
  | nil => exact absurd shape (toList_toString_ne_nil value)
  | cons first others =>
    rw [shape] at digits
    have unblank := isBlank_of_isWordChar (isWordChar_of_isDigit (digits first List.mem_cons_self))
    have tail := numberTail_append first (fun char mem => digits char (List.mem_cons_of_mem _ mem))
      ends
    have text : String.ofList (first :: others) = toString value := by
      rw [← shape, String.ofList_toList]
    have first_cut : cut first (others ++ rest) = (some (.number (toString value)), rest) := by
      unfold cut
      simp only [unblank, digits first List.mem_cons_self, tail, text]
      simp
    rw [List.cons_append, scan_cons, first_cut]
    rfl

end Lexeme
end CSource
