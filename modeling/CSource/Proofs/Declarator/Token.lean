import CSource.Text.Quoted

/-!
# Tokens of a declaration

A declaration is read as tokens: names and keywords, numbers, string literals and six marks.
Words and numbers are the longest runs of letters, digits and underscores; spaces separate them
and mean nothing else. Scanning goes from left to right, one character at a time, and remembers
only what is unfinished, so scanning two texts in a row is scanning one after the other
(`scan_append`).
-/

namespace CSource

/-- A token of a declaration. -/
inductive Token where
  /-- A name or a keyword. -/
  | word (text : String)
  /-- A whole number. -/
  | number (value : Nat)
  /-- A string literal, whatever it holds. -/
  | literal
  /-- The mark of a pointer. -/
  | star
  /-- The mark between parameters. -/
  | comma
  /-- The start of a group or of a list of parameters. -/
  | parenOpen
  /-- The end of a group or of a list of parameters. -/
  | parenClose
  /-- The start of the size of an array. -/
  | bracketOpen
  /-- The end of the size of an array. -/
  | bracketClose
deriving DecidableEq, Repr

/-- The characters of names and numbers. -/
def isWordChar (char : Char) : Bool := char.isAlphanum || char = '_'

/-- Whether a text is a name of C: letters, digits and underscores, with no digit first. -/
def isIdentifier (text : String) : Bool :=
  match text.toList with
  | [] => false
  | first :: rest => isWordChar first && !first.isDigit && rest.all isWordChar

namespace Token

/-- The token of a longest run of word characters. -/
def ofRun (run : List Char) : Option Token :=
  if run.all Char.isDigit then some (.number (Nat.ofDigitChars 10 run 0))
  else if isIdentifier (String.ofList run) then some (.word (String.ofList run))
  else none

/-- The token of a mark. -/
def ofMark : Char → Option Token
  | '*' => some .star
  | ',' => some .comma
  | '(' => some .parenOpen
  | ')' => some .parenClose
  | '[' => some .bracketOpen
  | ']' => some .bracketClose
  | _ => none

/-- What is unfinished between two characters. -/
inductive Pending where
  /-- Nothing. -/
  | nothing
  /-- A run of word characters. -/
  | run (chars : List Char)
  /-- A string literal. -/
  | inside
  /-- A string literal, right after a backslash. -/
  | escaped
deriving DecidableEq, Repr

namespace Pending

/-- The tokens that the end of the text finishes. A string literal is not finished by it. -/
def flush : Pending → Option (List Token)
  | nothing => some []
  | run chars => (ofRun chars).map ([·])
  | inside | escaped => none

/-- Whether a string literal is unfinished. -/
def isLiteral : Pending → Bool
  | nothing | run _ => false
  | inside | escaped => true

/-- The effect of a character where nothing is unfinished. -/
def start (char : Char) : Option (List Token × Pending) :=
  if isWordChar char then some ([], run [char])
  else if char = '"' then some ([], inside)
  else if char = ' ' then some ([], nothing)
  else (ofMark char).map fun mark => ([mark], nothing)

/-- The tokens that a character finishes, and what is unfinished after it. A line break ends no
literal and stands in none. -/
def next : Pending → Char → Option (List Token × Pending)
  | nothing, char => start char
  | run chars, char =>
    if isWordChar char then some ([], run (chars ++ [char]))
    else do
      let word ← ofRun chars
      let (tokens, pending) ← start char
      some (word :: tokens, pending)
  | inside, char =>
    if char = '"' then some ([.literal], nothing)
    else if char = '\\' then some ([], escaped)
    else if char = '\n' then none
    else some ([], inside)
  | escaped, char => if char = '\n' then none else some ([], inside)

/-- The tokens that some characters finish, and what is unfinished after them. -/
def scan : Pending → List Char → Option (List Token × Pending)
  | pending, [] => some ([], pending)
  | pending, char :: rest => do
    let (tokens, middle) ← pending.next char
    let (later, last) ← middle.scan rest
    some (tokens ++ later, last)

/-- Scanning two texts in a row is scanning one after the other. -/
theorem scan_append (pending : Pending) (left right : List Char) :
    pending.scan (left ++ right) = (pending.scan left).bind fun (tokens, middle) =>
      (middle.scan right).map fun (later, last) => (tokens ++ later, last) := by
  induction left generalizing pending with
  | nil => simp [scan]
  | cons char left ih =>
    rw [List.cons_append, scan, scan]
    cases pending.next char with
    | none => rfl
    | some found =>
      obtain ⟨tokens, middle⟩ := found
      simp only [Option.bind_eq_bind, Option.bind_some, ih]
      cases middle.scan left with
      | none => rfl
      | some found =>
        simp only [Option.bind_some]
        cases found.2.scan right with
        | none => rfl
        | some last => simp

/-- What is unfinished after two texts is unfinished after the second where the first left off. -/
theorem of_scan_append {pending last : Pending} {left right : List Char} {tokens : List Token}
    (found : pending.scan (left ++ right) = some (tokens, last)) :
    ∃ first middle second, pending.scan left = some (first, middle) ∧
      middle.scan right = some (second, last) := by
  rw [scan_append] at found
  obtain ⟨⟨first, middle⟩, start, rest⟩ := Option.bind_eq_some_iff.1 found
  obtain ⟨⟨second, final⟩, finish, same⟩ := Option.map_eq_some_iff.1 rest
  obtain ⟨_, rfl⟩ := Prod.mk.inj same
  exact ⟨first, middle, second, start, finish⟩

/-- What is unfinished after a character and a text is unfinished after the text where the
character left off. -/
theorem of_scan_cons {pending last : Pending} {char : Char} {rest : List Char}
    {tokens : List Token} (found : pending.scan (char :: rest) = some (tokens, last)) :
    ∃ first middle second, pending.next char = some (first, middle) ∧
      middle.scan rest = some (second, last) := by
  rw [scan] at found
  obtain ⟨⟨first, middle⟩, start, rest⟩ := Option.bind_eq_some_iff.1 found
  obtain ⟨⟨second, final⟩, finish, same⟩ := Option.bind_eq_some_iff.1 rest
  obtain ⟨_, rfl⟩ := Prod.mk.inj (Option.some.inj same)
  exact ⟨first, middle, second, start, finish⟩

end Pending

/-- The tokens of a text, unless it has characters or runs that belong to none. -/
def ofText (text : String) : Option (List Token) := do
  let (tokens, pending) ← Pending.nothing.scan text.toList
  let last ← pending.flush
  some (tokens ++ last)

/-- An empty text has no tokens. -/
theorem ofText_empty : ofText "" = some [] := rfl

/-- Whether a text has the given tokens with nothing unfinished after it, so that what follows
is scanned on its own. -/
def Closed (text : String) (tokens : List Token) : Prop :=
  Pending.nothing.scan text.toList = some (tokens, .nothing)

/-- A text after a closed one adds its own tokens. -/
theorem Closed.ofText_append {left right : String} {tokens later : List Token}
    (closed : Closed left tokens) (found : Token.ofText right = some later) :
    Token.ofText (left ++ right) = some (tokens ++ later) := by
  unfold Closed at closed
  rw [Token.ofText] at found ⊢
  rw [String.toList_append, Pending.scan_append, closed]
  cases scanned : Pending.nothing.scan right.toList with
  | none => simp [scanned] at found
  | some result =>
    obtain ⟨first, pending⟩ := result
    cases flushed : pending.flush with
    | none => simp [scanned, flushed] at found
    | some last =>
      simp only [scanned, Option.bind_eq_bind, Option.bind_some, flushed,
        Option.some.injEq] at found
      simp [scanned, flushed, ← found]

/-- Whether a character is a mark or a space, which ends every run. -/
def isSeparator (char : Char) : Bool := char = ' ' || (ofMark char).isSome

/-- A separator is no word character and opens no literal. -/
theorem start_of_isSeparator {char : Char} (separator : isSeparator char = true) :
    isWordChar char = false ∧ Pending.start char = some ((ofMark char).toList, .nothing) := by
  unfold isSeparator ofMark at separator
  split at separator <;> try exact ⟨by decide, by decide⟩
  obtain rfl : char = ' ' := by simpa using separator
  exact ⟨by decide, by decide⟩

/-- A separator finishes what the end of the text would have finished. -/
theorem Pending.scan_separator {pending : Pending} {tokens : List Token} {char : Char}
    (flushed : pending.flush = some tokens) (separator : isSeparator char = true)
    (rest : List Char) :
    pending.scan (char :: rest) = (nothing.scan (char :: rest)).map fun (later, last) =>
      (tokens ++ later, last) := by
  have start := start_of_isSeparator separator
  cases pending with
  | nothing =>
    obtain rfl := Option.some.inj flushed
    simp
  | run chars =>
    cases word : ofRun chars with
    | none => simp [flush, word] at flushed
    | some token =>
      simp only [flush, word, Option.map_some, Option.some.injEq] at flushed
      simp only [scan, next, start.1, start.2, word, ← flushed]
      cases scanned : nothing.scan rest <;> simp [scanned]
  | inside => simp [flush] at flushed
  | escaped => simp [flush] at flushed

/-- A text that starts with a separator adds its own tokens to those of the text before it. -/
theorem ofText_append {left right : String} {tokens : List Token}
    (found : ofText left = some tokens)
    (separated : ∀ char ∈ right.toList.head?, isSeparator char = true) :
    ofText (left ++ right) = (ofText right).map (tokens ++ ·) := by
  cases shape : right.toList with
  | nil =>
    obtain rfl := String.toList_inj.1 (shape.trans String.toList_empty.symm)
    rw [String.append_empty, found, ofText_empty]
    simp
  | cons char rest =>
    rw [ofText] at found ⊢
    rw [String.toList_append, Pending.scan_append, ofText, shape]
    cases scanned : Pending.nothing.scan left.toList with
    | none => simp [scanned] at found
    | some result =>
      obtain ⟨first, pending⟩ := result
      cases flushed : pending.flush with
      | none => simp [scanned, flushed] at found
      | some last =>
        simp only [scanned, Option.bind_eq_bind, Option.bind_some, flushed,
          Option.some.injEq] at found
        have finished := Pending.scan_separator flushed (separated char (by simp [shape])) rest
        simp only [Option.bind_some, finished, ← found]
        cases Pending.nothing.scan (char :: rest) with
        | none => rfl
        | some result => cases ended : result.2.flush <;> simp [ended]

end Token
end CSource
