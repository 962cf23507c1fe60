import CSource.Text.Quoted

/-!
# Braces in texts

Symbols that open and close pairs, such as the braces of a text, are closed when every pair that
they open is closed after it and nothing else is closed (`Mark.IsClosed`). A text is inline when its
braces are closed and it has no line break, so that it can stand anywhere in a line
(`Text.IsInline`).
-/

namespace CSource

/-- What a symbol does to pairs. -/
inductive Mark where
  /-- It opens a pair. -/
  | opens
  /-- It closes a pair. -/
  | closes
  /-- It does neither. -/
  | neutral
deriving DecidableEq, Repr

namespace Mark

/-- The number of open pairs after a mark, unless it closes one that is not open. -/
def after? (opened : Nat) : Mark → Option Nat
  | opens => some (opened + 1)
  | closes => if opened = 0 then none else some (opened - 1)
  | neutral => some opened

variable {α : Type} {mark : α → Mark} {opened middle final : Nat} {left right symbols : List α}

/-- The number of open pairs after symbols in order, unless one closes a pair that is not open. -/
def openAfter? (mark : α → Mark) (opened : Nat) (symbols : List α) : Option Nat :=
  symbols.foldlM (fun opened symbol => (mark symbol).after? opened) opened

/-- Without symbols nothing changes. -/
@[simp] theorem openAfter?_nil : openAfter? mark opened [] = some opened := rfl

/-- The first symbol is met first. -/
@[simp] theorem openAfter?_cons (symbol : α) :
    openAfter? mark opened (symbol :: symbols) =
      ((mark symbol).after? opened).bind (openAfter? mark · symbols) := rfl

/-- Symbols in a row are met one after the other. -/
theorem openAfter?_append (mark : α → Mark) (opened : Nat) (left right : List α) :
    openAfter? mark opened (left ++ right) =
      (openAfter? mark opened left).bind (openAfter? mark · right) :=
  List.foldlM_append

/-- Symbols after others begin with what these leave open. -/
theorem openAfter?_append_of (first : openAfter? mark opened left = some middle) :
    openAfter? mark opened (left ++ right) = openAfter? mark middle right := by
  rw [openAfter?_append, first]
  rfl

/-- Pairs that are open from before stay open. -/
theorem openAfter?_add (more : Nat) (found : openAfter? mark opened symbols = some final) :
    openAfter? mark (more + opened) symbols = some (more + final) := by
  induction symbols generalizing opened with
  | nil =>
    obtain rfl := Option.some.inj found
    rfl
  | cons symbol symbols ih =>
    rw [openAfter?_cons] at found ⊢
    obtain ⟨next, first, rest⟩ := Option.bind_eq_some_iff.1 found
    have moved : (mark symbol).after? (more + opened) = some (more + next) := by
      cases kind : mark symbol <;> simp [kind, after?] at first ⊢ <;> omega
    rw [moved]
    exact ih rest

/-- Symbols that neither open nor close a pair change nothing. -/
theorem openAfter?_of_neutral (neutral : ∀ symbol ∈ symbols, mark symbol = .neutral) :
    openAfter? mark opened symbols = some opened := by
  induction symbols with
  | nil => rfl
  | cons symbol symbols ih =>
    have rest := ih fun next mem => neutral next (List.mem_cons_of_mem _ mem)
    rw [openAfter?_cons, neutral symbol List.mem_cons_self]
    exact rest

/-- Whether symbols close every pair that they open, and none before it is open. -/
def IsClosed (mark : α → Mark) (symbols : List α) : Prop := openAfter? mark 0 symbols = some 0

instance (mark : α → Mark) (symbols : List α) : Decidable (IsClosed mark symbols) :=
  inferInstanceAs (Decidable (openAfter? mark 0 symbols = some 0))

namespace IsClosed

/-- Whatever is open, closed symbols leave as much open. -/
theorem openAfter?_eq (closed : IsClosed mark symbols) (opened : Nat) :
    openAfter? mark opened symbols = some opened :=
  openAfter?_add opened closed

/-- Closed symbols in a row are closed. -/
theorem append (first : IsClosed mark left) (second : IsClosed mark right) :
    IsClosed mark (left ++ right) :=
  (openAfter?_append_of first).trans second

/-- Closed symbols between a symbol that opens a pair and one that closes it are closed. -/
theorem wrap {front back : α} (opening : mark front = .opens) (closing : mark back = .closes)
    (closed : IsClosed mark symbols) : IsClosed mark (front :: symbols ++ [back]) := by
  have inner : openAfter? mark 0 (front :: symbols) = some 1 := by
    rw [openAfter?_cons, opening]
    exact closed.openAfter?_eq 1
  have last : openAfter? mark 1 [back] = some 0 := by
    rw [openAfter?_cons, closing]
    rfl
  exact (openAfter?_append_of inner).trans last

end IsClosed
end Mark

namespace Text

open Mark (IsClosed openAfter?)

/-- The marks of braces. -/
def brace : Char → Mark
  | '\x7b' => .opens
  | '\x7d' => .closes
  | _ => .neutral

/-- Whether a text is bare: it has no brace, no number sign and no line break. -/
def IsBare (text : String) : Prop := ∀ char ∈ text.toList, char ∉ ['\x7b', '\x7d', '#', '\n']

instance : DecidablePred IsBare := fun text =>
  decidable_of_iff
    (text.toList.all fun char => ['\x7b', '\x7d', '#', '\n'].contains char == false)
    (by simp [IsBare])

/-- Whether a text can stand anywhere in a line: its braces are closed, and it has neither a number
sign nor a line break. -/
structure IsInline (text : String) : Prop where
  /-- Every brace that the text opens is closed in it. -/
  closed : IsClosed brace text.toList
  /-- There is no number sign. -/
  unsigned : '#' ∉ text.toList
  /-- There is no line break. -/
  unbroken : '\n' ∉ text.toList

instance (text : String) : Decidable (IsInline text) :=
  decidable_of_iff (IsClosed brace text.toList ∧ '#' ∉ text.toList ∧ '\n' ∉ text.toList)
    ⟨fun ⟨closed, unsigned, unbroken⟩ => ⟨closed, unsigned, unbroken⟩,
      fun ⟨closed, unsigned, unbroken⟩ => ⟨closed, unsigned, unbroken⟩⟩

/-- A character that is no brace opens and closes nothing. -/
theorem brace_of_not_mem {char : Char} (other : char ∉ ['\x7b', '\x7d']) :
    brace char = .neutral := by
  unfold brace
  split <;> simp at other ⊢

namespace IsBare

variable {left right text : String}

/-- Bare texts in a row are bare. -/
theorem append (first : IsBare left) (second : IsBare right) : IsBare (left ++ right) := by
  intro char mem
  rw [String.toList_append, List.mem_append] at mem
  exact mem.elim (first char) (second char)

/-- A bare text is inline. -/
theorem isInline (bare : IsBare text) : IsInline text where
  closed := Mark.openAfter?_of_neutral fun char mem => brace_of_not_mem fun braced =>
    bare char mem (List.mem_append_left ['#', '\n'] braced)
  unsigned mem := bare _ mem (by decide)
  unbroken mem := bare _ mem (by decide)

/-- A bare text is bare between quotes. -/
theorem quoted (bare : IsBare text) : IsBare (Text.quoted text) := by
  have escaped : IsBare (escape text) := by
    intro char mem
    rw [toList_escape] at mem
    obtain ⟨origin, own, spelled⟩ := List.mem_flatMap.1 mem
    unfold escapeChar at spelled
    split at spelled
    case h_7 =>
      obtain rfl := List.mem_singleton.1 spelled
      exact bare char own
    all_goals
      simp only [List.mem_cons, List.not_mem_nil, or_false] at spelled
      rcases spelled with rfl | rfl <;> decide
  have quote : IsBare "\"" := by decide
  exact (quote.append escaped).append quote

end IsBare

namespace IsInline

variable {left right text : String}

/-- The empty text is inline. -/
theorem empty : IsInline "" := by decide

/-- A space is inline. -/
theorem space : IsInline " " := by decide

/-- The end of a statement is inline. -/
theorem semicolon : IsInline ";" := by decide

/-- Inline texts in a row are inline. -/
theorem append (first : IsInline left) (second : IsInline right) : IsInline (left ++ right) := by
  refine ⟨?_, ?_, ?_⟩
  · rw [String.toList_append]
    exact first.closed.append second.closed
  · simp [first.unsigned, second.unsigned]
  · simp [first.unbroken, second.unbroken]

/-- An inline text is inline between braces. -/
theorem braced (inner : IsInline text) : IsInline ("\x7b" ++ text ++ "\x7d") := by
  refine ⟨?_, ?_, ?_⟩
  · have wrapped := @IsClosed.wrap _ _ _ '\x7b' '\x7d' rfl rfl inner.closed
    simpa using wrapped
  · simp [inner.unsigned]
  · simp [inner.unbroken]

end IsInline
end Text
end CSource
