import CSource.Proofs.Item.Entries
import CSource.Proofs.Text.Braces

/-!
# Braces and depths of rows

The rows of items follow a grammar: lines that stand alone, bodies between a line that opens a brace
and one that closes it, bodies of arms, and guarded parts (`Placed.Nested`). What is read from the
braces alone then agrees with the depth of each line (`Placed.Nested.isAligned`), and guarded parts
end where they should (`Placed.Nested.guards`).
-/

namespace CSource

open Mark (IsClosed openAfter?)
open Text (IsBare IsInline)

/-- What a line does to guarded parts. -/
def Guard.mark (line : String) : Mark :=
  if "#ifndef".toList <+: line.toList then .opens
  else if "#endif".toList <+: line.toList then .closes
  else .neutral

/-- A line without a number sign neither begins nor ends a guarded part. -/
theorem Guard.mark_of_not_mem {line : String} (unsigned : '#' ∉ line.toList) :
    Guard.mark line = .neutral := by
  have absent (word : List Char) : ¬ ('#' :: word) <+: line.toList := fun start =>
    unsigned (start.subset List.mem_cons_self)
  have first : ¬ "#ifndef".toList <+: line.toList := absent _
  have second : ¬ "#endif".toList <+: line.toList := absent _
  rw [Guard.mark, if_neg first, if_neg second]

namespace Text

variable {text : String}

/-- Whether a text is a line that stands alone: it closes its braces, has no line break, and neither
begins nor ends a guarded part. -/
structure IsSettled (text : String) : Prop where
  /-- Every brace that the line opens is closed in it. -/
  closed : IsClosed brace text.toList
  /-- There is no line break. -/
  unbroken : '\n' ∉ text.toList
  /-- No guarded part begins or ends. -/
  unguarded : Guard.mark text = .neutral

/-- An inline text can be a line that stands alone. -/
theorem IsInline.isSettled (inline : IsInline text) : IsSettled text :=
  ⟨inline.closed, inline.unbroken, Guard.mark_of_not_mem inline.unsigned⟩

/-- Whether a text is one line in which every brace is closed, except for one that opens a body at
the end or closes a body at the start. -/
structure IsLine (text : String) : Prop where
  /-- There is no line break. -/
  unbroken : '\n' ∉ text.toList
  /-- Braces are closed up to a first or a last one. -/
  parts : ∃ inner, IsClosed brace inner ∧ (text.toList = inner ∨
    text.toList = inner ++ ['\x7b'] ∨ text.toList = '\x7d' :: inner)

/-- A line that stands alone closes all its braces. -/
theorem IsSettled.isLine (settled : IsSettled text) : IsLine text :=
  ⟨settled.unbroken, _, settled.closed, .inl rfl⟩

/-- A text whose braces can be read from its start does not begin with one that closes. -/
theorem head?_ne_of_openAfter? {chars : List Char} {final : Nat}
    (found : openAfter? brace 0 chars = some final) : chars.head? ≠ some '\x7d' := by
  intro first
  obtain ⟨rest, rfl⟩ := List.head?_eq_some_iff.1 first
  contradiction

end Text

/-- The margin of any depth is bare. -/
theorem Indent.isBare_margin (style : Indent) (level : Nat) : IsBare (style.margin level) := by
  intro char mem
  rcases mem_margin mem with rfl | rfl <;> decide

namespace Page.Entry

/-- What stands on the line of an entry. -/
def content : Page.Entry → String
  | line _ text => text
  | blank => ""

/-- The line of an entry in a style, from a level on. -/
def shown (style : Indent) (level : Nat) : Page.Entry → String
  | line depth text => style.margin (level + depth) ++ text
  | blank => ""

/-- The text of an entry is its line and a line break. -/
theorem text_eq_shown (style : Indent) (level : Nat) (entry : Page.Entry) :
    entry.text style level = entry.shown style level ++ "\n" := by
  cases entry <;> rfl

/-- A line has the braces of its content. -/
theorem openAfter?_text (style : Indent) (level opened : Nat) (entry : Page.Entry) :
    openAfter? Text.brace opened (entry.text style level).toList =
      openAfter? Text.brace opened entry.content.toList := by
  have ended (front : String) : openAfter? Text.brace opened (front ++ "\n").toList =
      openAfter? Text.brace opened front.toList := by
    have last : (openAfter? Text.brace · "\n".toList) = some := rfl
    rw [String.toList_append, Mark.openAfter?_append, last, Option.bind_fun_some]
  rw [text_eq_shown, ended]
  cases entry with
  | blank => rfl
  | line depth text =>
    have before := (style.isBare_margin (level + depth)).isInline.closed.openAfter?_eq opened
    rw [shown, String.toList_append, Mark.openAfter?_append_of before]
    rfl

/-- The lines of a text of entries are those of the entries, with nothing after the last line
break. -/
theorem pieces_texts (style : Indent) (level : Nat) {entries : List Page.Entry}
    (unbroken : ∀ entry ∈ entries, '\n' ∉ entry.content.toList) :
    Text.pieces '\n' (texts style level entries).toList =
      entries.map (fun entry => (entry.shown style level).toList) ++ [[]] := by
  induction entries with
  | nil => rfl
  | cons entry entries ih =>
    have rest := ih fun next mem => unbroken next (List.mem_cons_of_mem _ mem)
    have own : '\n' ∉ (entry.shown style level).toList := by
      have inside := unbroken entry List.mem_cons_self
      cases entry with
      | blank => exact List.not_mem_nil
      | line depth text =>
        have margin := (style.isBare_margin (level + depth)).isInline.unbroken
        rw [shown, String.toList_append, List.mem_append, not_or]
        exact ⟨margin, inside⟩
    have parts : (texts style level (entry :: entries)).toList =
        (entry.shown style level).toList ++ '\n' :: (texts style level entries).toList := by
      have front : texts style level (entry :: entries) =
          entry.text style level ++ texts style level entries :=
        String.join_cons
      rw [front, text_eq_shown]
      simp
    rw [parts, Text.pieces_append_cons, Text.pieces_of_not_mem own, rest]
    rfl

end Page.Entry

namespace Placed

variable {style : Indent} {level arms depth opened middle final : Nat}
variable {row : Placed} {left right rows : List Placed}

/-- The text of rows in order. -/
def text (style : Indent) (level : Nat) (rows : List Placed) : String :=
  Page.Entry.texts style level (rows.map entry)

/-- Rows in a row have the text of each part. -/
theorem text_append (style : Indent) (level : Nat) (left right : List Placed) :
    text style level (left ++ right) = text style level left ++ text style level right := by
  rw [text, List.map_append, Page.Entry.texts_append]
  rfl

/-- Whether a row stands where a number of open braces says: a line is as deep as braces are open,
one less where it begins by closing one, and one more for each arm around it. -/
def StandsAt (opened : Nat) : Placed → Prop
  | ⟨arms, .line depth text⟩ =>
    depth + (if text.toList.head? = some '\x7d' then 1 else 0) = opened + arms
  | ⟨_, .blank⟩ => True

/-- Whether rows lead from one number of open braces to another, and each of them stands where the
braces that are open before it say. -/
structure IsAligned (style : Indent) (level opened : Nat) (rows : List Placed) (final : Nat) :
    Prop where
  /-- The braces of the text lead from the one number to the other. -/
  braces : openAfter? Text.brace opened (text style level rows).toList = some final
  /-- Each row stands where the text before it says. -/
  depths : ∀ before row after, rows = before ++ row :: after →
    ∃ current, openAfter? Text.brace opened (text style level before).toList = some current ∧
      row.StandsAt current

namespace IsAligned

/-- No rows leave the braces as they are. -/
theorem nil : IsAligned style level opened [] opened :=
  ⟨rfl, fun before row after parts => by simp at parts⟩

/-- A row leads where its braces do. -/
theorem single (stands : row.StandsAt opened)
    (found : openAfter? Text.brace opened row.entry.content.toList = some final) :
    IsAligned style level opened [row] final := by
  refine ⟨?_, fun before other after parts => ?_⟩
  · have only : text style level [row] = row.entry.text style level := by
      simp [text, Page.Entry.texts, String.join_cons]
    rw [only, Page.Entry.openAfter?_text, found]
  · rcases List.cons_eq_append_iff.1 parts with ⟨rfl, same⟩ | ⟨rest, -, short⟩
    · obtain ⟨rfl, -⟩ := List.cons.inj same
      exact ⟨opened, rfl, stands⟩
    · simp at short

/-- Rows that lead to where others begin lead on with them. -/
theorem append (first : IsAligned style level opened left middle)
    (second : IsAligned style level middle right final) :
    IsAligned style level opened (left ++ right) final := by
  have later (before : List Placed) :
      openAfter? Text.brace opened (text style level (left ++ before)).toList =
        openAfter? Text.brace middle (text style level before).toList := by
    rw [text_append, String.toList_append, Mark.openAfter?_append_of first.braces]
  refine ⟨(later right).trans second.braces, fun before row after parts => ?_⟩
  rcases List.append_eq_append_iff.1 parts with ⟨past, rfl, rest⟩ | ⟨inside, inner, rest⟩
  · obtain ⟨current, found, stands⟩ := second.depths past row after rest
    exact ⟨current, (later past).trans found, stands⟩
  · rcases List.cons_eq_append_iff.1 rest with ⟨rfl, rest⟩ | ⟨others, rfl, -⟩
    · obtain rfl : left = before := by simpa using inner
      obtain ⟨current, found, stands⟩ := second.depths [] row after rest.symm
      have ends := later []
      rw [List.append_nil] at ends
      exact ⟨current, ends.trans found, stands⟩
    · exact first.depths before row others inner

end IsAligned

/-- Rows as C nests them, at a depth and in a number of arms. -/
inductive Nested : (arms depth : Nat) → List Placed → Prop
  /-- No rows. -/
  | nil {arms depth : Nat} : Nested arms depth []
  /-- An empty line. -/
  | blank {arms depth : Nat} : Nested arms depth [⟨arms, .blank⟩]
  /-- A line that stands alone. -/
  | line {arms depth : Nat} {text : String} : Text.IsSettled text →
      Nested arms depth [⟨arms, .line depth text⟩]
  /-- Rows one after the other. -/
  | append {arms depth : Nat} {left right : List Placed} :
      Nested arms depth left → Nested arms depth right → Nested arms depth (left ++ right)
  /-- A body between braces. -/
  | braced {arms depth : Nat} {head tail : String} {body : List Placed} :
      IsInline head → Nested arms (depth + 1) body → IsInline tail →
      Nested arms depth (⟨arms, .line depth (head ++ "\x7b")⟩ :: body ++
        [⟨arms, .line depth ("\x7d" ++ tail)⟩])
  /-- The body of an arm. -/
  | arm {arms depth : Nat} {body : List Placed} :
      Nested (arms + 1) (depth + 1) body → Nested arms depth body
  /-- A guarded part. -/
  | guarded {arms depth : Nat} {name : String} {body : List Placed} :
      IsInline name → Nested arms depth body →
      Nested arms depth (⟨arms, .line depth ("#ifndef " ++ name)⟩ :: body ++
        [⟨arms, .line depth "#endif"⟩])

namespace Nested

/-- The line that begins a guarded part closes its braces. -/
theorem closed_ifndef {name : String} (inline : IsInline name) :
    IsClosed Text.brace ("#ifndef " ++ name).toList := by
  have word : IsClosed Text.brace "#ifndef ".toList := by decide
  rw [String.toList_append]
  exact word.append inline.closed

/-- A line that closes its braces is aligned where it stands as deep as the braces around it. -/
theorem isAligned_line {text : String} (closed : IsClosed Text.brace text.toList)
    (balance : depth = opened + arms) :
    IsAligned style level opened [⟨arms, .line depth text⟩] opened := by
  have start := Text.head?_ne_of_openAfter? closed
  have stands : StandsAt opened ⟨arms, .line depth text⟩ := by
    rw [StandsAt, if_neg start]
    exact balance
  exact .single stands (closed.openAfter?_eq opened)

/-- The rows of a nest leave the braces as they are, and stand where the braces say. -/
theorem isAligned (nested : Nested arms depth rows) (balance : depth = opened + arms) :
    IsAligned style level opened rows opened := by
  -- Going into braces opens one for each level, going into an arm counts the arm for it.
  induction nested generalizing opened with
  | nil => exact .nil
  | blank => exact .single trivial rfl
  | line settled => exact isAligned_line settled.closed balance
  | append _ _ first second => exact (first balance).append (second balance)
  | @braced arms depth head tail body headed _ tailed inner =>
    have opening : openAfter? Text.brace opened (head ++ "\x7b").toList = some (opened + 1) := by
      rw [String.toList_append, Mark.openAfter?_append_of (headed.closed.openAfter?_eq opened)]
      rfl
    have start : (head ++ "\x7b").toList.head? ≠ some '\x7d' := by
      apply @Text.head?_ne_of_openAfter? _ 1
      rw [String.toList_append, Mark.openAfter?_append_of headed.closed]
      rfl
    have front : StandsAt opened ⟨arms, .line depth (head ++ "\x7b")⟩ := by
      rw [StandsAt, if_neg start]
      exact balance
    have closing : openAfter? Text.brace (opened + 1) ("\x7d" ++ tail).toList = some opened := by
      have first : openAfter? Text.brace (opened + 1) "\x7d".toList = some opened := rfl
      rw [String.toList_append, Mark.openAfter?_append_of first]
      exact tailed.closed.openAfter?_eq opened
    have back : StandsAt (opened + 1) ⟨arms, .line depth ("\x7d" ++ tail)⟩ := by
      have last : ("\x7d" ++ tail).toList.head? = some '\x7d' := by simp
      rw [StandsAt, if_pos last]
      omega
    have deeper : depth + 1 = (opened + 1) + arms := by omega
    exact ((IsAligned.single front opening).append (inner deeper)).append (.single back closing)
  | arm _ inner => exact inner (by omega)
  | guarded inline _ inner =>
    have last : IsClosed Text.brace "#endif".toList := by decide
    have front := (isAligned_line (closed_ifndef inline) balance).append (inner balance)
    exact front.append (isAligned_line last balance)

/-- The guarded parts of a nest are closed. -/
theorem guards (nested : Nested arms depth rows) :
    IsClosed Guard.mark (rows.map fun row => row.entry.content) := by
  have settled (line : String) (neutral : Guard.mark line = .neutral) :
      IsClosed Guard.mark [line] :=
    Mark.openAfter?_of_neutral fun other mem => by rwa [List.mem_singleton.1 mem]
  induction nested with
  | nil => rfl
  | blank => exact settled "" rfl
  | line alone => exact settled _ alone.unguarded
  | append _ _ first second =>
    rw [List.map_append]
    exact first.append second
  | @braced _ _ head tail _ headed _ tailed inner =>
    have front := settled (head ++ "\x7b") (Guard.mark_of_not_mem (by simp [headed.unsigned]))
    have back := settled ("\x7d" ++ tail) (Guard.mark_of_not_mem (by simp [tailed.unsigned]))
    have all := (front.append inner).append back
    simpa [Page.Entry.content] using all
  | arm _ inner => exact inner
  | @guarded _ _ name _ _ _ inner =>
    have first : Guard.mark ("#ifndef " ++ name) = .opens := by
      have start : "#ifndef".toList <+: ("#ifndef " ++ name).toList := ⟨' ' :: name.toList, by simp⟩
      rw [Guard.mark, if_pos start]
    have last : Guard.mark "#endif" = .closes := by decide
    have all := inner.wrap first last
    simpa [Page.Entry.content] using all

/-- The rows of a nest are single lines. -/
theorem isLine (nested : Nested arms depth rows) : ∀ row ∈ rows, Text.IsLine row.entry.content := by
  induction nested with
  | nil => exact List.forall_mem_nil _
  | blank =>
    have empty : Text.IsSettled "" := IsInline.isSettled (by decide)
    exact List.forall_mem_singleton.2 empty.isLine
  | line settled => exact List.forall_mem_singleton.2 settled.isLine
  | append _ _ first second => exact List.forall_mem_append.2 ⟨first, second⟩
  | @braced _ _ head tail _ headed _ tailed inner =>
    have front : Text.IsLine (head ++ "\x7b") :=
      ⟨by simp [headed.unbroken], _, headed.closed, .inr (.inl (String.toList_append ..))⟩
    have back : Text.IsLine ("\x7d" ++ tail) :=
      ⟨by simp [tailed.unbroken], _, tailed.closed, .inr (.inr (String.toList_append ..))⟩
    exact List.forall_mem_append.2 ⟨List.forall_mem_cons.2 ⟨front, inner⟩,
      List.forall_mem_singleton.2 back⟩
  | arm _ inner => exact inner
  | @guarded _ _ name _ named _ inner =>
    have front : Text.IsLine ("#ifndef " ++ name) :=
      ⟨by simp [named.unbroken], _, closed_ifndef named, .inl rfl⟩
    have back : Text.IsLine "#endif" := ⟨by decide, _, by decide, .inl rfl⟩
    exact List.forall_mem_append.2 ⟨List.forall_mem_cons.2 ⟨front, inner⟩,
      List.forall_mem_singleton.2 back⟩

end Nested

/-- Whether rows are lines of C whose indentation shows what is open where they stand. -/
structure IsBraced (style : Indent) (level : Nat) (rows : List Placed) : Prop
    extends IsAligned style level 0 rows 0 where
  /-- Every guarded part that begins ends, and none ends before it begins. -/
  guards : IsClosed Guard.mark (rows.map fun row => row.entry.content)
  /-- Each row is one line, and an inner brace of it is closed in it. -/
  lines : ∀ row ∈ rows, Text.IsLine row.entry.content
  /-- The lines of the text are those of the rows, with nothing after the last line break. -/
  pieces : Text.pieces '\n' (text style level rows).toList =
    rows.map (fun row => (row.entry.shown style level).toList) ++ [[]]

/-- The rows of a nest are lines of C whose indentation shows the nesting. -/
theorem Nested.isBraced (nested : Nested 0 0 rows) (style : Indent) (level : Nat) :
    IsBraced style level rows := by
  have unbroken : ∀ line ∈ rows.map entry, '\n' ∉ line.content.toList := by
    intro line mem
    obtain ⟨row, own, rfl⟩ := List.mem_map.1 mem
    exact (nested.isLine row own).unbroken
  have pieces := Page.Entry.pieces_texts style level unbroken
  rw [List.map_map] at pieces
  exact ⟨nested.isAligned rfl, nested.guards, nested.isLine, pieces⟩

end Placed
end CSource
