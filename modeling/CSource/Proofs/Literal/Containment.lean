import CSource.Directive.Include
import CSource.Proofs.Declarator.Literal
import CSource.Proofs.Literal.Denotation

/-!
# Where a string literal ends

A string literal ends at the first quote after its opening one that no odd run of backslashes
precedes. The literal of a text leaves the backslashes of the text alone and puts one more before
each of its quotes. So it is one literal exactly where every run of backslashes before a quote of
the text, and the run at its end, has an even length (`Text.isLiteral_quoted_iff`).
-/

namespace CSource

namespace Text

/-- The length of the run of backslashes at the end of some characters. -/
def backslashes (chars : List Char) : Nat := (chars.reverse.takeWhile (· = '\\')).length

/-- Whether a text is one string literal: after the opening quote, the first quote that no odd run
of backslashes precedes is the last character, and no line break stands before it. -/
def IsLiteral (text : String) : Prop :=
  ∃ inside, text.toList = '"' :: (inside ++ ['"']) ∧ '\n' ∉ inside ∧
    ∀ before after, inside ++ ['"'] = before ++ '"' :: after →
      (backslashes before % 2 = 0 ↔ after = [])

/-- Whether every run of backslashes before a quote or at the end has an even length. -/
def IsPaired (chars : List Char) : Prop :=
  backslashes chars % 2 = 0 ∧
    ∀ before after, chars = before ++ '"' :: after → backslashes before % 2 = 0

/-- A run of backslashes goes on with a backslash and ends with any other character. -/
theorem backslashes_concat (chars : List Char) (char : Char) :
    backslashes (chars ++ [char]) = if char = '\\' then backslashes chars + 1 else 0 := by
  by_cases backslash : char = '\\' <;> simp [backslashes, backslash]

/-- After texts that end in as many backslashes, so do a spelled character and the character. -/
theorem backslashes_append_escapeChar {spelled chars : List Char}
    (same : backslashes spelled = backslashes chars) (char : Char) :
    backslashes (spelled ++ escapeChar char) = backslashes (chars ++ [char]) := by
  have pair (letter : Char) (plain : letter ≠ '\\') :
      backslashes (spelled ++ ['\\', letter]) = 0 := by
    rw [List.append_cons, backslashes_concat, if_neg plain]
  rcases escapeChar_cases char with ⟨shape, _⟩ | rfl | ⟨letter, shape, _, plain, _, alpha, _⟩
  · rw [shape, backslashes_concat, backslashes_concat, same]
  · have shape : escapeChar '"' = ['\\', '"'] := rfl
    rw [shape, pair '"' (by decide), backslashes_concat, if_neg (by decide)]
  · have other : letter ≠ '\\' := by
      rintro rfl
      contradiction
    rw [shape, pair letter other, backslashes_concat, if_neg plain]

/-- After texts that end in as many backslashes, so do a spelled text and the text. -/
theorem backslashes_append_flatMap {spelled before : List Char}
    (same : backslashes spelled = backslashes before) (chars : List Char) :
    backslashes (spelled ++ chars.flatMap escapeChar) = backslashes (before ++ chars) := by
  induction chars generalizing spelled before with
  | nil => simpa using same
  | cons char chars ih =>
    have first := ih (backslashes_append_escapeChar same char)
    simpa using first

/-- A spelled text ends in the backslashes that the text ends in. -/
theorem backslashes_flatMap (chars : List Char) :
    backslashes (chars.flatMap escapeChar) = backslashes chars := by
  simpa using backslashes_append_flatMap (Eq.refl (backslashes [])) chars

/-- A quote in a spelled character is the end of a spelled quote. -/
theorem escapeChar_eq_append {char : Char} {before after : List Char}
    (shape : escapeChar char = before ++ '"' :: after) :
    char = '"' ∧ before = ['\\'] ∧ after = [] := by
  have quote : '"' ∈ escapeChar char := by simp [shape]
  rcases escapeChar_cases char with
    ⟨spelled, unquoted, _⟩ | rfl | ⟨letter, spelled, _, _, _, alpha, _⟩
  · rw [spelled, List.mem_singleton] at quote
    exact absurd quote.symm unquoted
  · have spelled : ['\\', '"'] = before ++ '"' :: after := shape
    match before with
    | [] => simp at spelled
    | [first] => simpa [eq_comm] using spelled
    | first :: second :: others => simp at spelled
  · rw [spelled, List.mem_cons, List.mem_singleton] at quote
    rcases quote with same | rfl <;> contradiction

/-- A quote in a spelled text is the end of a spelled quote of the text, and the closing quote
stands after the whole text. -/
theorem flatMap_escapeChar_eq_append {chars before after : List Char}
    (shape : chars.flatMap escapeChar ++ ['"'] = before ++ '"' :: after) :
    (before = chars.flatMap escapeChar ∧ after = []) ∨
      ∃ left right, chars = left ++ '"' :: right ∧ before = left.flatMap escapeChar ++ ['\\'] ∧
        after = right.flatMap escapeChar ++ ['"'] := by
  induction chars generalizing before with
  | nil =>
    obtain ⟨rfl, same⟩ | ⟨_, _, absent⟩ := List.append_eq_cons_iff.1 shape.symm
    · exact .inl ⟨rfl, (List.cons.inj same).2⟩
    · simp at absent
  | cons char chars ih =>
    -- The quote stands in what is spelled for the first character or after it.
    rw [List.flatMap_cons, List.append_assoc] at shape
    rcases List.append_eq_append_iff.1 shape with ⟨inner, rfl, rest⟩ | ⟨inner, spelled, rest⟩
    · rcases ih rest with ⟨rfl, last⟩ | ⟨left, right, rfl, rfl, later⟩
      · exact .inl ⟨rfl, last⟩
      · exact .inr ⟨char :: left, right, rfl, by simp, later⟩
    · cases inner with
      | nil =>
        rw [List.append_nil] at spelled
        rcases @ih [] rest.symm with ⟨none, last⟩ | ⟨left, right, _, none, _⟩
        · exact .inl ⟨by simp [← none, spelled], last⟩
        · simp at none
      | cons first inner =>
        obtain ⟨rfl, later⟩ := List.cons.inj rest
        obtain ⟨rfl, rfl, rfl⟩ := escapeChar_eq_append spelled
        exact .inr ⟨[], chars, rfl, rfl, later⟩

/-- What holds before every quote holds before a quote that comes first and before all others. -/
theorem forall_quote_cons {property : List Char → Prop} {char : Char} {chars : List Char} :
    (∀ left right, char :: chars = left ++ '"' :: right → property left) ↔
      (char = '"' → property []) ∧
        ∀ left right, chars = left ++ '"' :: right → property (char :: left) := by
  constructor
  · intro every
    refine ⟨fun quote => every [] chars (by simp [quote]), fun left right shape => ?_⟩
    exact every (char :: left) right (by simp [shape])
  · rintro ⟨first, others⟩ left right shape
    rcases List.cons_eq_append_iff.1 shape with ⟨rfl, same⟩ | ⟨left, rfl, rest⟩
    · exact first (List.cons.inj same).1.symm
    · exact others left right rest

/-- A text that is contained after another has even runs of backslashes there, and no other
text. -/
theorem containedAfter_iff {odd : Bool} {before : List Char}
    (parity : odd = true ↔ backslashes before % 2 = 1) (chars : List Char) :
    containedAfter odd chars = true ↔
      backslashes (before ++ chars) % 2 = 0 ∧
        ∀ left right, chars = left ++ '"' :: right → backslashes (before ++ left) % 2 = 0 := by
  induction chars generalizing odd before with
  | nil => cases odd <;> simp [containedAfter] at parity ⊢ <;> omega
  | cons char chars ih =>
    have run := backslashes_concat before char
    have moved (rest : List Char) : before ++ char :: rest = before ++ [char] ++ rest :=
      List.append_cons ..
    have quotes : (∀ left right, char :: chars = left ++ '"' :: right →
          backslashes (before ++ left) % 2 = 0) ↔
        (char = '"' → backslashes before % 2 = 0) ∧ ∀ left right, chars = left ++ '"' :: right →
          backslashes (before ++ [char] ++ left) % 2 = 0 := by
      rw [forall_quote_cons, List.append_nil]
      exact and_congr_right' (forall_congr' fun left => by rw [moved])
    rw [quotes, moved]
    by_cases backslash : char = '\\'
    · rw [if_pos backslash] at run
      have step : containedAfter odd (char :: chars) = containedAfter (!odd) chars := by
        rw [backslash]
        rfl
      have flipped : (!odd) = true ↔ backslashes (before ++ [char]) % 2 = 1 := by
        rw [run]
        cases odd <;> simp at parity ⊢ <;> omega
      have unquoted : char = '"' → backslashes before % 2 = 0 := by
        rintro rfl
        contradiction
      rw [step, ih flipped]
      exact ⟨fun all => ⟨all.1, unquoted, all.2⟩, fun all => ⟨all.1, all.2.2⟩⟩
    · rw [if_neg backslash] at run
      have ended : false = true ↔ backslashes (before ++ [char]) % 2 = 1 := by simp [run]
      have rest := ih ended
      by_cases quote : char = '"'
      · have step : containedAfter odd (char :: chars) = (!odd && containedAfter false chars) := by
          rw [quote]
          rfl
        have even : (!odd) = true ↔ backslashes before % 2 = 0 := by
          cases odd <;> simp at parity ⊢ <;> omega
        rw [step, Bool.and_eq_true, rest, even]
        exact ⟨fun all => ⟨all.2.1, fun _ => all.1, all.2.2⟩,
          fun all => ⟨all.2.1 quote, all.1, all.2.2⟩⟩
      · have step : containedAfter odd (char :: chars) = containedAfter false chars := by
          simp [containedAfter]
        rw [step, rest]
        exact ⟨fun all => ⟨all.1, fun same => absurd same quote, all.2⟩,
          fun all => ⟨all.1, all.2.2⟩⟩

/-- A text is contained in its quotes exactly where its runs of backslashes are even. -/
theorem isContained_iff (text : String) : isContained text = true ↔ IsPaired text.toList := by
  have none : false = true ↔ backslashes [] % 2 = 1 := by simp [backslashes]
  exact containedAfter_iff none text.toList

instance (text : String) : Decidable (IsPaired text.toList) :=
  decidable_of_iff _ (isContained_iff text)

/-- Characters without backslashes have no run of them. -/
theorem isPaired_of_not_mem {chars : List Char} (free : '\\' ∉ chars) : IsPaired chars := by
  have none : ∀ part : List Char, '\\' ∉ part → backslashes part = 0 := by
    intro part clear
    cases shape : part.reverse with
    | nil => rw [backslashes, shape, List.takeWhile_nil, List.length_nil]
    | cons last others =>
      have plain : last ≠ '\\' := by
        rintro rfl
        exact clear (List.mem_reverse.1 (by simp [shape]))
      simp [backslashes, shape, plain]
  refine ⟨by rw [none chars free], fun before after shape => ?_⟩
  have clear : '\\' ∉ before := fun mem => free (by simp [shape, mem])
  rw [none before clear]

/-- No line break is left in a spelled text. -/
theorem not_mem_flatMap_escapeChar (chars : List Char) :
    '\n' ∉ chars.flatMap escapeChar := by
  intro mem
  obtain ⟨char, _, spelled⟩ := List.mem_flatMap.1 mem
  rcases escapeChar_cases char with ⟨shape, _, unbroken⟩ | rfl | ⟨letter, shape, _, _, _, alpha, _⟩
  · rw [shape, List.mem_singleton] at spelled
    exact unbroken spelled.symm
  · exact absurd spelled (by decide)
  · rw [shape, List.mem_cons, List.mem_singleton] at spelled
    rcases spelled with same | rfl <;> contradiction

/-- The characters of a literal are those of the spelled text between quotes. -/
theorem toList_quoted (text : String) :
    (quoted text).toList = '"' :: (text.toList.flatMap escapeChar ++ ['"']) := by
  simp [quoted]

/-- The literal of a text is one literal exactly where the runs of backslashes before the quotes
of the text and at its end are even. -/
theorem isLiteral_quoted_iff (text : String) :
    IsLiteral (quoted text) ↔ IsPaired text.toList := by
  unfold IsLiteral
  rw [toList_quoted]
  constructor
  · rintro ⟨inside, same, _, ends⟩
    obtain rfl := List.append_cancel_right (List.cons.inj same).2
    constructor
    · rw [← backslashes_flatMap]
      exact (ends _ [] rfl).2 rfl
    · intro left right shape
      have spelled : text.toList.flatMap escapeChar ++ ['"'] =
          left.flatMap escapeChar ++ ['\\'] ++ '"' :: (right.flatMap escapeChar ++ ['"']) := by
        simp [shape, escapeChar]
      have odd := mt (ends _ _ spelled).1 (by simp)
      rw [backslashes_concat, if_pos rfl, backslashes_flatMap] at odd
      omega
  · rintro ⟨last, each⟩
    refine ⟨_, rfl, not_mem_flatMap_escapeChar _, fun before after shape => ?_⟩
    rcases flatMap_escapeChar_eq_append shape with ⟨rfl, rfl⟩ | ⟨left, right, parts, rfl, rfl⟩
    · simpa [backslashes_flatMap] using last
    · have even := each left right parts
      rw [backslashes_concat, if_pos rfl, backslashes_flatMap]
      simp
      omega

end Text

/-- The literal of a text, which is also what an inclusion and a linkage put the text in, holds no
line break, and it is one literal exactly where every run of backslashes before a quote of the
text, and the run at its end, has an even length. -/
theorem Expr.value_isLiteral_iff [JsonLibrary] (text : String) :
    ∃ code, Expr.value text = .ok ⟨code⟩ ∧ (Include.own text).target = code ∧
      (∀ type declarator, (CType.external (some text) type).declarator declarator =
        "extern " ++ code ++ " " ++ type.declarator declarator) ∧
      '\n' ∉ code.toList ∧ (Text.IsLiteral code ↔ Text.IsPaired text.toList) ∧
      ('\\' ∉ text.toList → Text.IsLiteral code) := by
  have ends := Text.isLiteral_quoted_iff text
  refine ⟨Text.quoted text, rfl, rfl, fun type declarator => ?_, ?_, ends, fun free => ?_⟩
  · rw [CType.declarator, CType.linkageWords]
  · have clear := Text.not_mem_flatMap_escapeChar text.toList
    rw [Text.toList_quoted, List.mem_cons, List.mem_append, List.mem_singleton]
    simpa using clear
  · exact ends.2 (Text.isPaired_of_not_mem free)

/-- The literal of a path between pairs of backslashes and quotes is one literal. -/
theorem Expr.value_isLiteral_path :
    let text := "\"C:\\\\dir\\\\\""
    Text.IsPaired text.toList ∧ ∃ code, Expr.value text = .ok ⟨code⟩ ∧
      code = "\"\\\"C:\\\\dir\\\\\\\"\"" ∧ '\n' ∉ code.toList ∧ Text.IsLiteral code := by
  intro text
  have paired : Text.IsPaired text.toList := by decide
  obtain ⟨code, value, _, _, unbroken, ends, _⟩ := value_isLiteral_iff text
  refine ⟨paired, code, value, ?_, unbroken, ends.2 paired⟩
  obtain rfl : Text.quoted text = code := congrArg Expr.code (Except.ok.inj value)
  decide

/-- A backslash leaves its literal open, and one before a quote lets code follow the literal. -/
theorem Expr.not_isLiteral_value_backslash :
    Expr.value "\\" = .ok ⟨"\"\\\""⟩ ∧ ¬ Text.IsLiteral "\"\\\"" ∧
      Expr.value "\\\"); abort();" = .ok ⟨"\"\\\\\"); abort();\""⟩ ∧
      ¬ Text.IsLiteral "\"\\\\\"); abort();\"" ∧
      ¬ ∀ text : String, ∃ code, Expr.value text = .ok ⟨code⟩ ∧ Text.IsLiteral code := by
  have unclosed : ¬ Text.IsLiteral (Text.quoted "\\") := by
    rw [Text.isLiteral_quoted_iff]
    decide
  have left : ¬ Text.IsLiteral (Text.quoted "\\\"); abort();") := by
    rw [Text.isLiteral_quoted_iff]
    decide
  refine ⟨rfl, unclosed, rfl, left, fun every => ?_⟩
  obtain ⟨code, value, literal⟩ := every "\\"
  obtain rfl : Text.quoted "\\" = code := congrArg Expr.code (Except.ok.inj value)
  exact unclosed literal

end CSource
