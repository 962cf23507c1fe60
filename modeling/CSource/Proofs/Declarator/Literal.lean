import CSource.CType.Spelling
import CSource.Proofs.Declarator.Token

/-!
# Literals among tokens

A quoted text is one literal when its own backslashes leave the quotes alone: every run of them
before a quote or at the end has an even length. A text that breaks this leaves its literal open
or ends it early, and then what should be outside of literals is inside and the other way round
for the rest of the declaration (`Toggles`), so the declaration has no tokens at all.
-/

namespace CSource

namespace Text

/-- Whether every run of backslashes before a quote or at the end has an even length, after an
odd number of backslashes or not. -/
def containedAfter (odd : Bool) : List Char → Bool
  | [] => !odd
  | '\\' :: rest => containedAfter (!odd) rest
  | '"' :: rest => !odd && containedAfter false rest
  | _ :: rest => containedAfter false rest

/-- Whether a text between quotes is one literal. -/
def isContained (text : String) : Bool := containedAfter false text.toList

end Text

namespace Token

namespace Pending

/-- A literal, right after an odd number of backslashes or not. -/
def literal (odd : Bool) : Pending := if odd then escaped else inside

/-- A character other than a backslash or quote stays inside of a literal. -/
theorem scan_escapeChar {char : Char} (plain : char ≠ '\\') (unquoted : char ≠ '"') (odd : Bool) :
    (literal odd).scan (Text.escapeChar char) = some ([], literal false) := by
  unfold Text.escapeChar
  split
  · contradiction
  · cases odd <;> rfl
  · cases odd <;> rfl
  · cases odd <;> rfl
  · cases odd <;> rfl
  · cases odd <;> rfl
  · have unbroken : char ≠ '\n' := by assumption
    cases odd <;> simp [literal, scan, next, plain, unquoted, unbroken]

/-- The spelling of a contained text stays inside of its literal. -/
theorem scan_contained {odd : Bool} {chars : List Char}
    (contained : Text.containedAfter odd chars = true) :
    (literal odd).scan (chars.flatMap Text.escapeChar) = some ([], inside) := by
  induction chars generalizing odd with
  | nil =>
    obtain rfl : odd = false := by simpa [Text.containedAfter] using contained
    rfl
  | cons char chars ih =>
    rw [List.flatMap_cons, scan_append]
    by_cases backslash : char = '\\'
    · subst backslash
      have first : (literal odd).scan (Text.escapeChar '\\') = some ([], literal !odd) := by
        cases odd <;> rfl
      simp [first, @ih (!odd) (by simpa [Text.containedAfter] using contained)]
    · by_cases quote : char = '"'
      · subst quote
        simp only [Text.containedAfter, Bool.and_eq_true, Bool.not_eq_true'] at contained
        obtain ⟨rfl, rest⟩ := contained
        have first : (literal false).scan (Text.escapeChar '"') = some ([], literal false) := rfl
        simp [first, ih rest]
      · have rest : Text.containedAfter false chars = true := by
          simpa [Text.containedAfter, backslash, quote] using contained
        simp [scan_escapeChar backslash quote, ih rest]

/-- Outside of a literal no backslash may stand. -/
theorem next_backslash {pending : Pending} (outside : pending.isLiteral = false) :
    pending.next '\\' = none := by
  cases pending with
  | nothing => rfl
  | run chars =>
    have wordless : isWordChar '\\' = false := by decide
    have unmarked : start '\\' = none := by decide
    cases word : ofRun chars <;> simp [next, wordless, unmarked, word]
  | inside | escaped => simp [isLiteral] at outside

/-- Outside of a literal a quote opens one. -/
theorem next_quote {pending : Pending} (outside : pending.isLiteral = false) {tokens : List Token}
    {last : Pending} (found : pending.next '"' = some (tokens, last)) : last = inside := by
  have opened : start '"' = some ([], inside) := by decide
  cases pending with
  | nothing =>
    rw [next, opened] at found
    simpa using (congrArg Prod.snd (Option.some.inj found)).symm
  | run chars =>
    have wordless : isWordChar '"' = false := by decide
    cases word : ofRun chars with
    | none => simp [next, wordless, word] at found
    | some token =>
      simp only [next, wordless, Bool.false_eq_true, if_false, word, opened, Option.bind_eq_bind,
        Option.bind_some, Option.some.injEq, Prod.mk.injEq] at found
      exact found.2.symm
  | inside | escaped => simp [isLiteral] at outside

/-- Outside of a literal only a quote opens one. -/
theorem next_outside {pending : Pending} (outside : pending.isLiteral = false) {char : Char}
    (unquoted : char ≠ '"') {tokens : List Token} {last : Pending}
    (found : pending.next char = some (tokens, last)) : last.isLiteral = false := by
  have started : ∀ tokens last, start char = some (tokens, last) → last.isLiteral = false := by
    intro tokens last found
    rw [start, if_neg unquoted] at found
    split at found
    · cases found
      rfl
    · split at found
      · cases found
        rfl
      · obtain ⟨mark, _, same⟩ := Option.map_eq_some_iff.1 found
        cases same
        rfl
  cases pending with
  | nothing => exact started tokens last found
  | run chars =>
    rw [next] at found
    split at found
    · cases found
      rfl
    · cases word : ofRun chars with
      | none => simp [word] at found
      | some token =>
        cases first : start char with
        | none => simp [word, first] at found
        | some result =>
          simp only [word, first, Option.bind_eq_bind, Option.bind_some, Option.some.injEq,
            Prod.mk.injEq] at found
          exact found.2 ▸ started _ _ first
  | inside | escaped => simp [isLiteral] at outside

/-- Inside of a literal only a quote ends it. -/
theorem next_inside {pending : Pending} (literal : pending.isLiteral = true) {char : Char}
    (unquoted : char ≠ '"') {tokens : List Token} {last : Pending}
    (found : pending.next char = some (tokens, last)) : last.isLiteral = true := by
  cases pending with
  | nothing | run => simp [isLiteral] at literal
  | inside =>
    rw [next, if_neg unquoted] at found
    split at found
    · cases found
      rfl
    · split at found
      · contradiction
      · cases found
        rfl
  | escaped =>
    rw [next] at found
    split at found
    · contradiction
    · cases found
      rfl

/-- Every character that is spelled with a backslash has it first, and no other is a quote. -/
theorem escapeChar_shape (char : Char) : (∃ rest, Text.escapeChar char = '\\' :: rest) ∨
    Text.escapeChar char = [char] ∧ char ≠ '"' := by
  unfold Text.escapeChar
  split <;> simp_all

/-- Outside of a literal, the spelling of a text and a closing quote open one. -/
theorem scan_outside {pending : Pending} (outside : pending.isLiteral = false) (chars : List Char)
    {tokens : List Token} {last : Pending}
    (found : pending.scan (chars.flatMap Text.escapeChar ++ ['"']) = some (tokens, last)) :
    last = inside := by
  induction chars generalizing pending tokens with
  | nil =>
    obtain ⟨_, middle, _, first, done⟩ := of_scan_cons found
    obtain rfl := next_quote outside first
    exact (Prod.mk.inj (Option.some.inj done)).2.symm
  | cons char chars ih =>
    rcases escapeChar_shape char with ⟨rest, spelled⟩ | ⟨spelled, unquoted⟩
    · simp [List.flatMap_cons, spelled, scan, next_backslash outside] at found
    · rw [List.flatMap_cons, spelled, List.append_assoc, List.singleton_append] at found
      obtain ⟨_, middle, _, first, later⟩ := of_scan_cons found
      exact ih (next_outside outside unquoted first) later

/-- The spelling of a text that is not contained, with its closing quote, ends in a literal. -/
theorem scan_not_contained {odd : Bool} {chars : List Char}
    (loose : Text.containedAfter odd chars = false) {tokens : List Token} {last : Pending}
    (found : (literal odd).scan (chars.flatMap Text.escapeChar ++ ['"']) = some (tokens, last)) :
    last = inside := by
  -- A quote after an odd run of backslashes ends the literal early, and then the closing quote
  -- opens one; an odd run at the end keeps the closing quote inside.
  induction chars generalizing odd tokens with
  | nil =>
    obtain rfl : odd = true := by simpa [Text.containedAfter] using loose
    exact (congrArg Prod.snd (Option.some.inj found)).symm
  | cons char chars ih =>
    rw [List.flatMap_cons, List.append_assoc, scan_append] at found
    by_cases backslash : char = '\\'
    · subst backslash
      have first : (literal odd).scan (Text.escapeChar '\\') = some ([], literal !odd) := by
        cases odd <;> rfl
      simp only [first, Option.bind_some, List.nil_append, Option.map_id'] at found
      exact ih (by simpa [Text.containedAfter] using loose) found
    · by_cases quote : char = '"'
      · subst quote
        cases odd with
        | true =>
          have first : (literal true).scan (Text.escapeChar '"') = some ([.literal], nothing) := rfl
          rw [first, Option.bind_some] at found
          obtain ⟨result, later, same⟩ := Option.map_eq_some_iff.1 found
          have opened := scan_outside rfl chars later
          exact (congrArg Prod.snd same).symm.trans opened
        | false =>
          have first : (literal false).scan (Text.escapeChar '"') = some ([], literal false) := rfl
          simp only [first, Option.bind_some, List.nil_append, Option.map_id'] at found
          exact ih (by simpa [Text.containedAfter] using loose) found
      · have rest : Text.containedAfter false chars = false := by
          simpa [Text.containedAfter, backslash, quote] using loose
        simp only [scan_escapeChar backslash quote, Option.bind_some, List.nil_append,
          Option.map_id'] at found
        exact ih rest found

end Pending

/-- Whether a text leaves literals open that were open and opens one exactly under a condition
where none was. -/
def Toggles (text : String) (condition : Prop) : Prop :=
  ∀ (pending last : Pending) (tokens : List Token),
    pending.scan text.toList = some (tokens, last) →
      (pending.isLiteral = true → last.isLiteral = true) ∧
        (pending.isLiteral = false → (last.isLiteral = true ↔ condition))

/-- A text that opens a literal has no tokens. -/
theorem Toggles.ofText {text : String} {condition : Prop} (toggles : Toggles text condition)
    (opens : condition) : ofText text = none := by
  rw [Token.ofText]
  cases scanned : Pending.nothing.scan text.toList with
  | none => rfl
  | some result =>
    have literal := ((toggles _ _ _ scanned).2 rfl).2 opens
    have unfinished : result.2.flush = none := by
      cases shape : result.2 with
      | nothing | run => simp [shape, Pending.isLiteral] at literal
      | inside | escaped => rfl
    simp [unfinished]

/-- Two texts in a row open a literal where one of them does. -/
theorem Toggles.append {left right : String} {first second : Prop} (toggles : Toggles left first)
    (later : Toggles right second) : Toggles (left ++ right) (first ∨ second) := by
  intro pending last tokens found
  rw [String.toList_append] at found
  obtain ⟨_, middle, _, front, back⟩ := Pending.of_scan_append found
  have front := toggles _ _ _ front
  have back := later _ _ _ back
  constructor
  · intro literal
    exact back.1 (front.1 literal)
  · intro outside
    by_cases opens : first
    · simp [back.1 ((front.2 outside).2 opens), opens]
    · have still : middle.isLiteral = false := by
        simpa [opens] using front.2 outside
      simp [back.2 still, opens]

/-- A text without quotes neither opens a literal nor ends one. -/
theorem toggles_of_not_mem (text : String) (free : '"' ∉ text.toList) : Toggles text False := by
  unfold Toggles
  generalize text.toList = chars at free
  induction chars with
  | nil =>
    intro pending last tokens found
    obtain ⟨_, rfl⟩ := Prod.mk.inj (Option.some.inj found)
    simp
  | cons char chars ih =>
    intro pending last tokens found
    rw [List.mem_cons, not_or] at free
    obtain ⟨_, middle, _, first, later⟩ := Pending.of_scan_cons found
    have rest := ih free.2 _ _ _ later
    exact ⟨fun literal => rest.1 (Pending.next_inside literal (Ne.symm free.1) first),
      fun outside => rest.2 (Pending.next_outside outside (Ne.symm free.1) first)⟩

/-- The word for a linkage and a quote end an open literal, and open one where none was. -/
theorem Pending.scan_linkage {pending last : Pending} {tokens : List Token}
    (found : pending.scan "extern \"".toList = some (tokens, last)) :
    last = if pending.isLiteral then nothing else inside := by
  cases literal : pending.isLiteral with
  | true =>
    cases pending with
    | nothing | run => simp [isLiteral] at literal
    | inside => exact (Prod.mk.inj (Option.some.inj found)).2.symm
    | escaped => exact (Prod.mk.inj (Option.some.inj found)).2.symm
  | false =>
    have parts : "extern \"".toList = "extern ".toList ++ ['"'] := rfl
    rw [parts] at found
    obtain ⟨_, middle, _, word, quote⟩ := of_scan_append found
    have outside := (toggles_of_not_mem "extern " (by decide) _ _ _ word).2 literal
    exact scan_outside (by simpa using outside) [] quote

/-- The words before a type of something defined elsewhere open a literal where the linkage is
not contained. -/
theorem toggles_linkageWords (linkage : String) :
    Toggles (CType.linkageWords (some linkage)) (Text.isContained linkage = false) := by
  intro pending last tokens found
  have parts : (CType.linkageWords (some linkage)).toList = "extern \"".toList ++
      (linkage.toList.flatMap Text.escapeChar ++ ['"']) ++ " ".toList := by
    simp [CType.linkageWords, Text.quoted]
  rw [parts] at found
  obtain ⟨_, closed, _, text, space⟩ := Pending.of_scan_append found
  obtain ⟨_, opened, _, opening, closing⟩ := Pending.of_scan_append text
  have opens := Pending.scan_linkage opening
  have spaced := toggles_of_not_mem " " (by decide) _ _ _ space
  constructor
  · intro literal
    rw [if_pos literal] at opens
    subst opens
    obtain rfl := Pending.scan_outside rfl _ closing
    exact spaced.1 rfl
  · intro outside
    rw [outside, if_neg (by simp)] at opens
    subst opens
    cases contained : Text.isContained linkage with
    | true =>
      have whole := @Pending.scan_contained false _ contained
      rw [Pending.literal, if_neg (by simp)] at whole
      rw [Pending.scan_append, whole] at closing
      obtain ⟨_, rfl⟩ := Prod.mk.inj (Option.some.inj closing)
      simpa using spaced.2 rfl
    | false =>
      obtain rfl := @Pending.scan_not_contained false _ contained _ _ closing
      simpa using spaced.1 rfl

end Token
end CSource
