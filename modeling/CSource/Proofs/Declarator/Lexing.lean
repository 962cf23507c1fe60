import CSource.Proofs.Declarator.Literal
import CSource.Proofs.Declarator.Phrase
import CSource.Proofs.Number.Whole

/-!
# Tokens of types

The spelling of a type around a declarator has the tokens of its front, those of the declarator
and those of its back, whatever spaces stand between them. Only a linkage that is not contained
in its quotes can break this, and then the spelling has no tokens at all.
-/

namespace CSource

namespace Token

/-- Word characters go on with a run. -/
theorem Pending.scan_run {chars : List Char} (word : chars.all isWordChar = true)
    (before : List Char) : (run before).scan chars = some ([], run (before ++ chars)) := by
  induction chars generalizing before with
  | nil => simp [scan]
  | cons char chars ih =>
    rw [List.all_cons, Bool.and_eq_true] at word
    simp [scan, next, word.1, ih word.2]

/-- The token of a text that is one run. -/
theorem ofText_run {text : String} {token : Token} (word : text.toList.all isWordChar = true)
    (nonempty : text.toList ≠ []) (found : ofRun text.toList = some token) :
    ofText text = some [token] := by
  rw [ofText]
  cases shape : text.toList with
  | nil => exact absurd shape nonempty
  | cons char chars =>
    rw [shape] at word found
    rw [List.all_cons, Bool.and_eq_true] at word
    have rest := Pending.scan_run word.2 [char]
    simp [Pending.scan, Pending.next, Pending.start, word.1, rest, Pending.flush, found]

/-- A name is one token. -/
theorem ofText_identifier {text : String} (identifier : isIdentifier text = true) :
    ofText text = some [.word text] := by
  have parts := identifier
  unfold isIdentifier at parts
  cases shape : text.toList with
  | nil => simp [shape] at parts
  | cons first rest =>
    simp only [shape, Bool.and_eq_true, Bool.not_eq_true'] at parts
    have text_eq : String.ofList (first :: rest) = text := by rw [← shape, String.ofList_toList]
    have token : ofRun text.toList = some (.word text) := by
      simp [ofRun, shape, parts.1.2, text_eq, identifier]
    exact ofText_run (by simp [shape, parts.1.1, parts.2]) (by simp [shape]) token

/-- The digits of a whole number are one token. -/
theorem ofText_toString (number : Nat) : ofText (toString number) = some [.number number] := by
  have digits : ∀ char ∈ (toString number).toList, char.isDigit = true := fun _ =>
    isDigit_of_mem_toString
  have word : ∀ char ∈ (toString number).toList, isWordChar char = true := fun char mem => by
    simp [isWordChar, Char.isAlphanum, digits char mem]
  have run : ofRun (toString number).toList = some (.number number) := by
    rw [ofRun, if_pos (List.all_eq_true.2 digits), ofDigitChars_toString]
  exact ofText_run (List.all_eq_true.2 word) (toList_toString_ne_nil number) run

/-- A base and a declarator have the tokens of both. -/
theorem ofText_attach {base declarator : String} {tokens later : List Token}
    (front : ofText base = some tokens) (back : ofText declarator = some later) :
    ofText (CType.attach base declarator) = some (tokens ++ later) := by
  unfold CType.attach
  split
  · rename_i empty
    obtain rfl := String.toList_inj.1 (empty.trans String.toList_empty.symm)
    obtain rfl := Option.some.inj (back.symm.trans ofText_empty)
    simpa using front
  · rename_i shape
    rw [ofText_append front (by simp [shape, isSeparator, ofMark]), back]
    rfl
  · have spaced : Closed " " [] := rfl
    have right : ofText (" " ++ declarator) = some later := spaced.ofText_append back
    rw [String.append_assoc, ofText_append front (by simp [isSeparator]), right]
    rfl

/-- A star in front of a declarator. -/
theorem ofText_star {declarator : String} {tokens : List Token}
    (found : ofText declarator = some tokens) :
    ofText ("*" ++ declarator) = some (.star :: tokens) :=
  Closed.ofText_append (show Closed "*" [.star] from rfl) found

/-- A declarator with a star in parentheses. -/
theorem ofText_group {declarator : String} {tokens : List Token}
    (found : ofText declarator = some tokens) :
    ofText ("(*" ++ declarator ++ ")") = some (.parenOpen :: .star :: tokens ++ [.parenClose]) := by
  have opened : Closed "(*" [.parenOpen, .star] := rfl
  have closed : ofText ")" = some [.parenClose] := rfl
  have front := opened.ofText_append found
  rw [ofText_append front (by simp [isSeparator, ofMark]), closed]
  rfl

/-- A declarator with a star in parentheses and the parameters of a function after it. -/
theorem ofText_call {declarator list : String} {tokens later : List Token}
    (found : ofText declarator = some tokens) (parameters : ofText list = some later) :
    ofText ("(*" ++ declarator ++ ")(" ++ list ++ ")")
      = some (.parenOpen :: .star :: tokens ++ .parenClose :: .parenOpen :: later
          ++ [.parenClose]) := by
  have opened : Closed "(*" [.parenOpen, .star] := rfl
  have middle : Closed ")(" [.parenClose, .parenOpen] := rfl
  have inner := opened.ofText_append found
  have right : ofText (")(" ++ list) = some ([.parenClose, .parenOpen] ++ later) :=
    middle.ofText_append parameters
  have front : ofText ("(*" ++ declarator ++ ")(" ++ list)
      = some ([.parenOpen, .star] ++ tokens ++ ([.parenClose, .parenOpen] ++ later)) := by
    rw [String.append_assoc, ofText_append inner (by simp [isSeparator, ofMark]), right]
    rfl
  have closed : ofText ")" = some [.parenClose] := rfl
  rw [ofText_append front (by simp [isSeparator, ofMark]), closed]
  simp

/-- The size of an array. -/
theorem ofText_brackets (size : Option Nat) :
    ofText (CType.brackets size) = some (ofSize size) := by
  cases size with
  | none => rfl
  | some size =>
    have opened : Closed "[" [.bracketOpen] := rfl
    have front := opened.ofText_append (ofText_toString size)
    have closed : ofText "]" = some [.bracketClose] := rfl
    rw [CType.brackets, ofText_append front (by simp [isSeparator, ofMark]), closed]
    rfl

/-- A declarator with the size of an array after it. -/
theorem ofText_sized {declarator : String} {tokens : List Token}
    (found : ofText declarator = some tokens) (size : Option Nat) :
    ofText (declarator ++ CType.brackets size) = some (tokens ++ ofSize size) := by
  have separated : ∀ char ∈ (CType.brackets size).toList.head?, isSeparator char = true := by
    cases size <;> simp [CType.brackets, isSeparator, ofMark]
  rw [ofText_append found separated, ofText_brackets]
  rfl

/-- A word in front of a declarator. -/
theorem ofText_word {declarator : String} {tokens : List Token} (word : Qualifier)
    (found : ofText declarator = some tokens) :
    ofText (word.word ++ " " ++ declarator) = some (.word word.word :: tokens) := by
  have front : Closed (word.word ++ " ") [.word word.word] := by cases word <;> rfl
  exact front.ofText_append found

/-- A word in front of a declarator, which may be empty. -/
theorem ofText_wordBefore {declarator : String} {tokens : List Token} (word : Qualifier)
    (found : ofText declarator = some tokens) :
    ofText (CType.wordBefore word declarator) = some (.word word.word :: tokens) := by
  unfold CType.wordBefore
  split
  · rename_i empty
    subst empty
    obtain rfl := Option.some.inj (found.symm.trans ofText_empty)
    exact ofText_identifier (by cases word <;> rfl)
  · exact ofText_word word found

/-- A word after a text. -/
theorem ofText_word_after {text : String} {tokens : List Token} (word : Qualifier)
    (found : ofText text = some tokens) :
    ofText (text ++ " " ++ word.word) = some (tokens ++ [.word word.word]) := by
  have spaced : Closed " " [] := rfl
  have right : ofText (" " ++ word.word) = some [.word word.word] :=
    spaced.ofText_append (ofText_identifier (by cases word <;> rfl))
  rw [String.append_assoc, ofText_append found (by simp [isSeparator]), right]
  rfl

/-- The words before a type of something defined elsewhere. -/
theorem closed_linkageWords {linkage : String} (contained : Text.isContained linkage = true) :
    Closed (CType.linkageWords (some linkage)) [.word "extern", .literal] := by
  have parts : (CType.linkageWords (some linkage)).toList = "extern \"".toList ++
      (linkage.toList.flatMap Text.escapeChar ++ "\" ".toList) := by
    simp [CType.linkageWords, Text.quoted]
  have opening : Pending.nothing.scan "extern \"".toList = some ([.word "extern"], .inside) := rfl
  have text : Pending.inside.scan (linkage.toList.flatMap Text.escapeChar) = some ([], .inside) :=
    @Pending.scan_contained false _ contained
  have closing : Pending.inside.scan "\" ".toList = some ([.literal], .nothing) := rfl
  unfold Closed
  rw [parts, Pending.scan_append, opening]
  simp only [Option.bind_some]
  rw [Pending.scan_append, text]
  simp only [Option.bind_some, closing]
  rfl

/-- The texts of parameters between commas. -/
theorem ofText_parameterList {α : Type} {items : List α} {text : α → String}
    {tokens : α → List Token} (found : ∀ item ∈ items, ofText (text item) = some (tokens item)) :
    ofText (CType.parameterList (items.map text)) = some (separated (items.map tokens)) := by
  induction items with
  | nil => exact show ofText "void" = some [.word "void"] from rfl
  | cons item items ih =>
    have first := found item (by simp)
    have rest := ih fun other mem => found other (List.mem_cons_of_mem _ mem)
    cases items with
    | nil => simpa [CType.parameterList, separated] using first
    | cons other items =>
      have comma : Closed ", " [.comma] := rfl
      have right := comma.ofText_append rest
      simp only [List.map_cons, CType.parameterList, String.intercalate_cons_cons] at right ⊢
      rw [String.append_assoc, ofText_append first (by simp [isSeparator, ofMark]), right]
      simp [separated]

end Token

namespace CType

/-- Whether the linkage of a part of a type is contained in its quotes. -/
def IsContainedPart : CType → Prop
  | external (some linkage) _ => Text.isContained linkage = true
  | _ => True

instance : DecidablePred IsContainedPart
  | external (some linkage) _ => inferInstanceAs (Decidable (Text.isContained linkage = true))
  | external none _ | named _ | pointer _ | array .. | leading .. | trailing ..
  | functionPointer .. | struct _ => .isTrue trivial

/-- Whether every linkage in a type is contained in its quotes. -/
def IsContained (type : CType) : Prop := type.Every IsContainedPart

instance : DecidablePred IsContained := inferInstanceAs (DecidablePred (Every IsContainedPart))

/-- The tokens of a type around a declarator. -/
theorem ofText_declarator {leads : List String} {type : CType} (worded : type.IsWorded leads)
    (contained : type.IsContained) {inner : String} {tokens : List Token}
    (found : Token.ofText inner = some tokens) :
    Token.ofText (type.declarator inner) = some (type.front ++ tokens ++ type.back) := by
  -- The text before and after a declarator grows with the declarator, so it is any text here.
  induction type using parts_induction generalizing inner tokens with
  | named base =>
    have name := Token.ofText_identifier worded.1.1
    simpa [declarator, front, back] using Token.ofText_attach name found
  | pointer target ih =>
    cases place : target.starPlace with
    | parenthesized =>
      have around := ih worded.2 contained.2 (Token.ofText_group found)
      simpa [declarator, front, back, place] using around
    | name =>
      have around := ih worded.2 contained.2 (Token.ofText_star found)
      simpa [declarator, front, back, place] using around
    | target =>
      have alone := ih worded.2 contained.2 Token.ofText_empty
      have starred : Token.ofText (target.declarator "" ++ "*")
          = some (target.front ++ target.back ++ [.star]) := by
        rw [Token.ofText_append alone (by simp [Token.isSeparator, Token.ofMark]),
          show Token.ofText "*" = some [.star] from rfl]
        simp
      simpa [declarator, front, back, place] using Token.ofText_attach starred found
  | array element size ih =>
    have around := ih worded.2 contained.2 (Token.ofText_sized found size)
    simpa [declarator, front, back] using around
  | leading word inner ih =>
    have around := ih worded.2 contained.2 found
    simpa [declarator, front, back] using Token.ofText_word word around
  | trailing type word ih =>
    cases binds : type.bindsTighter with
    | true =>
      have around := ih worded.2 contained.2 (Token.ofText_wordBefore word found)
      simpa [declarator, front, back, binds] using around
    | false =>
      have alone := ih worded.2 contained.2 Token.ofText_empty
      have worded := Token.ofText_word_after word alone
      simpa [declarator, front, back, binds] using Token.ofText_attach worded found
  | external linkage type ih =>
    have around := ih worded.2 contained.2 found
    cases linkage with
    | none =>
      have word : Token.Closed (linkageWords none) [.word "extern"] := rfl
      simpa [declarator, front, back] using word.ofText_append around
    | some linkage =>
      have words := Token.closed_linkageWords contained.1
      simpa [declarator, front, back] using words.ofText_append around
  | functionPointer result parameters ih ihs =>
    have types := Token.ofText_parameterList fun type mem =>
      ihs type mem (everyIn_iff.1 worded.2.2 type mem)
        (everyIn_iff.1 contained.2.2 type mem) Token.ofText_empty
    simp only [List.append_nil, ← alone_eq_map, ← spellings_eq_map] at types
    have around := ih worded.2.1 contained.2.1 (Token.ofText_call found types)
    simpa [declarator, front, back] using around
  | struct body => exact absurd worded (by simp [IsWorded, Every, IsWordedPart])

end CType

namespace Token

/-- Texts before and after a text that have no quotes leave it as it is. -/
theorem Toggles.between {text : String} {condition : Prop} (toggles : Toggles text condition)
    {left right : String} (before : '"' ∉ left.toList) (after : '"' ∉ right.toList) :
    Toggles (left ++ text ++ right) condition := by
  have all := ((toggles_of_not_mem left before).append toggles).append
    (toggles_of_not_mem right after)
  simpa using all

/-- Nothing opens no literal. -/
theorem Toggles.not_of_empty {condition : Prop} (toggles : Toggles "" condition) : ¬ condition := by
  intro opens
  have nothing := toggles.ofText opens
  contradiction

/-- A word in front of a declarator leaves it as it is. -/
theorem Toggles.wordBefore {declarator : String} {condition : Prop} {word : Qualifier}
    (toggles : Toggles declarator condition) (free : '"' ∉ word.word.toList) :
    Toggles (CType.wordBefore word declarator) condition := by
  unfold CType.wordBefore
  split
  · rename_i empty
    subst empty
    simpa [toggles.not_of_empty] using toggles_of_not_mem _ free
  · have spaced := toggles_of_not_mem (word.word ++ " ") (by simpa using free)
    simpa using spaced.append toggles

/-- A base and a declarator open a literal where one of them does. -/
theorem Toggles.attach {base declarator : String} {first second : Prop}
    (front : Toggles base first) (back : Toggles declarator second) :
    Toggles (CType.attach base declarator) (first ∨ second) := by
  unfold CType.attach
  split
  · rename_i empty
    obtain rfl := String.toList_inj.1 (empty.trans String.toList_empty.symm)
    simpa [back.not_of_empty] using front
  · exact front.append back
  · have spaced := front.append (toggles_of_not_mem " " (by decide))
    simpa using spaced.append back

/-- A name has no quotes. -/
theorem not_mem_identifier {text : String} (identifier : isIdentifier text = true) :
    '"' ∉ text.toList := by
  intro mem
  unfold isIdentifier at identifier
  cases shape : text.toList with
  | nil => simp [shape] at mem
  | cons first rest =>
    simp only [shape, Bool.and_eq_true, List.all_eq_true] at identifier
    have word : isWordChar '"' = true := by
      rw [shape] at mem
      rcases List.mem_cons.1 mem with rfl | mem
      · exact identifier.1.1
      · exact identifier.2 _ mem
    exact absurd word (by decide)

/-- The size of an array has no quotes. -/
theorem not_mem_brackets (size : Option Nat) : '"' ∉ (CType.brackets size).toList := by
  cases size with
  | none => decide
  | some size =>
    have digits : '"' ∉ (toString size).toList := fun mem =>
      absurd (isDigit_of_mem_toString mem) (by decide)
    simp only [CType.brackets, String.toList_append, List.mem_append, not_or]
    exact ⟨⟨by decide, digits⟩, by decide⟩

/-- The spellings of parameter types open a literal where one of them does. -/
theorem toggles_parameterList {types : List CType} {opens : CType → Prop}
    (toggles : ∀ type ∈ types, Toggles (type.declarator "") (opens type)) :
    Toggles (CType.parameterList (CType.spellings types)) (∃ type ∈ types, opens type) := by
  induction types with
  | nil => simpa [CType.spellings, CType.parameterList] using toggles_of_not_mem "void" (by decide)
  | cons type types ih =>
    have first := toggles type (by simp)
    have rest := ih fun other mem => toggles other (List.mem_cons_of_mem _ mem)
    cases types with
    | nil => simpa [CType.spellings, CType.parameterList] using first
    | cons other types =>
      have comma := first.append (toggles_of_not_mem ", " (by decide))
      simpa [CType.spellings, CType.parameterList, String.intercalate_cons_cons] using
        comma.append rest

end Token

namespace CType

/-- A type around a declarator opens a literal where the declarator does or where a linkage is
not contained. -/
theorem toggles_declarator {leads : List String} {type : CType} (worded : type.IsWorded leads)
    {inner : String} {opens : Prop} (toggles : Token.Toggles inner opens) :
    Token.Toggles (type.declarator inner) (opens ∨ ¬ type.IsContained) := by
  have star : Token.Toggles "*" False := Token.toggles_of_not_mem "*" (by decide)
  have word : ∀ word : Qualifier, '"' ∉ word.word.toList := fun word => by cases word <;> decide
  induction type using parts_induction generalizing inner opens with
  | named base =>
    have name := Token.toggles_of_not_mem base (Token.not_mem_identifier worded.1.1)
    simpa [declarator, IsContained, Every, IsContainedPart] using name.attach toggles
  | pointer target ih =>
    cases place : target.starPlace with
    | parenthesized =>
      have grouped : Token.Toggles ("(*" ++ inner ++ ")") opens :=
        toggles.between (by decide) (by decide)
      simpa [declarator, place, IsContained, Every, IsContainedPart] using ih worded.2 grouped
    | name =>
      have starred := star.append toggles
      simpa [declarator, place, IsContained, Every, IsContainedPart] using ih worded.2 starred
    | target =>
      have alone := ih worded.2 (Token.toggles_of_not_mem "" (by decide))
      have around := (alone.append star).attach toggles
      simpa [declarator, place, IsContained, Every, IsContainedPart, or_comm] using around
  | array element size ih =>
    have sized := toggles.append (Token.toggles_of_not_mem _ (Token.not_mem_brackets size))
    simpa [declarator, IsContained, Every, IsContainedPart] using ih worded.2 sized
  | leading qualifier rest ih =>
    have front := Token.toggles_of_not_mem (qualifier.word ++ " ")
      (by simpa using word qualifier)
    simpa [declarator, IsContained, Every, IsContainedPart] using
      front.append (ih worded.2 toggles)
  | trailing type qualifier ih =>
    cases binds : type.bindsTighter with
    | true =>
      have around := ih worded.2 (toggles.wordBefore (word qualifier))
      simpa [declarator, binds, IsContained, Every, IsContainedPart] using around
    | false =>
      have alone := ih worded.2 (Token.toggles_of_not_mem "" (by decide))
      have spaced := (alone.append (Token.toggles_of_not_mem " " (by decide))).append
        (Token.toggles_of_not_mem _ (word qualifier))
      have around := spaced.attach toggles
      simpa [declarator, binds, IsContained, Every, IsContainedPart, or_comm] using around
  | external linkage type ih =>
    have around := ih worded.2 toggles
    cases linkage with
    | none =>
      have front := Token.toggles_of_not_mem (linkageWords none) (by decide)
      simpa [declarator, IsContained, Every, IsContainedPart] using front.append around
    | some linkage =>
      have front := (Token.toggles_linkageWords linkage).append around
      have both : (opens ∨ ¬ (external (some linkage) type).IsContained) =
          (Text.isContained linkage = false ∨ opens ∨ ¬ type.IsContained) := by
        simp only [IsContained, Every, IsContainedPart, Classical.not_and_iff_not_or_not,
          Bool.not_eq_true, or_left_comm]
      rw [both]
      exact front
  | functionPointer result parameters ih ihs =>
    have types := Token.toggles_parameterList fun type mem =>
      ihs type mem (everyIn_iff.1 worded.2.2 type mem) (Token.toggles_of_not_mem "" (by decide))
    have called : Token.Toggles ("(*" ++ inner ++ ")(" ++ parameterList (spellings parameters) ++
        ")") (opens ∨ ∃ type ∈ parameters, ¬ type.IsContained) := by
      have grouped : Token.Toggles ("(*" ++ inner ++ ")(") opens :=
        toggles.between (by decide) (by decide)
      simpa using (grouped.append types).append (Token.toggles_of_not_mem ")" (by decide))
    have each : (∃ type ∈ parameters, ¬ type.IsContained) ∨ ¬ result.IsContained ↔
        ¬ (functionPointer result parameters).IsContained := by
      by_cases inner : result.Every IsContainedPart
      · simp [IsContained, Every, IsContainedPart, everyIn_iff, inner]
      · simp [IsContained, Every, inner]
    have around := ih worded.2.1 called
    rwa [or_assoc, each] at around
  | struct body => exact absurd worded (by simp [IsWorded, Every, IsWordedPart])

end CType
end CSource
