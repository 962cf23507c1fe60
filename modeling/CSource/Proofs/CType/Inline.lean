import CSource.Declaration.Prototype
import CSource.Proofs.Text.Kept

/-!
# Spellings within a line

Types, declarations and prototypes are spelled from the texts that they are built from, and what is
kept by quoting, fixed words, braces and texts in a row goes from these to the spelling. So where
they are bare, the spelling is inline: every struct in it, however deep in fields and parameters,
closes its braces before the line ends.
-/

namespace CSource

open Text (IsBare IsInline IsKept IsFixed)

mutual

/-- The texts that a type is built from. -/
def CType.supplied : CType → List String
  | .named name => [name]
  | .pointer target => target.supplied
  | .array element _ => element.supplied
  | .leading _ inner => inner.supplied
  | .trailing inner _ => inner.supplied
  | .external linkage inner => linkage.toList ++ inner.supplied
  | .functionPointer result parameters => result.supplied ++ CType.suppliedAll parameters
  | .struct body => body.supplied

/-- The texts that types are built from. -/
def CType.suppliedAll : List CType → List String
  | [] => []
  | type :: types => type.supplied ++ CType.suppliedAll types

/-- The texts that a struct body is built from. -/
def StructBody.supplied : StructBody → List String
  | ⟨tag, fields⟩ => tag.toList ++ Declaration.suppliedAll fields

/-- The texts that a declaration is built from. -/
def Declaration.supplied : Declaration → List String
  | ⟨comments, type, name, initial⟩ =>
    comments.lines ++ type.supplied ++ name :: initial.toList.map Expr.code

/-- The texts that declarations are built from. -/
def Declaration.suppliedAll : List Declaration → List String
  | [] => []
  | declaration :: declarations => declaration.supplied ++ Declaration.suppliedAll declarations

end

variable {part whole : String → Prop}

namespace CType

/-- A base and a declarator are kept together. -/
theorem kept_attach (kept : IsKept part whole) {base declarator : String} (front : whole base)
    (back : whole declarator) : whole (attach base declarator) := by
  have space : whole " " := kept.fixed (by decide)
  unfold attach
  split
  · exact front
  · exact kept.append front back
  · exact kept.append (kept.append front space) back

/-- The size of an array is kept. -/
theorem kept_brackets (kept : IsKept part whole) (size : Option Nat) : whole (brackets size) := by
  have opening : whole "[" := kept.fixed (by decide)
  have closing : whole "]" := kept.fixed (by decide)
  cases size with
  | none => exact show whole "[]" from kept.fixed (by decide)
  | some size => exact kept.append (kept.append opening (kept.fixed (.toString size))) closing

/-- A word is a fixed text. -/
theorem isFixed_word (word : Qualifier) : IsFixed word.word := by cases word <;> decide

/-- A word before a declarator is kept. -/
theorem kept_wordBefore (kept : IsKept part whole) (word : Qualifier) {declarator : String}
    (inner : whole declarator) : whole (wordBefore word declarator) := by
  have own : whole word.word := kept.fixed (isFixed_word word)
  have space : whole " " := kept.fixed (by decide)
  unfold wordBefore
  split
  · exact own
  · exact kept.append (kept.append own space) inner

/-- The words before a type of something defined elsewhere are kept. -/
theorem kept_linkageWords (kept : IsKept part whole) {linkage : Option String}
    (parts : ∀ text ∈ linkage.toList, part text) : whole (linkageWords linkage) := by
  have keyword : whole "extern " := kept.fixed (by decide)
  have space : whole " " := kept.fixed (by decide)
  cases linkage with
  | none => exact keyword
  | some linkage =>
    have quoted := kept.quoted (parts linkage List.mem_cons_self)
    exact kept.append (kept.append keyword quoted) space

/-- A list of parameters is kept. -/
theorem kept_parameterList (kept : IsKept part whole) {parameters : List String}
    (each : ∀ text ∈ parameters, whole text) : whole (parameterList parameters) := by
  have comma : whole ", " := kept.fixed (by decide)
  cases parameters with
  | nil => exact show whole "void" from kept.fixed (by decide)
  | cons first others => exact kept.intercalate comma each

end CType

/-- The keyword of a struct and its tag are kept. -/
theorem StructBody.kept_keyword (kept : IsKept part whole) {tag : Option String}
    (parts : ∀ text ∈ tag.toList, part text) : whole (keyword tag) := by
  have word : whole "struct " := kept.fixed (by decide)
  cases tag with
  | none => exact show whole "struct" from kept.fixed (by decide)
  | some tag => exact kept.append word (kept.own (parts tag List.mem_cons_self))

/-- A struct on one line is kept. -/
theorem StructBody.kept_line (kept : IsKept part whole) {tag : Option String}
    {members : List String} (parts : ∀ text ∈ tag.toList, part text)
    (each : ∀ text ∈ members, whole text) : whole (line tag members) := by
  have space : whole " " := kept.fixed (by decide)
  have semicolon : whole ";" := kept.fixed (by decide)
  have front := kept.append (kept_keyword kept parts) space
  cases members with
  | nil =>
    have alone : line tag [] = keyword tag ++ " " ++ ("\x7b" ++ "" ++ "\x7d") := by
      apply String.toList_inj.1
      simp [line]
    rw [alone]
    exact kept.append front (kept.braced kept.empty)
  | cons first others =>
    have ended : ∀ text ∈ (first :: others).map (· ++ ";"), whole text := by
      intro text mem
      obtain ⟨member, own, rfl⟩ := List.mem_map.1 mem
      exact kept.append (each member own) semicolon
    have inside := kept.append (kept.append space (kept.intercalate space ended)) space
    have parts : line tag (first :: others) = keyword tag ++ " " ++ ("\x7b" ++
        (" " ++ " ".intercalate ((first :: others).map (· ++ ";")) ++ " ") ++ "\x7d") := by
      apply String.toList_inj.1
      simp [line]
    rw [parts]
    exact kept.append front (kept.braced inside)

/-- A declaration with its initial value is kept. -/
theorem Declaration.kept_initialized (kept : IsKept part whole) {declared : String}
    {initial : Option Expr} (front : whole declared)
    (parts : ∀ text ∈ initial.toList.map Expr.code, part text) :
    whole (initialized declared initial) := by
  have equals : whole " = " := kept.fixed (by decide)
  cases initial with
  | none => exact front
  | some initial =>
    have value := kept.own (parts initial.code List.mem_cons_self)
    exact kept.append (kept.append front equals) value

mutual

/-- A type around a declarator is kept. -/
theorem CType.kept_declarator (kept : IsKept part whole) : ∀ (type : CType) {inner : String},
    (∀ text ∈ type.supplied, part text) → whole inner → whole (type.declarator inner)
  | .named name, inner, parts, declared =>
    CType.kept_attach kept (kept.own (parts name List.mem_cons_self)) declared
  | .struct body, inner, parts, declared =>
    CType.kept_attach kept (StructBody.kept_spelling kept body parts) declared
  | .pointer target, inner, parts, declared => by
    have star : whole "*" := kept.fixed (by decide)
    have opening : whole "(*" := kept.fixed (by decide)
    have closing : whole ")" := kept.fixed (by decide)
    have around := @CType.kept_declarator kept target
    rw [CType.declarator]
    split
    · exact around parts (kept.append (kept.append opening declared) closing)
    · exact around parts (kept.append star declared)
    · have spelled := around parts kept.empty
      exact CType.kept_attach kept (kept.append spelled star) declared
  | .array element size, inner, parts, declared =>
    element.kept_declarator kept parts (kept.append declared (CType.kept_brackets kept size))
  | .leading word type, inner, parts, declared => by
    have space : whole " " := kept.fixed (by decide)
    have own : whole word.word := kept.fixed (CType.isFixed_word word)
    have rest := type.kept_declarator kept parts declared
    exact kept.append (kept.append own space) rest
  | .trailing type word, inner, parts, declared => by
    have space : whole " " := kept.fixed (by decide)
    have own : whole word.word := kept.fixed (CType.isFixed_word word)
    have around := @CType.kept_declarator kept type
    rw [CType.declarator]
    split
    · exact around parts (CType.kept_wordBefore kept word declared)
    · have spelled := around parts kept.empty
      exact CType.kept_attach kept (kept.append (kept.append spelled space) own) declared
  | .external linkage type, inner, parts, declared => by
    obtain ⟨own, others⟩ := List.forall_mem_append.1 parts
    have words := CType.kept_linkageWords kept own
    exact kept.append words (type.kept_declarator kept others declared)
  | .functionPointer result parameters, inner, parts, declared => by
    obtain ⟨own, others⟩ := List.forall_mem_append.1 parts
    have opening : whole "(*" := kept.fixed (by decide)
    have middle : whole ")(" := kept.fixed (by decide)
    have closing : whole ")" := kept.fixed (by decide)
    have list := CType.kept_parameterList kept (CType.kept_spellings kept parameters others)
    have front := kept.append (kept.append opening declared) middle
    exact result.kept_declarator kept own (kept.append (kept.append front list) closing)

/-- The spellings of types are kept. -/
theorem CType.kept_spellings (kept : IsKept part whole) : ∀ types : List CType,
    (∀ text ∈ CType.suppliedAll types, part text) → ∀ text ∈ CType.spellings types, whole text
  | [], _ => List.forall_mem_nil _
  | type :: types, parts => by
    obtain ⟨own, others⟩ := List.forall_mem_append.1 parts
    have first := type.kept_declarator kept own kept.empty
    exact List.forall_mem_cons.2 ⟨first, CType.kept_spellings kept types others⟩

/-- The body of a struct on one line is kept. -/
theorem StructBody.kept_spelling (kept : IsKept part whole) : ∀ body : StructBody,
    (∀ text ∈ body.supplied, part text) → whole body.spelling
  | ⟨_, fields⟩, parts => by
    obtain ⟨own, others⟩ := List.forall_mem_append.1 parts
    exact StructBody.kept_line kept own (Declaration.kept_texts kept fields others)

/-- A declaration is kept. -/
theorem Declaration.kept_text (kept : IsKept part whole) : ∀ declaration : Declaration,
    (∀ text ∈ declaration.supplied, part text) → whole declaration.text
  | ⟨_, type, name, _⟩, parts => by
    obtain ⟨front, back⟩ := List.forall_mem_append.1 parts
    obtain ⟨named, valued⟩ := List.forall_mem_cons.1 back
    have own := (List.forall_mem_append.1 front).2
    have declared := type.kept_declarator kept own (kept.own named)
    exact Declaration.kept_initialized kept declared valued

/-- The texts of declarations are kept. -/
theorem Declaration.kept_texts (kept : IsKept part whole) : ∀ declarations : List Declaration,
    (∀ text ∈ Declaration.suppliedAll declarations, part text) →
      ∀ text ∈ Declaration.texts declarations, whole text
  | [], _ => List.forall_mem_nil _
  | declaration :: declarations, parts => by
    obtain ⟨own, others⟩ := List.forall_mem_append.1 parts
    have first := declaration.kept_text kept own
    exact List.forall_mem_cons.2 ⟨first, Declaration.kept_texts kept declarations others⟩

end

/-- The texts that a parameter is built from. -/
def Parameter.supplied : Parameter → List String
  | named type name => name :: type.supplied
  | variadic => []

/-- A parameter is kept. -/
theorem Parameter.kept_text (kept : IsKept part whole) {parameter : Parameter}
    (parts : ∀ text ∈ parameter.supplied, part text) : whole parameter.text := by
  cases parameter with
  | variadic => exact show whole "..." from kept.fixed (by decide)
  | named type name =>
    obtain ⟨own, typed⟩ := List.forall_mem_cons.1 parts
    exact type.kept_declarator kept typed (kept.own own)

/-- The texts that a prototype is built from. -/
def Prototype.supplied (prototype : Prototype) : List String :=
  prototype.comments.lines ++ prototype.result.supplied ++
    prototype.name :: prototype.parameters.flatMap Parameter.supplied

/-- A prototype is kept. -/
theorem Prototype.kept_text (kept : IsKept part whole) {prototype : Prototype}
    (parts : ∀ text ∈ prototype.supplied, part text) : whole prototype.text := by
  obtain ⟨front, back⟩ := List.forall_mem_append.1 parts
  obtain ⟨named, taken⟩ := List.forall_mem_cons.1 back
  have returned := (List.forall_mem_append.1 front).2
  have space : whole " " := kept.fixed (by decide)
  have opening : whole "(" := kept.fixed (by decide)
  have closing : whole ")" := kept.fixed (by decide)
  have result := prototype.result.kept_declarator kept returned kept.empty
  have each : ∀ text ∈ prototype.parameters.map Parameter.text, whole text := by
    intro text mem
    obtain ⟨parameter, own, rfl⟩ := List.mem_map.1 mem
    exact Parameter.kept_text kept fun other inside =>
      taken other (List.mem_flatMap.2 ⟨parameter, own, inside⟩)
  have list := CType.kept_parameterList kept each
  have front := kept.append (kept.append (kept.append result space) (kept.own named)) opening
  exact kept.append (kept.append front list) closing

/-- A type of bare texts around an inline declarator is inline. -/
theorem CType.isInline_declarator (type : CType) {inner : String}
    (bare : ∀ text ∈ type.supplied, IsBare text) (declared : IsInline inner) :
    IsInline (type.declarator inner) :=
  type.kept_declarator IsBare.isKept bare declared

/-- The body of a struct of bare texts is inline on one line. -/
theorem StructBody.isInline_spelling (body : StructBody)
    (bare : ∀ text ∈ body.supplied, IsBare text) : IsInline body.spelling :=
  body.kept_spelling IsBare.isKept bare

end CSource
