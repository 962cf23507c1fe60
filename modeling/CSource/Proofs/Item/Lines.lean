import CSource.Proofs.CType.Inline
import CSource.Proofs.Item.Braces

/-!
# Lines of items

What an item writes besides bodies are lines around the texts that it is built from, each begun or
ended by a fixed text. Where the parts are bare, with no brace, number sign or line break, every
such line stands alone: it closes its braces and neither begins nor ends a guarded part.
-/

namespace CSource

open Mark (IsClosed)
open Text (IsBare IsInline IsKept IsLined IsFixed IsSettled)

/-- The texts that an enumeration is built from. -/
def Enumeration.supplied (enumeration : Enumeration) : List String :=
  enumeration.comments.lines ++ enumeration.name :: enumeration.values

/-- The texts that a type name is built from. -/
def Typedef.supplied (typedef : Typedef) : List String :=
  typedef.comments.lines ++ typedef.name :: typedef.type.supplied

/-- The texts that an inclusion is built from. -/
def Include.supplied (inclusion : Include) : List String :=
  inclusion.comments.lines ++ [inclusion.target]

/-- The texts that the definition of a macro is built from. -/
def Define.supplied (definition : Define) : List String :=
  definition.name :: definition.value.toList

mutual

/-- The texts that an item is built from. -/
def Item.supplied : Item → List String
  | .blank | .breaks | .continues => []
  | .raw code => [code]
  | .comment comments => comments.lines
  | .evaluate expr => [expr.code]
  | .returns value => value.toList.map Expr.code
  | .throws value => [value.code]
  | .type type => type.supplied
  | .declaration declaration => declaration.supplied
  | .typedef typedef => typedef.supplied
  | .prototype prototype => prototype.supplied
  | .function function => function.supplied
  | .block block => block.supplied
  | .arm arm => arm.supplied
  | .enumeration enumeration => enumeration.supplied
  | .inclusion inclusion => inclusion.supplied
  | .define definition => definition.supplied
  | .guard guard => guard.supplied

/-- The texts that a function is built from. -/
def Function.supplied : Function → List String
  | ⟨comments, prototype, body⟩ =>
    comments.lines ++ prototype.supplied ++ Item.suppliedAll body

/-- The texts that a block is built from. -/
def Block.supplied : Block → List String
  | ⟨comments, head, body, tail⟩ =>
    comments.lines ++ head :: tail.toList ++ Item.suppliedAll body

/-- The texts that an arm is built from. -/
def SwitchArm.supplied : SwitchArm → List String
  | ⟨label, body⟩ => label.toList.map Expr.code ++ Item.suppliedAll body

/-- The texts that a guarded part is built from. -/
def Guard.supplied : Guard → List String
  | ⟨name, body⟩ => name :: Item.suppliedAll body

/-- The texts that items are built from. -/
def Item.suppliedAll : List Item → List String
  | [] => []
  | item :: items => item.supplied ++ Item.suppliedAll items

end

/-- Whether an instruction leaves an empty line or a line of a kind. -/
def Instruction.Leaves (kind : String → Prop) : Instruction → Prop
  | line text => kind text
  | blank => True
  | raw _ | indent | dedent => False

variable {part whole kind : String → Prop}

/-- A line of a kind is one line of that kind. -/
theorem leaves_line {text : String} (own : kind text) :
    ∀ step ∈ [Instruction.line text], step.Leaves kind := List.forall_mem_singleton.2 own

/-- Comments are lines of a kind. -/
theorem leaves_comments (lined : IsLined part whole kind) {comments : Comments}
    (parts : ∀ text ∈ comments.lines, part text) :
    ∀ step ∈ instructions comments, step.Leaves kind := by
  obtain ⟨lines⟩ := comments
  match lines, parts with
  | [], _ => exact List.forall_mem_nil _
  | [text], parts =>
    have remark : kind ("// " ++ text) := lined.begun (by decide) (lined.own (parts text (by simp)))
    exact leaves_line remark
  | first :: second :: others, parts =>
    have rows : ∀ step ∈ (first :: second :: others).map (Instruction.line <| " * " ++ ·),
        step.Leaves kind := by
      intro step mem
      obtain ⟨text, own, rfl⟩ := List.mem_map.1 mem
      exact lined.begun (by decide) (lined.own (parts text own))
    have opening : kind "/*" := lined.alone (by decide)
    have closing : kind " */" := lined.alone (by decide)
    have front := List.forall_mem_append.2 ⟨leaves_line opening, rows⟩
    exact List.forall_mem_append.2 ⟨front, leaves_line closing⟩

/-- Comments and a line of a kind are lines of that kind. -/
theorem leaves_remarked (lined : IsLined part whole kind) {comments : Comments} {text : String}
    (parts : ∀ text ∈ comments.lines, part text) (own : kind text) :
    ∀ step ∈ instructions comments ++ [.line text], step.Leaves kind :=
  List.forall_mem_append.2 ⟨leaves_comments lined parts, leaves_line own⟩

/-- A declaration is lines of a kind. -/
theorem leaves_declaration (lined : IsLined part whole kind) {declaration : Declaration}
    (parts : ∀ text ∈ declaration.supplied, part text) :
    ∀ step ∈ instructions declaration, step.Leaves kind := by
  have own : kind (declaration.text ++ ";") :=
    lined.ended (declaration.kept_text lined.toIsKept parts) (by decide)
  obtain ⟨comments, type, name, initial⟩ := declaration
  have front := (List.forall_mem_append.1 parts).1
  exact leaves_remarked lined (List.forall_mem_append.1 front).1 own

/-- Declarations are lines of a kind. -/
theorem leaves_declarations (lined : IsLined part whole kind) {declarations : List Declaration}
    (parts : ∀ text ∈ Declaration.suppliedAll declarations, part text) :
    ∀ step ∈ instructions declarations, step.Leaves kind := by
  induction declarations with
  | nil => exact List.forall_mem_nil _
  | cons declaration declarations ih =>
    obtain ⟨own, others⟩ := List.forall_mem_append.1 parts
    exact List.forall_mem_append.2 ⟨leaves_declaration lined own, ih others⟩

/-- The label of an arm is a line of a kind. -/
theorem SwitchArm.leaves_labelLine (lined : IsLined part whole kind) {label : Option Expr}
    (parts : ∀ text ∈ label.toList.map Expr.code, part text) :
    ∀ step ∈ [SwitchArm.labelLine label], step.Leaves kind := by
  have word : whole "case " := lined.fixed (by decide)
  have otherwise : kind "default:" := lined.alone (by decide)
  cases label with
  | none => exact leaves_line otherwise
  | some value =>
    have value := lined.own (parts value.code List.mem_cons_self)
    exact leaves_line (lined.ended (lined.append word value) (by decide))

/-- The end of a function is a line of a kind. -/
theorem Item.leaves_returnLine (lined : IsLined part whole kind) {value : Option Expr}
    (parts : ∀ text ∈ value.toList.map Expr.code, part text) :
    ∀ step ∈ [Item.returnLine value], step.Leaves kind := by
  have word : whole "return " := lined.fixed (by decide)
  have alone : kind "return;" := lined.alone (by decide)
  cases value with
  | none => exact leaves_line alone
  | some value =>
    have value := lined.own (parts value.code List.mem_cons_self)
    exact leaves_line (lined.ended (lined.append word value) (by decide))

/-- The entries of an enumeration are lines of a kind. -/
theorem Enumeration.leaves_entries (lined : IsLined part whole kind) {values : List String}
    (position : Nat) (parts : ∀ text ∈ values, part text) :
    ∀ step ∈ (Enumeration.entries position values).map Instruction.line, step.Leaves kind := by
  induction values generalizing position with
  | nil => exact List.forall_mem_nil _
  | cons name others ih =>
    obtain ⟨own, later⟩ := List.forall_mem_cons.1 parts
    have number := IsFixed.toString position
    have comma : IsFixed (if others.isEmpty then "" else ",") := by split <;> decide
    have rest : IsFixed (" = " ++ toString position ++ if others.isEmpty then "" else ",") :=
      ((show IsFixed " = " by decide).append number).append comma
    have numbered := lined.ended (lined.own own) ⟨rest, by simp⟩
    rw [← String.append_assoc, ← String.append_assoc] at numbered
    exact List.forall_mem_cons.2 ⟨numbered, ih (position + 1) later⟩

/-- Code is lines of a kind if each of its lines is one or is empty. -/
theorem Item.leaves_codeLines {code : String}
    (each : ∀ line ∈ Text.lines code.toList, line ≠ [] → kind (String.ofList line)) :
    ∀ step ∈ Item.codeLines code, step.Leaves kind := by
  unfold codeLines
  split
  · exact List.forall_mem_singleton.2 trivial
  · intro step mem
    obtain ⟨line, own, rfl⟩ := List.mem_map.1 mem
    unfold codeLine
    split
    · trivial
    · rename_i filled
      exact each line own filled

/-- Whether an instruction leaves an empty line or one that stands alone. -/
def Instruction.IsSettled : Instruction → Prop
  | line text => Text.IsSettled text
  | blank => True
  | raw _ | indent | dedent => False

/-- An inline line stands alone. -/
theorem Text.IsInline.settled_line {text : String} (inline : IsInline text) :
    ∀ step ∈ [Instruction.line text], step.IsSettled :=
  List.forall_mem_singleton.2 inline.isSettled

/-- Bare texts make lines that stand alone. -/
theorem Text.IsBare.isLined : IsLined IsBare IsInline IsSettled where
  toIsKept := IsBare.isKept
  begun fixed rest := (fixed.1.isBare.isInline.append rest).isSettled
  ended start fixed := (start.append fixed.1.isBare.isInline).isSettled

/-- Lines that stand alone are settled. -/
theorem settled_of_leaves {steps : List Instruction}
    (leaves : ∀ step ∈ steps, step.Leaves Text.IsSettled) : ∀ step ∈ steps, step.IsSettled := by
  intro step mem
  have own := leaves step mem
  cases step <;> exact own

/-- Comments of bare texts are lines that stand alone. -/
theorem settled_comments {comments : Comments} (bare : ∀ text ∈ comments.lines, IsBare text) :
    ∀ step ∈ instructions comments, step.IsSettled :=
  settled_of_leaves (leaves_comments IsBare.isLined bare)

/-- The lines of bare code stand alone. -/
theorem settled_codeLines {code : String} (bare : IsBare code) :
    ∀ step ∈ Item.codeLines code, step.IsSettled := by
  refine settled_of_leaves (Item.leaves_codeLines fun line own _ => ?_)
  refine (show IsBare (String.ofList line) from fun char inside => ?_).isInline.isSettled
  rw [String.toList_ofList] at inside
  exact bare char (Text.subset_of_mem_lines _ line own inside)

/-- A line that includes a header or defines a macro stands alone. -/
theorem Text.IsInline.isSettled_directive {word text : String}
    (known : word = "#include " ∨ word = "#define ") (inline : IsInline text) :
    IsSettled (word ++ text) := by
  have closed : IsClosed Text.brace word.toList := by rcases known with rfl | rfl <;> decide
  have unbroken : '\n' ∉ word.toList := by rcases known with rfl | rfl <;> decide
  refine ⟨?_, by simp [unbroken, inline.unbroken], ?_⟩
  · rw [String.toList_append]
    exact closed.append inline.closed
  · rcases known with rfl | rfl <;> simp [Guard.mark, List.cons_prefix_cons]

/-- The definition of a macro stands alone. -/
theorem Define.isSettled_text {definition : Define}
    (bare : ∀ text ∈ definition.supplied, IsBare text) : IsSettled definition.text := by
  obtain ⟨name, value⟩ := definition
  obtain ⟨own, rest⟩ := List.forall_mem_cons.1 bare
  cases value with
  | none => exact own.isInline.isSettled_directive (.inr rfl)
  | some value =>
    have inline := (rest value List.mem_cons_self).isInline
    have settled := ((own.isInline.append .space).append inline).isSettled_directive (.inr rfl)
    simpa [text, String.append_assoc] using settled

end CSource
