import CSource.CType.Builtin
import CSource.Declaration.Typedef
import CSource.Proofs.CType.Slot

/-!
# Structs over lines and on one line

A name for a struct is written with a member on each line, with the comments of each member before
it, where the spelling of the struct has all members on one line and no comments. The two are one
declaration: without its comments, and with its lines joined, what is written is the declaration of
the name with the struct (`Typedef.joined_struct`). Only the braces of a struct without members
stand closer on one line.
-/

namespace CSource

/-- The text of a line. -/
def Instruction.lineText? : Instruction → Option String
  | line text => some text
  | _ => none

/-- The texts of the lines among instructions. -/
def Instruction.lineTexts (steps : List Instruction) : List String := steps.filterMap lineText?

/-- An instruction with the comments that are written right before it. -/
structure Remarked where
  /-- The comments. -/
  comments : Comments := .empty
  /-- The instruction. -/
  step : Instruction

namespace Remarked

instance : Render Remarked where
  instructions remarked := instructions remarked.comments ++ [remarked.step]

end Remarked

namespace Declaration

/-- The line of a declaration with its comments. -/
def remarked (declaration : Declaration) : Remarked where
  comments := declaration.comments
  step := .line (declaration.text ++ ";")

/-- Declarations are written as their lines with their comments. -/
theorem instructions_map_remarked (declarations : List Declaration) :
    instructions (declarations.map remarked) = instructions declarations := by
  induction declarations with
  | nil => rfl
  | cons declaration declarations ih =>
    rw [List.map_cons, instructions_cons, instructions_cons, ih]
    rfl

end Declaration

namespace StructBody

/-- The line that opens the body of a struct that gets a name. -/
def opening (tag : Option String) : String := "typedef " ++ keyword tag ++ " \x7b"

/-- The line that closes the body of a struct and gives it a name. -/
def closing (name : String) : String := "\x7d " ++ name ++ ";"

/-- The instructions that write a name for a struct, each with the comments before it. -/
def remarked (body : StructBody) (comments : Comments) (name : String) : List Remarked :=
  ⟨comments, .line (opening body.tag)⟩ :: ⟨.empty, .indent⟩ ::
    body.fields.map Declaration.remarked ++ [⟨.empty, .dedent⟩, ⟨.empty, .line (closing name)⟩]

/-- A name for a struct is written by its instructions with their comments. -/
theorem instructions_remarked (body : StructBody) (comments : Comments) (name : String) :
    instructions (body.remarked comments name) =
      instructions (Typedef.mk comments (.struct body) name) := by
  have definition : (Typedef.mk comments (.struct body) name).definition =
      .line (opening body.tag) :: .indent ::
        (instructions body.fields ++ [.dedent, .line (closing name)]) := by
    simp [Typedef.definition, Instruction.nested, opening, closing]
  have whole : instructions (Typedef.mk comments (.struct body) name) =
      instructions comments ++ (Typedef.mk comments (.struct body) name).definition := rfl
  rw [whole, definition, remarked, List.cons_append, List.cons_append, instructions_cons,
    instructions_cons, instructions_append, Declaration.instructions_map_remarked]
  exact List.append_assoc (instructions comments) [_] _

/-- The lines of a name for a struct are those of its members between the opening and the closing
one. -/
theorem lineTexts_remarked (body : StructBody) (comments : Comments) (name : String) :
    Instruction.lineTexts ((body.remarked comments name).map Remarked.step) =
      opening body.tag :: body.fields.map (fun field => field.text ++ ";") ++ [closing name] := by
  have members : Instruction.lineTexts ((body.fields.map Declaration.remarked).map Remarked.step) =
      body.fields.map fun field => field.text ++ ";" := by
    rw [List.map_map, Instruction.lineTexts, List.filterMap_map]
    exact congrFun List.filterMap_eq_map' body.fields
  rw [Instruction.lineTexts] at members ⊢
  simp only [remarked, List.map_append, List.map_cons, List.map_nil, List.filterMap_append,
    List.filterMap_cons, List.filterMap_nil, Instruction.lineText?, members, List.cons_append]

/-- A struct puts a name last. -/
theorem declare_eq (body : StructBody) {name : String} (declarable : IsDeclarable name) :
    (CType.struct body).declare name = body.spelling ++ " " ++ name := by
  have spaced := CType.attach_of_isDeclarable declarable body.spelling ""
  rwa [String.append_empty] at spaced

/-- The lines of a name for a struct with members, joined, declare the name with the struct. -/
theorem joined_eq_declare {body : StructBody} (membered : body.fields ≠ []) {name : String}
    (declarable : IsDeclarable name) :
    " ".intercalate (opening body.tag :: body.fields.map (fun field => field.text ++ ";") ++
        [closing name]) =
      "typedef " ++ (CType.struct body).declare name ++ ";" := by
  have members : body.fields.map (fun field => field.text ++ ";") ≠ [] :=
    mt List.map_eq_nil_iff.1 membered
  have spelled : body.spelling = keyword body.tag ++ " \x7b " ++
      " ".intercalate (body.fields.map fun field => field.text ++ ";") ++ " \x7d" := by
    obtain ⟨tag, fields⟩ := body
    obtain ⟨field, others, rfl⟩ := List.exists_cons_of_ne_nil membered
    simp [spelling, Declaration.texts_eq_map, line, Function.comp_def]
  rw [List.cons_append, String.intercalate_cons_of_ne_nil (by simp),
    String.intercalate_append_of_ne_nil members (by simp), String.intercalate_singleton,
    declare_eq body declarable, spelled]
  apply String.toList_inj.1
  simp [opening, closing]

/-- The lines of a name for a struct without members, joined, have a space between the braces, which
the declaration of the name with the struct has not. -/
theorem joined_of_fields_eq_nil {body : StructBody} (memberless : body.fields = []) {name : String}
    (declarable : IsDeclarable name) :
    ∃ front back, " ".intercalate (opening body.tag ::
        body.fields.map (fun field => field.text ++ ";") ++ [closing name]) =
          front ++ "\x7b \x7d" ++ back ∧
      "typedef " ++ (CType.struct body).declare name ++ ";" = front ++ "\x7b\x7d" ++ back := by
  obtain ⟨tag, fields⟩ := body
  obtain rfl : fields = [] := memberless
  refine ⟨"typedef " ++ keyword tag ++ " ", " " ++ name ++ ";", ?_, ?_⟩
  · apply String.toList_inj.1
    simp [opening, closing]
  · rw [declare_eq _ declarable]
    apply String.toList_inj.1
    simp [spelling, Declaration.texts, line]

end StructBody

/-- A name for a struct is written as comments and other instructions. The comments are those of the
name, and right before the line of each member those of the member. The lines of the others, joined,
declare the name with the struct, but for a space between braces with no member in them. -/
theorem Typedef.joined_struct (comments : Comments) (body : StructBody) {name : String}
    (declarable : IsDeclarable name) :
    ∃ written : List Remarked,
      instructions (Typedef.mk comments (.struct body) name) = instructions written ∧
      written.map Remarked.comments =
        comments :: .empty :: body.fields.map Declaration.comments ++ [.empty, .empty] ∧
      ((written.drop 2).take body.fields.length).map Remarked.step =
        (body.fields.map fun field => Instruction.line (field.text ++ ";")) ∧
      (body.fields ≠ [] →
        " ".intercalate (Instruction.lineTexts (written.map Remarked.step)) =
          "typedef " ++ (CType.struct body).declare name ++ ";") ∧
      (body.fields = [] → ∃ front back,
        " ".intercalate (Instruction.lineTexts (written.map Remarked.step)) =
          front ++ "\x7b \x7d" ++ back ∧
        "typedef " ++ (CType.struct body).declare name ++ ";" = front ++ "\x7b\x7d" ++ back) := by
  refine ⟨body.remarked comments name, (body.instructions_remarked comments name).symm, ?_, ?_,
    fun membered => ?_, fun memberless => ?_⟩
  · simp [StructBody.remarked, Declaration.remarked, Function.comp_def]
  · simp [StructBody.remarked, Declaration.remarked, Function.comp_def]
  · rw [StructBody.lineTexts_remarked]
    exact StructBody.joined_eq_declare membered declarable
  · rw [StructBody.lineTexts_remarked]
    exact StructBody.joined_of_fields_eq_nil memberless declarable

/-- A struct with a commented member and a struct inside is written over lines and on one line. -/
theorem Typedef.joined_struct_shape :
    let corner : StructBody := { fields := [{ type := .int, name := "x" }] }
    let first : Declaration :=
      { comments := ⟨["Where", "it starts."]⟩, type := .struct corner, name := "start" }
    let second : Declaration := { type := .array .char (some 8), name := "label" }
    let body : StructBody := { tag := some "shape", fields := [first, second] }
    IsDeclarable "Shape" ∧ body.fields ≠ [] ∧
      instructions (Typedef.mk ⟨["A shape."]⟩ (.struct body) "Shape") =
        [.line "// A shape.", .line "typedef struct shape \x7b", .indent, .line "/*",
          .line " * Where", .line " * it starts.", .line " */",
          .line "struct \x7b int x; \x7d start;", .line "char label[8];", .dedent,
          .line "\x7d Shape;"] ∧
      ∃ written : List Remarked,
        instructions (Typedef.mk ⟨["A shape."]⟩ (.struct body) "Shape") = instructions written ∧
        written.map Remarked.comments =
          [⟨["A shape."]⟩, .empty, ⟨["Where", "it starts."]⟩, .empty, .empty, .empty] ∧
        " ".intercalate (Instruction.lineTexts (written.map Remarked.step)) =
          "typedef struct shape \x7b " ++
            "struct \x7b int x; \x7d start; char label[8]; \x7d Shape;" := by
  intro corner first second body
  have declarable : IsDeclarable "Shape" := by decide
  have membered : body.fields ≠ [] := List.cons_ne_nil _ _
  obtain ⟨written, whole, remarks, _, joined, _⟩ :=
    Typedef.joined_struct ⟨["A shape."]⟩ body declarable
  refine ⟨declarable, membered, by decide, written, whole, remarks, ?_⟩
  rw [joined membered]
  decide

end CSource
