import CSource.Proofs.CType.Slot
import CSource.Proofs.Declaration.Prototype

/-!
# Pointers to functions

A parameter that points to a function is written as the prototype of the function is, with a star
and the new name in parentheses for the name of the function, and with the parameters without their
names (`Prototype.text_pointerParameter`). This asks for a result type that puts a name last. Such
a type has nothing after the place of its name, so that a list of parameters is put last too
(`CType.declare_of_putsLast`).
-/

namespace CSource

namespace CType

/-- Whether a type puts every identifier last, after its own spelling and a space. -/
def PutsLast (type : CType) : Prop :=
  ∀ name, isIdentifier name = true → type.declare name = type.spelling ++ " " ++ name

/-- A type that puts identifiers last puts everything last that can be told from an empty declarator
and from the size of an array. -/
theorem declare_of_putsLast {type : CType} (last : type.PutsLast) {name : String}
    (declarable : IsDeclarable name) : type.declare name = type.spelling ++ " " ++ name := by
  obtain ⟨slot, holds⟩ := type.exists_slot
  have spelled : type.spelling = slot.before ++ slot.after := holds.unnamed
  -- What stands after the name begins with a space and the name, so it would depend on the name.
  have around {char : Char} (identifier : isIdentifier (String.singleton char) = true)
      (single : IsDeclarable (String.singleton char)) :
      slot.gap.toList ++ char :: slot.after.toList = slot.after.toList ++ [' ', char] := by
    have both := holds.named _ single
    rw [last _ identifier, spelled, Slot.fill] at both
    simpa [String.append_assoc] using (congrArg String.toList both).symm
  have first := @around 'a' (by decide) (by decide)
  have second := @around 'b' (by decide) (by decide)
  have gap : slot.gap = " " := by
    have lengths := congrArg List.length first
    cases spaced : slot.spaced with
    | true => rw [Slot.gap, if_pos spaced]
    | false => simp [Slot.gap, spaced] at lengths
  have ends : slot.after = "" := by
    rw [gap] at first second
    rcases shape : slot.after.toList with _ | ⟨char, _ | ⟨next, rest⟩⟩
    · exact String.toList_eq_nil_iff.1 shape
    · simp [shape] at first
    · rw [shape] at first second
      obtain ⟨_, rfl, _⟩ : ' ' = char ∧ 'a' = next ∧ _ := by simpa using first
      simp at second
  rw [holds.named name declarable, spelled, Slot.fill, gap, ends]
  simp

end CType

namespace Parameter

/-- What stands for a parameter in the list of a pointer: the spelling of its type. -/
def unnamed : Parameter → String
  | named type _ => type.spelling
  | variadic => "..."

/-- Whether a text is left of a parameter when its name is taken out, and with the name the space
that separates it where there is one. Only the mark of further parameters has no name. -/
def IsLeft (text : String) : Parameter → Prop
  | named type name => ∃ before gap after, (gap = "" ∨ gap = " ") ∧
      (named type name).text = before ++ gap ++ name ++ after ∧ text = before ++ after
  | variadic => variadic.text = "..." ∧ text = "..."

/-- A parameter without its name is the spelling of its type. -/
theorem isLeft_unnamed {parameter : Parameter}
    (declarable : ∀ type name, parameter = named type name → IsDeclarable name) :
    parameter.IsLeft parameter.unnamed := by
  cases parameter with
  | named type name =>
    obtain ⟨slot, holds⟩ := type.exists_slot
    refine ⟨slot.before, slot.gap, slot.after, ?_, ?_, holds.unnamed⟩
    · cases spaced : slot.spaced <;> simp [Slot.gap, spaced]
    · exact holds.named name (declarable type name rfl)
  | variadic => exact ⟨rfl, rfl⟩

/-- The spellings of what stands for parameters in the type of a function are the parameters without
their names. -/
theorem spellings_map_type (parameters : List Parameter) :
    CType.spellings (parameters.map type) = parameters.map unnamed := by
  rw [CType.spellings_eq_map, List.map_map]
  refine List.map_congr_left fun parameter _ => ?_
  cases parameter <;> rfl

end Parameter

namespace Prototype

/-- The text of a function with a result, a name and parameters. Without parameters their list is
spelled out as empty. -/
def written (result name : String) (parameters : List String) : String :=
  result ++ " " ++ name ++ "(" ++
    (if parameters = [] then "void" else ", ".intercalate parameters) ++ ")"

/-- What is written after the result is a name and a list of parameters. -/
theorem written_eq (result name : String) (parameters : List String) :
    written result name parameters =
      result ++ " " ++ (name ++ "(" ++ CType.parameterList parameters ++ ")") := by
  cases parameters <;> simp [written, CType.parameterList, String.append_assoc]

/-- The declaration of a pointer to a function is written as its prototype is, with a star and the
new name in parentheses for the name of the function, and without the names of the parameters. -/
theorem text_pointerParameter (prototype : Prototype) (last : prototype.result.PutsLast)
    (declarable : ∀ type name, Parameter.named type name ∈ prototype.parameters →
      IsDeclarable name) (name : String) :
    prototype.text = written prototype.result.spelling prototype.name
        (prototype.parameters.map Parameter.text) ∧
      (prototype.pointerParameter name).text = written prototype.result.spelling
        ("(*" ++ name ++ ")") (prototype.parameters.map Parameter.unnamed) ∧
      ∀ parameter ∈ prototype.parameters, parameter.IsLeft parameter.unnamed := by
  refine ⟨?_, ?_, fun parameter mem => ?_⟩
  · rw [written_eq, text]
    simp only [String.append_assoc]
  · have starred : IsDeclarable ("(*" ++ name ++ ")(" ++
        CType.parameterList (prototype.parameters.map Parameter.unnamed) ++ ")") := by
      simp [IsDeclarable]
    have put := CType.declare_of_putsLast last starred
    rw [written_eq, pointerParameter, Parameter.text, CType.declare, pointerType,
      CType.declarator, Parameter.spellings_map_type, ← CType.declare, put]
    simp [String.append_assoc]
  · exact Parameter.isLeft_unnamed fun type name same => declarable type name (same ▸ mem)

/-- A function with all kinds of parameters that returns a pointer is pointed to. -/
theorem text_pointerParameter_format :
    let prototype : Prototype := {
      result := .pointer (.leading .const .char)
      name := "format"
      parameters := [.named (.pointer .char) "buffer", .named (.array .int (some 3)) "widths",
        .functionPointer .int "put" [.char], .variadic] }
    prototype.text = "const char* format(char* buffer, int widths[3], int (*put)(char), ...)" ∧
      prototype.result.PutsLast ∧
      (∀ type name, Parameter.named type name ∈ prototype.parameters → IsDeclarable name) ∧
      (prototype.pointerParameter "formatter").text =
        "const char* (*formatter)(char*, int[3], int (*)(char), ...)" ∧
      ∀ parameter ∈ prototype.parameters, parameter.IsLeft parameter.unnamed := by
  intro prototype
  have last : prototype.result.PutsLast := fun name identifier => by
    have spaced := CType.attach_name identifier "const char*" ""
    rwa [String.append_empty] at spaced
  have declarable : ∀ type name, Parameter.named type name ∈ prototype.parameters →
      IsDeclarable name := by
    intro type name mem
    simp only [prototype, Parameter.functionPointer, List.mem_cons, Parameter.named.injEq,
      reduceCtorEq, List.not_mem_nil, or_false] at mem
    rcases mem with ⟨_, rfl⟩ | ⟨_, rfl⟩ | ⟨_, rfl⟩ <;> decide
  obtain ⟨_, pointed, left⟩ := prototype.text_pointerParameter last declarable "formatter"
  refine ⟨by decide, last, declarable, ?_, left⟩
  rw [pointed]
  decide

end Prototype
end CSource
