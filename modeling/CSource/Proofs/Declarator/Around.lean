import CSource.Proofs.Declarator.Lexing
import CSource.Proofs.Declarator.Meaning
import CSource.Proofs.Declarator.Placement
import CSource.Proofs.Declarator.Sound

/-!
# Types around declarators

The text of a type around a declarator is read as a declaration that says what the type is,
provided that its stars and words stand where they may and that its linkages end where they
should. Where one of the two fails, the text is no declaration.
-/

namespace CSource.CType

variable {leads : List String} {type : CType} {inner : String} {tokens : List Token}

/-- A type around a direct declarator is read as what the type is, about what is declared. -/
theorem ofText_around (void : "void" ∉ leads) (worded : type.IsWorded leads)
    (placed : type.IsPlaced) (contained : type.IsContained)
    (found : Token.ofText inner = some tokens) {name : Option String} {steps : List Derivation}
    (direct : Grammar.Direct leads tokens name steps) :
    Reading.ofText leads (type.declarator inner) = some (type.reading.about name steps) := by
  have declared := declaration_around void worded placed [] (List.forall_mem_nil _) (.direct direct)
    fun _ => direct
  rw [Reading.trail_nil, Token.ofWords, List.map_nil, List.append_nil] at declared
  rw [Reading.ofText, ofText_declarator worded contained found, Option.bind_some,
    Reading.ofTokens_iff]
  exact declared

/-- A type with a misplaced star or word is no declaration, whatever declarator it stands around. -/
theorem ofText_of_not_isPlaced (worded : type.IsWorded leads) (misplaced : ¬ type.IsPlaced)
    (contained : type.IsContained) (found : Token.ofText inner = some tokens) :
    Reading.ofText leads (type.declarator inner) = none := by
  rw [Reading.ofText, ofText_declarator worded contained found, Option.bind_some,
    Reading.ofTokens, Reader.start, run_of_not_isPlaced worded misplaced, Option.bind_none]

/-- A type with a linkage that is not contained is no declaration, whatever declarator it stands
around. -/
theorem ofText_of_not_isContained (worded : type.IsWorded leads) (loose : ¬ type.IsContained)
    {opens : Prop} (toggles : Token.Toggles inner opens) :
    Reading.ofText leads (type.declarator inner) = none := by
  rw [Reading.ofText, (toggles_declarator worded toggles).ofText (.inr loose), Option.bind_none]

end CSource.CType
