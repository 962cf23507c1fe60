import CSource.Proofs.Declarator.Reader

/-!
# The reader follows the grammar

Every sentence of the grammar is read as the grammar says.
-/

namespace CSource

open Grammar

variable {leads : List String}

namespace Reader

/-- Words that may stand before the name of a base type are kept in order. -/
theorem run_lead {tokens : List Token} (lead : Lead leads tokens) (before : List Token)
    (callers : List Caller) :
    run leads ⟨.lead before, callers⟩ tokens = some ⟨.lead (before ++ tokens), callers⟩ := by
  induction lead generalizing before with
  | nothing => simp
  | word listed tail ih => simp [step, listed, ih]
  | linkage listed tail ih => simp [step, listed, ih]

/-- Words after a star belong to it. -/
theorem run_words_star (leads : List String) {words : List Qualifier}
    (trailers : ∀ word ∈ words, word ∈ Qualifier.trailers) (head : Head)
    (star : List Qualifier) (stars : List (List Qualifier)) (callers : List Caller) :
    run leads ⟨.head { head with stars := star :: stars }, callers⟩ (Token.ofWords words)
      = some ⟨.head { head with stars := (star ++ words) :: stars }, callers⟩ := by
  induction words generalizing star with
  | nil => simp [Token.ofWords]
  | cons word words ih =>
    have found := Qualifier.trailer?_word (trailers word (by simp))
    have rest := ih (fun other mem => trailers other (List.mem_cons_of_mem _ mem)) (star ++ [word])
    rw [Token.ofWords] at rest ⊢
    simp [step, found, Head.trail, rest]

/-- Words after the name of a base type belong to it. -/
theorem run_words_base (leads : List String) {words : List Qualifier}
    (trailers : ∀ word ∈ words, word ∈ Qualifier.trailers) (lead : List Token) (base : String)
    (before : List Qualifier) (callers : List Caller) :
    run leads ⟨.head { lead, base, words := before }, callers⟩ (Token.ofWords words)
      = some ⟨.head { lead, base, words := before ++ words }, callers⟩ := by
  induction words generalizing before with
  | nil => simp [Token.ofWords]
  | cons word words ih =>
    have found := Qualifier.trailer?_word (trailers word (by simp))
    have rest := ih (fun other mem => trailers other (List.mem_cons_of_mem _ mem))
      (before ++ [word])
    rw [Token.ofWords] at rest ⊢
    simp [step, found, Head.trail, rest]

/-- The size of an array is one more step. -/
theorem run_size (size : Option Nat) (head : Head) (core : Core) (callers : List Caller) :
    run leads ⟨.core head core, callers⟩ (Token.ofSize size)
      = some ⟨.core head (core.step (.array size)), callers⟩ := by
  cases size <;> simp [Token.ofSize, step]

/-- Where nothing stands for the name, the size of an array is the first step. -/
theorem run_size_abstract (size : Option Nat) (head : Head) (callers : List Caller) :
    run leads ⟨.head head, callers⟩ (Token.ofSize size)
      = some ⟨.core head (Core.step {} (.array size)), callers⟩ := by
  cases size <;> simp [Token.ofSize, step]

end Reader

/-- Whether a stage is the end of a declaration that says the given thing. -/
inductive Stage.Ends : Stage → Reading → Prop where
  /-- The declarator ends after its name, a suffix or a group. -/
  | core {head : Head} {core : Core} (closed : head.groups = []) :
      Ends (.core head core) (head.reading core)
  /-- The declarator has no name and no suffix. -/
  | head {head : Head} (closed : head.groups = []) : Ends (.head head) (head.reading {})

namespace Stage.Ends

/-- At the end of a declaration that stands alone the reader knows what it says. -/
theorem finish {stage : Stage} {reading : Reading} (ends : stage.Ends reading) :
    Reader.finish ⟨stage, []⟩ = some reading := by
  cases ends with
  | core closed => simp [Reader.finish, closed]
  | head closed => simp [Reader.finish, closed]

/-- A comma after a parameter starts the next one. -/
theorem comma {stage : Stage} {reading : Reading} (ends : stage.Ends reading) (caller : Caller)
    (callers : List Caller) :
    Reader.step leads ⟨stage, caller :: callers⟩ .comma = some ⟨.lead [],
      { caller with parameters := caller.parameters ++ [reading] } :: callers⟩ := by
  cases ends with
  | core closed => simp [Reader.step, Reader.nextParameter, closed]
  | head closed => simp [Reader.step, Reader.nextParameter, closed]

/-- A closing parenthesis after the last parameter makes a function of what stands before. -/
theorem parenClose {stage : Stage} {reading : Reading} (ends : stage.Ends reading)
    (caller : Caller) (callers : List Caller) :
    Reader.step leads ⟨stage, caller :: callers⟩ .parenClose = some ⟨.core caller.head
      (caller.core.step (.function (caller.parameters ++ [reading]))), callers⟩ := by
  cases ends with
  | core closed => simp [Reader.step, Reader.close, closed]
  | head closed => simp [Reader.step, Reader.close, closed]

end Stage.Ends

/-- What a declarator does to a reader: it adds its stars, and from its name on its steps, unless
it has nothing but stars. -/
def Declares (leads : List String) (tokens : List Token) (name : Option String)
    (steps : List Derivation) : Prop :=
  ∃ (stars : List (List Qualifier)) (said : List Derivation),
    steps = said ++ stars.map .pointer ∧ ∀ (head : Head) (callers : List Caller),
      Reader.run leads ⟨.head head, callers⟩ tokens = some
          ⟨.core { head with stars := stars ++ head.stars } ⟨name, said⟩, callers⟩ ∨
        name = none ∧ said = [] ∧ (tokens ≠ [] → stars ≠ []) ∧
        Reader.run leads ⟨.head head, callers⟩ tokens = some
          ⟨.head { head with stars := stars ++ head.stars }, callers⟩

mutual

/-- A declarator is read star by star. -/
theorem Grammar.Declarator.declares {tokens : List Token} {name : Option String}
    {steps : List Derivation} : Declarator leads tokens name steps →
    Declares leads tokens name steps
  | .direct inner => by
    rcases inner.declares with ⟨rfl, rfl, rfl⟩ | ⟨nonempty, reads⟩
    · exact ⟨[], [], rfl, fun head callers => .inr ⟨rfl, rfl, absurd rfl, by simp⟩⟩
    · exact ⟨[], steps, by simp, fun head callers => .inl (by simpa using reads head callers)⟩
  | .pointer words trailers inner => by
    obtain ⟨stars, said, rfl, reads⟩ := inner.declares
    refine ⟨stars ++ [words], said, by simp, fun head callers => ?_⟩
    have first := Reader.run_words_star leads trailers head [] head.stars callers
    rcases reads { head with stars := words :: head.stars } callers with
      core | ⟨free, none, _, rest⟩
    · left
      simp only [List.cons_append, Reader.run_cons, Reader.step, Head.star, Option.bind_some,
        Reader.run_append, first, List.nil_append, core]
      simp
    · right
      refine ⟨free, none, by simp, ?_⟩
      simp only [List.cons_append, Reader.run_cons, Reader.step, Head.star, Option.bind_some,
        Reader.run_append, first, List.nil_append, rest]
      simp

/-- A direct declarator is nothing, or is read step by step from its name on. -/
theorem Grammar.Direct.declares {tokens : List Token} {name : Option String}
    {steps : List Derivation} : Direct leads tokens name steps →
    tokens = [] ∧ name = none ∧ steps = [] ∨
      tokens ≠ [] ∧ ∀ (head : Head) (callers : List Caller),
        Reader.run leads ⟨.head head, callers⟩ tokens
          = some ⟨.core head ⟨name, steps⟩, callers⟩
  | .abstract => .inl ⟨rfl, rfl, rfl⟩
  | .name free => .inr ⟨by simp, fun head callers => by simp [Reader.step, free]⟩
  | .group inner nonempty => by
    obtain ⟨stars, said, rfl, reads⟩ := inner.declares
    refine .inr ⟨by simp, fun head callers => ?_⟩
    rcases reads head.group callers with core | ⟨rfl, rfl, starred, rest⟩
    · simp only [List.cons_append, Reader.run_cons, Reader.step, Option.bind_some,
        Reader.run_append, core]
      simp [Reader.close, Head.group]
    · have shape := starred nonempty
      simp only [List.cons_append, Reader.run_cons, Reader.step, Option.bind_some,
        Reader.run_append, rest]
      simp [Reader.close, Head.group, shape]
  | .array inner size => by
    refine .inr ⟨by cases size <;> simp [Token.ofSize], fun head callers => ?_⟩
    rcases inner.declares with ⟨rfl, rfl, rfl⟩ | ⟨nonempty, reads⟩
    · simpa [Core.step] using Reader.run_size_abstract size head callers
    · simp [Reader.run_append, reads, Reader.run_size, Core.step]
  | @Direct.function _ _ _ name before _ inner nonempty parameterList => by
    refine .inr ⟨by simp, fun head callers => ?_⟩
    rcases inner.declares with ⟨rfl, _, _⟩ | ⟨_, reads⟩
    · exact absurd rfl nonempty
    · have rest := parameterList.run ⟨head, ⟨name, before⟩, []⟩ callers
      simp only [List.append_assoc, List.cons_append, Reader.run_append, reads, Option.bind_some,
        Reader.run_cons, Reader.step] at rest ⊢
      simpa [Core.step] using rest

/-- Parameters are read in order up to the closing parenthesis. -/
theorem Grammar.Parameters.run {list : List Token} {parameters : List Reading} :
    Parameters leads list parameters → ∀ (caller : Caller) (callers : List Caller),
      Reader.run leads ⟨.lead [], caller :: callers⟩ (list ++ [.parenClose]) =
        some ⟨.core caller.head
          (caller.core.step (.function (caller.parameters ++ parameters))), callers⟩
  | .last declared, caller, callers => by
    obtain ⟨stage, ends, reads⟩ := declared.run (caller :: callers)
    simp [Reader.run_append, reads, ends.parenClose]
  | @Parameters.more _ _ _ parameter _ declared others, caller, callers => by
    obtain ⟨stage, ends, reads⟩ := declared.run (caller :: callers)
    have rest := others.run
      { caller with parameters := caller.parameters ++ [parameter] } callers
    rw [List.append_assoc, List.cons_append, Reader.run_append, reads, Option.bind_some,
      Reader.run_cons, ends.comma, Option.bind_some, rest]
    simp

/-- A declaration is read to its end. -/
theorem Grammar.Declaration.run {tokens : List Token} {reading : Reading} :
    Grammar.Declaration leads tokens reading → ∀ callers : List Caller, ∃ stage : Stage,
      stage.Ends reading ∧ Reader.run leads ⟨.lead [], callers⟩ tokens = some ⟨stage, callers⟩
  | @Declaration.mk _ lead _ base words _ _ led unled free trailers inner, callers => by
    obtain ⟨stars, said, rfl, reads⟩ := inner.declares
    have front := Reader.run_lead led [] callers
    have middle := Reader.run_words_base leads trailers lead base [] callers
    simp only [List.nil_append] at front middle
    simp only [List.append_assoc, List.cons_append, Reader.run_append, front, Option.bind_some,
      Reader.run_cons, Reader.step, unled, if_false, free, Option.isSome_none, Bool.false_eq_true,
      middle]
    rcases reads { lead, base, words } callers with core | ⟨rfl, rfl, _, rest⟩
    · exact ⟨_, .core rfl, by simpa using core⟩
    · exact ⟨_, .head rfl, by simpa using rest⟩

end

/-- A sentence of the grammar is read as the grammar says. -/
theorem Reading.ofTokens_of_declaration {tokens : List Token} {reading : Reading}
    (declared : Grammar.Declaration leads tokens reading) :
    Reading.ofTokens leads tokens = some reading := by
  obtain ⟨stage, ends, reads⟩ := declared.run []
  simp [Reading.ofTokens, Reader.start, reads, ends.finish]

end CSource
