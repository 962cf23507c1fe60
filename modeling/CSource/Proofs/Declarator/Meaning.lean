import CSource.Proofs.Declarator.Phrase

/-!
# What types mean

A type is a base type and the steps to it. A word after an array is a word of the elements, and
a function without parameters has the parameter `void`; nothing else about a type is lost.
-/

namespace CSource

open Grammar

/-- The steps to a base type with words for what is reached after the arrays in front, and the
words that are left for the base type. -/
def Derivation.trail (words : List Qualifier) :
    List Derivation → List Derivation × List Qualifier
  | [] => ([], words)
  | .array size :: steps =>
    let (later, left) := trail words steps
    (.array size :: later, left)
  | .pointer others :: steps => (.pointer (others ++ words) :: steps, [])
  | .function parameters :: steps => (.function parameters :: steps, [])

namespace Reading

/-- A reading with words for what is reached after the arrays in front. -/
def trail (reading : Reading) (words : List Qualifier) : Reading :=
  let (derivations, left) := Derivation.trail words reading.derivations
  { reading with derivations, words := reading.words ++ left }

/-- A reading with one more step in front. -/
def derive (reading : Reading) (step : Derivation) : Reading :=
  { reading with derivations := step :: reading.derivations }

/-- A reading with tokens before the others. -/
def precede (reading : Reading) (tokens : List Token) : Reading :=
  { reading with lead := tokens ++ reading.lead }

/-- A reading about a name that the given steps lead away from. -/
def about (reading : Reading) (name : Option String) (steps : List Derivation) : Reading :=
  { reading with name, derivations := steps ++ reading.derivations }

/-- A declaration of a base type and nothing else. -/
def ofBase (base : String) : Reading := ⟨[], base, [], none, []⟩

/-- The parameters of a function, which are the parameter `void` where there is none. -/
def orVoid : List Reading → List Reading
  | [] => [.ofBase "void"]
  | parameters => parameters

end Reading

mutual

/-- What a type says on its own. -/
def CType.reading : CType → Reading
  | .named name => .ofBase name
  | .pointer target => target.reading.derive (.pointer [])
  | .array element size => element.reading.derive (.array size)
  | .leading word inner => inner.reading.precede [.word word.word]
  | .trailing inner word => inner.reading.trail [word]
  | .external (some _) inner => inner.reading.precede [.word "extern", .literal]
  | .external none inner => inner.reading.precede [.word "extern"]
  | .functionPointer result parameters =>
    (result.reading.derive (.function (Reading.orVoid (CType.readings parameters)))).derive
      (.pointer [])
  | .struct _ => .ofBase "struct"

/-- What types say in order. -/
def CType.readings : List CType → List Reading
  | [] => []
  | type :: types => type.reading :: CType.readings types

end

/-- Types are read one by one. -/
theorem CType.readings_eq_map (types : List CType) :
    CType.readings types = types.map CType.reading := by
  induction types with
  | nil => rfl
  | cons type types ih => rw [CType.readings, ih, List.map_cons]

namespace Reading

/-- No words change nothing. -/
theorem trail_nil (reading : Reading) : reading.trail [] = reading := by
  have unchanged : ∀ steps, Derivation.trail [] steps = (steps, []) := by
    intro steps
    induction steps with
    | nil => rfl
    | cons step steps ih => cases step <;> simp [Derivation.trail, ih]
  cases reading
  simp [trail, unchanged]

/-- Words in two lists in a row come one list after the other. -/
theorem trail_append (reading : Reading) (left right : List Qualifier) :
    reading.trail (left ++ right) = (reading.trail left).trail right := by
  have both : ∀ steps, Derivation.trail (left ++ right) steps =
      ((Derivation.trail right (Derivation.trail left steps).1).1,
        (Derivation.trail left steps).2 ++
          (Derivation.trail right (Derivation.trail left steps).1).2) := by
    intro steps
    induction steps with
    | nil => rfl
    | cons step steps ih => cases step <;> simp [Derivation.trail, ih]
  simp [trail, both]

/-- Words after a reading whose first step is an array are words after the elements. -/
theorem trail_derive_array (reading : Reading) (size : Option Nat) (words : List Qualifier) :
    (reading.derive (.array size)).trail words = (reading.trail words).derive (.array size) := rfl

/-- Tokens before a reading are untouched by the words after it. -/
theorem trail_precede (reading : Reading) (tokens : List Token) (words : List Qualifier) :
    (reading.precede tokens).trail words = (reading.trail words).precede tokens := rfl

/-- Words after a reading whose first step is a pointer are words of that pointer. -/
theorem trail_derive_pointer (reading : Reading) (words : List Qualifier) :
    (reading.derive (.pointer [])).trail words = reading.derive (.pointer words) := by
  simp [trail, derive, Derivation.trail]

/-- Tokens before a reading are untouched by the name it is about. -/
theorem precede_about (reading : Reading) (tokens : List Token) (name : Option String)
    (steps : List Derivation) :
    (reading.about name steps).precede tokens = (reading.precede tokens).about name steps := rfl

/-- The last step on the way to a reading is a step of that reading. -/
theorem about_snoc (reading : Reading) (name : Option String) (steps : List Derivation)
    (step : Derivation) :
    reading.about name (steps ++ [step]) = (reading.derive step).about name steps := by
  simp [about, derive]

/-- A reading without a name is about no name. -/
theorem about_none {reading : Reading} (unnamed : reading.name = none) :
    reading.about none [] = reading := by
  cases reading
  cases unnamed
  rfl

end Reading

namespace CType

/-- A type on its own names nothing. -/
theorem reading_name (type : CType) : type.reading.name = none := by
  induction type using parts_induction with
  | named | struct => rfl
  | pointer _ ih | array _ _ ih | leading _ _ ih | trailing _ _ ih => exact ih
  | external linkage _ ih => cases linkage <;> exact ih
  | functionPointer _ _ ih _ => exact ih

/-- Whether a declarator of a type gets the size of an array next to it. -/
def isArrayed : CType → Bool
  | array .. => true
  | leading _ inner | trailing inner _ | external _ inner => inner.isArrayed
  | named _ | pointer _ | functionPointer .. | struct _ => false

/-- A type that puts a size next to its declarator is suffixed. -/
theorem isArrayed_of_isSuffixed {type : CType} (free : type.isSuffixed = false) :
    type.isArrayed = false := by
  induction type using parts_induction with
  | named | struct | pointer => rfl
  | array | functionPointer => simp [isSuffixed] at free
  | leading _ _ ih | trailing _ _ ih | external _ _ ih => exact ih free

end CType

variable {leads : List String}

/-- A word of the specifier part may stand before a declaration. -/
theorem Grammar.Declaration.precede_word {tokens : List Token} {reading : Reading} {text : String}
    (declared : Grammar.Declaration leads tokens reading) (listed : text ∈ leads) :
    Grammar.Declaration leads (.word text :: tokens) (reading.precede [.word text]) := by
  obtain ⟨led, unled, free, trailers, inner⟩ := declared
  exact .mk (.word listed led) unled free trailers inner

/-- A linkage may stand before a declaration. -/
theorem Grammar.Declaration.precede_linkage {tokens : List Token} {reading : Reading}
    (declared : Grammar.Declaration leads tokens reading) (listed : "extern" ∈ leads) :
    Grammar.Declaration leads (.word "extern" :: .literal :: tokens)
      (reading.precede [.word "extern", .literal]) := by
  obtain ⟨led, unled, free, trailers, inner⟩ := declared
  exact .mk (.linkage listed led) unled free trailers inner

/-- Declarations between commas are the parameters of a function. -/
theorem Grammar.parameters_separated {α : Type} {items : List α} {tokens : α → List Token}
    {reading : α → Reading} (void : "void" ∉ leads)
    (declared : ∀ item ∈ items, Grammar.Declaration leads (tokens item) (reading item)) :
    Parameters leads (Token.separated (items.map tokens)) (Reading.orVoid (items.map reading)) := by
  induction items with
  | nil =>
    have base : Grammar.Declaration leads [.word "void"] (.ofBase "void") :=
      .mk .nothing void (by decide) (List.forall_mem_nil _) (.direct .abstract)
    exact .last base
  | cons item items ih =>
    cases items with
    | nil => exact .last (declared item (by simp))
    | cons other items =>
      exact .more (declared item (by simp))
        (ih fun next mem => declared next (List.mem_cons_of_mem _ mem))

namespace CType

/-- The tokens of a type around a declarator are a declaration that says what the type is. Words
in front of the declarator are words of the type. A declarator with a star in front would bind
the size of an array to something else, so it may stand there only in parentheses. -/
theorem declaration_around {type : CType} (void : "void" ∉ leads) (worded : type.IsWorded leads)
    (placed : type.IsPlaced) (words : List Qualifier)
    (trailers : ∀ word ∈ words, word ∈ Qualifier.trailers) {tokens : List Token}
    {name : Option String} {steps : List Derivation}
    (inner : Declarator leads tokens name steps)
    (direct : type.isArrayed = true → Direct leads tokens name steps) :
    Grammar.Declaration leads (type.front ++ Token.ofWords words ++ tokens ++ type.back)
      ((type.reading.trail words).about name steps) := by
  -- The declarator and the words in front of it grow on the way to the base type. A size needs a
  -- direct declarator, which a star in front takes away; a target next to a star has no size.
  induction type using parts_induction generalizing words tokens name steps with
  | named base =>
    obtain ⟨⟨_, free⟩, unled⟩ := worded
    simpa [front, back, CType.reading, Reading.ofBase, Reading.trail, Derivation.trail,
      Reading.about] using Grammar.Declaration.mk .nothing unled free trailers inner
  | pointer target ih =>
    have starred := Declarator.pointer words trailers inner
    rw [CType.reading, Reading.trail_derive_pointer, ← Reading.about_snoc]
    cases place : target.starPlace with
    | parenthesized =>
      have grouped := Direct.group starred (by simp)
      have around := ih worded.2 placed.2 [] (by simp) (.direct grouped)
        fun _ => grouped
      rw [Reading.trail_nil] at around
      simpa [front, back, place, Token.ofWords] using around
    | name =>
      have unarrayed : target.isArrayed = false := by
        cases target <;> simp_all [starPlace, isArrayed]
      have around := ih worded.2 placed.2 [] (by simp) starred
        (by simp [unarrayed])
      rw [Reading.trail_nil] at around
      simpa [front, back, place, Token.ofWords] using around
    | target =>
      have free := placed.1 place
      have around := ih worded.2 placed.2 [] (by simp) starred
        (by simp [isArrayed_of_isSuffixed free])
      rw [Reading.trail_nil] at around
      simpa [front, back, place, back_of_isSuffixed free, Token.ofWords] using around
  | array element size ih =>
    have sized := (direct rfl).array size
    have around := ih worded.2 placed.2 words trailers (.direct sized) fun _ => sized
    rw [CType.reading, Reading.trail_derive_array]
    simpa [front, back, Reading.about, Reading.derive] using around
  | leading word rest ih =>
    have around := (ih worded.2 placed.2 words trailers inner direct).precede_word worded.1
    rw [CType.reading, Reading.trail_precede, ← Reading.precede_about]
    simpa [front, back] using around
  | trailing rest word ih =>
    have all : ∀ other ∈ word :: words, other ∈ Qualifier.trailers := by
      intro other mem
      rcases List.mem_cons.1 mem with rfl | mem
      · exact worded.1
      · exact trailers other mem
    have around := ih worded.2 placed.2 (word :: words) all inner direct
    rw [CType.reading, ← Reading.trail_append]
    cases binds : rest.bindsTighter with
    | true => simpa [front, back, binds, Token.ofWords] using around
    | false =>
      have ends := back_of_isSuffixed (placed.1 binds)
      simpa [front, back, binds, ends, Token.ofWords] using around
  | external linkage rest ih =>
    have around := ih worded.2 placed.2 words trailers inner direct
    cases linkage with
    | none =>
      rw [CType.reading, Reading.trail_precede, ← Reading.precede_about]
      simpa [front, back] using around.precede_word worded.1
    | some linkage =>
      rw [CType.reading, Reading.trail_precede, ← Reading.precede_about]
      simpa [front, back] using around.precede_linkage worded.1
  | functionPointer result parameters ih ihs =>
    have types : Parameters leads (Token.separated (alone parameters))
        (Reading.orVoid (CType.readings parameters)) := by
      rw [alone_eq_map, CType.readings_eq_map]
      apply parameters_separated void
      intro parameter mem
      have abstract := ihs parameter mem (everyIn_iff.1 worded.2.2 parameter mem)
        (everyIn_iff.1 placed.2.2 parameter mem) [] (by simp)
        (.direct .abstract) fun _ => .abstract
      simpa [Token.ofWords, Reading.trail_nil, Reading.about_none (reading_name parameter)]
        using abstract
    have grouped := Direct.group (.pointer words trailers inner) (by simp)
    have called := grouped.function (by simp) types
    have around := ih worded.2.1 placed.2.1 [] (by simp) (.direct called)
      fun _ => called
    rw [Reading.trail_nil, Reading.about_snoc, Reading.about_snoc] at around
    rw [CType.reading, Reading.trail_derive_pointer]
    simpa [front, back, Token.ofWords] using around
  | struct body => exact absurd worded (by simp [IsWorded, Every, IsWordedPart])

end CType

end CSource
