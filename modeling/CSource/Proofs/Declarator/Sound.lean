import CSource.Proofs.Declarator.Complete

/-!
# The grammar follows the reader

What is read to its end is a sentence of the grammar that says what was read. A reader that has
not come to its end remembers how the tokens so far start a sentence (`Reader.Reaches`); each
token keeps this true, and at the end it is the sentence (`Reading.ofTokens_iff`).
-/

namespace CSource

open Grammar

variable {leads : List String}

/-- A trailer is found only for its own word. -/
theorem Qualifier.of_trailer? {text : String} {word : Qualifier}
    (found : trailer? text = some word) : word ∈ trailers ∧ word.word = text := by
  have same := List.find?_some found
  exact ⟨List.mem_of_find?_eq_some found, by simpa using same⟩

namespace Grammar

/-- One more word of the specifier part. -/
theorem Lead.snoc {tokens : List Token} {text : String} (lead : Lead leads tokens)
    (listed : text ∈ leads) : Lead leads (tokens ++ [.word text]) := by
  induction lead with
  | nothing => exact .word listed .nothing
  | word first _ ih => exact .word first ih
  | linkage first _ ih => exact .linkage first ih

/-- A literal after the word for a linkage. -/
theorem Lead.snoc_literal {tokens : List Token} (lead : Lead leads tokens)
    (last : tokens.getLast? = some (.word "extern")) : Lead leads (tokens ++ [.literal]) := by
  induction lead with
  | nothing => simp at last
  | @word text rest listed tail ih =>
    cases rest with
    | nil =>
      obtain rfl : text = "extern" := by simpa using last
      exact .linkage listed .nothing
    | cons token rest => exact .word listed (ih (by simpa using last))
  | @linkage rest listed tail ih =>
    cases rest with
    | nil => simp at last
    | cons token rest => exact .linkage listed (ih (by simpa using last))

/-- One more parameter. -/
theorem Parameters.snoc {list tokens : List Token} {parameters : List Reading} {parameter : Reading}
    (before : Parameters leads list parameters) (declared : Declaration leads tokens parameter) :
    Parameters leads (list ++ .comma :: tokens) (parameters ++ [parameter]) :=
  match before with
  | .last first => .more first (.last declared)
  | .more first others => by
    simpa using Parameters.more first (others.snoc declared)

end Grammar

/-- Stars with their words as tokens, the last one first. -/
def Token.ofStars : List (List Qualifier) → List Token
  | [] => []
  | words :: stars => ofStars stars ++ .star :: ofWords words

/-- Whether all words of some stars are trailers. -/
def AreTrailers (stars : List (List Qualifier)) : Prop :=
  ∀ words ∈ stars, ∀ word ∈ words, word ∈ Qualifier.trailers

/-- Stars in front of a declarator bind after all of it. -/
theorem Grammar.Declarator.ofStars {stars : List (List Qualifier)} (trailers : AreTrailers stars)
    {tokens : List Token} {name : Option String} {steps : List Derivation}
    (inner : Declarator leads tokens name steps) :
    Declarator leads (Token.ofStars stars ++ tokens) name (steps ++ stars.map .pointer) := by
  induction stars generalizing tokens steps with
  | nil => simpa [Token.ofStars] using inner
  | cons words stars ih =>
    have starred := Declarator.pointer words (trailers words (by simp)) inner
    have others : AreTrailers stars := fun next mem => trailers next (List.mem_cons_of_mem _ mem)
    simpa [Token.ofStars] using ih others starred

namespace Reader

/-- The tokens of a declaration up to its innermost open group, without the stars in there. -/
inductive Opens (leads : List String) (base : String) (words : List Qualifier) :
    List Token → List Token → List (List (List Qualifier)) → Prop where
  /-- No group is open. -/
  | base {lead : List Token} (led : Lead leads lead) (unled : base ∉ leads)
      (free : Qualifier.trailer? base = none)
      (trailers : ∀ word ∈ words, word ∈ Qualifier.trailers) :
      Opens leads base words (lead ++ .word base :: Token.ofWords words) lead []
  /-- A group is open after the stars in front of it. -/
  | group {tokens lead : List Token} {stars : List (List Qualifier)}
      {groups : List (List (List Qualifier))} (outer : Opens leads base words tokens lead groups)
      (trailers : AreTrailers stars) :
      Opens leads base words (tokens ++ Token.ofStars stars ++ [.parenOpen]) lead (stars :: groups)

/-- Whether some tokens, the last of which are the given direct declarator, are the start of a
declaration that a reader knows about. -/
structure Says (leads : List String) (tokens direct : List Token) (head : Head) (core : Core) :
    Prop where
  /-- The tokens stand after those of the groups that are still open. -/
  opens : ∃ outer, Opens leads head.base head.words outer head.lead head.groups ∧
    tokens = outer ++ Token.ofStars head.stars ++ direct
  /-- The words of the stars are trailers. -/
  trailers : AreTrailers head.stars
  /-- The direct declarator says what was read of it. -/
  inner : Direct leads direct core.name core.steps

/-- Whether some tokens lead to a stage in the innermost declaration. -/
inductive At (leads : List String) : List Token → Stage → Prop where
  /-- All tokens stand before the name of the base type. -/
  | lead {tokens : List Token} (led : Lead leads tokens) : At leads tokens (.lead tokens)
  /-- The tokens end before the direct declarator. -/
  | head {tokens : List Token} {head : Head} (said : Says leads tokens [] head {}) :
      At leads tokens (.head head)
  /-- The tokens end in the direct declarator. -/
  | core {tokens direct : List Token} {head : Head} {core : Core}
      (said : Says leads tokens direct head core) (nonempty : direct ≠ []) :
      At leads tokens (.core head core)
  /-- The tokens end after an opening bracket. -/
  | size {tokens direct : List Token} {head : Head} {core : Core}
      (said : Says leads tokens direct head core) :
      At leads (tokens ++ [.bracketOpen]) (.size head core none)
  /-- The tokens end after the size of an array. -/
  | sized {tokens direct : List Token} {head : Head} {core : Core} (size : Nat)
      (said : Says leads tokens direct head core) :
      At leads (tokens ++ [.bracketOpen, .number size]) (.size head core (some size))

/-- Whether some tokens end after the parameters that have been read. -/
def Listed (leads : List String) (tokens : List Token) (parameters : List Reading) : Prop :=
  tokens = [] ∧ parameters = [] ∨
    ∃ list, tokens = list ++ [.comma] ∧ Parameters leads list parameters

/-- Whether some tokens lead into the parameters of the given declarations. -/
inductive Around (leads : List String) : List Token → List Caller → Prop where
  /-- No parameters are being read. -/
  | nil : Around leads [] []
  /-- The parameters of a function are being read. -/
  | cons {before tokens direct list : List Token} {caller : Caller} {callers : List Caller}
      (around : Around leads before callers)
      (said : Says leads tokens direct caller.head caller.core) (nonempty : direct ≠ [])
      (listed : Listed leads list caller.parameters) :
      Around leads (before ++ (tokens ++ .parenOpen :: list)) (caller :: callers)

/-- Whether some tokens lead to a reader. -/
inductive Reaches (leads : List String) : List Token → Reader → Prop where
  /-- The tokens of the declarations around come first. -/
  | mk {before tokens : List Token} {stage : Stage} {callers : List Caller}
      (around : Around leads before callers) (here : At leads tokens stage) :
      Reaches leads (before ++ tokens) ⟨stage, callers⟩

namespace Says

variable {tokens direct : List Token} {head : Head} {core : Core}

/-- Where no group is open the tokens are a declaration. -/
theorem declaration (said : Says leads tokens direct head core) (closed : head.groups = []) :
    Grammar.Declaration leads tokens (head.reading core) := by
  obtain ⟨⟨outer, opens, rfl⟩, starred, inner⟩ := said
  rw [closed] at opens
  cases opens with
  | base led unled free trailers =>
    have declared := Grammar.Declaration.mk led unled free trailers
      (.ofStars starred (.direct inner))
    simpa [Head.reading] using declared

/-- One more star. -/
theorem star (said : Says leads tokens [] head {}) :
    Says leads (tokens ++ [.star]) [] head.star {} := by
  obtain ⟨⟨outer, opens, rfl⟩, starred, _⟩ := said
  refine ⟨⟨outer, opens, by simp [Head.star, Token.ofStars, Token.ofWords]⟩, ?_, .abstract⟩
  intro words mem
  rcases List.mem_cons.1 mem with rfl | mem
  · exact List.forall_mem_nil _
  · exact starred words mem

/-- One more group. -/
theorem group (said : Says leads tokens [] head {}) :
    Says leads (tokens ++ [.parenOpen]) [] head.group {} := by
  obtain ⟨⟨outer, opens, rfl⟩, starred, _⟩ := said
  exact ⟨⟨_, opens.group starred, by simp [Head.group, Token.ofStars]⟩,
    List.forall_mem_nil _, .abstract⟩

/-- One more word after the last star or after the base type. -/
theorem trail (said : Says leads tokens [] head {}) {word : Qualifier}
    (trailer : word ∈ Qualifier.trailers) {after : Head} (worded : head.trail word = some after) :
    Says leads (tokens ++ [.word word.word]) [] after {} := by
  obtain ⟨⟨outer, opens, rfl⟩, starred, _⟩ := said
  obtain ⟨lead, base, words, stars, groups⟩ := head
  have snoc : ∀ words : List Qualifier, (∀ other ∈ words, other ∈ Qualifier.trailers) →
      ∀ other ∈ words ++ [word], other ∈ Qualifier.trailers := by
    intro words trailers other mem
    rcases List.mem_append.1 mem with mem | mem
    · exact trailers other mem
    · exact List.mem_singleton.1 mem ▸ trailer
  cases stars with
  | cons star stars =>
    obtain rfl := Option.some.inj worded
    refine ⟨⟨outer, opens, by simp [Token.ofStars, Token.ofWords]⟩, ?_, .abstract⟩
    intro other mem
    rcases List.mem_cons.1 mem with rfl | mem
    · exact snoc star (starred star (by simp))
    · exact starred other (List.mem_cons_of_mem _ mem)
  | nil =>
    cases opens with
    | base led unled free trailers =>
      obtain rfl := Option.some.inj worded
      refine ⟨⟨_, .base led unled free (snoc words trailers), ?_⟩, starred, .abstract⟩
      simp [Token.ofStars, Token.ofWords]
    | group => simp [Head.trail] at worded

/-- One more suffix in the direct declarator. -/
theorem suffix (said : Says leads tokens direct head core) (more : List Token) {after : Core}
    (inner : Direct leads (direct ++ more) after.name after.steps) :
    Says leads (tokens ++ more) (direct ++ more) head after := by
  obtain ⟨⟨outer, opens, rfl⟩, starred, _⟩ := said
  exact ⟨⟨outer, opens, by simp⟩, starred, inner⟩

/-- The end of the innermost group. -/
theorem close (said : Says leads tokens direct head core) {stars : List (List Qualifier)}
    {groups : List (List (List Qualifier))} (opened : head.groups = stars :: groups)
    (nonempty : Token.ofStars head.stars ++ direct ≠ []) :
    Says leads (tokens ++ [.parenClose])
      (.parenOpen :: (Token.ofStars head.stars ++ direct) ++ [.parenClose])
      { head with stars, groups }
      { core with steps := core.steps ++ head.stars.map .pointer } := by
  obtain ⟨⟨outer, opens, rfl⟩, starred, inner⟩ := said
  rw [opened] at opens
  cases opens with
  | @group before _ _ _ opens trailers =>
    exact ⟨⟨before, opens, by simp⟩, trailers, .group (.ofStars starred (.direct inner)) nonempty⟩

end Says

/-- The end of a parameter. -/
theorem Listed.snoc {list tokens : List Token} {parameters : List Reading} {parameter : Reading}
    (listed : Listed leads list parameters)
    (declared : Grammar.Declaration leads tokens parameter) :
    Parameters leads (list ++ tokens) (parameters ++ [parameter]) := by
  rcases listed with ⟨rfl, rfl⟩ | ⟨list, rfl, before⟩
  · exact .last declared
  · simpa using before.snoc declared

/-- A comma ends a parameter that others follow. -/
theorem reaches_nextParameter {before tokens direct : List Token} {head : Head} {core : Core}
    {callers : List Caller} {after : Reader} (around : Around leads before callers)
    (said : Says leads tokens direct head core)
    (next : nextParameter head core callers = some after) :
    Reaches leads (before ++ tokens ++ [.comma]) after := by
  cases around with
  | nil => simp [nextParameter] at next
  | @cons _ _ _ list caller callers around outer nonempty listed =>
    rw [nextParameter] at next
    split at next
    · rename_i closed
      obtain rfl := Option.some.inj next
      have types := listed.snoc (said.declaration closed)
      have more : Around leads _ (⟨caller.head, caller.core,
          caller.parameters ++ [head.reading core]⟩ :: callers) :=
        .cons around outer nonempty (.inr ⟨_, rfl, types⟩)
      simpa using Reaches.mk more (.lead .nothing)
    · simp at next

/-- A closing parenthesis ends a group or the parameters of a function. -/
theorem reaches_close {before tokens direct : List Token} {head : Head} {core : Core}
    {callers : List Caller} {after : Reader} (around : Around leads before callers)
    (said : Says leads tokens direct head core)
    (nonempty : head.groups ≠ [] → Token.ofStars head.stars ++ direct ≠ [])
    (next : close head core callers = some after) :
    Reaches leads (before ++ tokens ++ [.parenClose]) after := by
  cases opened : head.groups with
  | cons stars groups =>
    simp only [close, opened, Option.some.injEq] at next
    subst next
    have closed := said.close opened (nonempty (by simp [opened]))
    simpa using Reaches.mk around (.core closed (by simp))
  | nil =>
    cases around with
    | nil => simp [close, opened] at next
    | @cons _ _ direct list caller _ around outer named listed =>
      simp only [close, opened, Option.some.injEq] at next
      subst next
      have types := listed.snoc (said.declaration opened)
      have called := Direct.function outer.inner named types
      have suffixed : Says leads _ _ caller.head
          (caller.core.step (.function (caller.parameters ++ [head.reading core]))) :=
        outer.suffix (.parenOpen :: (list ++ tokens) ++ [.parenClose])
          (by simpa [Core.step] using called)
      simpa using Reaches.mk around (.core suffixed (by simp))

section Steps

variable {before tokens direct : List Token} {callers : List Caller} {head : Head} {core : Core}
  {token : Token} {after : Reader}

/-- A token before or at the name of the base type. -/
theorem reaches_step_lead (around : Around leads before callers) (led : Lead leads tokens)
    (next : step leads ⟨.lead tokens, callers⟩ token = some after) :
    Reaches leads (before ++ tokens ++ [token]) after := by
  cases token with
  | word text =>
    rw [Reader.step] at next
    split at next
    · rename_i listed
      obtain rfl := Option.some.inj next
      simpa using Reaches.mk around (.lead (led.snoc listed))
    · split at next
      · simp at next
      · rename_i unled bound
        obtain rfl := Option.some.inj next
        have free : Qualifier.trailer? text = none := by simpa using bound
        have said : Says leads _ [] ⟨_, text, [], [], []⟩ {} :=
          ⟨⟨_, .base led unled free (List.forall_mem_nil _), rfl⟩, List.forall_mem_nil _, .abstract⟩
        simpa [Token.ofStars, Token.ofWords] using Reaches.mk around (.head said)
  | literal =>
    rw [Reader.step] at next
    split at next
    · rename_i last
      obtain rfl := Option.some.inj next
      simpa using Reaches.mk around (.lead (led.snoc_literal last))
    · simp at next
  | _ => simp [Reader.step] at next

/-- A token before or at the declared name, or in its place. -/
theorem reaches_step_head (around : Around leads before callers)
    (said : Says leads tokens [] head {})
    (next : step leads ⟨.head head, callers⟩ token = some after) :
    Reaches leads (before ++ tokens ++ [token]) after := by
  cases token with
  | word text =>
    cases found : Qualifier.trailer? text with
    | some word =>
      simp only [Reader.step, found, Option.map_eq_some_iff] at next
      obtain ⟨trailed, worded, rfl⟩ := next
      obtain ⟨trailer, rfl⟩ := Qualifier.of_trailer? found
      simpa using Reaches.mk around (.head (said.trail trailer worded))
    | none =>
      simp only [Reader.step, found, Option.some.injEq] at next
      subst next
      have named : Says leads _ _ head ⟨some text, []⟩ := said.suffix [.word text] (.name found)
      simpa using Reaches.mk around (.core named (by simp))
  | star =>
    obtain rfl := Option.some.inj next
    simpa using Reaches.mk around (.head said.star)
  | parenOpen =>
    obtain rfl := Option.some.inj next
    simpa using Reaches.mk around (.head said.group)
  | bracketOpen =>
    obtain rfl := Option.some.inj next
    simpa using Reaches.mk around (.size said)
  | parenClose =>
    rw [Reader.step] at next
    split at next
    · simp at next
    · rename_i starred
      refine reaches_close around said (fun opened => ?_) next
      cases stars : head.stars with
      | nil => exact absurd ⟨stars, opened⟩ starred
      | cons => simp [Token.ofStars]
  | comma => exact reaches_nextParameter around said next
  | _ => simp [Reader.step] at next

/-- A token after the declared name. -/
theorem reaches_step_core (around : Around leads before callers)
    (said : Says leads tokens direct head core) (nonempty : direct ≠ [])
    (next : step leads ⟨.core head core, callers⟩ token = some after) :
    Reaches leads (before ++ tokens ++ [token]) after := by
  cases token with
  | parenOpen =>
    obtain rfl := Option.some.inj next
    have more : Around leads _ (⟨head, core, []⟩ :: callers) :=
      .cons around said nonempty (.inl ⟨rfl, rfl⟩)
    simpa using Reaches.mk more (.lead .nothing)
  | bracketOpen =>
    obtain rfl := Option.some.inj next
    simpa using Reaches.mk around (.size said)
  | parenClose => exact reaches_close around said (fun _ => by simp [nonempty]) next
  | comma => exact reaches_nextParameter around said next
  | _ => simp [Reader.step] at next

/-- A closing bracket after the size of an array. -/
theorem reaches_bracketClose (around : Around leads before callers)
    (said : Says leads tokens direct head core) (size : Option Nat) :
    Reaches leads (before ++ (tokens ++ Token.ofSize size))
      ⟨.core head (core.step (.array size)), callers⟩ := by
  have sized : Says leads _ _ head (core.step (.array size)) :=
    said.suffix (Token.ofSize size) (.array said.inner size)
  exact Reaches.mk around (.core sized (by cases size <;> simp [Token.ofSize]))

end Steps

/-- Each token keeps what a reader knows about the tokens so far. -/
theorem Reaches.step {tokens : List Token} {reader after : Reader} {token : Token}
    (reaches : Reaches leads tokens reader) (next : reader.step leads token = some after) :
    Reaches leads (tokens ++ [token]) after := by
  obtain ⟨around, here⟩ := reaches
  cases here with
  | lead led => exact reaches_step_lead around led next
  | head said => exact reaches_step_head around said next
  | core said nonempty => exact reaches_step_core around said nonempty next
  | size said =>
    cases token with
    | number size =>
      obtain rfl := Option.some.inj next
      simpa using Reaches.mk around (.sized size said)
    | bracketClose =>
      obtain rfl := Option.some.inj next
      simpa [Token.ofSize] using reaches_bracketClose around said none
    | _ => simp [Reader.step] at next
  | sized size said =>
    cases token with
    | bracketClose =>
      obtain rfl := Option.some.inj next
      simpa [Token.ofSize] using reaches_bracketClose around said (some size)
    | _ => simp [Reader.step] at next

/-- A reader knows about all the tokens that it has read. -/
theorem Reaches.run {tokens more : List Token} {reader after : Reader}
    (reaches : Reaches leads tokens reader) (reads : reader.run leads more = some after) :
    Reaches leads (tokens ++ more) after := by
  induction more generalizing tokens reader with
  | nil =>
    obtain rfl := Option.some.inj reads
    simpa using reaches
  | cons token more ih =>
    rw [run_cons] at reads
    obtain ⟨middle, first, rest⟩ := Option.bind_eq_some_iff.1 reads
    simpa using ih (reaches.step first) rest

/-- A reader that has come to the end has read a declaration. -/
theorem Reaches.finish {tokens : List Token} {reader : Reader} {reading : Reading}
    (reaches : Reaches leads tokens reader) (done : reader.finish = some reading) :
    Grammar.Declaration leads tokens reading := by
  obtain ⟨around, here⟩ := reaches
  cases around with
  | cons => cases here <;> simp [Reader.finish] at done
  | nil =>
    cases here with
    | head said | core said =>
      simp only [Reader.finish, Option.ite_none_right_eq_some, Option.some.injEq] at done
      obtain ⟨closed, rfl⟩ := done
      exact said.declaration closed
    | lead | size | sized => simp [Reader.finish] at done

end Reader

/-- The reader reads the sentences of the grammar and nothing else, as the grammar said. -/
theorem Reading.ofTokens_iff {tokens : List Token} {reading : Reading} :
    Reading.ofTokens leads tokens = some reading ↔ Grammar.Declaration leads tokens reading := by
  constructor
  · intro found
    obtain ⟨reader, reads, done⟩ := Option.bind_eq_some_iff.1 found
    have start : Reader.Reaches leads ([] ++ []) Reader.start := .mk .nil (.lead .nothing)
    exact (start.run reads).finish done
  · exact Reading.ofTokens_of_declaration

end CSource
