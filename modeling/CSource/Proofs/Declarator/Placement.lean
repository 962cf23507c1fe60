import CSource.Proofs.Declarator.Phrase
import CSource.Proofs.Declarator.Reader

/-!
# Misplaced stars

After a suffix of a declarator nothing but a suffix, a comma or a closing mark can stand. A type
with a star or a word after the suffixes of what it is applied to has tokens that no declaration
has, whatever stands around it (`run_of_not_isPlaced`).
-/

namespace CSource

variable {leads : List String}

namespace Reader

/-- What two lists in a row lead to goes through what the first leads to. -/
theorem run_append_eq_some {reader after : Reader} {left right : List Token} :
    reader.run leads (left ++ right) = some after ↔
      ∃ middle, reader.run leads left = some middle ∧ middle.run leads right = some after := by
  rw [run_append, Option.bind_eq_some_iff]

/-- Where the first of two lists in a row cannot be read, both cannot. -/
theorem run_append_eq_none {reader : Reader} {left : List Token}
    (unread : reader.run leads left = none) (right : List Token) :
    reader.run leads (left ++ right) = none := by
  rw [run_append, unread, Option.bind_none]

/-- Where the second of two lists in a row cannot be read after the first, both cannot. -/
theorem run_append_eq_none_of_forall {reader : Reader} {left right : List Token}
    (unread : ∀ middle, reader.run leads left = some middle → middle.run leads right = none) :
    reader.run leads (left ++ right) = none := by
  rw [Option.eq_none_iff_forall_ne_some]
  intro after reads
  obtain ⟨middle, first, second⟩ := run_append_eq_some.1 reads
  rw [unread middle first] at second
  contradiction

/-- Whether a reader is in a declarator, after its name. -/
def IsCore (reader : Reader) : Prop := ∃ head core, reader.stage = .core head core

/-- After a suffix no star can stand. -/
theorem IsCore.step_star (leads : List String) {reader : Reader} (core : reader.IsCore) :
    reader.step leads .star = none := by
  obtain ⟨stage, callers⟩ := reader
  obtain ⟨head, core, rfl⟩ := core
  rfl

/-- After a suffix no word can stand. -/
theorem IsCore.step_word (leads : List String) {reader : Reader} (core : reader.IsCore)
    (text : String) :
    reader.step leads (.word text) = none := by
  obtain ⟨stage, callers⟩ := reader
  obtain ⟨head, core, rfl⟩ := core
  rfl

/-- After a suffix an opening parenthesis starts a parameter. -/
theorem IsCore.step_parenOpen (leads : List String) {reader : Reader} (core : reader.IsCore) :
    ∃ callers, reader.step leads .parenOpen = some ⟨.lead [], callers⟩ := by
  obtain ⟨stage, callers⟩ := reader
  obtain ⟨head, core, rfl⟩ := core
  exact ⟨_, rfl⟩

/-- A closing parenthesis ends a group or a list of parameters. -/
theorem isCore_of_close {head : Head} {core : Core} {callers : List Caller} {after : Reader}
    (closed : close head core callers = some after) : after.IsCore := by
  unfold close at closed
  split at closed
  · obtain rfl := Option.some.inj closed
    exact ⟨_, _, rfl⟩
  · obtain rfl := Option.some.inj closed
    exact ⟨_, _, rfl⟩
  · contradiction

/-- After a closing parenthesis a suffix or a group has ended. -/
theorem isCore_of_parenClose {reader after : Reader}
    (next : reader.step leads .parenClose = some after) : after.IsCore := by
  obtain ⟨stage, callers⟩ := reader
  cases stage with
  | head head =>
    rw [step] at next
    split at next
    · contradiction
    · exact isCore_of_close next
  | core head core => exact isCore_of_close next
  | lead | size => simp [step] at next

/-- After a closing bracket a suffix has ended. -/
theorem isCore_of_bracketClose {reader after : Reader}
    (next : reader.step leads .bracketClose = some after) : after.IsCore := by
  obtain ⟨stage, callers⟩ := reader
  cases stage with
  | size head core size =>
    cases size <;> exact Option.some.inj next ▸ ⟨_, _, rfl⟩
  | lead | head | core => simp [step] at next

/-- After a comma a parameter starts. -/
theorem of_comma {reader after : Reader} (next : reader.step leads .comma = some after) :
    ∃ callers, after = ⟨.lead [], callers⟩ := by
  have starts : ∀ (head : Head) (core : Core) (callers : List Caller),
      nextParameter head core callers = some after → ∃ callers, after = ⟨.lead [], callers⟩ := by
    intro head core callers next
    unfold nextParameter at next
    split at next
    · split at next
      · exact ⟨_, (Option.some.inj next).symm⟩
      · contradiction
    · contradiction
  obtain ⟨stage, callers⟩ := reader
  cases stage with
  | head head => exact starts head {} callers next
  | core head core => exact starts head core callers next
  | lead | size => simp [step] at next

/-- What ends in a closing parenthesis ends a suffix or a group. -/
theorem isCore_of_run_parenClose {reader after : Reader} {tokens : List Token}
    (reads : reader.run leads (tokens ++ [.parenClose]) = some after) : after.IsCore := by
  obtain ⟨middle, _, last⟩ := run_append_eq_some.1 reads
  rw [run_cons] at last
  obtain ⟨closed, next, done⟩ := Option.bind_eq_some_iff.1 last
  obtain rfl := Option.some.inj done
  exact isCore_of_parenClose next

/-- The size of an array ends a suffix. -/
theorem isCore_of_run_size {reader after : Reader} {size : Option Nat}
    (reads : reader.run leads (Token.ofSize size) = some after) : after.IsCore := by
  have parts : ∃ front, Token.ofSize size = front ++ [.bracketClose] := by
    cases size with
    | none => exact ⟨[.bracketOpen], rfl⟩
    | some size => exact ⟨[.bracketOpen, .number size], rfl⟩
  obtain ⟨front, shape⟩ := parts
  rw [shape] at reads
  obtain ⟨middle, _, last⟩ := run_append_eq_some.1 reads
  rw [run_cons] at last
  obtain ⟨closed, next, done⟩ := Option.bind_eq_some_iff.1 last
  obtain rfl := Option.some.inj done
  exact isCore_of_bracketClose next

end Reader

namespace CType

/-- What stands after a declarator ends a suffix or a group. -/
theorem isCore_of_run_back {type : CType} (nonempty : type.back ≠ []) {reader after : Reader}
    (reads : reader.run leads type.back = some after) : after.IsCore := by
  -- Where more stands after the first suffix, the last suffix is in what is more.
  have append : ∀ {front : List Token} {inner : CType} {reader after : Reader},
      (∀ middle, reader.run leads front = some middle → middle.IsCore) →
      (inner.back ≠ [] → ∀ middle : Reader,
        middle.run leads inner.back = some after → after.IsCore) →
      reader.run leads (front ++ inner.back) = some after → after.IsCore := by
    intro front inner reader after first second reads
    obtain ⟨middle, start, rest⟩ := Reader.run_append_eq_some.1 reads
    by_cases ends : inner.back = []
    · rw [ends, Reader.run_nil] at rest
      exact Option.some.inj rest ▸ first middle start
    · exact second ends middle rest
  induction type using parts_induction generalizing reader after with
  | named | struct => contradiction
  | pointer target ih =>
    cases place : target.starPlace with
    | parenthesized =>
      simp only [back, place] at reads
      refine @append [.parenClose] target reader after (fun middle first => ?_)
        (fun ends middle rest => ih ends rest) reads
      exact @Reader.isCore_of_run_parenClose leads reader middle [] first
    | name =>
      simp only [back, place] at nonempty reads
      exact ih nonempty reads
    | target => simp [back, place] at nonempty
  | array element size ih =>
    exact append (fun _ => Reader.isCore_of_run_size) (fun ends _ rest => ih ends rest) reads
  | leading _ _ ih | external _ _ ih => exact ih nonempty reads
  | trailing inner word ih =>
    cases binds : inner.bindsTighter with
    | true =>
      simp only [back, binds, if_true] at nonempty reads
      exact ih nonempty reads
    | false => simp [back, binds] at nonempty
  | functionPointer result parameters ih _ =>
    exact append (fun _ => Reader.isCore_of_run_parenClose) (fun ends _ rest => ih ends rest) reads

/-- A placed type whose spelling ends in a suffix has it after the declarator. -/
theorem back_ne_nil {type : CType} (placed : type.IsPlaced) (suffixed : type.isSuffixed = true) :
    type.back ≠ [] := by
  induction type using parts_induction with
  | named | struct => simp [isSuffixed] at suffixed
  | pointer target ih =>
    cases place : target.starPlace with
    | parenthesized => simp [back, place]
    | name =>
      simp only [back, place]
      exact ih placed.2 suffixed
    | target =>
      have free : target.isSuffixed = false := placed.1 place
      rw [isSuffixed, free] at suffixed
      contradiction
  | array element size => cases size <;> simp [back, Token.ofSize]
  | leading _ _ ih | external _ _ ih => exact ih placed.2 suffixed
  | trailing inner word ih =>
    cases binds : inner.bindsTighter with
    | true =>
      simp only [back, binds, if_true]
      exact ih placed.2 suffixed
    | false =>
      have free : inner.isSuffixed = false := placed.1 binds
      rw [isSuffixed, free] at suffixed
      contradiction
  | functionPointer => simp [back]

/-- A star or a word after the suffixes of a type cannot be read. -/
theorem run_after_back {type : CType} (placed : type.IsPlaced) (suffixed : type.isSuffixed = true)
    (token : Token) (unread : ∀ reader : Reader, reader.IsCore → reader.step leads token = none)
    (reader : Reader) (rest : List Token) :
    reader.run leads (type.front ++ type.back ++ token :: rest) = none := by
  apply Reader.run_append_eq_none_of_forall
  intro middle reads
  obtain ⟨first, _, second⟩ := Reader.run_append_eq_some.1 reads
  have core := isCore_of_run_back (back_ne_nil placed suffixed) second
  rw [Reader.run_cons, unread middle core, Option.bind_none]

/-- A list of parameters one of which cannot be read cannot be read. -/
theorem run_separated {lists : List (List Token)} {tokens : List Token} (mem : tokens ∈ lists)
    (unread : ∀ (before : List Token) (callers : List Caller),
      Reader.run leads ⟨.lead before, callers⟩ tokens = none)
    (before : List Token) (callers : List Caller) :
    Reader.run leads ⟨.lead before, callers⟩ (Token.separated lists) = none := by
  induction lists generalizing before callers with
  | nil => contradiction
  | cons first lists ih =>
    cases lists with
    | nil =>
      obtain rfl := List.mem_singleton.1 mem
      exact unread before callers
    | cons second lists =>
      have parts : Token.separated (first :: second :: lists) =
          first ++ .comma :: Token.separated (second :: lists) := rfl
      rw [parts]
      rcases List.mem_cons.1 mem with rfl | mem
      · exact Reader.run_append_eq_none (unread before callers) _
      · apply Reader.run_append_eq_none_of_forall
        intro middle _
        rw [Reader.run_cons]
        cases next : middle.step leads .comma with
        | none => rfl
        | some after =>
          obtain ⟨others, rfl⟩ := Reader.of_comma next
          exact ih mem [] others

/-- A function one of whose parameters cannot be read cannot be read. -/
theorem run_call {tokens : List Token}
    (unread : ∀ (before : List Token) (callers : List Caller),
      Reader.run leads ⟨.lead before, callers⟩ tokens = none) (reader : Reader)
    (front rest : List Token) :
    reader.run leads (front ++ [.parenClose] ++ .parenOpen :: tokens ++ rest) = none := by
  apply Reader.run_append_eq_none
  apply Reader.run_append_eq_none_of_forall
  intro middle reads
  obtain ⟨callers, next⟩ := (Reader.isCore_of_run_parenClose reads).step_parenOpen leads
  rw [Reader.run_cons, next, Option.bind_some, unread]

/-- A word before a type that cannot be read changes nothing. -/
theorem run_word {text : String} (listed : text ∈ leads) {tokens : List Token}
    (unread : ∀ (before : List Token) (callers : List Caller),
      Reader.run leads ⟨.lead before, callers⟩ tokens = none) (before : List Token)
    (callers : List Caller) :
    Reader.run leads ⟨.lead before, callers⟩ (.word text :: tokens) = none := by
  rw [Reader.run_cons, Reader.step, if_pos listed, Option.bind_some, unread]

/-- The tokens of a type with a misplaced star or word are no start of a declaration, whatever
declarator they stand around. -/
theorem run_of_not_isPlaced {type : CType} (worded : type.IsWorded leads)
    (misplaced : ¬ type.IsPlaced) (tokens before : List Token) (callers : List Caller) :
    Reader.run leads ⟨.lead before, callers⟩ (type.front ++ tokens ++ type.back) = none := by
  -- What fails is either this part, right after the suffixes of its target, or a part inside. A
  -- part inside fails with any tokens around it, even in a parameter, where a new start is made.
  induction type using parts_induction generalizing tokens before callers with
  | named | struct => exact absurd trivial misplaced
  | pointer target ih =>
    by_cases inner : target.IsPlaced
    · have misplacedPart : ¬ IsPlacedPart (.pointer target) := fun part => misplaced ⟨part, inner⟩
      obtain ⟨place, suffixed⟩ := Classical.not_imp.1 misplacedPart
      have unread := run_after_back inner (by simpa using suffixed) .star
        (fun _ core => core.step_star leads) ⟨.lead before, callers⟩ tokens
      simpa [front, back, place] using unread
    · have unread := ih worded.2 inner
      cases place : target.starPlace with
      | parenthesized =>
        have around := unread ([.parenOpen, .star] ++ tokens ++ [.parenClose]) before callers
        simpa [front, back, place] using around
      | name => simpa [front, back, place] using unread (.star :: tokens) before callers
      | target =>
        have alone := Reader.run_append_eq_none (unread [] before callers) (.star :: tokens)
        simpa [front, back, place] using alone
  | array element size ih =>
    have inner : ¬ element.IsPlaced := fun placed => misplaced ⟨trivial, placed⟩
    simpa [front, back] using ih worded.2 inner (tokens ++ Token.ofSize size) before callers
  | leading word inner ih =>
    have unread := ih worded.2 (fun placed => misplaced ⟨trivial, placed⟩) tokens
    exact run_word worded.1 unread before callers
  | trailing inner word ih =>
    cases binds : inner.bindsTighter with
    | true =>
      have misplaced : ¬ inner.IsPlaced := fun placed =>
        misplaced ⟨fun free => absurd (binds.symm.trans free) (by simp), placed⟩
      simpa [front, back, binds] using
        ih worded.2 misplaced (.word word.word :: tokens) before callers
    | false =>
      by_cases placed : inner.IsPlaced
      · have misplacedPart : ¬ IsPlacedPart (.trailing inner word) := fun part =>
          misplaced ⟨part, placed⟩
        obtain ⟨_, suffixed⟩ := Classical.not_imp.1 misplacedPart
        have unread := run_after_back placed (by simpa using suffixed) (.word word.word)
          (fun _ core => core.step_word leads _) ⟨.lead before, callers⟩ tokens
        simpa [front, back, binds] using unread
      · have alone := Reader.run_append_eq_none (ih worded.2 placed [] before callers)
          (.word word.word :: tokens)
        simpa [front, back, binds] using alone
  | external linkage inner ih =>
    have unread := ih worded.2 (fun placed => misplaced ⟨trivial, placed⟩) tokens
    cases linkage with
    | none => exact run_word worded.1 unread before callers
    | some linkage =>
      have listed : "extern" ∈ leads := worded.1
      simpa [front, back, Reader.step, listed] using
        unread (before ++ [.word "extern", .literal]) callers
  | functionPointer result parameters ih ihs =>
    by_cases placed : result.IsPlaced
    · have some : ¬ ∀ parameter ∈ parameters, parameter.IsPlaced := fun all =>
        misplaced ⟨trivial, placed, everyIn_iff.2 all⟩
      simp only [Classical.not_forall] at some
      obtain ⟨parameter, mem, misplaced⟩ := some
      have listed : parameter.front ++ parameter.back ∈ alone parameters := by
        rw [alone_eq_map]
        exact List.mem_map_of_mem mem
      have unread := run_separated listed fun before callers => by
        simpa using ihs parameter mem (everyIn_iff.1 worded.2.2 parameter mem) misplaced []
          before callers
      have called := run_call unread ⟨.lead before, callers⟩
        (result.front ++ [.parenOpen, .star] ++ tokens) (.parenClose :: result.back)
      simpa [front, back] using called
    · have unread := ih worded.2.1 placed ([.parenOpen, .star] ++ tokens ++
        [.parenClose, .parenOpen] ++ Token.separated (alone parameters) ++ [.parenClose])
        before callers
      simpa [front, back] using unread

end CType
end CSource
