import CSource.Proofs.Declarator.Grammar

/-!
# Reading declarations

A reader takes the tokens of a declaration one at a time. It remembers the stars whose turn has
not come yet, those of the groups that are still open, and the declarations whose parameters are
being read; a token that cannot stand where it comes ends the reading. Reading two lists in a
row is reading one after the other (`run_append`).
-/

namespace CSource

/-- A declaration read up to its declarator's name. -/
structure Head where
  /-- The tokens before the name of the base type. -/
  lead : List Token
  /-- The name of the base type. -/
  base : String
  /-- The words after the name of the base type. -/
  words : List Qualifier := []
  /-- The stars of the innermost open group with their words, the last one first. -/
  stars : List (List Qualifier) := []
  /-- The stars of the groups around it, from the inside out. -/
  groups : List (List (List Qualifier)) := []

/-- What a declarator has said from its name on. -/
structure Core where
  /-- The declared name, if there was one. -/
  name : Option String := none
  /-- The steps so far, nearest the name first. -/
  steps : List Derivation := []

namespace Head

/-- One more star. -/
def star (head : Head) : Head := { head with stars := [] :: head.stars }

/-- One more group. -/
def group (head : Head) : Head := { head with stars := [], groups := head.stars :: head.groups }

/-- A word after the last star, or after the base type where no group was opened. -/
def trail (head : Head) (word : Qualifier) : Option Head :=
  match head.stars, head.groups with
  | words :: others, _ => some { head with stars := (words ++ [word]) :: others }
  | [], [] => some { head with words := head.words ++ [word] }
  | [], _ :: _ => none

/-- What a declaration says whose declarator ends here. -/
def reading (head : Head) (core : Core) : Reading where
  lead := head.lead
  base := head.base
  words := head.words
  name := core.name
  derivations := core.steps ++ head.stars.map .pointer

end Head

/-- One more step. -/
def Core.step (core : Core) (step : Derivation) : Core :=
  { core with steps := core.steps ++ [step] }

/-- Where a reader stands in a declaration. -/
inductive Stage where
  /-- Before the name of the base type. -/
  | lead (tokens : List Token)
  /-- Before the declared name. -/
  | head (head : Head)
  /-- After the declared name, or a suffix or group in its place. -/
  | core (head : Head) (core : Core)
  /-- In the size of an array. -/
  | size (head : Head) (core : Core) (size : Option Nat)

/-- A declaration whose parameters are being read, with those that have been. -/
structure Caller where
  /-- What stands before its name. -/
  head : Head
  /-- What it has said so far. -/
  core : Core
  /-- Its parameters so far. -/
  parameters : List Reading

/-- A reader of a declaration. -/
structure Reader where
  /-- Where it stands in the innermost declaration. -/
  stage : Stage
  /-- The declarations around it, from the inside out. -/
  callers : List Caller

namespace Reader

/-- The reader after the end of a parameter that others follow. -/
def nextParameter (head : Head) (core : Core) : List Caller → Option Reader
  | ⟨caller, said, parameters⟩ :: callers =>
    if head.groups = [] then
      some ⟨.lead [], ⟨caller, said, parameters ++ [head.reading core]⟩ :: callers⟩
    else none
  | [] => none

/-- The reader after a closing parenthesis: of the innermost group, or of the list of parameters
that the declaration stands in. -/
def close (head : Head) (core : Core) (callers : List Caller) : Option Reader :=
  match head.groups, callers with
  | stars :: groups, _ =>
    some ⟨.core { head with stars, groups }
      { core with steps := core.steps ++ head.stars.map .pointer }, callers⟩
  | [], ⟨caller, said, parameters⟩ :: callers =>
    some ⟨.core caller (said.step (.function (parameters ++ [head.reading core]))), callers⟩
  | [], [] => none

/-- The reader after a token. -/
def step (leads : List String) : Reader → Token → Option Reader
  | ⟨.lead tokens, callers⟩, .word text =>
    if text ∈ leads then some ⟨.lead (tokens ++ [.word text]), callers⟩
    else if (Qualifier.trailer? text).isSome then none
    else some ⟨.head { lead := tokens, base := text }, callers⟩
  | ⟨.lead tokens, callers⟩, .literal =>
    if tokens.getLast? = some (.word "extern") then some ⟨.lead (tokens ++ [.literal]), callers⟩
    else none
  | ⟨.head head, callers⟩, .word text =>
    match Qualifier.trailer? text with
    | some word => (head.trail word).map fun head => ⟨.head head, callers⟩
    | none => some ⟨.core head { name := some text }, callers⟩
  | ⟨.head head, callers⟩, .star => some ⟨.head head.star, callers⟩
  | ⟨.head head, callers⟩, .parenOpen => some ⟨.head head.group, callers⟩
  | ⟨.head head, callers⟩, .bracketOpen => some ⟨.size head {} none, callers⟩
  | ⟨.head head, callers⟩, .parenClose =>
    if head.stars = [] ∧ head.groups ≠ [] then none else close head {} callers
  | ⟨.head head, callers⟩, .comma => nextParameter head {} callers
  | ⟨.core head core, callers⟩, .parenOpen => some ⟨.lead [], ⟨head, core, []⟩ :: callers⟩
  | ⟨.core head core, callers⟩, .bracketOpen => some ⟨.size head core none, callers⟩
  | ⟨.core head core, callers⟩, .parenClose => close head core callers
  | ⟨.core head core, callers⟩, .comma => nextParameter head core callers
  | ⟨.size head core none, callers⟩, .number size => some ⟨.size head core (some size), callers⟩
  | ⟨.size head core size, callers⟩, .bracketClose =>
    some ⟨.core head (core.step (.array size)), callers⟩
  | _, _ => none

/-- The reader after some tokens. -/
def run (leads : List String) (reader : Reader) (tokens : List Token) : Option Reader :=
  tokens.foldlM (step leads) reader

/-- What the tokens read so far declare, if they are a whole declaration. -/
def finish : Reader → Option Reading
  | ⟨.head head, []⟩ => if head.groups = [] then some (head.reading {}) else none
  | ⟨.core head core, []⟩ => if head.groups = [] then some (head.reading core) else none
  | _ => none

/-- A reader that has read nothing. -/
def start : Reader := ⟨.lead [], []⟩

/-- Reading two lists in a row is reading one after the other. -/
theorem run_append (leads : List String) (reader : Reader) (left right : List Token) :
    reader.run leads (left ++ right) = (reader.run leads left).bind (run leads · right) := by
  simp [run, List.foldlM_append]

/-- Reading no token changes nothing. -/
@[simp] theorem run_nil (leads : List String) (reader : Reader) :
    reader.run leads [] = some reader := rfl

/-- The first token is read first. -/
@[simp] theorem run_cons (leads : List String) (reader : Reader) (token : Token)
    (tokens : List Token) :
    reader.run leads (token :: tokens) = (reader.step leads token).bind (run leads · tokens) := rfl

end Reader

/-- What some tokens declare. -/
def Reading.ofTokens (leads : List String) (tokens : List Token) : Option Reading :=
  (Reader.start.run leads tokens).bind Reader.finish

/-- What a text declares, where words of the given list may stand before the name of a base
type. -/
def Reading.ofText (leads : List String) (text : String) : Option Reading :=
  (Token.ofText text).bind (Reading.ofTokens leads)

end CSource
