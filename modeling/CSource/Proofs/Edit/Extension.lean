import CSource.Edit.Kinds
import CSource.Proofs.Edit.Log

/-!
# Things with a log added to them

For each kind of thing, what it is with a log added to it: the comment lines of the log stand after
its own, the children of the log after its own, a value of the log in place of its own, and the rest
is as it was. Edits of any kind of thing do this and nothing else (`Editable.isLogged_kinds`).
-/

namespace CSource

open Editable (Extends IsLogged)

namespace Comments

/-- The comment with more lines. -/
def pushAll (comments : Comments) (lines : List String) : Comments := ⟨comments.lines ++ lines⟩

/-- No more lines are no change. -/
@[simp] theorem pushAll_nil (comments : Comments) : comments.pushAll [] = comments := by
  simp [pushAll]

/-- More lines twice are the lines of both. -/
@[simp] theorem pushAll_pushAll (comments : Comments) (first second : List String) :
    (comments.pushAll first).pushAll second = comments.pushAll (first ++ second) := by
  simp [pushAll]

/-- Lines that are pushed one by one are pushed in order. -/
theorem foldl_push (comments : Comments) (lines : List String) :
    lines.foldl push comments = comments.pushAll lines := by
  induction lines generalizing comments with
  | nil => exact comments.pushAll_nil.symm
  | cons line lines ih =>
    exact (ih (comments.push line)).trans (comments.pushAll_pushAll [line] lines)

/-- Comments with a log added to them. -/
def extend (comments : Comments) (log : Log Empty String Empty) : Comments :=
  comments.pushAll log.children

/-- Edits of comments add their log. -/
theorem extends_log : Extends extend where
  nothing := pushAll_nil
  twice comments first second := comments.pushAll_pushAll first.children second.children
  edit comments change := by
    cases change with
    | comment line => exact line.elim
    | add line => rfl
    | addAll lines =>
      rw [Edit.log_addAll]
      exact comments.foldl_push lines
    | set value => exact value.elim

end Comments

namespace Declaration

/-- A declaration with a log added to it. -/
def extend (declaration : Declaration) (log : Log String Empty Expr) : Declaration :=
  { declaration with
    comments := declaration.comments.pushAll log.lines
    initial := log.value?.or declaration.initial }

/-- Edits of a declaration add their log. -/
theorem extends_log : Extends extend where
  nothing declaration := by
    -- A type that holds things of its own kind is equal to its parts only once it is taken apart.
    cases declaration
    simp [extend]
  twice declaration first second := by simp [extend, Option.or_assoc]
  edit declaration change := by
    cases declaration
    cases change with
    | comment line => rfl
    | add child => exact child.elim
    | addAll children => simp [Editable.edit, extend]
    | set value => simp [Editable.edit, Declaration.initialize, extend]

end Declaration

namespace StructBody

/-- A struct body with a log added to it. -/
def extend (body : StructBody) (log : Log Empty Declaration Empty) : StructBody :=
  { body with fields := body.fields ++ log.children }

/-- Edits of a struct body add their log. -/
theorem extends_log : Extends extend where
  nothing body := by
    cases body
    simp [extend]
  twice body first second := by simp [extend]
  edit body change := by
    cases change with
    | comment line => exact line.elim
    | add field => rfl
    | addAll fields => simp [Editable.edit, addFields, extend]
    | set value => exact value.elim

/-- A struct body on its own is written as its type is. -/
instance : Render StructBody where
  instructions body := instructions (CType.struct body)

end StructBody

namespace Typedef

/-- A type name with a log added to it. -/
def extend (typedef : Typedef) (log : Log String Empty Empty) : Typedef :=
  { typedef with comments := typedef.comments.pushAll log.lines }

/-- Edits of a type name add their log. -/
theorem extends_log : Extends extend where
  nothing typedef := by simp [extend]
  twice typedef first second := by simp [extend]
  edit typedef change := by
    cases change with
    | comment line => rfl
    | add child => exact child.elim
    | addAll children => simp [Editable.edit, extend]
    | set value => exact value.elim

end Typedef

namespace Prototype

/-- A prototype with a log added to it. -/
def extend (prototype : Prototype) (log : Log String Parameter Empty) : Prototype :=
  { prototype with
    comments := prototype.comments.pushAll log.lines
    parameters := prototype.parameters ++ log.children }

/-- Edits of a prototype add their log. -/
theorem extends_log : Extends extend where
  nothing prototype := by simp [extend]
  twice prototype first second := by simp [extend]
  edit prototype change := by
    cases change with
    | comment line =>
      show { prototype with comments := prototype.comments.pushAll [line] } = _
      simp [extend]
    | add parameter => simp [Editable.edit, addParameters, extend]
    | addAll parameters => simp [Editable.edit, addParameters, extend]
    | set value => exact value.elim

end Prototype

namespace Function

/-- A function with a log added to it. -/
def extend (function : Function) (log : Log String Item Empty) : Function :=
  { function with
    comments := function.comments.pushAll log.lines
    body := function.body ++ log.children }

/-- Edits of a function add their log. -/
theorem extends_log : Extends extend where
  nothing function := by
    cases function
    simp [extend]
  twice function first second := by simp [extend]
  edit function change := by
    cases change with
    | comment line =>
      show { function with comments := function.comments.pushAll [line] } = _
      simp [extend]
    | add item => simp [Editable.edit, addItems, extend]
    | addAll items => simp [Editable.edit, addItems, extend]
    | set value => exact value.elim

end Function

namespace Block

/-- A block with a log added to it. -/
def extend (block : Block) (log : Log String Item Empty) : Block :=
  { block with
    comments := block.comments.pushAll log.lines
    body := block.body ++ log.children }

/-- Edits of a block add their log. -/
theorem extends_log : Extends extend where
  nothing block := by
    cases block
    simp [extend]
  twice block first second := by simp [extend]
  edit block change := by
    cases change with
    | comment line =>
      show { block with comments := block.comments.pushAll [line] } = _
      simp [extend]
    | add item => simp [Editable.edit, addItems, extend]
    | addAll items => simp [Editable.edit, addItems, extend]
    | set value => exact value.elim

end Block

namespace SwitchArm

/-- An arm with a log added to it. -/
def extend (arm : SwitchArm) (log : Log Empty Item Empty) : SwitchArm :=
  { arm with body := arm.body ++ log.children }

/-- Edits of an arm add their log. -/
theorem extends_log : Extends extend where
  nothing arm := by
    cases arm
    simp [extend]
  twice arm first second := by simp [extend]
  edit arm change := by
    cases change with
    | comment line => exact line.elim
    | add item => rfl
    | addAll items => simp [Editable.edit, addItems, extend]
    | set value => exact value.elim

end SwitchArm

namespace Enumeration

/-- An enumeration with a log added to it. -/
def extend (enumeration : Enumeration) (log : Log String String Empty) : Enumeration :=
  { enumeration with
    comments := enumeration.comments.pushAll log.lines
    values := enumeration.values ++ log.children }

/-- Edits of an enumeration add their log. -/
theorem extends_log : Extends extend where
  nothing enumeration := by simp [extend]
  twice enumeration first second := by simp [extend]
  edit enumeration change := by
    cases change with
    | comment line =>
      show { enumeration with comments := enumeration.comments.pushAll [line] } = _
      simp [extend]
    | add value => simp [Editable.edit, addValues, extend]
    | addAll values => simp [Editable.edit, addValues, extend]
    | set value => exact value.elim

end Enumeration

namespace Include

/-- An inclusion with a log added to it. -/
def extend (inclusion : Include) (log : Log String Empty Empty) : Include :=
  { inclusion with comments := inclusion.comments.pushAll log.lines }

/-- Edits of an inclusion add their log. -/
theorem extends_log : Extends extend where
  nothing inclusion := by simp [extend]
  twice inclusion first second := by simp [extend]
  edit inclusion change := by
    cases change with
    | comment line => rfl
    | add child => exact child.elim
    | addAll children => simp [Editable.edit, extend]
    | set value => exact value.elim

end Include

namespace Define

/-- A definition of a macro with a log added to it. -/
def extend (definition : Define) (log : Log Empty Empty String) : Define :=
  { definition with value := log.value?.or definition.value }

/-- Edits of a definition of a macro add their log. -/
theorem extends_log : Extends extend where
  nothing definition := by simp [extend]
  twice definition first second := by simp [extend, Option.or_assoc]
  edit definition change := by
    cases change with
    | comment line => exact line.elim
    | add child => exact child.elim
    | addAll children => simp [Editable.edit, extend]
    | set value => rfl

end Define

namespace Guard

/-- A guarded part with a log added to it. -/
def extend (guard : Guard) (log : Log Empty Item Empty) : Guard :=
  { guard with body := guard.body ++ log.children }

/-- Edits of a guarded part add their log. -/
theorem extends_log : Extends extend where
  nothing guard := by
    cases guard
    simp [extend]
  twice guard first second := by simp [extend]
  edit guard change := by
    cases change with
    | comment line => exact line.elim
    | add item => rfl
    | addAll items => simp [Editable.edit, addItems, extend]
    | set value => exact value.elim

end Guard

namespace SourceUnit

/-- A source unit with a log added to it. -/
def extend (unit : SourceUnit) (log : Log String Item Empty) : SourceUnit :=
  { unit with
    comments := unit.comments.pushAll log.lines
    items := unit.items ++ log.children }

/-- Edits of a source unit add their log. -/
theorem extends_log : Extends extend where
  nothing unit := by simp [extend]
  twice unit first second := by simp [extend]
  edit unit change := by
    cases change with
    | comment line =>
      show { unit with comments := unit.comments.pushAll [line] } = _
      simp [extend]
    | add item => simp [Editable.edit, addItems, extend]
    | addAll items => simp [Editable.edit, addItems, extend]
    | set value => exact value.elim

end SourceUnit

namespace Editable

/-- Edits of things of every kind add the comment lines and the children that they say to those of
the thing, each in order and however interleaved, and leave their last value in place of the one of
the thing; the rest of the thing, and what refused edits say, stays out of it. -/
theorem isLogged_kinds :
    IsLogged Comments.extend ∧ IsLogged Declaration.extend ∧ IsLogged StructBody.extend ∧
      IsLogged Typedef.extend ∧ IsLogged Prototype.extend ∧ IsLogged Function.extend ∧
      IsLogged Block.extend ∧ IsLogged SwitchArm.extend ∧ IsLogged Enumeration.extend ∧
      IsLogged Include.extend ∧ IsLogged Define.extend ∧ IsLogged Guard.extend ∧
      IsLogged SourceUnit.extend :=
  ⟨Comments.extends_log.isLogged, Declaration.extends_log.isLogged,
    StructBody.extends_log.isLogged, Typedef.extends_log.isLogged,
    Prototype.extends_log.isLogged, Function.extends_log.isLogged, Block.extends_log.isLogged,
    SwitchArm.extends_log.isLogged, Enumeration.extends_log.isLogged,
    Include.extends_log.isLogged, Define.extends_log.isLogged, Guard.extends_log.isLogged,
    SourceUnit.extends_log.isLogged⟩

/-- A comment between statements of a loop that come at once, and a statement that is refused. -/
def mixed : List (Attempt String Item Empty) :=
  [.ok (.addAll [.blank, .breaks]), (Expr.value true).map fun flag => .add (.evaluate flag),
    .ok (.comment "once"), .ok (.add .continues)]

/-- The same comment before the same statements, one by one. -/
def sorted : List (Attempt String Item Empty) :=
  [.ok (.comment "once"), .ok (.add .blank), .ok (.add .breaks), .ok (.add .continues)]

/-- Either way the loop gets its comment and its statements, and keeps its test. -/
theorem isLogged_kinds_doWhile :
    ((log mixed).lines = (log sorted).lines ∧ (log mixed).children = (log sorted).children ∧
      (log mixed).value? = (log sorted).value?) ∧
    run (Block.doWhile (.identifier "more")) mixed =
      run (Block.doWhile (.identifier "more")) sorted ∧
    run (Block.doWhile (.identifier "more")) mixed =
      ⟨⟨["once"]⟩, "do", [.blank, .breaks, .continues], some "while(more);"⟩ := by
  obtain ⟨_, _, _, _, _, _, block, _⟩ := isLogged_kinds
  have same := block.run_congr (Block.doWhile (.identifier "more")) mixed sorted rfl rfl rfl
  have made := block.run_eq (Block.doWhile (.identifier "more")) mixed
  exact ⟨⟨rfl, rfl, rfl⟩, same.1, made.trans rfl⟩

end Editable
end CSource
