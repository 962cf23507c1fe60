import CSource.Edit.Basic
import CSource.Layout.Page

/-!
# The log of edits

What edits say about a thing stands in their log: the comment lines to append, the children to
append and the value that is set last (`Edit.log`). The log keeps no trace of refused edits, of how
comments and children were interleaved, or of which children came at once. Where a log can be added
to a thing as a whole, and an edit adds its own (`Editable.Extends`), a run of edits adds its log
and does nothing else (`Editable.Extends.isLogged`).
-/

namespace CSource

variable {Comment Child Value : Type}

/-- What edits say all together. -/
@[ext]
structure Log (Comment Child Value : Type) where
  /-- The comment lines to append. -/
  lines : List Comment := []
  /-- The children to append. -/
  children : List Child := []
  /-- The value to set, if there is one. -/
  value? : Option Value := none

namespace Log

/-- A log with another one after it, whose value is the later one. -/
def append (first second : Log Comment Child Value) : Log Comment Child Value where
  lines := first.lines ++ second.lines
  children := first.children ++ second.children
  value? := second.value?.or first.value?

instance : Append (Log Comment Child Value) := ⟨append⟩

/-- The comment lines of both logs are appended. -/
@[simp] theorem lines_append (first second : Log Comment Child Value) :
    (first ++ second).lines = first.lines ++ second.lines := rfl

/-- The children of both logs are appended. -/
@[simp] theorem children_append (first second : Log Comment Child Value) :
    (first ++ second).children = first.children ++ second.children := rfl

/-- The later value is set. -/
@[simp] theorem value?_append (first second : Log Comment Child Value) :
    (first ++ second).value? = second.value?.or first.value? := rfl

end Log

namespace Edit

/-- The comment lines that an edit adds. -/
def lines : Edit Comment Child Value → List Comment
  | comment line => [line]
  | add _ | addAll _ | set _ => []

/-- The children that an edit adds. -/
def children : Edit Comment Child Value → List Child
  | add child => [child]
  | addAll children => children
  | comment _ | set _ => []

/-- The children that edits add, in order. -/
def added (edits : List (Edit Comment Child Value)) : List Child :=
  edits.flatMap children

/-- The value that an edit sets. -/
def value? : Edit Comment Child Value → Option Value
  | set value => some value
  | comment _ | add _ | addAll _ => none

/-- The log of some edits: their comment lines and their children, each in order, and the last of
their values. -/
def log (edits : List (Edit Comment Child Value)) : Log Comment Child Value where
  lines := edits.flatMap lines
  children := added edits
  value? := (edits.filterMap value?).getLast?

/-- A comment line alone is logged as such. -/
@[simp] theorem log_comment (line : Comment) :
    log [comment line] = ({ lines := [line] } : Log Comment Child Value) := rfl

/-- A child alone is logged as such. -/
@[simp] theorem log_add (child : Child) :
    log [add child] = ({ children := [child] } : Log Comment Child Value) := rfl

/-- Children at once are all logged. -/
@[simp] theorem log_addAll (children : List Child) :
    log [addAll children] = ({ children } : Log Comment Child Value) :=
  Log.ext rfl (List.append_nil children) rfl

/-- A value alone is logged as such. -/
@[simp] theorem log_set (value : Value) :
    log [set value] = ({ value? := some value } : Log Comment Child Value) := rfl

/-- Edits in two lists in a row have the logs of both in a row. -/
theorem log_append (first second : List (Edit Comment Child Value)) :
    log (first ++ second) = log first ++ log second := by
  have lines : (first ++ second).flatMap lines = first.flatMap lines ++ second.flatMap lines :=
    List.flatMap_append
  have children : added (first ++ second) = added first ++ added second := List.flatMap_append
  have value : ((first ++ second).filterMap value?).getLast? =
      (second.filterMap value?).getLast?.or (first.filterMap value?).getLast? := by
    rw [List.filterMap_append, List.getLast?_append]
  unfold log
  rw [lines, children, value]
  rfl

/-- Children that are added at once are logged one by one. -/
theorem log_map_add (children : List Child) :
    log (children.map add) = (log [addAll children] : Log Comment Child Value) := by
  induction children with
  | nil => rfl
  | cons child children ih =>
    have split : (child :: children).map add =
        [(add child : Edit Comment Child Value)] ++ children.map add := rfl
    rw [split, log_append, ih]
    rfl

end Edit

namespace Editable

/-- An edit, or the refusal of its literal. -/
abbrev Attempt (Comment Child Value : Type) : Type :=
  Except UnsupportedValue (Edit Comment Child Value)

/-- The edits that are not refused. -/
def accepted (steps : List (Attempt Comment Child Value)) : List (Edit Comment Child Value) :=
  steps.filterMap Except.toOption

/-- The log of the edits that are not refused. -/
def log (steps : List (Attempt Comment Child Value)) : Log Comment Child Value :=
  Edit.log (accepted steps)

/-- Edits in two lists in a row have the logs of both in a row. -/
theorem log_append (first second : List (Attempt Comment Child Value)) :
    log (first ++ second) = log first ++ log second := by
  rw [log, accepted, List.filterMap_append, Edit.log_append]
  rfl

/-- Edits none of which is refused are all logged. -/
theorem log_map_ok (edits : List (Edit Comment Child Value)) :
    log (edits.map .ok) = Edit.log edits := by
  have all : accepted (edits.map .ok) = edits := by
    simp [accepted, List.filterMap_map, Function.comp_def, Except.toOption]
  rw [log, all]

variable {α : Type} [Editable α Comment Child Value]

/-- Whether logs can be added to a thing as its edits add to it. -/
structure Extends (extend : α → Log Comment Child Value → α) : Prop where
  /-- A log without content changes nothing. -/
  nothing : ∀ thing, extend thing {} = thing
  /-- Two logs in a row are added as one. -/
  twice : ∀ thing first second,
    extend (extend thing first) second = extend thing (first ++ second)
  /-- An edit adds its log. -/
  edit : ∀ thing change, edit thing change = extend thing (Edit.log [change])

/-- Whether edits of a thing do nothing but add their log to it. -/
structure IsLogged [Render α] (extend : α → Log Comment Child Value → α) : Prop where
  /-- The thing after some edits is the thing with their log. -/
  run_eq : ∀ (thing : α) (steps : List (Attempt Comment Child Value)),
    run thing steps = extend thing (log steps)
  /-- Children that are added at once are added one by one. -/
  run_addAll : ∀ (thing : α) (children : List Child)
    (before after : List (Attempt Comment Child Value)),
    run thing (before ++ .ok (.addAll children) :: after) =
      run thing (before ++ children.map (.ok ∘ .add) ++ after)
  /-- A refused edit is as good as none. -/
  run_error : ∀ (thing : α) (refused : UnsupportedValue)
    (before after : List (Attempt Comment Child Value)),
    run thing (before ++ .error refused :: after) = run thing (before ++ after)
  /-- Edits with the same comment lines, the same children and the same value at last make the same
  thing, with the same text on every page. -/
  run_congr : ∀ (thing : α) (first second : List (Attempt Comment Child Value)),
    (log first).lines = (log second).lines → (log first).children = (log second).children →
      (log first).value? = (log second).value? →
        run thing first = run thing second ∧
          ∀ page : Page, page.emit (run thing first) = page.emit (run thing second)

namespace Extends

variable {extend : α → Log Comment Child Value → α}

/-- A run of edits adds their log. -/
theorem run_eq (law : Extends extend) (thing : α) (steps : List (Attempt Comment Child Value)) :
    run thing steps = extend thing (log steps) := by
  induction steps generalizing thing with
  | nil => exact (law.nothing thing).symm
  | cons change steps ih =>
    -- A refused edit has a log without content, so both kinds of step add their log.
    have first : step thing change = extend thing (log [change]) := by
      cases change with
      | error refused => exact (law.nothing thing).symm
      | ok change => exact law.edit thing change
    calc run thing (change :: steps)
      _ = run (extend thing (log [change])) steps := by rw [← first]; rfl
      _ = extend (extend thing (log [change])) (log steps) := ih _
      _ = extend thing (log (change :: steps)) := by rw [law.twice, ← log_append]; rfl

/-- Where a log can be added as a whole, a run of edits does nothing but add its log. -/
theorem isLogged [Render α] (law : Extends extend) : IsLogged extend where
  run_eq := law.run_eq
  run_addAll thing children before after := by
    have same : log (children.map (.ok ∘ .add)) =
        (log [.ok (.addAll children)] : Log Comment Child Value) := by
      rw [← List.map_map, log_map_ok, Edit.log_map_add]
      rfl
    rw [law.run_eq, law.run_eq, List.append_cons, log_append, log_append, log_append, log_append,
      same]
  run_error thing refused before after := by
    rw [law.run_eq, law.run_eq, log_append, log_append]
    rfl
  run_congr thing first second lines children value := by
    have same : run thing first = run thing second := by
      rw [law.run_eq, law.run_eq, Log.ext lines children value]
    exact ⟨same, fun page => by rw [same]⟩

end Extends
end Editable
end CSource
