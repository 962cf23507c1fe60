import CSource.Item.Build
import CSource.Item.SourceUnit
import CSource.Proofs.Item.Nesting
import CSource.Proofs.Layout.Shown
import Mathlib.Data.List.Induction

/-!
# Depth of a page that is driven by hand

A caller may give a page its instructions one at a time, go out more often than in, and have whole
things written in between. Things change no depth (`NestedRender`). The depth is then what the
instructions in and out add up to, counted from the lowest point that they have reached
(`Page.level_drive`): going out at the outermost level is forgotten at once.
-/

namespace CSource

open Instruction (Balanced)

/-- Things that are written by nested instructions. -/
class NestedRender (α : Type) [Render α] : Prop where
  /-- The instructions of a thing are nested. -/
  balanced : ∀ thing : α, Balanced (instructions thing)

namespace NestedRender

instance : NestedRender Item where
  balanced item := by
    have alone := (Item.writesAll [item]).balanced
    rwa [instructions_cons, instructions_nil, List.append_nil] at alone

instance : NestedRender Comments := ⟨fun comments => balanced (Item.comment comments)⟩
instance : NestedRender Expr := ⟨fun expr => balanced (Item.evaluate expr)⟩
instance : NestedRender CType := ⟨fun type => balanced (Item.type type)⟩
instance : NestedRender Declaration :=
  ⟨fun declaration => balanced (Item.declaration declaration)⟩
instance : NestedRender Typedef := ⟨fun typedef => balanced (Item.typedef typedef)⟩
instance : NestedRender Prototype := ⟨fun prototype => balanced (Item.prototype prototype)⟩
instance : NestedRender Function := ⟨fun function => balanced (Item.function function)⟩
instance : NestedRender Block := ⟨fun block => balanced (Item.block block)⟩
instance : NestedRender SwitchArm := ⟨fun arm => balanced (Item.arm arm)⟩
instance : NestedRender Enumeration :=
  ⟨fun enumeration => balanced (Item.enumeration enumeration)⟩
instance : NestedRender Include := ⟨fun inclusion => balanced (Item.inclusion inclusion)⟩
instance : NestedRender Define := ⟨fun definition => balanced (Item.define definition)⟩
instance : NestedRender Guard := ⟨fun guard => balanced (Item.guard guard)⟩

instance {α : Type} [Render α] [NestedRender α] : NestedRender (List α) where
  balanced things := by
    induction things with
    | nil => exact .nil
    | cons thing things ih => exact (balanced thing).append ih

instance : NestedRender SourceUnit :=
  ⟨fun unit => (balanced unit.comments).append (balanced unit.items)⟩

end NestedRender

namespace Page

/-- A step of a caller that drives a page by hand. -/
inductive Step : Type 1 where
  /-- One instruction. -/
  | push (instruction : Instruction)
  /-- All instructions of a thing. -/
  | emit {α : Type} [Render α] [NestedRender α] (thing : α)

/-- The page after a step. -/
def perform (page : Page) : Step → Page
  | .push instruction => page.write instruction
  | @Step.emit _ _ _ thing => page.emit thing

/-- The page after some steps. -/
def drive (page : Page) (steps : List Step) : Page := steps.foldl perform page

/-- The page after two lists of steps in a row. -/
theorem drive_append (page : Page) (first second : List Step) :
    page.drive (first ++ second) = (page.drive first).drive second :=
  List.foldl_append

namespace Step

/-- The instructions of a step. -/
def instructions : Step → List Instruction
  | push instruction => [instruction]
  | @emit _ _ _ thing => CSource.instructions thing

/-- How much further in a step leads, by the instructions that the caller gives: things do not
count. -/
def drift : Step → Int
  | push .indent => 1
  | push .dedent => -1
  | _ => 0

/-- How much further in some steps lead. -/
def drifts : List Step → Int
  | [] => 0
  | step :: steps => step.drift + drifts steps

/-- The lowest of zero and of what the first steps lead to, however many of them. -/
def lowest (steps : List Step) : Int :=
  ((List.range (steps.length + 1)).map fun count => drifts (steps.take count)).foldl min 0

/-- One step more leads on from where the others lead. -/
theorem drifts_concat (steps : List Step) (step : Step) :
    drifts (steps ++ [step]) = drifts steps + step.drift := by
  induction steps with
  | nil => exact Int.add_comm step.drift 0
  | cons first steps ih =>
    rw [List.cons_append, drifts, drifts, ih]
    omega

/-- One step more may lead lower. -/
theorem lowest_concat (steps : List Step) (step : Step) :
    lowest (steps ++ [step]) = min (lowest steps) (drifts (steps ++ [step])) := by
  -- All counts but the last leave the new step out.
  have before : (List.range (steps.length + 1)).map (fun count =>
        drifts ((steps ++ [step]).take count)) =
      (List.range (steps.length + 1)).map fun count => drifts (steps.take count) := by
    apply List.map_congr_left
    intro count mem
    have bound : count ≤ steps.length := Nat.le_of_lt_succ (List.mem_range.1 mem)
    rw [List.take_append_of_le_length bound]
  have all : (steps ++ [step]).take (steps.length + 1) = steps ++ [step] :=
    List.take_of_length_le (by simp)
  rw [lowest, List.length_append, List.length_singleton, List.range_succ, List.map_append, before,
    List.foldl_append, List.map_singleton, all]
  rfl

end Step

open Step (drifts lowest drifts_concat lowest_concat)

/-- A step leads no further out than to the outermost level. -/
theorem level_perform (page : Page) (step : Step) :
    ((page.perform step).level : Int) = max 0 (page.level + step.drift) := by
  cases step with
  | push instruction =>
    cases instruction with
    | indent =>
      show ((page.level + 1 : Nat) : Int) = max 0 ((page.level : Int) + 1)
      omega
    | dedent =>
      show ((page.level - 1 : Nat) : Int) = max 0 ((page.level : Int) + -1)
      omega
    | line | raw | blank =>
      show (page.level : Int) = max 0 ((page.level : Int) + 0)
      omega
  | emit thing =>
    have same : (page.emit thing).level = page.level := by
      rw [emit, Instruction.level_follow, (NestedRender.balanced thing).levelAfterAll]
    show ((page.emit thing).level : Int) = max 0 ((page.level : Int) + 0)
    omega

/-- The depth is what the steps lead to, counted from the lowest point on the way. -/
theorem level_drive (style : Indent) (steps : List Step) :
    (((empty style).drive steps).level : Int) = drifts steps - lowest steps := by
  induction steps using List.reverseRecOn with
  | nil => rfl
  | append_singleton steps step ih =>
    have next := level_perform ((empty style).drive steps) step
    have here := drifts_concat steps step
    have low := lowest_concat steps step
    rw [drive_append]
    show ((((empty style).drive steps).perform step).level : Int) = _
    -- A step that would lead out further makes a new lowest point, from which the depth is zero.
    omega

/-- Steps are followed as their instructions in a row. -/
theorem drive_eq_follow (page : Page) (steps : List Step) :
    page.drive steps = page.follow (steps.flatMap Step.instructions) := by
  induction steps generalizing page with
  | nil => rfl
  | cons step steps ih =>
    have first : page.perform step = page.follow step.instructions := by cases step <;> rfl
    rw [List.flatMap_cons, follow_append, ← first, ← ih]
    rfl

/-- Steps keep the style of the page. -/
theorem drive_style (page : Page) (steps : List Step) : (page.drive steps).style = page.style := by
  rw [drive_eq_follow, follow_style]

/-- Steps append to the text of the page. -/
theorem exists_text_drive (page : Page) (steps : List Step) :
    ∃ added, (page.drive steps).text = page.text ++ added := by
  rw [drive_eq_follow]
  exact ⟨_, page.text_follow _⟩

/-- Steps out lead to the outermost level at most. -/
theorem drive_replicate_dedent (page : Page) (count : Nat) :
    page.drive (List.replicate count (.push .dedent)) =
      { page with level := page.level - count } := by
  induction count generalizing page with
  | zero => rfl
  | succ count ih =>
    have first : page.perform (.push .dedent) = { page with level := page.level - 1 } := by
      simp [perform, write, levelAfter, appended]
    have less : page.level - 1 - count = page.level - (count + 1) := by omega
    rw [List.replicate_succ]
    show (page.perform (.push .dedent)).drive _ = _
    rw [ih, first, less]

/-- A page that is driven from the start by any steps is as deep as the steps in and out lead,
counted from the lowest point on the way, and keeps its style. Whatever is done to it then appends
to its text, and a line does so after one unit of the style for each level. Steps out beyond the
outermost level change nothing for the steps after them. -/
theorem depth_driven (style : Indent) (steps : List Step) :
    let page := (empty style).drive steps
    (page.level : Int) = drifts steps - lowest steps ∧ page.style = style ∧
      (∀ more, ∃ added, (page.drive more).text = page.text ++ added) ∧
      (∀ line, (page.drive [.push (.line line)]).text =
        page.text ++ (String.join (List.replicate page.level style.unit) ++ line ++ "\n")) ∧
      ∀ surplus more,
        page.drive (List.replicate (page.level + surplus) (.push .dedent) ++ more) =
          page.drive (List.replicate page.level (.push .dedent) ++ more) := by
  intro page
  have kept : page.style = style := drive_style (empty style) steps
  refine ⟨level_drive style steps, kept, fun more => exists_text_drive page more, ?_, ?_⟩
  · intro line
    rw [← Indent.margin_eq_join, ← kept]
    rfl
  · intro surplus more
    have all : page.level - (page.level + surplus) = page.level - page.level := by omega
    rw [drive_append, drive_append, drive_replicate_dedent, drive_replicate_dedent, all]

/-- Steps in and out with things between them, the first of them out of the outermost level. -/
def wandering : List Step :=
  [.push .dedent, .emit Block.forever, .push .indent, .push .indent,
    .emit [Item.breaks, .blank], .push .dedent, .push (.line "done();")]

/-- The first step out takes nothing from the steps in after it. -/
theorem depth_driven_wandering :
    drifts wandering = 0 ∧ lowest wandering = -1 ∧ ((empty .kernel).drive wandering).level = 1 ∧
      ((empty .kernel).drive wandering).text =
        "for(;;) \x7b\n\x7d\n\t\tbreak;\n\n\tdone();\n" := by
  have drift : drifts wandering = 0 := rfl
  have low : lowest wandering = -1 := rfl
  have level := (depth_driven .kernel wandering).1
  refine ⟨drift, low, ?_, by decide⟩
  omega

end Page
end CSource
