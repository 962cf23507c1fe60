import CSource.Layout.Page

/-!
# Nesting of instructions

Instructions are nested when no start of them goes further out than in and all of them end where
they began. The depth at which a page writes a line is then known without the page: nested
instructions in a row begin at one depth, and those of a body one level deeper (`Writes`).
-/

namespace CSource

/-- What an instruction leaves on a page. -/
inductive Page.Row where
  /-- A line at a depth. -/
  | line (depth : Nat) (text : String)
  /-- Text as it is. -/
  | raw (text : String)
  /-- An empty line. -/
  | blank
deriving DecidableEq, Repr

/-- A row some levels deeper. -/
def Page.Row.deeper (level : Nat) : Page.Row → Page.Row
  | line depth text => .line (level + depth) text
  | raw text => .raw text
  | blank => .blank

namespace Instruction

/-- What an instruction leaves on a page of the given depth, if anything. -/
def row? (depth : Nat) : Instruction → Option Page.Row
  | line text => some (.line depth text)
  | raw text => some (.raw text)
  | blank => some .blank
  | indent | dedent => none

/-- What instructions leave on a page, each line at the depth that the page has there. -/
def written (level : Nat) : List Instruction → List Page.Row
  | [] => []
  | step :: steps => (step.row? level).toList ++ written (Page.levelAfter level step) steps

/-- The depth after some instructions. -/
def levelAfterAll (level : Nat) (steps : List Instruction) : Nat :=
  steps.foldl Page.levelAfter level

/-- A page has the depth that the instructions lead to. -/
theorem level_follow (page : Page) (steps : List Instruction) :
    (page.follow steps).level = levelAfterAll page.level steps := by
  induction steps generalizing page with
  | nil => rfl
  | cons step steps ih => exact ih (page.write step)

/-- Instructions in a row leave what they leave one after the other. -/
theorem written_append (level : Nat) (left right : List Instruction) :
    written level (left ++ right) =
      written level left ++ written (levelAfterAll level left) right := by
  induction left generalizing level with
  | nil => rfl
  | cons step left ih =>
    rw [List.cons_append, written, written, ih, List.append_assoc]
    rfl

/-- Where no start of some instructions goes further out than in and what there is, the depth is
what the counts say. -/
theorem levelAfterAll_add_count {steps : List Instruction} {level : Nat}
    (bounded : ∀ before, before <+: steps →
      before.count .dedent ≤ before.count .indent + level) :
    levelAfterAll level steps + steps.count .dedent = level + steps.count .indent := by
  -- The bound on the rest is the bound on longer starts, with the first step in the depth.
  induction steps generalizing level with
  | nil => rfl
  | cons step steps ih =>
    have rest : ∀ before, before <+: steps →
        before.count .dedent ≤ before.count .indent + Page.levelAfter level step := by
      intro before start
      have longer := bounded (step :: before) (List.cons_prefix_cons.2 ⟨rfl, start⟩)
      have first := bounded [step] (List.cons_prefix_cons.2 ⟨rfl, List.nil_prefix⟩)
      cases step <;> simp [Page.levelAfter] at longer first ⊢ <;> omega
    have first := bounded [step] (List.cons_prefix_cons.2 ⟨rfl, List.nil_prefix⟩)
    have later := ih rest
    have next : levelAfterAll level (step :: steps) =
        levelAfterAll (Page.levelAfter level step) steps := rfl
    rw [next]
    cases step <;> simp [Page.levelAfter] at first later ⊢ <;> omega

/-- Whether instructions are nested. -/
structure Balanced (steps : List Instruction) : Prop where
  /-- No start of them goes further out than in. -/
  starts : ∀ before, before <+: steps → before.count .dedent ≤ before.count .indent
  /-- All of them go as far in as out. -/
  whole : steps.count .indent = steps.count .dedent

namespace Balanced

/-- Nested instructions end at the depth where they began. -/
theorem levelAfterAll {steps : List Instruction} (balanced : Balanced steps) (level : Nat) :
    levelAfterAll level steps = level := by
  have bounded : ∀ before, before <+: steps →
      before.count .dedent ≤ before.count .indent + level := fun before start =>
    Nat.le_add_right_of_le (balanced.starts before start)
  have counts := levelAfterAll_add_count bounded
  have whole := balanced.whole
  omega

/-- Before an instruction of nested ones that goes out, the depth is more than where they
began. -/
theorem lt_levelAfterAll {steps before after : List Instruction} (balanced : Balanced steps)
    (parts : steps = before ++ .dedent :: after) (level : Nat) :
    level < Instruction.levelAfterAll level before := by
  have bounded : ∀ first, first <+: before →
      first.count .dedent ≤ first.count .indent + level := fun first start =>
    Nat.le_add_right_of_le
      (balanced.starts first (start.trans (parts ▸ List.prefix_append before _)))
  have counts := levelAfterAll_add_count bounded
  have further := balanced.starts (before ++ [.dedent]) (parts ▸ ⟨after, by simp⟩)
  simp only [List.count_append, List.count_singleton_self] at further
  have out : List.count Instruction.indent [Instruction.dedent] = 0 := rfl
  omega

/-- No instructions are nested. -/
theorem nil : Balanced [] := by
  refine ⟨fun before start => ?_, rfl⟩
  rw [List.prefix_nil.1 start]
  exact Nat.le_refl _

/-- Nested instructions in a row are nested. -/
theorem append {left right : List Instruction} (first : Balanced left) (second : Balanced right) :
    Balanced (left ++ right) := by
  constructor
  · intro before start
    rcases List.prefix_or_prefix_of_prefix start (List.prefix_append left right) with inside | past
    · exact first.starts before inside
    · obtain ⟨rest, rfl⟩ := past
      have later := second.starts rest ((List.prefix_append_right_inj left).1 start)
      have whole := first.whole
      simp only [List.count_append]
      omega
  · have whole := first.whole
    have other := second.whole
    simp only [List.count_append]
    omega

/-- A body of nested instructions is nested. -/
theorem nested {body : List Instruction} (balanced : Balanced body) :
    Balanced (Instruction.nested body) := by
  have whole := balanced.whole
  constructor
  · intro before start
    rcases List.prefix_cons_iff.1 start with rfl | ⟨rest, rfl, inner⟩
    · exact Nat.le_refl _
    · rcases List.prefix_concat_iff.1 inner with rfl | inside
      · simp [List.count_append, whole]
      · have bounded := balanced.starts rest inside
        simp only [List.count_cons_self, List.count_cons_of_ne (show Instruction.indent ≠ .dedent
          from Instruction.noConfusion)]
        omega
  · simp [Instruction.nested, List.count_append, whole]

end Balanced

/-- Whether some instructions change no depth. -/
def IsFlat (steps : List Instruction) : Prop := ∀ step ∈ steps, step ≠ .indent ∧ step ≠ .dedent

instance : DecidablePred IsFlat := fun steps =>
  inferInstanceAs (Decidable (∀ step ∈ steps, step ≠ .indent ∧ step ≠ .dedent))

/-- What instructions leave on a page of one depth. -/
def rowsAt (depth : Nat) (steps : List Instruction) : List Page.Row := steps.filterMap (row? depth)

/-- What instructions leave at one depth, they leave deeper at another. -/
theorem rowsAt_add (level depth : Nat) (steps : List Instruction) :
    rowsAt (level + depth) steps = (rowsAt depth steps).map (.deeper level) := by
  induction steps with
  | nil => rfl
  | cons step steps ih =>
    unfold rowsAt at ih ⊢
    cases step <;> simp [List.filterMap_cons, row?, Page.Row.deeper, ih]

/-- Whether instructions are nested and leave the given rows, wherever they begin. -/
structure Writes (steps : List Instruction) (rows : Nat → List Page.Row) : Prop where
  /-- The instructions are nested. -/
  balanced : Balanced steps
  /-- Each row is left at its depth. -/
  written : ∀ level, written level steps = rows level

namespace Writes

/-- Instructions that change no depth leave everything at one. -/
theorem flat {steps : List Instruction} (flat : IsFlat steps) :
    Writes steps fun depth => rowsAt depth steps := by
  have none : ∀ before, before <+: steps →
      before.count .indent = 0 ∧ before.count .dedent = 0 := by
    intro before start
    exact ⟨List.count_eq_zero.2 fun mem => (flat _ (start.subset mem)).1 rfl,
      List.count_eq_zero.2 fun mem => (flat _ (start.subset mem)).2 rfl⟩
  refine ⟨⟨fun before start => ?_, ?_⟩, fun level => ?_⟩
  · have counts := none before start
    omega
  · have counts := none steps List.prefix_rfl
    omega
  · clear none
    induction steps with
    | nil => rfl
    | cons step steps ih =>
      have same : Page.levelAfter level step = level := by
        have only := flat step (by simp)
        cases step <;> simp [Page.levelAfter] at only ⊢
      have rest := ih fun next mem => flat next (List.mem_cons_of_mem _ mem)
      rw [Instruction.written, same, rest]
      cases shown : step.row? level <;> simp [rowsAt, shown]

/-- Nested instructions in a row leave what they leave at one depth. -/
theorem append {left right : List Instruction} {rows others : Nat → List Page.Row}
    (first : Writes left rows) (second : Writes right others) :
    Writes (left ++ right) fun depth => rows depth ++ others depth := by
  refine ⟨first.balanced.append second.balanced, fun level => ?_⟩
  rw [written_append, first.balanced.levelAfterAll, first.written, second.written]

/-- A body leaves what it leaves one level deeper. -/
theorem nested {body : List Instruction} {rows : Nat → List Page.Row} (inner : Writes body rows) :
    Writes (Instruction.nested body) fun depth => rows (depth + 1) := by
  refine ⟨inner.balanced.nested, fun level => ?_⟩
  have last : Instruction.written (level + 1) [.dedent] = [] := rfl
  have all : Instruction.written level (Instruction.nested body) =
      Instruction.written (level + 1) (body ++ [.dedent]) := rfl
  rw [all, written_append, inner.balanced.levelAfterAll, inner.written, last, List.append_nil]

/-- A body between parts that change no depth. -/
theorem between {front body back : List Instruction} {rows : Nat → List Page.Row}
    (before : IsFlat front) (inner : Writes body rows) (after : IsFlat back) :
    Writes (front ++ Instruction.nested body ++ back) fun depth =>
      rowsAt depth front ++ rows (depth + 1) ++ rowsAt depth back :=
  ((flat before).append inner.nested).append (flat after)

end Writes
end Instruction
end CSource
