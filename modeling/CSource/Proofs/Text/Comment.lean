/-!
# Comments of C

A comment that begins with two slashes ends at the first line break that no backslash precedes, and
one that begins with a slash and a star ends at the first star with a slash after it. A comment that
does not end goes on to the end of the text. A text that is put into a comment leaves it open up to
where it was meant to end exactly when it holds none of these ends (`afterLine_append_iff`,
`afterBlock_append_iff`).
-/

namespace CSource.Text

/-- What follows the inside of a comment of one line, from the line break that ends it on. -/
def afterLine : List Char → List Char
  | [] => []
  | '\n' :: rest => '\n' :: rest
  | '\\' :: '\n' :: rest => afterLine rest
  | _ :: rest => afterLine rest

/-- What follows the inside of a comment that may have several lines. -/
def afterBlock : List Char → List Char
  | [] => []
  | '*' :: '/' :: rest => rest
  | _ :: rest => afterBlock rest

/-- What follows a comment of one line is no longer than the text from the comment on. -/
theorem length_afterLine_le (text : List Char) : (afterLine text).length ≤ text.length := by
  fun_induction afterLine text with
  | case1 => exact Nat.le_refl _
  | case2 rest => exact Nat.le_refl _
  | case3 rest ih => exact Nat.le_trans ih (by simp [Nat.add_assoc])
  | case4 char rest _ _ ih => exact Nat.le_succ_of_le ih

/-- What follows a comment is no longer than the text from the comment on. -/
theorem length_afterBlock_le (text : List Char) : (afterBlock text).length ≤ text.length := by
  fun_induction afterBlock text with
  | case1 => exact Nat.le_refl _
  | case2 rest => simp [Nat.add_assoc]
  | case3 char rest _ ih => exact Nat.le_succ_of_le ih

/-- Whether every line break of a text has a backslash right before it, and no backslash stands at
the end of the text. -/
def StaysOnLine (text : List Char) : Prop :=
  text.getLast? ≠ some '\\' ∧
    ∀ before after, text = before ++ '\n' :: after → before.getLast? = some '\\'

/-- A text without line breaks and backslashes stays on its line. -/
theorem StaysOnLine.of_not_mem {text : List Char} (unbroken : '\n' ∉ text) (plain : '\\' ∉ text) :
    StaysOnLine text := by
  refine ⟨fun last => plain (List.mem_of_getLast? last), fun before after parts => ?_⟩
  exact absurd (parts ▸ by simp) unbroken

/-- A character changes nothing if it is no line break and no backslash before one or at the end. -/
theorem staysOnLine_cons {char : Char} {text : List Char} (unbroken : char ≠ '\n')
    (inside : char = '\\' → text ≠ [] ∧ text.head? ≠ some '\n') :
    StaysOnLine (char :: text) ↔ StaysOnLine text := by
  have last : (char :: text).getLast? = some '\\' ↔ text.getLast? = some '\\' := by
    cases text with
    | nil => simpa using fun same => (inside same).1 rfl
    | cons next text => rw [List.getLast?_cons_cons]
  unfold StaysOnLine
  rw [Ne, last]
  refine and_congr_right fun _ => ⟨fun breaks before after parts => ?_,
    fun breaks before after parts => ?_⟩
  · have found := breaks (char :: before) after (by rw [parts, List.cons_append])
    cases before with
    | nil =>
      have spliced : char = '\\' := by simpa using found
      exact absurd (by rw [parts]; rfl) (inside spliced).2
    | cons next before => rwa [List.getLast?_cons_cons] at found
  · cases before with
    | nil => exact absurd (List.cons.inj parts).1 unbroken
    | cons next before =>
      have found := breaks before after (List.cons.inj parts).2
      rw [List.getLast?_cons, found]
      rfl

/-- A line break after a backslash changes nothing. -/
theorem staysOnLine_spliced (text : List Char) :
    StaysOnLine ('\\' :: '\n' :: text) ↔ StaysOnLine text := by
  have last : ('\\' :: '\n' :: text).getLast? = some '\\' ↔ text.getLast? = some '\\' := by
    cases text with
    | nil => decide
    | cons next text => rw [List.getLast?_cons_cons, List.getLast?_cons_cons]
  unfold StaysOnLine
  rw [Ne, last]
  refine and_congr_right fun _ => ⟨fun breaks before after parts => ?_,
    fun breaks before after parts => ?_⟩
  · have found := breaks ('\\' :: '\n' :: before) after (by rw [parts]; rfl)
    cases before with
    | nil => exact absurd found (by decide)
    | cons next before => rwa [List.getLast?_cons_cons, List.getLast?_cons_cons] at found
  · match before, parts with
    | [first], parts => rw [(List.cons.inj parts).1.symm]; rfl
    | first :: second :: before, parts =>
      have found := breaks before after (List.cons.inj (List.cons.inj parts).2).2
      rw [List.getLast?_cons_cons, List.getLast?_cons, found]
      rfl

/-- A comment of one line ends where the text that it holds does exactly when the text stays on its
line. -/
theorem afterLine_append_iff (text rest : List Char) :
    afterLine (text ++ '\n' :: rest) = '\n' :: rest ↔ StaysOnLine text := by
  fun_induction afterLine text with
  | case1 => simp [afterLine, StaysOnLine]
  | case2 inner =>
    refine iff_of_false (fun same => ?_) fun stays => ?_
    · have length := congrArg List.length same
      simp [afterLine] at length
      omega
    · exact absurd (stays.2 [] inner rfl) (by simp)
  | case3 inner ih => exact ih.trans (staysOnLine_spliced inner).symm
  | case4 char inner unbroken unspliced ih =>
    rw [List.cons_append]
    by_cases trailing : char = '\\' ∧ inner = []
    · obtain ⟨rfl, rfl⟩ := trailing
      refine iff_of_false (fun same => ?_) fun stays => stays.1 rfl
      have length := length_afterLine_le rest
      rw [List.nil_append, afterLine] at same
      rw [same, List.length_cons] at length
      omega
    · have next : ∀ later, char = '\\' → inner ++ '\n' :: rest = '\n' :: later → False := by
        intro later backslash shape
        cases inner with
        | nil => exact trailing ⟨backslash, rfl⟩
        | cons first inner =>
          exact unspliced inner backslash (by rw [(List.cons.inj shape).1])
      rw [afterLine.eq_4 _ _ unbroken next, ih, staysOnLine_cons unbroken]
      intro backslash
      refine ⟨fun empty => trailing ⟨backslash, empty⟩, fun head => ?_⟩
      obtain ⟨later, shape⟩ := List.head?_eq_some_iff.1 head
      exact unspliced later backslash shape

/-- The end of a comment in two texts is in one of them where it cannot lie across. -/
theorem infix_append_iff (left right : List Char)
    (apart : left.getLast? ≠ some '*' ∨ right.head? ≠ some '/') :
    ['*', '/'] <:+: left ++ right ↔ ['*', '/'] <:+: left ∨ ['*', '/'] <:+: right := by
  induction left with
  | nil => simp
  | cons char left ih =>
    cases left with
    | nil =>
      have across : ¬ ['*', '/'] <+: char :: right := by
        rintro ⟨rest, shape⟩
        obtain ⟨rfl, rfl⟩ := List.cons.inj shape
        simp at apart
      have single : ¬ ['*', '/'] <:+: [char] := fun inside => by
        simpa using inside.length_le
      rw [List.singleton_append, List.infix_cons_iff]
      simp only [across, single]
    | cons next left =>
      have later := ih (by rwa [List.getLast?_cons_cons] at apart)
      have first : ['*', '/'] <+: char :: (next :: left ++ right) ↔
          ['*', '/'] <+: char :: next :: left := by
        simp [List.cons_prefix_cons]
      rw [List.cons_append, List.infix_cons_iff, later, first, ← or_assoc, ← List.infix_cons_iff]

/-- A comment ends where the text that it holds does exactly when the text does not hold its end. -/
theorem afterBlock_append_iff (text rest : List Char) :
    afterBlock (text ++ '*' :: '/' :: rest) = rest ↔ ¬ ['*', '/'] <:+: text := by
  fun_induction afterBlock text with
  | case1 => simp [afterBlock]
  | case2 inner =>
    refine iff_of_false (fun same => ?_) fun free => free ⟨[], inner, rfl⟩
    have length := congrArg List.length same
    simp [afterBlock] at length
    omega
  | case3 char inner other ih =>
    have next : ∀ later, char = '*' → inner ++ '*' :: '/' :: rest = '/' :: later → False := by
      intro later star shape
      cases inner with
      | nil => exact absurd (List.cons.inj shape).1 (by decide)
      | cons first inner => exact other inner star (by rw [(List.cons.inj shape).1])
    have first : ¬ ['*', '/'] <+: char :: inner := by
      rintro ⟨later, shape⟩
      obtain ⟨star, rest⟩ := List.cons.inj shape
      exact other later star.symm rest.symm
    rw [List.cons_append, afterBlock.eq_3 _ _ next, ih, List.infix_cons_iff]
    simp only [first, false_or]

end CSource.Text
