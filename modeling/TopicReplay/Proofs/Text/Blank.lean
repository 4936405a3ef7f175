import TopicReplay.Text.Blank
import Mathlib.Data.List.DropRight

/-!
# Texts without white space at their ends

Trimming takes nothing but white space away, and taking it away at one end does not touch
what stands beyond a visible character. So it makes no difference to the trimmed text
whether some of the white space was gone before.

The main statements are `trim_append_cons` and `trim_trim`.
-/

namespace TopicReplay.Text

section Visible

variable {c : Char} (before after : List Char)

theorem trimLeft_append_cons (visible : isBlank c = false) :
    trimLeft (before ++ c :: after) = trimLeft before ++ c :: after := by
  unfold trimLeft
  rw [List.dropWhile_append]
  split
  case isTrue empty =>
    rw [List.isEmpty_iff.mp empty, List.nil_append]
    exact List.dropWhile_cons_of_neg (by simp [visible])
  case isFalse => rfl

theorem trimRight_append_cons (visible : isBlank c = false) :
    trimRight (before ++ c :: after) = before ++ c :: trimRight after := by
  have reversed := trimLeft_append_cons after.reverse before.reverse visible
  unfold trimLeft at reversed
  simp only [trimRight, List.reverse_append, List.reverse_cons, List.append_assoc,
    List.singleton_append, reversed, List.reverse_reverse]

/-- A visible character separates what is trimmed at the front from what is trimmed at
the end. -/
theorem trim_append_cons (visible : isBlank c = false) :
    trim (before ++ c :: after) = trimLeft before ++ c :: trimRight after := by
  rw [trim, trimLeft_append_cons before after visible,
    trimRight_append_cons (trimLeft before) after visible]

end Visible

/-- A text is white space, or has a visible character behind the white space at its front. -/
theorem all_blank_or_exists_visible (cs : List Char) :
    (∀ c ∈ cs, isBlank c = true) ∨
      ∃ before c after, cs = before ++ c :: after ∧ isBlank c = false := by
  by_cases blank : ∀ c ∈ cs, isBlank c = true
  · exact .inl blank
  · push Not at blank
    rcases blank with ⟨c, member, visible⟩
    rcases List.append_of_mem member with ⟨before, after, rfl⟩
    exact .inr ⟨before, c, after, rfl, by simpa using visible⟩

theorem visible_of_any {cs : List Char} (visible : cs.any isBlank = false) :
    ∀ c ∈ cs, isBlank c = false := fun c member =>
  Bool.eq_false_iff.mpr (List.any_eq_false.mp visible c member)

theorem trimLeft_eq_nil {cs : List Char} (blank : ∀ c ∈ cs, isBlank c = true) :
    trimLeft cs = [] :=
  List.dropWhile_eq_nil_iff.mpr blank

theorem trimRight_eq_nil {cs : List Char} (blank : ∀ c ∈ cs, isBlank c = true) :
    trimRight cs = [] := by
  have reversed : ∀ c ∈ cs.reverse, isBlank c = true := fun c member =>
    blank c (List.mem_reverse.mp member)
  rw [trimRight, List.dropWhile_eq_nil_iff.mpr reversed, List.reverse_nil]

@[simp]
theorem trimLeft_trimLeft (cs : List Char) : trimLeft (trimLeft cs) = trimLeft cs :=
  List.dropWhile_idempotent _ _

@[simp]
theorem trimRight_trimRight (cs : List Char) : trimRight (trimRight cs) = trimRight cs := by
  have again := trimLeft_trimLeft cs.reverse
  unfold trimLeft at again
  rw [trimRight, trimRight, List.reverse_reverse, again]

/-- The two ends of a text can be trimmed in any order. -/
theorem trimLeft_trimRight (cs : List Char) : trimLeft (trimRight cs) = trim cs := by
  rcases all_blank_or_exists_visible cs with blank | ⟨before, c, after, rfl, visible⟩
  · rw [trim, trimRight_eq_nil blank, trimLeft_eq_nil blank]
    rfl
  · rw [trim_append_cons before after visible, trimRight_append_cons before after visible,
      trimLeft_append_cons _ _ visible]

@[simp]
theorem trim_trimLeft (cs : List Char) : trim (trimLeft cs) = trim cs := by
  rw [trim, trimLeft_trimLeft, trim]

@[simp]
theorem trim_trimRight (cs : List Char) : trim (trimRight cs) = trim cs := by
  rw [trim, trimLeft_trimRight, trim, trimRight_trimRight]

@[simp]
theorem trim_trim (cs : List Char) : trim (trim cs) = trim cs := by
  change trim (trimRight (trimLeft cs)) = trim cs
  rw [trim_trimRight, trim_trimLeft]

/-- The last character of a text is visible. -/
def EndsVisible (cs : List Char) : Prop := ∃ front c, cs = front ++ [c] ∧ isBlank c = false

section Ends

variable {cs : List Char}

theorem EndsVisible.append (ends : EndsVisible cs) (before : List Char) :
    EndsVisible (before ++ cs) := by
  rcases ends with ⟨front, c, rfl, visible⟩
  exact ⟨before ++ front, c, (List.append_assoc before front [c]).symm, visible⟩

theorem EndsVisible.cons (ends : EndsVisible cs) (c : Char) : EndsVisible (c :: cs) :=
  ends.append [c]

/-- Of a text with white space behind it, trimming takes the white space. -/
theorem EndsVisible.trimRight_append (ends : EndsVisible cs) {blanks : List Char}
    (blank : ∀ c ∈ blanks, isBlank c = true) : trimRight (cs ++ blanks) = cs := by
  rcases ends with ⟨front, c, rfl, visible⟩
  rw [List.append_assoc, List.singleton_append, trimRight_append_cons front blanks visible,
    trimRight_eq_nil blank]

theorem endsVisible_of_forall (not_empty : cs ≠ []) (visible : ∀ c ∈ cs, isBlank c = false) :
    EndsVisible cs :=
  ⟨cs.dropLast, cs.getLast not_empty, (List.dropLast_append_getLast not_empty).symm,
    visible _ (List.getLast_mem not_empty)⟩

/-- A text with a visible character at either end is not changed by trimming. -/
theorem trim_eq_of_ends (starts : trimLeft cs = cs) (ends : EndsVisible cs) : trim cs = cs := by
  rcases ends with ⟨front, c, rfl, visible⟩
  rw [trim, starts]
  exact trimRight_append_cons front [] visible

theorem trim_eq_of_forall (visible : ∀ c ∈ cs, isBlank c = false) : trim cs = cs := by
  cases cs with
  | nil => rfl
  | cons c rest =>
      have starts : trimLeft (c :: rest) = c :: rest :=
        List.dropWhile_cons_of_neg (by simp [visible c List.mem_cons_self])
      exact trim_eq_of_ends starts (endsVisible_of_forall (List.cons_ne_nil c rest) visible)

end Ends

/-- Trimming takes away white space alone. -/
theorem mem_trim_iff {c : Char} (visible : isBlank c = false) {cs : List Char} :
    c ∈ trim cs ↔ c ∈ cs := by
  constructor
  · intro member
    rw [trim, trimRight, List.mem_reverse] at member
    have kept := List.mem_reverse.mp ((List.dropWhile_sublist _).subset member)
    exact (List.dropWhile_sublist _).subset kept
  · intro member
    rcases List.append_of_mem member with ⟨before, after, rfl⟩
    rw [trim_append_cons before after visible]
    simp

end TopicReplay.Text
