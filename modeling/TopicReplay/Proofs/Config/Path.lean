import TopicReplay.Proofs.Json.Overlay

/-!
# Paths through layers

A path leads through the sections of a layer, a section being an object or a list of its
members in their order. Of three layers over each other the uppermost one counts that says
something at the end of the path. Only a section that one of two layers gives as a list
stands as a whole: the lower one says nothing of it if the upper one gives it as well.

The main statement is `said_stack`.
-/

namespace TopicReplay.Config

open Json (IsObject Tidy stack)

/-- A step into a section: the name of a member, and the order in which a list has those
of the section. -/
structure Step where
  name : String
  order : List String

/-- The member of a section at a step. -/
def Step.of? (step : Step) : Json → Option Json
  | .object members => members.lookup step.name
  | .array items => (step.order.zip items).lookup step.name
  | _ => none

/-- What a layer says at the end of a path. -/
def said : List Step → Option Json → Option Json
  | [], layer => layer
  | step :: path, layer => said path (layer.bind step.of?)

/-- Whether a value is a list. -/
def isList : Json → Bool
  | .array _ => true
  | _ => false

/-- Whether two layers both give a section and one of them gives it as a list. -/
def clash : Option Json → Option Json → Bool
  | some below, some above => isList below || isList above
  | _, _ => false

/-- What a layer says at the end of a path as far as the one above it lets it stand. -/
def kept : List Step → Option Json → Option Json → Option Json
  | [], below, _ => below
  | step :: path, below, above =>
      if clash below above then none
      else kept path (below.bind step.of?) (above.bind step.of?)

/-- Whether a path leads through sections to what is no object, as far as it leads. -/
def Leads : List Step → Option Json → Prop
  | [], layer => ∀ json ∈ layer, ¬json.IsObject
  | step :: path, layer =>
      (∀ json ∈ layer, json.IsObject ∨ isList json = true) ∧ Leads path (layer.bind step.of?)

/-- Whether a path leads through objects only. -/
def Nested : List Step → Option Json → Prop
  | [], _ => True
  | step :: path, layer => (∀ json ∈ layer, json.IsObject) ∧ Nested path (layer.bind step.of?)

/-! ## One step -/

theorem tidy_of? {step : Step} {json found : Json} (tidy : json.Tidy)
    (same : step.of? json = some found) : found.Tidy := by
  cases json with
  | object members => exact tidy.of_lookup same
  | array items => exact tidy.of_item (List.of_mem_zip (Json.mem_of_lookup same)).2
  | null | bool | int | real | string => cases same

theorem tidy_bind {step : Step} {layer : Option Json} (tidy : ∀ json ∈ layer, json.Tidy) :
    ∀ json ∈ layer.bind step.of?, json.Tidy := by
  intro found same
  rcases Option.bind_eq_some_iff.mp same with ⟨json, held, leads⟩
  exact tidy_of? (tidy json held) leads

/-- A member of objects over each other is the upper one over the lower one. -/
theorem of?_stack {step : Step} {below above : Option Json}
    (lower : ∀ json ∈ below, json.IsObject) (upper : ∀ json ∈ above, json.IsObject)
    (tidy : ∀ json ∈ above, json.Tidy) :
    (stack below above).bind step.of? = stack (below.bind step.of?) (above.bind step.of?) := by
  cases above with
  | none => simp only [stack, Option.merge_none_right, Option.bind_none]
  | some a =>
      cases below with
      | none => simp only [stack, Option.merge_none_left, Option.bind_none]
      | some b =>
          rcases lower b rfl with ⟨members, rfl⟩
          rcases upper a rfl with ⟨others, rfl⟩
          exact Json.lookup_overlayMembers (tidy _ rfl).nodup members step.name

/-- Layers of objects are an object. -/
theorem isObject_stack {below above : Option Json} (lower : ∀ json ∈ below, json.IsObject)
    (upper : ∀ json ∈ above, json.IsObject) : ∀ json ∈ stack below above, json.IsObject := by
  cases above with
  | none =>
      rw [stack, Option.merge_none_right]
      exact lower
  | some a =>
      cases below with
      | none => exact upper
      | some b =>
          rcases lower b rfl with ⟨members, rfl⟩
          rcases upper a rfl with ⟨others, rfl⟩
          rintro _ ⟨⟩
          exact ⟨_, rfl⟩

/-- A layer that is no object hides the ones below. -/
theorem stack_of_above {below : Option Json} {above : Json} (plain : ¬above.IsObject) :
    stack below (some above) = some above := by
  cases below with
  | none => rfl
  | some b => exact congrArg some (Json.overlay_eq_above fun both => plain both.2)

/-- A layer hides one below that is no object. -/
theorem stack_of_below {below above : Json} (plain : ¬below.IsObject) :
    stack (some below) (some above) = some above :=
  congrArg some (Json.overlay_eq_above fun both => plain both.1)

/-- What is no object was said by the uppermost layer that says something. -/
theorem stack_eq_or {below above : Option Json}
    (plain : ∀ json ∈ stack below above, ¬json.IsObject) :
    stack below above = above.or below := by
  cases above with
  | none => cases below <;> rfl
  | some a =>
      by_cases object : a.IsObject
      · cases below with
        | none => rfl
        | some b =>
            by_cases both : b.IsObject
            · rcases both with ⟨members, rfl⟩
              rcases object with ⟨others, rfl⟩
              exact absurd ⟨_, rfl⟩ (plain _ rfl)
            · exact stack_of_below both
      · exact stack_of_above object

/-! ## Whole paths -/

@[simp]
theorem said_none (path : List Step) : said path none = none := by
  induction path with
  | nil => rfl
  | cons step path ih => exact ih

theorem leads_none (path : List Step) : Leads path none := by
  induction path with
  | nil => rintro _ ⟨⟩
  | cons step path ih =>
      refine ⟨?_, ih⟩
      rintro _ ⟨⟩

@[simp]
theorem kept_none (path : List Step) (above : Option Json) : kept path none above = none := by
  induction path generalizing above with
  | nil => rfl
  | cons step path ih => exact ih _

theorem kept_below_none (path : List Step) (below : Option Json) :
    kept path below none = said path below := by
  induction path generalizing below with
  | nil => rfl
  | cons step path ih =>
      have apart : clash below none = false := by cases below <;> rfl
      rw [kept, apart, if_neg Bool.false_ne_true]
      exact ih _

/-- Nothing stands of a section that a list takes the place of. -/
theorem kept_of_isList {step : Step} {path : List Step} {above : Json} (list : isList above = true)
    (below : Option Json) : kept (step :: path) below (some above) = none := by
  cases below with
  | none => exact kept_none _ _
  | some below => rw [kept, clash, list, Bool.or_true, if_pos rfl]

/-- Nothing stands of a section that is no object, if the layer above gives it. -/
theorem kept_of_not_isObject {step : Step} {path : List Step} {below : Json}
    (plain : ¬below.IsObject) (above : Json) :
    kept (step :: path) (some below) (some above) = none := by
  cases below with
  | object members => exact absurd ⟨members, rfl⟩ plain
  | array items => rfl
  | null | bool | int | real | string =>
      rw [kept]
      split
      · rfl
      · exact kept_none _ _

theorem clash_of_isObject {below above : Option Json} (lower : ∀ json ∈ below, json.IsObject)
    (upper : ∀ json ∈ above, json.IsObject) : clash below above = false := by
  cases below with
  | none => rfl
  | some b =>
      cases above with
      | none => rfl
      | some a =>
          rcases lower b rfl with ⟨members, rfl⟩
          rcases upper a rfl with ⟨others, rfl⟩
          rfl

/-- Of three layers the uppermost one counts that says something at the end of a path and
that the one above it lets stand. -/
theorem said_stack {path : List Step} {initial lower upper : Option Json}
    (nested : Nested path initial) (lowerTidy : ∀ json ∈ lower, json.Tidy)
    (upperTidy : ∀ json ∈ upper, json.Tidy)
    (leads : Leads path (stack (stack initial lower) upper)) :
    (said path (stack (stack initial lower) upper)).or (said path initial) =
      (said path upper).or ((kept path lower upper).or (said path initial)) := by
  induction path generalizing initial lower upper with
  | nil =>
      simp only [said, kept]
      rw [stack_eq_or leads]
      cases upper with
      | some value => rfl
      | none =>
          rw [stack, Option.merge_none_right] at leads
          rw [Option.none_or, Option.none_or, stack_eq_or leads, Option.or_assoc, Option.or_self]
  | cons step path ih =>
      rcases nested with ⟨initialObject, nested⟩
      rcases leads with ⟨given, leads⟩
      by_cases upperObject : ∀ json ∈ upper, json.IsObject
      case neg =>
        -- The upper layer takes the place of all, and it is a list because the path leads on.
        have plain : ∃ value, upper = some value ∧ ¬value.IsObject := by simpa using upperObject
        rcases plain with ⟨value, rfl, plain⟩
        rw [stack_of_above plain] at given ⊢
        have list := (given value rfl).resolve_left plain
        rw [kept_of_isList list, Option.none_or]
      by_cases lowerObject : ∀ json ∈ lower, json.IsObject
      case neg =>
        -- Of the lower layer only a list says anything, and nothing if the upper one gives more.
        have plain : ∃ value, lower = some value ∧ ¬value.IsObject := by simpa using lowerObject
        rcases plain with ⟨value, rfl, plain⟩
        rw [stack_of_above plain]
        cases upper with
        | none => rw [stack, Option.merge_none_right, said_none, kept_below_none, Option.none_or]
        | some above =>
            rw [stack_of_below plain, kept_of_not_isObject plain, Option.none_or]
      have below := isObject_stack initialObject lowerObject
      rw [of?_stack below upperObject upperTidy,
        of?_stack initialObject lowerObject lowerTidy] at leads
      rw [said, of?_stack below upperObject upperTidy,
        of?_stack initialObject lowerObject lowerTidy, kept,
        clash_of_isObject lowerObject upperObject]
      exact ih nested (tidy_bind lowerTidy) (tidy_bind upperTidy) leads

end TopicReplay.Config
