import Mathlib.Data.List.Induction
import TopicReplay.Config.Variables
import TopicReplay.Proofs.Config.Path

/-!
# What variables say

The layer of variables is tidy. As long as no variable names a path within that of another
one, nothing else in the layer touches what a variable sets: the layer says at the end of a
path what a variable sets there, and nothing more.

The main statements are `tidy_layer`, `said_layer_of_sets` and `sets_of_said_layer`.
-/

namespace TopicReplay.Config.Variables

open Json (Tidy stack)

/-! ## Values -/

theorem tidy_bare (cs : List Char) : (bare cs).Tidy := by
  rw [bare]
  repeat' split
  all_goals constructor

mutual

theorem tidy_value? {fuel : Nat} {cs rest : List Char} {json : Json}
    (reads : value? fuel cs = some (json, rest)) : json.Tidy := by
  cases fuel with
  | zero => cases reads
  | succ fuel =>
      rw [value?] at reads
      split at reads
      · cases reads
        exact .bool true
      · cases reads
        exact .bool false
      · rcases Option.bind_eq_some_iff.mp reads with ⟨⟨s, after⟩, _, ⟨⟩⟩
        exact .string _
      · rcases Option.bind_eq_some_iff.mp reads with ⟨⟨items, after⟩, found, ⟨⟩⟩
        exact .array (tidy_items? found)
      · rcases Option.bind_eq_some_iff.mp reads with ⟨⟨members, after⟩, found, ⟨⟩⟩
        exact tidy_members? Json.tidy_empty found
      · cases reads
        exact .string _
      · cases reads
      · cases reads
        exact tidy_bare _

theorem tidy_items? {fuel : Nat} {cs rest : List Char} {items : List Json}
    (reads : items? fuel cs = some (items, rest)) : ∀ item ∈ items, item.Tidy := by
  cases fuel with
  | zero => cases reads
  | succ fuel =>
      rw [items?.eq_def] at reads
      split at reads
      · cases reads
      · cases reads
        exact fun _ none => absurd none List.not_mem_nil
      · rename_i same _
        cases same
        rcases Option.bind_eq_some_iff.mp reads with ⟨⟨item, after⟩, first, goesOn⟩
        have fit := tidy_value? first
        dsimp only at goesOn
        split at goesOn
        · rcases Option.bind_eq_some_iff.mp goesOn with ⟨⟨others, last⟩, found, ⟨⟩⟩
          exact List.forall_mem_cons.mpr ⟨fit, tidy_items? found⟩
        · cases goesOn
          exact List.forall_mem_singleton.mpr fit
        · cases goesOn

theorem tidy_members? {fuel : Nat} {before members : List (String × Json)} {cs rest : List Char}
    (soFar : Tidy (.object before)) (reads : members? fuel before cs = some (members, rest)) :
    Tidy (.object members) := by
  cases fuel with
  | zero => cases reads
  | succ fuel =>
      rw [members?.eq_def] at reads
      split at reads
      · cases reads
      · cases reads
        exact soFar
      · rename_i same _
        cases same
        rcases Option.bind_eq_some_iff.mp reads with ⟨⟨name, begins⟩, _, goesOn⟩
        rcases Option.bind_eq_some_iff.mp goesOn with ⟨⟨value, after⟩, found, goesOn⟩
        have soFar : Tidy (.object (Json.setMember name value before)) :=
          soFar.setMember (tidy_value? found)
        dsimp only at goesOn
        split at goesOn
        · exact tidy_members? soFar goesOn
        · cases goesOn
          exact soFar
        · cases goesOn

end

theorem tidy_value (text : String) : (value text).Tidy := by
  rw [value]
  split
  · rename_i reads
    exact tidy_value? reads
  · exact .string text

/-! ## Paths -/

/-- Whether one path is not within another one, nor the other within it. -/
def Apart (first second : List String) : Prop := ¬first <+: second ∧ ¬second <+: first

/-- Whether no variable names a path within that of another one. -/
def AllApart (environment : List (String × String)) : Prop :=
  environment.Pairwise fun first second =>
    ∀ path ∈ path? first.1, ∀ other ∈ path? second.1, Apart path other

/-- Whether a variable sets a value at the end of a path, where its own path may end before
and its value hold the rest. -/
def Sets (environment : List (String × String)) (path : List Step) (json : Json) : Prop :=
  ∃ entry ∈ environment, ∃ before after, path = before ++ after ∧
    path? entry.1 = some (before.map Step.name) ∧ said after (some (value entry.2)) = some json

/-- Whether a path leads through objects to a place where nothing is. -/
def Free : List String → Option Json → Prop
  | [], layer => layer = none
  | name :: path, layer =>
      layer = none ∨ ∃ members, layer = some (.object members) ∧ Free path (members.lookup name)

theorem segments_ne_nil (current cs : List Char) : segments current cs ≠ [] := by
  fun_induction segments current cs with
  | case1 => exact List.cons_ne_nil _ _
  | case2 => exact List.cons_ne_nil _ _
  | case3 _ _ _ _ _ ih => exact ih
  | case4 => exact List.cons_ne_nil _ _

/-- No variable names the whole. -/
theorem path?_ne_nil {name : String} {path : List String} (named : path? name = some path) :
    path ≠ [] := by
  rw [path?] at named
  dsimp only at named
  split at named
  · split at named
    · cases named
    · cases named
      exact fun none => segments_ne_nil _ _ (List.map_eq_nil_iff.mp none)
  · cases named

theorem Apart.symm {first second : List String} (apart : Apart first second) :
    Apart second first := ⟨apart.2, apart.1⟩

/-- A path is apart from all that is within one that it is apart from. -/
theorem Apart.append {first second : List String} (apart : Apart first second)
    (rest : List String) : Apart first (second ++ rest) := by
  constructor
  · intro within
    rcases List.prefix_or_prefix_of_prefix within (List.prefix_append second rest) with less | more
    · exact apart.1 less
    · exact apart.2 more
  · exact fun within => apart.2 ((List.prefix_append second rest).trans within)

theorem apart_cons {name : String} {first second : List String} :
    Apart (name :: first) (name :: second) ↔ Apart first second := by
  simp only [Apart, List.cons_prefix_cons, true_and]

/-! ## One variable -/

theorem free_none (path : List String) : Free path none := by
  cases path with
  | nil => rfl
  | cons name path => exact .inl rfl

theorem Free.isObject {name : String} {path : List String} {layer : Option Json}
    (free : Free (name :: path) layer) : ∀ json ∈ layer, json.IsObject := by
  rcases free with rfl | ⟨members, rfl, _⟩
  · rintro _ ⟨⟩
  · rintro _ ⟨⟩
    exact ⟨members, rfl⟩

theorem Free.step {step : Step} {path : List String} {layer : Option Json}
    (free : Free (step.name :: path) layer) : Free path (layer.bind step.of?) := by
  rcases free with rfl | ⟨members, rfl, free⟩
  · exact free_none path
  · exact free

section Nest

variable {layer : Option Json} {value : Json}

/-- A step into a layer, over which a value stands at the end of a path. -/
theorem of?_stack_nest {step : Step} {name : String} {path : List String}
    (free : Free (name :: path) layer) (tidy : value.Tidy) :
    (stack layer (some (.nest (name :: path) value))).bind step.of? =
      stack (layer.bind step.of?) (if step.name = name then some (.nest path value) else none) := by
  have object : ∀ json ∈ some (Json.nest (name :: path) value), json.IsObject := by
    rintro _ ⟨⟩
    exact ⟨_, rfl⟩
  have fits : ∀ json ∈ some (Json.nest (name :: path) value), json.Tidy := by
    rintro _ ⟨⟩
    exact tidy.nest _
  rw [of?_stack free.isObject object fits]
  congr 1
  split
  · rename_i here
    rw [← here]
    exact List.lookup_cons_self
  · rename_i apart
    exact Json.lookup_cons_of_ne apart _ []

/-- A value that stands at the end of a free path is there with all that is in it. -/
theorem said_nest_within (tidy : value.Tidy) {before : List Step}
    (free : Free (before.map Step.name) layer) (after : List Step) :
    said (before ++ after) (stack layer (some (.nest (before.map Step.name) value))) =
      said after (some value) := by
  induction before generalizing layer with
  | nil =>
      rw [show layer = none from free]
      rfl
  | cons step before ih =>
      rw [List.map_cons] at free
      rw [List.cons_append, said, List.map_cons, of?_stack_nest free tidy, if_pos rfl]
      exact ih free.step

/-- A value at the end of a free path does not touch what is said elsewhere. -/
theorem said_nest_apart (tidy : value.Tidy) {named : List String} (free : Free named layer)
    {path : List Step} (apart : Apart named (path.map Step.name)) :
    said path (stack layer (some (.nest named value))) = said path layer := by
  induction path generalizing named layer with
  | nil => exact absurd List.nil_prefix apart.2
  | cons step path ih =>
      cases named with
      | nil => exact absurd List.nil_prefix apart.1
      | cons name named =>
          rw [said, said, of?_stack_nest free tidy]
          split
          case isTrue here =>
            subst here
            exact ih free.step (apart_cons.mp apart)
          case isFalse => rw [stack, Option.merge_none_right]

/-- Only objects stand above a value at the end of a free path. -/
theorem isObject_nest_above (tidy : value.Tidy) {path : List Step} {name : String}
    {rest : List String} (free : Free (path.map Step.name ++ name :: rest) layer) :
    ∀ json ∈ said path (stack layer (some (.nest (path.map Step.name ++ name :: rest) value))),
      json.IsObject := by
  induction path generalizing layer with
  | nil =>
      apply isObject_stack free.isObject
      rintro _ ⟨⟩
      exact ⟨_, rfl⟩
  | cons step path ih =>
      rw [List.map_cons, List.cons_append] at free ⊢
      rw [said, of?_stack_nest free tidy, if_pos rfl]
      exact ih free.step

/-- A value at the end of a free path leaves all paths free that are apart from it. -/
theorem Free.stack_nest (tidy : value.Tidy) {named path : List String} (free : Free named layer)
    (other : Free path layer) (apart : Apart named path) :
    Free path (stack layer (some (.nest named value))) := by
  induction path generalizing named layer with
  | nil => exact absurd List.nil_prefix apart.2
  | cons head path ih =>
      cases named with
      | nil => exact absurd List.nil_prefix apart.1
      | cons name named =>
          have object : ∀ json ∈ stack layer (some (.nest (name :: named) value)),
              json.IsObject := by
            apply isObject_stack free.isObject
            rintro _ ⟨⟩
            exact ⟨_, rfl⟩
          have inside := @of?_stack_nest _ _ ⟨head, []⟩ _ _ free tidy
          cases made : stack layer (some (.nest (name :: named) value)) with
          | none => exact .inl rfl
          | some json =>
              rcases object json made with ⟨members, rfl⟩
              refine .inr ⟨members, rfl, ?_⟩
              rw [made] at inside
              rw [show members.lookup head = _ from inside]
              have other := @Free.step ⟨head, []⟩ _ _ other
              split
              case isTrue here =>
                cases here
                exact ih free.step other (apart_cons.mp apart)
              case isFalse =>
                rw [stack, Option.merge_none_right]
                exact other

end Nest

/-! ## All variables -/

section Layer

variable {environment : List (String × String)}

/-- The layer with one more variable. -/
theorem layer_append (environment : List (String × String)) (entry : String × String) :
    layer (environment ++ [entry]) =
      match path? entry.1 with
      | some path => (layer environment).overlay (.nest path (value entry.2))
      | none => layer environment := by
  rw [layer, List.foldl_append]
  rfl

/-- No object in the layer of variables has two members of one name. -/
theorem tidy_layer (environment : List (String × String)) : (layer environment).Tidy := by
  induction environment using List.reverseRecOn with
  | nil => exact Json.tidy_empty
  | append_singleton environment entry ih =>
      rw [layer_append]
      split
      · exact ih.overlay ((tidy_value entry.2).nest _)
      · exact ih

theorem allApart_append {entry : String × String} (apart : AllApart (environment ++ [entry])) :
    AllApart environment ∧ ∀ earlier ∈ environment, ∀ path ∈ path? earlier.1,
      ∀ last ∈ path? entry.1, Apart path last := by
  rcases List.pairwise_append.mp apart with ⟨before, -, across⟩
  exact ⟨before, fun earlier member => across earlier member entry List.mem_cons_self⟩

/-- A path is free in the layer if it is apart from those of all variables. -/
theorem free_layer (apart : AllApart environment) {path : List String} (proper : path ≠ [])
    (other : ∀ entry ∈ environment, ∀ named ∈ path? entry.1, Apart named path) :
    Free path (some (layer environment)) := by
  induction environment using List.reverseRecOn generalizing path with
  | nil =>
      cases path with
      | nil => exact absurd rfl proper
      | cons name path => exact .inr ⟨[], rfl, free_none path⟩
  | append_singleton environment entry ih =>
      rcases allApart_append apart with ⟨before, last⟩
      have here := ih before proper fun earlier member =>
        other earlier (List.mem_append_left _ member)
      rw [layer_append]
      split
      case h_2 => exact here
      case h_1 named same =>
        have free := ih before (path?_ne_nil same) fun earlier member path found =>
          last earlier member path found named same
        exact free.stack_nest (tidy_value entry.2) here
          (other entry (List.mem_append_right _ List.mem_cons_self) named same)

theorem Sets.append {path : List Step} {json : Json} (sets : Sets environment path json)
    (entry : String × String) : Sets (environment ++ [entry]) path json := by
  rcases sets with ⟨setter, member, rest⟩
  exact ⟨setter, List.mem_append_left _ member, rest⟩

/-- The path of the last variable is free before it. -/
theorem free_last {entry : String × String} (apart : AllApart (environment ++ [entry]))
    {named : List String} (same : path? entry.1 = some named) :
    Free named (some (layer environment)) := by
  rcases allApart_append apart with ⟨before, last⟩
  exact free_layer before (path?_ne_nil same) fun earlier member path found =>
    last earlier member path found named same

/-- What a variable sets at the end of a path is said there. -/
theorem said_layer_of_sets (apart : AllApart environment) {path : List Step} {json : Json}
    (sets : Sets environment path json) : said path (some (layer environment)) = some json := by
  induction environment using List.reverseRecOn with
  | nil =>
      rcases sets with ⟨setter, member, _⟩
      cases member
  | append_singleton environment entry ih =>
      rcases allApart_append apart with ⟨earlierApart, last⟩
      rcases sets with ⟨setter, member, before, after, rfl, names, given⟩
      rw [layer_append]
      rcases List.mem_append.mp member with earlier | final
      · have sets : Sets environment (before ++ after) json :=
          ⟨setter, earlier, before, after, rfl, names, given⟩
        split
        case h_2 => exact ih earlierApart sets
        case h_1 named same =>
          have other : Apart named ((before ++ after).map Step.name) := by
            rw [List.map_append]
            exact (last setter earlier _ names named same).symm.append _
          rw [← ih earlierApart sets]
          exact said_nest_apart (tidy_value entry.2) (free_last apart same) other
      · rcases List.mem_singleton.mp final with rfl
        have free := free_last apart names
        rw [names]
        exact (said_nest_within (tidy_value setter.2) free after).trans given

/-- What is said at the end of a path is what a variable sets there, or else an object. -/
theorem sets_of_said_layer (apart : AllApart environment) {path : List Step} {json : Json}
    (same : said path (some (layer environment)) = some json) :
    json.IsObject ∨ Sets environment path json := by
  induction environment using List.reverseRecOn with
  | nil =>
      cases path with
      | nil => cases same; exact .inl ⟨[], rfl⟩
      | cons step path =>
          rw [said] at same
          cases (said_none path).symm.trans same
  | append_singleton environment entry ih =>
      have earlierApart := (allApart_append apart).1
      rw [layer_append] at same
      split at same
      case h_2 => exact (ih earlierApart same).imp_right fun sets => sets.append entry
      case h_1 named found =>
        have free := free_last apart found
        have tidy := tidy_value entry.2
        -- The path of the last variable ends on the way, or goes on behind it, or leads elsewhere.
        by_cases within : named <+: path.map Step.name
        · rcases List.map_eq_append_iff.mp within.choose_spec.symm with
            ⟨before, after, rfl, names, _⟩
          subst names
          refine .inr ⟨entry, List.mem_append_right _ List.mem_cons_self, before, after, rfl, found,
            ?_⟩
          exact (said_nest_within tidy free after).symm.trans same
        · by_cases above : path.map Step.name <+: named
          · rcases above with ⟨rest, rfl⟩
            cases rest with
            | nil => exact absurd (by simp) within
            | cons name rest => exact .inl (isObject_nest_above tidy free json same)
          · have kept := said_nest_apart tidy free ⟨within, above⟩
            exact (ih earlierApart (kept.symm.trans same)).imp_right fun sets => sets.append entry

end Layer

end TopicReplay.Config.Variables
