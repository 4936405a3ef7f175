import TopicReplay.Proofs.Json.Overlay
import TopicReplay.Yaml.Reader

/-!
# Documents have no repeated keys

What is read of a YAML text is tidy: no object within it has two members of one name,
however often a key is written and whichever values are repeated by aliases. Every reader
goes on at a place all of whose anchors have tidy values if it starts at one.

The main statement is `tidy_read?`.
-/

namespace TopicReplay.Yaml

/-! ## Places -/

/-- Whether the values with an anchor are tidy. -/
def Place.Tidy (place : Place) : Prop := ∀ entry ∈ place.anchors, entry.2.Tidy

/-- Places with the same anchors are tidy together. -/
theorem Place.Tidy.of_anchors {place other : Place} (tidy : place.Tidy)
    (same : other.anchors = place.anchors) : other.Tidy := by
  rw [Place.Tidy, same]
  exact tidy

theorem Place.Tidy.advance {place : Place} (tidy : place.Tidy) (count : Nat) :
    (place.advance count).Tidy := tidy

theorem Place.Tidy.skipBlanks {place : Place} (tidy : place.Tidy) : place.skipBlanks.Tidy := tidy

theorem Place.anchors_gapFrom (flow : Bool) (anchors : List (String × Json)) (comment fresh : Bool)
    (column : Nat) (cs : List Char) :
    (gapFrom flow anchors comment fresh column cs).anchors = anchors := by
  induction cs generalizing comment fresh column with
  | nil => rfl
  | cons c rest ih =>
      rw [gapFrom]
      repeat' split
      all_goals first | rfl | exact ih ..

theorem Place.Tidy.gap {place : Place} (tidy : place.Tidy) (flow : Bool) : (place.gap flow).Tidy :=
  tidy.of_anchors (anchors_gapFrom ..)

theorem Place.Tidy.note {place : Place} (tidy : place.Tidy) (anchor : Option String) {value : Json}
    (fits : value.Tidy) : (place.note anchor value).Tidy := by
  cases anchor with
  | none => exact tidy
  | some name =>
      intro entry found
      rcases List.mem_cons.mp found with rfl | old
      · exact fits
      · exact tidy entry old

/-! ## Readers -/

/-- Whether a reader yields only what fits and goes on at a tidy place. -/
def Keeps {α : Type} (fits : α → Prop) (read : Option (α × Place)) : Prop :=
  ∀ value after, read = some (value, after) → fits value ∧ after.Tidy

section Readers

variable {α β : Type} {fits : α → Prop} {aim : β → Prop} {read : Option (α × Place)}

theorem Keeps.none : Keeps fits none := by
  intro value after found
  cases found

theorem Keeps.some {value : α} {after : Place} (fit : fits value) (tidy : after.Tidy) :
    Keeps fits (some (value, after)) := by
  rintro _ _ ⟨⟩
  exact ⟨fit, tidy⟩

/-- Readers follow each other. -/
theorem Keeps.bind {next : α × Place → Option (β × Place)} (first : Keeps fits read)
    (later : ∀ value after, fits value → after.Tidy → Keeps aim (next (value, after))) :
    Keeps aim (read >>= next) := by
  intro value after found
  rcases Option.bind_eq_some_iff.mp found with ⟨⟨middle, place⟩, reads, goesOn⟩
  rcases first middle place reads with ⟨fit, tidy⟩
  exact later middle place fit tidy value after goesOn

/-- A reader follows what may fail. -/
theorem Keeps.of_option {γ : Type} {found : Option γ} {next : γ → Option (β × Place)}
    (later : ∀ part, found = .some part → Keeps aim (next part)) : Keeps aim (found >>= next) := by
  intro value after reads
  rcases Option.bind_eq_some_iff.mp reads with ⟨part, same, goesOn⟩
  exact later part same value after goesOn

theorem Keeps.map {change : α × Place → β × Place} (keeps : Keeps fits read)
    (later : ∀ value after, fits value → after.Tidy →
      aim (change (value, after)).1 ∧ (change (value, after)).2.Tidy) :
    Keeps aim (read.map change) := by
  intro value after found
  rcases Option.map_eq_some_iff.mp found with ⟨⟨old, place⟩, reads, same⟩
  rcases keeps old place reads with ⟨fit, tidy⟩
  have held := later old place fit tidy
  rw [same] at held
  exact held

end Readers

/-- What fits a reader of parts that hold no value. -/
abbrev anything {α : Type} (_ : α) : Prop := True

/-! ## Scalars -/

theorem keeps_anchorName? {place : Place} (tidy : place.Tidy) :
    Keeps anything place.anchorName? := by
  rw [Place.anchorName?]
  split
  · exact .none
  · exact .some trivial tidy

theorem keeps_tag? {place : Place} (tidy : place.Tidy) (flow : Bool) :
    Keeps anything (place.tag? flow) := by
  rw [Place.tag?]
  split
  · exact .some trivial tidy
  · exact .none

theorem keeps_properties? (flow : Bool) (more : Nat) {place : Place} (tidy : place.Tidy)
    (properties : Properties) : Keeps anything (place.properties? flow more properties) := by
  induction more generalizing place properties with
  | zero => exact .some trivial tidy
  | succ more ih =>
      rw [Place.properties?]
      split
      · refine (keeps_anchorName? (tidy.advance 1)).bind fun name after _ later => ?_
        apply ih
        exact later
      · refine (keeps_tag? tidy flow).bind fun tag after _ later => ?_
        apply ih
        exact later
      · exact .some trivial tidy

theorem keeps_plainFrom {place : Place} (tidy : place.Tidy) (flow : Bool) (indent : Nat)
    (text : List Char) (pending : Pending) (column : Nat) (cs : List Char) :
    Keeps anything (place.plainFrom flow indent text pending column cs) := by
  induction cs generalizing text pending column with
  | nil => exact .some trivial tidy
  | cons c rest ih =>
      rw [Place.plainFrom]
      repeat' split
      all_goals first | exact .none | exact .some trivial tidy | apply ih

theorem keeps_plain? {place : Place} (tidy : place.Tidy) (flow : Bool) (indent : Nat) :
    Keeps anything (place.plain? flow indent) := by
  rw [Place.plain?]
  split
  · apply keeps_plainFrom tidy
  · exact .none

theorem keeps_quotedFrom {place : Place} (tidy : place.Tidy) (double : Bool) (fuel : Nat)
    (text : List Char) (pending : Pending) (column : Nat) (cs : List Char) :
    Keeps anything (place.quotedFrom double fuel text pending column cs) := by
  induction fuel generalizing text pending column cs with
  | zero => exact .none
  | succ fuel ih =>
      cases cs with
      | nil => exact .none
      | cons c rest =>
          rw [Place.quotedFrom]
          repeat' split
          all_goals first | exact .none | exact .some trivial tidy | apply ih

theorem keeps_quoted? {place : Place} (tidy : place.Tidy) : Keeps anything place.quoted? := by
  rw [Place.quoted?]
  split
  · apply keeps_quotedFrom tidy
  · apply keeps_quotedFrom tidy
  · exact .none

theorem keeps_block? {place : Place} (tidy : place.Tidy) (folds : Bool) (outer : Int) :
    Keeps anything (place.block? folds outer) := by
  rw [Place.block?]
  refine .of_option fun rest _ => .of_option fun margin _ => .of_option fun lines _ => ?_
  exact .some trivial tidy

theorem keeps_alias? {place : Place} (tidy : place.Tidy) : Keeps Json.Tidy place.alias? := by
  rw [Place.alias?]
  refine (keeps_anchorName? (tidy.advance 1)).bind fun name after _ later => ?_
  refine .of_option fun value found => .some ?_ later
  exact tidy _ (Json.mem_of_lookup found)

/-- A scalar means no object. -/
theorem tidy_plainValue (cs : List Char) : (Scalar.plainValue cs).Tidy := by
  rw [Scalar.plainValue]
  repeat' split
  all_goals constructor

theorem tidy_resolve? {scalar : Scalar} {tag : Option String} {json : Json}
    (found : scalar.resolve? tag = some json) : json.Tidy := by
  cases tag with
  | none =>
      cases found
      rw [Scalar.value]
      split
      · exact tidy_plainValue _
      · exact .string _
  | some tag =>
      simp only [Scalar.resolve?, Scalar.tagged?] at found
      split at found
      · rcases Option.map_eq_some_iff.mp found with ⟨b, _, rfl⟩
        exact .bool b
      · rcases Option.map_eq_some_iff.mp found with ⟨n, _, rfl⟩
        exact .int n
      all_goals
        split at found
        · cases found
          constructor
        · cases found

/-! ## Keys -/

theorem keeps_keyText? {place : Place} (tidy : place.Tidy) (least : Nat) :
    Keeps anything (place.keyText? least) := by
  rw [Place.keyText?]
  split
  · split
    · rename_i found
      exact .some trivial (keeps_alias? tidy _ _ found).2
    · exact .none
  · exact (keeps_quoted? tidy).map fun _ _ _ after => ⟨trivial, after⟩
  · exact (keeps_quoted? tidy).map fun _ _ _ after => ⟨trivial, after⟩
  · exact (keeps_plain? tidy false least).map fun _ _ _ after => ⟨trivial, after⟩

theorem keeps_askedKey? {place : Place} (tidy : place.Tidy) : Keeps anything place.askedKey? := by
  rw [Place.askedKey?]
  refine (keeps_properties? false 2 ((tidy.advance 1).gap false) {}).bind
    fun properties start _ begins => ?_
  refine (keeps_keyText? begins _).bind fun name after _ later => ?_
  have noted := later.note properties.anchor (.string name)
  dsimp only
  split
  · split
    · exact .some trivial (noted.gap false)
    · exact .some trivial noted
  · exact .some trivial noted

theorem keeps_shortKey? {place : Place} (tidy : place.Tidy) : Keeps anything place.shortKey? := by
  rw [Place.shortKey?]
  refine (keeps_properties? false 2 tidy {}).bind fun properties start _ begins => ?_
  refine (keeps_keyText? begins 0).bind fun name after _ later => ?_
  have noted := (later.skipBlanks.advance 1).note properties.anchor (.string name)
  dsimp only
  split
  · split
    · exact .some trivial noted
    · exact .none
  · exact .none

theorem keeps_key? {place : Place} (tidy : place.Tidy) : Keeps anything place.key? := by
  rw [Place.key?]
  split
  · exact keeps_askedKey? tidy
  · exact keeps_shortKey? tidy

/-! ## Flow style -/

theorem keeps_flowScalar {after : Place} (tidy : after.Tidy) (scalar : Scalar)
    (tag : Option String) :
    Keeps (fun found => found.value.Tidy) ((scalar.flowValue? tag).map (·, after)) := by
  intro found last reads
  rcases Option.map_eq_some_iff.mp reads with ⟨_, meaning, ⟨⟩⟩
  rcases Option.map_eq_some_iff.mp meaning with ⟨json, means, rfl⟩
  exact ⟨tidy_resolve? means, tidy⟩

mutual

theorem keeps_flowValue? (fuel : Nat) {place : Place} (tidy : place.Tidy) :
    Keeps (fun found => found.value.Tidy) (flowValue? fuel place) := by
  cases fuel with
  | zero => exact .none
  | succ fuel =>
      rw [flowValue?]
      refine (keeps_properties? true 2 (tidy.gap true) {}).bind fun properties start _ begins => ?_
      -- Every kind of value is noted under its anchor at the end.
      have ends : ∀ (found : FlowValue) (after : Place), found.value.Tidy → after.Tidy →
          Keeps (fun found => found.value.Tidy)
            (some (found, { after.note properties.anchor found.value with fresh := false })) :=
        fun found after fit later => .some fit (later.note properties.anchor fit)
      dsimp only
      generalize chosen : (if properties.isEmpty then start else start.gap true) = next
      have nextTidy : next.Tidy := by
        rw [← chosen]
        split
        · exact begins
        · exact begins.gap true
      split
      · split
        · exact .none
        · refine (keeps_flowItems? fuel (nextTidy.advance 1)).bind fun items after fit later => ?_
          exact ends _ after (.array fit) later
      · split
        · exact .none
        · refine (keeps_flowMembers? fuel Json.tidy_empty (nextTidy.advance 1)).bind
            fun members after fit later => ?_
          exact ends _ after fit later
      · split
        · exact .none
        · refine (keeps_alias? nextTidy).bind fun value after fit later => ?_
          exact ends _ after fit later
      · refine (keeps_quoted? nextTidy).bind fun scalar after _ later => ?_
        exact (keeps_flowScalar later scalar _).bind ends
      · refine (keeps_quoted? nextTidy).bind fun scalar after _ later => ?_
        exact (keeps_flowScalar later scalar _).bind ends
      · split
        · exact (keeps_flowScalar nextTidy _ _).bind ends
        · refine (keeps_plain? nextTidy true 0).bind fun scalar after _ later => ?_
          exact (keeps_flowScalar later scalar _).bind ends

theorem keeps_flowMember? (fuel : Nat) {place : Place} (tidy : place.Tidy) :
    Keeps Json.Tidy (flowMember? fuel place) := by
  cases fuel with
  | zero => exact .none
  | succ fuel =>
      rw [flowMember?]
      split
      · dsimp only
        split
        · exact .some .null ((tidy.advance 1).gap true)
        · exact (keeps_flowValue? fuel ((tidy.advance 1).gap true)).map
            fun found after fit later => ⟨fit, later.gap true⟩
      · exact .some .null tidy

theorem keeps_flowItems? (fuel : Nat) {place : Place} (tidy : place.Tidy) :
    Keeps (fun items => ∀ item ∈ items, item.Tidy) (flowItems? fuel place) := by
  cases fuel with
  | zero => exact .none
  | succ fuel =>
      have goesOn : ∀ (item : Json) (after : Place), item.Tidy → after.Tidy →
          Keeps (fun items => ∀ item ∈ items, item.Tidy)
            (match after.rest with
            | ',' :: _ => do
                let (items, after) ← flowItems? fuel (after.advance 1)
                return (item :: items, after)
            | ']' :: _ => return ([item], after.advance 1)
            | _ => none) := by
        intro item after fit later
        split
        · refine (keeps_flowItems? fuel (later.advance 1)).bind fun items last fits ends => ?_
          exact .some (List.forall_mem_cons.mpr ⟨fit, fits⟩) ends
        · exact .some (List.forall_mem_singleton.mpr fit) (later.advance 1)
        · exact .none
      rw [flowItems?]
      split
      · exact .some (fun _ none => absurd none List.not_mem_nil) ((tidy.gap true).advance 1)
      · refine (keeps_flowValue? fuel (tidy.gap true)).bind fun found after fit later => ?_
        dsimp only
        split
        · split
          · exact .none
          · refine .of_option fun name _ => ?_
            refine (keeps_flowMember? fuel (later.gap true)).bind fun value ends held last => ?_
            exact goesOn _ ends (Json.tidy_empty.setMember held) last
        · exact goesOn _ _ fit (later.gap true)

theorem keeps_flowMembers? (fuel : Nat) {before : List (String × Json)}
    (soFar : Json.Tidy (.object before)) {place : Place} (tidy : place.Tidy) :
    Keeps (fun members => Json.Tidy (.object members)) (flowMembers? fuel before place) := by
  cases fuel with
  | zero => exact .none
  | succ fuel =>
      rw [flowMembers?]
      split
      · exact .some soFar ((tidy.gap true).advance 1)
      · dsimp only
        generalize asked : (if (place.gap true).rest.head? = some '?' then
          ((place.gap true).advance 1).gap true else place.gap true) = start
        have startTidy : start.Tidy := by
          rw [← asked]
          split
          · exact ((tidy.gap true).advance 1).gap true
          · exact tidy.gap true
        refine (keeps_flowValue? fuel startTidy).bind fun found after fit later => ?_
        refine .of_option fun name _ => ?_
        dsimp only
        split
        · exact .none
        · refine (keeps_flowMember? fuel (later.gap true)).bind fun value ends held last => ?_
          have members : Json.Tidy (.object (Json.setMember name value before)) :=
            soFar.setMember held
          dsimp only
          split
          · exact keeps_flowMembers? fuel members (last.advance 1)
          · exact .some members (last.advance 1)
          · exact .none

end

/-! ## Block style -/

theorem keeps_inline? {place : Place} (tidy : place.Tidy) (outer : Int) (properties : Properties) :
    Keeps Json.Tidy (place.inline? outer properties) := by
  have scalar : ∀ {read : Option (Scalar × Place)}, Keeps anything read →
      Keeps Json.Tidy (read >>= fun found =>
        (found.1.resolve? properties.tag) >>= fun json => some (json, found.2)) := by
    intro read keeps
    refine keeps.bind fun scalar after _ later => ?_
    exact .of_option fun json means => .some (tidy_resolve? means) later
  rw [Place.inline?]
  dsimp only
  split
  · split
    · exact (keeps_flowValue? _ tidy).map fun found after fit later => ⟨fit, later⟩
    · exact .none
  · split
    · exact (keeps_flowValue? _ tidy).map fun found after fit later => ⟨fit, later⟩
    · exact .none
  · split
    · exact keeps_alias? tidy
    · exact .none
  · exact scalar (keeps_quoted? tidy)
  · exact scalar (keeps_quoted? tidy)
  · exact scalar (keeps_block? tidy false outer)
  · exact scalar (keeps_block? tidy true outer)
  · exact scalar (keeps_plain? tidy false _)

mutual

theorem keeps_value? (fuel : Nat) (outer : Int) (loose : Bool) (given : Properties) {place : Place}
    (tidy : place.Tidy) : Keeps Json.Tidy (value? fuel outer loose given place) := by
  cases fuel with
  | zero => exact .none
  | succ fuel =>
      have begins := tidy.gap false
      rw [value?]
      dsimp only
      split
      · exact .of_option fun json means => .some (tidy_resolve? means) begins
      split
      · split
        · refine (keeps_items? fuel _ _ begins).bind fun items after fit later => ?_
          exact .some (.array fit) later
        · exact .none
      split
      · split
        · refine (keeps_members? fuel _ Json.tidy_empty begins).bind
            fun members after fit later => ?_
          exact .some fit later
        · exact .none
      refine (keeps_properties? false 2 begins {}).bind fun properties start _ next => ?_
      dsimp only
      split
      · exact keeps_inline? begins outer given
      split
      · exact .none
      split
      · refine (keeps_value? fuel outer loose properties next).bind fun value after fit later => ?_
        exact .some fit (later.note properties.anchor fit)
      · refine (keeps_inline? (next.gap false) outer properties).bind
          fun value after fit later => ?_
        exact .some fit (later.note properties.anchor fit)

theorem keeps_items? (fuel column : Nat) (loose : Bool) {place : Place} (tidy : place.Tidy) :
    Keeps (fun items => ∀ item ∈ items, item.Tidy) (items? fuel column loose place) := by
  cases fuel with
  | zero => exact .none
  | succ fuel =>
      have begins : Place.Tidy { place.advance 1 with fresh := true } := tidy.advance 1
      rw [items?]
      refine (keeps_value? fuel column false {} begins).bind fun item after fit later => ?_
      have next := later.gap false
      have alone : ∀ found ∈ [item], found.Tidy := List.forall_mem_singleton.mpr fit
      refine .of_option fun follow _ => ?_
      cases follow with
      | ended => exact .some alone next
      | more =>
          dsimp only
          split
          · refine (keeps_items? fuel column loose next).bind fun items last fits ends => ?_
            exact .some (List.forall_mem_cons.mpr ⟨fit, fits⟩) ends
          · split
            · exact .some alone next
            · exact .none

theorem keeps_members? (fuel column : Nat) {before : List (String × Json)}
    (soFar : Json.Tidy (.object before)) {place : Place} (tidy : place.Tidy) :
    Keeps (fun members => Json.Tidy (.object members)) (members? fuel column before place) := by
  cases fuel with
  | zero => exact .none
  | succ fuel =>
      rw [members?]
      refine (keeps_key? tidy).bind fun name begin _ start => ?_
      refine (keeps_value? fuel column true {} start).bind fun value after fit later => ?_
      have members : Json.Tidy (.object (Json.setMember name value before)) := soFar.setMember fit
      refine .of_option fun follow _ => ?_
      cases follow with
      | ended => exact .some members (later.gap false)
      | more => exact keeps_members? fuel column members (later.gap false)

end

/-! ## Documents -/

theorem Place.Tidy.skipEnds {place : Place} (tidy : place.Tidy) (fuel : Nat) :
    (place.skipEnds fuel).Tidy := by
  induction fuel generalizing place with
  | zero => exact tidy
  | succ fuel ih =>
      rw [Place.skipEnds]
      split
      · exact ih ((tidy.gap false).advance 3)
      · exact tidy.gap false

theorem keeps_skipDirective? {place : Place} (tidy : place.Tidy) :
    Keeps anything place.skipDirective? := by
  rw [Place.skipDirective?]
  dsimp only
  split
  · split
    · refine .some trivial (Place.Tidy.gap ?_ false)
      exact tidy.gap false
    · exact .none
  · exact .some trivial (tidy.gap false)

theorem keeps_root? {place : Place} (tidy : place.Tidy) (fuel : Nat) :
    Keeps Json.Tidy (place.root? fuel) := by
  rw [Place.root?]
  split
  · exact .some Json.tidy_empty (tidy.gap false)
  · exact keeps_value? fuel _ _ _ tidy

theorem tidy_document? {cs : List Char} {json : Json} (reads : document? cs = some json) :
    json.Tidy := by
  have begins : Place.Tidy ⟨cs, 0, true, []⟩ := fun _ none => absurd none List.not_mem_nil
  rw [document?] at reads
  rcases Option.bind_eq_some_iff.mp reads with ⟨⟨directed, start⟩, skips, reads⟩
  have startTidy := (keeps_skipDirective? (begins.skipEnds cs.length) _ _ skips).2
  dsimp only at reads
  split at reads
  case isTrue => cases reads
  case isFalse =>
    rcases Option.bind_eq_some_iff.mp reads with ⟨⟨value, after⟩, root, ends⟩
    have fits : value.Tidy := by
      refine (keeps_root? ?_ _ value after root).1
      split
      · exact startTidy
      · exact startTidy
    dsimp only at ends
    split at ends
    · rcases Option.some.inj ends with rfl
      exact fits
    · cases ends

/-- No object of a document has two members of one name. -/
theorem tidy_read? {text : String} {json : Json} (reads : read? text = some json) : json.Tidy := by
  unfold read? at reads
  dsimp only at reads
  generalize (if (unifyLines text.toList).head? = some '\uFEFF' then
    (unifyLines text.toList).drop 1 else unifyLines text.toList) = cs at reads
  split at reads
  · exact tidy_document? reads
  · cases reads

end TopicReplay.Yaml
