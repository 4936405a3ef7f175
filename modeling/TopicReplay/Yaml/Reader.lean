import TopicReplay.Json.Overlay
import TopicReplay.Text.Blank
import TopicReplay.Yaml.Text

/-!
# Reading YAML

A text holds one document, which is read as a JSON value. Collections are written
in block style, where indentation tells what belongs together, or in flow style
with brackets and braces. Keys are scalars, and of equal keys the last one counts.
An alias repeats the value of an anchor. Tags with handles of their own are refused.

Readers of what may nest take `fuel`, of which a few times the length of the text
is always enough.
-/

namespace TopicReplay.Yaml

/-! ## Properties and keys -/

/-- What may stand before a value. -/
structure Properties where
  anchor : Option String := none
  tag : Option String := none

/-- Whether a character may be part of an anchor's name. -/
def isAnchorChar (c : Char) : Bool := c.isAlphanum || c == '_' || c == '-'

/-- Whether an anchor's name may end before the rest of a text. -/
def endsAnchor (cs : List Char) : Bool :=
  endsWord cs || cs.head?.any fun c => c ∈ "?:,]\x7d%@\x60".toList

/-- Reads the name of an anchor. -/
def Place.anchorName? (place : Place) : Option (String × Place) :=
  let name := place.rest.takeWhile isAnchorChar
  let after := place.advance name.length
  if name.isEmpty || !endsAnchor after.rest then none else some (String.ofList name, after)

/-- Reads a tag, which ends at a blank or, in flow style, at a sign. -/
def Place.tag? (place : Place) (flow : Bool) : Option (String × Place) :=
  let tag := place.rest.takeWhile fun c => !endsWord [c] && !(flow && isFlowSign c)
  let after := place.advance tag.length
  if endsWord after.rest || flow then some (String.ofList tag, after) else none

/-- Reads an anchor and a tag in any order, at most one of each. -/
def Place.properties? (place : Place) (flow : Bool) :
    Nat → Properties → Option (Properties × Place)
  | 0, properties => some (properties, place)
  | more + 1, properties =>
      match place.rest, properties.anchor, properties.tag with
      | '&' :: _, none, _ => do
          let (name, after) ← (place.advance 1).anchorName?
          { after.skipBlanks with fresh := false }.properties? flow more
            { properties with anchor := some name }
      | '!' :: _, _, none => do
          let (tag, after) ← place.tag? flow
          { after.skipBlanks with fresh := false }.properties? flow more
            { properties with tag := some tag }
      | _, _, _ => some (properties, place)

/-- Whether there are none. -/
def Properties.isEmpty (properties : Properties) : Bool :=
  properties.anchor.isNone && properties.tag.isNone

/-- Notes the value of an anchor. -/
def Place.note (place : Place) (anchor : Option String) (value : Json) : Place :=
  match anchor with
  | some name => { place with anchors := (name, value) :: place.anchors }
  | none => place

/-- Reads an alias from behind its sign. -/
def Place.alias? (place : Place) : Option (Json × Place) := do
  let (name, after) ← (place.advance 1).anchorName?
  return (← place.anchors.lookup name, { after with fresh := false })

/-- Reads the scalar of a key, where an alias may stand for one. The further lines of
a scalar without quotes stand at column `least` or behind it. -/
def Place.keyText? (place : Place) (least : Nat) : Option (String × Place) :=
  match place.rest with
  | '*' :: _ =>
      match place.alias? with
      | some (.string s, after) => some (s, after)
      | _ => none
  | '"' :: _ | '\'' :: _ =>
      place.quoted?.map fun (scalar, after) => (String.ofList scalar.text, after)
  | _ => (place.plain? false least).map fun (scalar, after) => (String.ofList scalar.text, after)

/-- Whether a key behind a question mark begins here. -/
def Place.atAsked (place : Place) : Bool :=
  match place.rest with
  | '?' :: rest => endsWord rest
  | _ => false

/-- Reads a key behind a question mark. Its value begins behind a colon at the same
column, or is missing. -/
def Place.askedKey? (place : Place) : Option (String × Place) := do
  let (properties, start) ← ((place.advance 1).gap false).properties? false 2 {}
  let (name, after) ← start.keyText? (place.column + 1)
  let after := after.note properties.anchor (.string name)
  let colon := after.gap false
  match colon.rest with
  | ':' :: rest =>
      if endsWord rest && colon.fresh && colon.column = place.column then
        return (name, { colon.advance 1 with fresh := true })
      else return (name, after)
  | _ => return (name, after)

/-- Reads a key in block style, which stands on one line with the colon behind it. -/
def Place.shortKey? (place : Place) : Option (String × Place) := do
  let (properties, start) ← place.properties? false 2 {}
  let (name, after) ← start.keyText? 0
  let colon := after.skipBlanks
  match colon.rest with
  | ':' :: rest =>
      if endsWord rest && place.sameLine colon then
        let after := (colon.advance 1).note properties.anchor (.string name)
        return (name, { after with fresh := false })
      else none
  | _ => none

/-- Reads a key in block style. -/
def Place.key? (place : Place) : Option (String × Place) :=
  if place.atAsked then place.askedKey? else place.shortKey?

/-! ## Flow style -/

/-- A value in flow style with its text, if it can be a key. -/
structure FlowValue where
  text : Option String
  value : Json

/-- Whether a value in flow style is missing here. -/
def Place.lacksFlowValue (place : Place) : Bool :=
  place.rest.head?.all fun c => c == ',' || c == ']' || c == '\x7d' || c == ':'

/-- A scalar in flow style. -/
def Scalar.flowValue? (scalar : Scalar) (tag : Option String) : Option FlowValue :=
  (scalar.resolve? tag).map fun value => ⟨some (String.ofList scalar.text), value⟩

/-- Whether a collection may have a tag. -/
def allowsCollection (tag : Option String) : Bool := tag.all fun tag => tag.startsWith "!!"

mutual

/-- Reads a value in flow style. -/
def flowValue? : Nat → Place → Option (FlowValue × Place)
  | 0, _ => none
  | fuel + 1, place => do
      let (properties, start) ← (place.gap true).properties? true 2 {}
      let start := if properties.isEmpty then start else start.gap true
      let (found, after) ←
        match start.rest with
        | '[' :: _ =>
            if !allowsCollection properties.tag then none
            else
              let (items, after) ← flowItems? fuel (start.advance 1)
              some (⟨none, .array items⟩, after)
        | '\x7b' :: _ =>
            if !allowsCollection properties.tag then none
            else
              let (members, after) ← flowMembers? fuel [] (start.advance 1)
              some (⟨none, .object members⟩, after)
        | '*' :: _ =>
            if !properties.isEmpty then none
            else
              let (value, after) ← start.alias?
              let text := match value with
                | .string s => some s
                | _ => none
              some (⟨text, value⟩, after)
        | '"' :: _ | '\'' :: _ =>
            let (scalar, after) ← start.quoted?
            (scalar.flowValue? properties.tag).map (·, after)
        | _ =>
            if !properties.isEmpty && start.lacksFlowValue then
              ((⟨[], true⟩ : Scalar).flowValue? properties.tag).map (·, start)
            else
              let (scalar, after) ← start.plain? true 0
              (scalar.flowValue? properties.tag).map (·, after)
      return (found, { after.note properties.anchor found.value with fresh := false })

/-- Reads the value behind a key, which may be missing, and the colon before it. -/
def flowMember? : Nat → Place → Option (Json × Place)
  | 0, _ => none
  | fuel + 1, place =>
      match place.rest with
      | ':' :: _ =>
          let start := (place.advance 1).gap true
          if start.lacksFlowValue then some (.null, start)
          else (flowValue? fuel start).map fun (found, after) => (found.value, after.gap true)
      | _ => some (.null, place)

/-- Reads the items of a sequence from behind its bracket. An item may be a single
member of a mapping. -/
def flowItems? : Nat → Place → Option (List Json × Place)
  | 0, _ => none
  | fuel + 1, place => do
      let place := place.gap true
      if place.rest.head? = some ']' then return ([], place.advance 1)
      let (found, after) ← flowValue? fuel place
      let colon := after.gap true
      let (item, after) ←
        if colon.rest.head? = some ':' then
          if !place.sameLine colon then none
          else
            let name ← found.text
            let (value, after) ← flowMember? fuel colon
            some (.object [(name, value)], after)
        else some (found.value, colon)
      match after.rest with
      | ',' :: _ =>
          let (items, after) ← flowItems? fuel (after.advance 1)
          return (item :: items, after)
      | ']' :: _ => return ([item], after.advance 1)
      | _ => none

/-- Reads the members of a mapping from behind its brace. -/
def flowMembers? : Nat → List (String × Json) → Place → Option (List (String × Json) × Place)
  | 0, _, _ => none
  | fuel + 1, before, place => do
      let place := place.gap true
      if place.rest.head? = some '\x7d' then return (before, place.advance 1)
      let asked := place.rest.head? = some '?'
      let start := if asked then (place.advance 1).gap true else place
      let (found, after) ← flowValue? fuel start
      let colon := after.gap true
      let name ← found.text
      if colon.rest.head? = some ':' && !asked && !place.sameLine colon then none
      let (value, after) ← flowMember? fuel colon
      let members := Json.setMember name value before
      match after.rest with
      | ',' :: _ => flowMembers? fuel members (after.advance 1)
      | '\x7d' :: _ => return (members, after.advance 1)
      | _ => none

end

/-! ## Block style -/

/-- Reads a value that is no collection in block style, within one at column `outer`. -/
def Place.inline? (place : Place) (outer : Int) (properties : Properties) :
    Option (Json × Place) :=
  let scalar? (read : Option (Scalar × Place)) : Option (Json × Place) := do
    let (scalar, after) ← read
    return (← scalar.resolve? properties.tag, after)
  match place.rest with
  | '[' :: _ | '\x7b' :: _ =>
      if allowsCollection properties.tag then
        (flowValue? (4 * place.rest.length + 4) place).map fun (found, after) =>
          (found.value, after)
      else none
  | '*' :: _ => if properties.isEmpty then place.alias? else none
  | '"' :: _ | '\'' :: _ => scalar? place.quoted?
  | '|' :: _ => scalar? (place.block? false outer)
  | '>' :: _ => scalar? (place.block? true outer)
  | _ => scalar? (place.plain? false (outer + 1).toNat)

/-- What stands behind a value in block style. -/
inductive Follow where
  /-- The collection at a column has ended. -/
  | ended
  /-- The collection goes on. -/
  | more
  deriving DecidableEq, Repr

/-- Whether the collection at a column goes on at the next place, if that is on a
line of its own and not further in. -/
def Place.follow? (place : Place) (column : Nat) : Option Follow :=
  if place.atEnd then some .ended
  else if !place.fresh then none
  else if place.column < column then some .ended
  else if place.column = column then some .more
  else none

mutual

/-- Reads a value within a collection at column `outer`. The items of a sequence may
stand at that column where `loose` says so. -/
def value? : Nat → Int → Bool → Properties → Place → Option (Json × Place)
  | 0, _, _, _, _ => none
  | fuel + 1, outer, loose, given, place => do
      let place := place.gap false
      let dash := place.fresh && place.atDash
      let outside := place.fresh && (place.column : Int) ≤ outer
      if place.atEnd || (outside && !(loose && dash && (place.column : Int) = outer)) then
        return (← (⟨[], true⟩ : Scalar).resolve? given.tag, place)
      else if dash then
        if allowsCollection given.tag then
          let (items, after) ← items? fuel place.column ((place.column : Int) = outer) place
          return (.array items, after)
        else none
      else if place.fresh && place.key?.isSome then
        if allowsCollection given.tag then
          let (members, after) ← members? fuel place.column [] place
          return (.object members, after)
        else none
      else
        let (properties, start) ← place.properties? false 2 {}
        if properties.isEmpty then place.inline? outer given
        else if !given.isEmpty then none
        else
          let next := start.gap false
          let (value, after) ←
            if next.fresh || next.atEnd then value? fuel outer loose properties start
            else next.inline? outer properties
          return (value, after.note properties.anchor value)

/-- Reads the items of the sequence at a column, the first of which stands here. -/
def items? : Nat → Nat → Bool → Place → Option (List Json × Place)
  | 0, _, _, _ => none
  | fuel + 1, column, loose, place => do
      let (item, after) ← value? fuel column false {} { place.advance 1 with fresh := true }
      let after := after.gap false
      match ← after.follow? column with
      | .ended => return ([item], after)
      | .more =>
          if after.atDash then
            let (items, after) ← items? fuel column loose after
            return (item :: items, after)
          else if loose then return ([item], after)
          else none

/-- Reads the members of the mapping at a column, the first of which stands here. -/
def members? : Nat → Nat → List (String × Json) → Place →
    Option (List (String × Json) × Place)
  | 0, _, _, _ => none
  | fuel + 1, column, before, place => do
      let (name, after) ← place.key?
      let (value, after) ← value? fuel column true {} after
      let members := Json.setMember name value before
      let after := after.gap false
      match ← after.follow? column with
      | .ended => return (members, after)
      | .more => members? fuel column members after

end

/-! ## Documents -/

/-- Replaces every kind of line end by a line feed. -/
def unifyLines : List Char → List Char
  | '\r' :: '\n' :: rest => '\n' :: unifyLines rest
  | '\r' :: rest => '\n' :: unifyLines rest
  | '\u0085' :: rest => '\n' :: unifyLines rest
  | c :: rest => c :: unifyLines rest
  | [] => []

/-- Whether a character may stand in a text. -/
def isAllowed (c : Char) : Bool :=
  let n := c.toNat
  c == '\t' || c == '\n' || (0x20 ≤ n && n ≤ 0x7E) ||
    (0xA0 ≤ n && n != 0xFEFF && n != 0xFFFE && n != 0xFFFF)

/-- The lines that may say which version of the format is used. -/
def versions : List (List Char) := ["YAML 1.1".toList, "YAML 1.2".toList]

/-- The place behind a line that says which version of the format is used, and
whether there is one. -/
def Place.skipDirective? (place : Place) : Option (Bool × Place) :=
  let start := place.gap false
  match start.rest with
  | '%' :: rest =>
      let (line, rest) := rest.span (· != '\n')
      if start.column = 0 ∧ Text.trimRight line ∈ versions then
        some (true, { start with rest, fresh := true }.gap false)
      else none
  | _ => some (false, start)

/-- Whether a text begins with the sign of a document's start. -/
def beginsDocument (cs : List Char) : Bool := beginsMark cs && cs.head? == some '-'

/-- Passes over signs of a document's end. -/
def Place.skipEnds : Nat → Place → Place
  | 0, place => place
  | fuel + 1, place =>
      let next := place.gap false
      if next.atMark && !beginsDocument next.rest then (next.advance 3).skipEnds fuel else next

/-- Reads the value of a document, which is an empty object if there is none. -/
def Place.root? (place : Place) (fuel : Nat) : Option (Json × Place) :=
  let first := place.gap false
  if first.atEnd then some (.object [], first) else value? fuel (-1) false {} place

/-- The document of a text. -/
def document? (cs : List Char) : Option Json := do
  let start := Place.skipEnds cs.length ⟨cs, 0, true, []⟩
  let (directed, start) ← start.skipDirective?
  let marked := start.atMark && beginsDocument start.rest
  let start := if marked then { start.advance 3 with fresh := false } else start
  if directed && !marked then none
  else
    let (value, after) ← start.root? (4 * cs.length + 8)
    let after := after.gap false
    if after.atEnd && (after.skipEnds cs.length).rest.isEmpty then return value else none

/-- The value that a text describes. -/
def read? (text : String) : Option Json :=
  let cs := unifyLines text.toList
  let cs := if cs.head? = some '\uFEFF' then cs.drop 1 else cs
  if cs.all isAllowed then document? cs else none

end TopicReplay.Yaml
