import TopicReplay.Json.Value

/-!
# Laying one JSON value over another

Of two values the upper one counts, except that objects are laid over each other
member by member. A path of names leads to a value within nested objects.
-/

namespace TopicReplay.Json

/-- The members of an object with one of them set. -/
def setMember (name : String) (value : Json) : List (String × Json) → List (String × Json)
  | [] => [(name, value)]
  | (other, old) :: rest =>
      if other = name then (name, value) :: rest else (other, old) :: setMember name value rest

mutual

/-- A value with another one laid over it. -/
def overlay : Json → Json → Json
  | .object below, .object above => .object (overlayMembers below above)
  | _, above => above

/-- The members of an object with those of another one laid over them. -/
def overlayMembers (below : List (String × Json)) :
    List (String × Json) → List (String × Json)
  | [] => below
  | (name, value) :: rest =>
      let value :=
        match below.lookup name with
        | some old => overlay old value
        | none => value
      overlayMembers (setMember name value below) rest

end

/-- The value that a path of names leads to. -/
def at? : List String → Json → Option Json
  | [], json => some json
  | name :: path, .object members => (members.lookup name).bind (at? path)
  | _ :: _, _ => none

/-- Nested objects in which a path of names leads to a value. -/
def nest (path : List String) (value : Json) : Json :=
  path.foldr (fun name inner => .object [(name, inner)]) value

end TopicReplay.Json
