import TopicReplay.Json.Value

/-!
# Remote offsets

What a broker tells of the end of a partition: the offset, that there is no such
partition, or the reason why it cannot tell. As JSON it is an object with the state
and, where there is one, a value, or a list of the two.
-/

namespace TopicReplay

/-- The end of a partition as its broker tells it. -/
inductive RemoteOffset where
  | known (offset : Int)
  | unknown (reason : String)
  | notFound
  deriving DecidableEq, Repr

namespace RemoteOffset

/-- The offset, where it is known. -/
def known? : RemoteOffset → Option Int
  | .known offset => some offset
  | .unknown _ | .notFound => none

/-- The text of a remote offset. -/
def display : RemoteOffset → String
  | .known offset => Text.integerString offset
  | .unknown _ => "unknown"
  | .notFound => "not found"

/-- A remote offset as JSON. -/
def toJson : RemoteOffset → Json
  | .known offset => .object [("state", .string "known"), ("value", .int offset)]
  | .unknown reason => .object [("state", .string "unknown"), ("value", .string reason)]
  | .notFound => .object [("state", .string "not_found")]

/-- The name of a state, which may also be the only key of an object without a value. -/
def stateName? : Json → Option String
  | .string name => some name
  | .object [(name, .null)] => some name
  | _ => none

/-- The remote offset of a state and its value. -/
def ofState? (state : Json) (value : Option Json) : Option RemoteOffset := do
  match ← stateName? state, value with
  | "known", some (.int n) =>
      if Text.minInt64 ≤ n ∧ n ≤ Text.maxInt64 then some (.known n) else none
  | "unknown", some (.string reason) => some (.unknown reason)
  | "not_found", none => some .notFound
  | "not_found", some .null => some .notFound
  | _, _ => none

/-- Reads a remote offset. An object has one state and at most one value. Other members of it are
passed over. -/
def ofJson? : Json → Option RemoteOffset
  | .object members =>
      match members.filter (·.1 = "state"), members.filter (·.1 = "value") with
      | [(_, state)], [] => ofState? state none
      | [(_, state)], [(_, value)] => ofState? state (some value)
      | _, _ => none
  | .array [state, value] => ofState? state (some value)
  | _ => none

@[simp]
theorem known?_known (offset : Int) : (known offset).known? = some offset := rfl

theorem ofJson?_toJson {remote : RemoteOffset}
    (fits : ∀ n, remote = .known n → Text.minInt64 ≤ n ∧ n ≤ Text.maxInt64) :
    ofJson? remote.toJson = some remote := by
  cases remote with
  | known n =>
      have bounds := fits n rfl
      simp [toJson, ofJson?, ofState?, stateName?, bounds]
  | unknown reason => simp [toJson, ofJson?, ofState?, stateName?]
  | notFound => simp [toJson, ofJson?, ofState?, stateName?]

end RemoteOffset

end TopicReplay
