import TopicReplay.Pattern.Parser
import TopicReplay.Store.Error

/-!
# Filters

A filter selects stored offsets by the names of their environment and topic, each
of which may have to match a pattern.
-/

namespace TopicReplay.Store

/-- Patterns for the names of environment and topic. A missing one matches all names. -/
structure Filter where
  environment : Option Pattern := none
  topic : Option Pattern := none
  deriving Inhabited

namespace Filter

/-- Reads the pattern of a filter. -/
def compile (pattern : String) : Except Error Pattern :=
  match Pattern.parse? pattern with
  | some p => .ok p
  | none => .error (.invalidFilter pattern "not a regular expression")

/-- Reads a pattern that may be missing. -/
def compileOption : Option String → Except Error (Option Pattern)
  | none => .ok none
  | some pattern => (compile pattern).map some

/-- Reads the patterns of a filter, that of the environment first. -/
def ofPatterns (environment topic : Option String) : Except Error Filter := do
  let environment ← compileOption environment
  let topic ← compileOption topic
  return { environment, topic }

/-- Whether the name of an environment is selected. -/
def matchesEnvironment (filter : Filter) (name : String) : Bool :=
  filter.environment.all fun p => p.isMatch name

/-- Whether the name of a topic is selected. -/
def matchesTopic (filter : Filter) (name : String) : Bool :=
  filter.topic.all fun p => p.isMatch name

end Filter

end TopicReplay.Store
