import TopicReplay.Text.Style

/-!
# Whether colours are shown

Two environment variables decide, and where neither does, colours are shown on a
terminal unless a third one turns them off. A variable is off if its text is `0`.
-/

namespace TopicReplay.Text

/-- What a variable says about colours. -/
def switchOf (environment : List (String × String)) (name : String) : Option Bool :=
  (environment.lookup name).map (· != "0")

/-- Whether colours are shown. -/
def showsColours (environment : List (String × String)) (terminal : Bool) : Bool :=
  if switchOf environment "CLICOLOR_FORCE" = some true then true
  else if (switchOf environment "NO_COLOR").isSome then false
  else terminal && (switchOf environment "CLICOLOR").getD true

end TopicReplay.Text
