/-!
# Styled text

A terminal shows text in a style between two escape sequences. Where colours are
off, a style leaves the text as it is.
-/

namespace TopicReplay.Text

/-- A style of text. -/
inductive Style where
  | bold
  | dimmed
  | green
  | yellow
  | red
  | boldGreen
  | boldRed
  deriving DecidableEq, Repr

/-- The codes that switch a style on. -/
def Style.codes : Style → String
  | .bold => "1"
  | .dimmed => "2"
  | .green => "32"
  | .yellow => "33"
  | .red => "31"
  | .boldGreen => "1;32"
  | .boldRed => "1;31"

/-- The start of an escape sequence. -/
def escapeStart : String := "\x1b["

/-- A text in a style, where `coloured` tells whether colours are on. -/
def Style.apply (style : Style) (coloured : Bool) (text : String) : String :=
  if coloured && !text.isEmpty then
    escapeStart ++ style.codes ++ "m" ++ text ++ escapeStart ++ "0m"
  else text

@[simp]
theorem Style.apply_false (style : Style) (text : String) : style.apply false text = text := rfl

end TopicReplay.Text
