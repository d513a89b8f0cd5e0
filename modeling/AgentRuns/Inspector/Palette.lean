import AgentRuns.Text.Basic

/-!
# Styles of terminal text

A style is switched on by an escape sequence of the terminal. A palette writes
the sequences for a terminal and nothing for any other stream, so styles never
touch the text between them.
-/

namespace AgentRuns

/-- A way to show text, or the way back to plain text. -/
inductive Style
  | reset
  | bold
  | dim
  | cyan
  | yellow
  | green
  | red
  | magenta
  | blue
  | gray
  | onCyan
  | onYellow
  | onGreen
  | onMagenta
  deriving DecidableEq

/-- The escape sequence that switches a style on. -/
def Style.sequence : Style → Text
  | .reset => "\x1b[0m"
  | .bold => "\x1b[1m"
  | .dim => "\x1b[2m"
  | .cyan => "\x1b[36m"
  | .yellow => "\x1b[33m"
  | .green => "\x1b[32m"
  | .red => "\x1b[31m"
  | .magenta => "\x1b[35m"
  | .blue => "\x1b[34m"
  | .gray => "\x1b[90m"
  | .onCyan => "\x1b[46m\x1b[30m"
  | .onYellow => "\x1b[43m\x1b[30m"
  | .onGreen => "\x1b[42m\x1b[30m"
  | .onMagenta => "\x1b[45m\x1b[37m"

/-- Whether styles are written. -/
structure Palette where
  styled : Bool

namespace Palette

/-- What the palette writes for a style. -/
def mark (palette : Palette) (style : Style) : Text :=
  if palette.styled then style.sequence else []

/-- A text in a style, plain text behind it. -/
def paint (palette : Palette) (style : Style) (text : Text) : Text :=
  palette.mark style ++ text ++ palette.mark .reset

end Palette

end AgentRuns
