import SpokenIntent.Text.Blank
import SpokenIntent.Text.Lowercase

/-!
What someone types at the console: a control word, in letters of either case, or something to say.
-/

namespace SpokenIntent

inductive ConsoleInput where
  | start
  | stop
  | status
  | quit
  | speak (text : String)
  | nothing
  deriving DecidableEq

/-- The meaning of a line; blanks around it do not matter. -/
def ConsoleInput.ofLine (line : String) : ConsoleInput :=
  let text := Text.trim line
  let word := Text.lowerAscii text
  if word = "" then .nothing
  else if word = "start" then .start
  else if word = "stop" then .stop
  else if word = "status" then .status
  else if word = "quit" || word = "exit" then .quit
  else .speak text

end SpokenIntent
