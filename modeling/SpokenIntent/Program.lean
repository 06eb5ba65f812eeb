/-!
What the programs of this library have in common: how arguments can be wrong, and what comes of a
program when it ends.
-/

namespace SpokenIntent

inductive UsageError where
  | missingValue (option : String)
  | invalidValue (option : String)
  | unknownArgument (argument : String)
  deriving DecidableEq

def UsageError.message : UsageError → String
  | .missingValue option => "missing value for " ++ option
  | .invalidValue option => "invalid value for " ++ option
  | .unknownArgument argument => "unknown argument: " ++ argument

/-- What a program has printed and complained about, each line by line, and whether it succeeded. -/
structure Outcome where
  output : List String
  complaints : List String
  succeeded : Bool
  deriving DecidableEq

end SpokenIntent
