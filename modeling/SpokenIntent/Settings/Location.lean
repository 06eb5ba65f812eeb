/-!
Where the settings file is looked for when nobody says: in the user's data directory.
-/

namespace SpokenIntent.Settings

/-- A path taken relative to another; an absolute path stands for itself. -/
def joinPath (base path : String) : String :=
  if path.toList.head? = some '/' || base.isEmpty then path
  else if base.toList.getLast? = some '/' then base ++ path
  else base ++ "/" ++ path

/-- The data directory: `XDG_DATA_HOME`, and otherwise one below the home directory, or below
`/tmp` without a home. -/
def dataDirectory (env : String → Option String) : String :=
  match env "XDG_DATA_HOME" with
  | some directory => directory
  | none => joinPath (joinPath ((env "HOME").getD "/tmp") ".local") "share"

def defaultPath (env : String → Option String) : String :=
  joinPath (joinPath (dataDirectory env) "intent-bridge") "settings.json"

end SpokenIntent.Settings
