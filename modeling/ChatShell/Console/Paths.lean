-- Where the program keeps its files: below the base directories that the
-- environment names, or below the home directory.
import ChatShell.Text.Blank

namespace ChatShell.Console

/-- The part of the environment that decides where files are. -/
structure Environment where
  home : String
  configHome : Option String := none
  dataHome : Option String := none
  deriving DecidableEq

/-- A path and a name below it. -/
def join (path name : String) : String :=
  if path.isEmpty || Text.endsWith path '/' then path ++ name else path ++ "/" ++ name

namespace Environment

/-- A base directory: the one that is named, if it is an absolute path. -/
def base (named : Option String) (fallback : String) : String :=
  match named with
  | some path => if Text.beginsWith path '/' then path else fallback
  | none => fallback

/-- The directory of the settings. -/
def configDir (e : Environment) : String :=
  join (base e.configHome (join e.home ".config")) "shbot"

/-- The directory of kept data. -/
def dataDir (e : Environment) : String :=
  join (base e.dataHome (join (join e.home ".local") "share")) "shbot"

/-- The settings file that is read if no other is named. -/
def configFile (e : Environment) : String := join e.configDir "config.toml"

/-- The file of past lines. -/
def historyFile (e : Environment) : String := join e.dataDir "history.txt"

end Environment

end ChatShell.Console
