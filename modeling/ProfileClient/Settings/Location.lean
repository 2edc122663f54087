import ProfileClient.Settings.Basic
/-!
Where the program keeps its files. A directory of the environment counts only if its path is
absolute; otherwise the usual one below the home directory is taken.
-/
namespace ProfileClient.Settings

def join (directory entry : String) : String :=
  if directory.isEmpty || directory.endsWith "/" then directory ++ entry
  else directory ++ "/" ++ entry

/-- The directory that a variable names, or one in the home directory. -/
def directory? (environment : Environment) (variableName entry : String) : Option String :=
  match environment variableName with
  | some path =>
    if path.startsWith "/" then some path else (environment "HOME").map (join · entry)
  | none => (environment "HOME").map (join · entry)

def path? (environment : Environment) : Option String :=
  (directory? environment "XDG_CONFIG_HOME" ".config").map fun directory =>
    join (join directory "authref") "config.json"

def logDirectory? (environment : Environment) : Option String :=
  (directory? environment "XDG_CACHE_HOME" ".cache").map (join · "authref")

end ProfileClient.Settings
