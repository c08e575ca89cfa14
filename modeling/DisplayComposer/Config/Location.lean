import DisplayComposer.Config.Basic
/-!
# DisplayComposer.Config.Location

**Where things are.** The configuration file and the socket have usual places in
the user's folders, and can be put elsewhere: the file by an argument of the
program, the socket by the configuration.
-/

namespace DisplayComposer

/-- The path of a name in a folder. -/
def pathIn (folder name : String) : String :=
  match folder.toList.getLast? with
  | none | some '/' => folder ++ name
  | some _ => folder ++ "/" ++ name

/-- The configuration file in the folder for configurations. -/
def usualConfigPath (configFolder : String) : String :=
  pathIn (pathIn configFolder "area") "composer.toml"

/-- The configuration file that arguments name. The first option for it counts,
and only if something follows it. -/
def configArgument? : List String → Option String
  | [] => none
  | arg :: rest => if arg = "-c" ∨ arg = "--config" then rest.head? else configArgument? rest

/-- The configuration file to use. -/
def configPath (args : List String) (configFolder : String) : String :=
  (configArgument? args).getD (usualConfigPath configFolder)

/-- The socket to listen on. -/
def ComposerConfig.socketPath (c : ComposerConfig) (runtimeFolder : String) : String :=
  c.server.socketPath.getD (pathIn runtimeFolder "area-composer.sock")

end DisplayComposer
