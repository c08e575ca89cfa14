import DisplayComposer.Program
/-!
# DisplayComposer.Main

**The command line.** It loads the configuration and serves one client, whose
frames come on standard input and whose replies go to standard output. Messages
to the user go to standard error.
-/

namespace DisplayComposer.Program

/-- What stands at a path. Whether a file can be made shows when it is written. -/
def placeAt (path : String) : IO Place := do
  try discard (IO.FS.realPath path)
  catch _ => return .absent
  try return .file (← IO.FS.readBinFile path).data.toList
  catch _ => return .folder

/-- The folder of a path. -/
def folderOf (path : String) : String :=
  "/".intercalate (path.splitOn "/").dropLast

/-- Write a file and the folders above it. -/
def writeFile (path : String) (content : Bytes) : IO Unit := do
  if folderOf path ≠ "" then IO.FS.createDirAll (folderOf path)
  IO.FS.writeBinFile path ⟨content.toArray⟩

/-- Load the configuration at a path, and make the file if it is not there. -/
def loadAt (path : String) : IO (Except ComposerConfig.LoadError ComposerConfig) := do
  let before ← placeAt path
  let (loaded, after) := ComposerConfig.load before
  match before, after with
  | .absent, .file content =>
    try writeFile path content
    catch e => IO.eprintln ("Failed to create default config file: " ++ toString e)
  | _, _ => pure ()
  return loaded

/-- A folder of the environment, or one in the home folder. -/
def folder (variableName inHome : String) : IO String := do
  match ← IO.getEnv variableName with
  | some path => return path
  | none => return pathIn ((← IO.getEnv "HOME").getD "") inHome

/-- Write all replies that there are. -/
def reply (output : IO.FS.Stream) : List Reply → IO Unit
  | [] => output.flush
  | r :: rest => do
    output.write ⟨(Frame.encode r.encode).toArray⟩
    reply output rest

/-- Serve a connection until either side ends it. -/
partial def serve (input output : IO.FS.Stream) (limit : Nat) (c : Connection)
    (w : Worker Headless Cache) : IO (Worker Headless Cache) := do
  let bytes ← input.read 65536
  let c := if bytes.isEmpty then c.finish else c.send bytes.data.toList
  let (c, w) := c.serve limit w
  reply output c.replies
  if c.closed then return w else serve input output limit { c with replies := [] } w

/-- Load the configuration, start and serve. -/
def run (args : List String) : IO (Except StartError Nat) := do
  let folders : Folders := ⟨← folder "XDG_CONFIG_HOME" ".config", ← folder "XDG_RUNTIME_DIR" ""⟩
  match ← loadAt (configPath args folders.config) with
  | .error e => return .error (.config e)
  | .ok c =>
    match c.start (c.socketPath folders.runtime) .absent with
    | .error e => return .error e
    | .ok server =>
      let worker ← serve (← IO.getStdin) (← IO.getStdout) server.limit .fresh server.worker
      return .ok (status { server with worker })

end DisplayComposer.Program

def main (args : List String) : IO UInt32 := do
  match ← DisplayComposer.Program.run args with
  | .ok status => return .ofNat status
  | .error e =>
    IO.eprintln ("Error: " ++ e.message)
    return .ofNat e.status
