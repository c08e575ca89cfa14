import DisplayComposer.Config.Location
import DisplayComposer.Files
import DisplayComposer.Server.Startup
/-!
# DisplayComposer.Program

**A run of the program.** It starts the service with the configuration file that
its arguments name, serves until it is told to stop, and takes its socket away.

* `Program.start` — up to where it serves;
* `Program.stop` — what it leaves.
-/

namespace DisplayComposer

namespace Program

/-- The folders of a user. -/
structure Folders where
  config : String
  runtime : String

/-- A service at its socket. -/
structure Serving where
  socket : String
  server : Server Headless Cache

/-- What listening does to the files. A file at the path of the socket is removed
and folders are made before it shows whether a socket can be made; whether a queue
can be made shows after that. -/
def leaveSocket (socket : String) (files : Files) :
    Except StartError (Server Headless Cache) → Files
  | .ok _ | .error .queue => files.write socket []
  | .error (.config _) | .error (.display _) | .error (.socket .folder) => files
  | .error (.socket _) => (files.remove socket).makeParents socket

/-- Start, and say what files there are then. -/
def start (args : List String) (folders : Folders) (files : Files) :
    Except StartError Serving × Files :=
  let path := configPath args folders.config
  let (loaded, place) := ComposerConfig.load (files.place path)
  let files :=
    match place with
    | .file content => files.write path content
    | _ => files.makeParents path
  match loaded with
  | .error e => (.error (.config e), files)
  | .ok c =>
    let socket := c.socketPath folders.runtime
    let started := c.start socket (files.place socket)
    (started.map (.mk socket), leaveSocket socket files started)

/-- What the program exits with when it is told to stop. -/
def status (server : Server Headless Cache) : Nat :=
  match server.worker with
  | .running _ => 0
  | .stopped => 1

/-- The files that are left. -/
def stop (s : Serving) (files : Files) : Files := files.remove s.socket

end Program

end DisplayComposer
