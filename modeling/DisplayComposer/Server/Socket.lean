import DisplayComposer.Config.File
/-!
# DisplayComposer.Server.Socket

**The socket that clients connect to.** The service makes it at its path, in
place of a file that was left there. That fails where a folder stands, where no
folder can be made for it, and where the path is not one for a socket. A name
that begins with NUL is one for a socket outside all folders.
-/

namespace DisplayComposer

/-- The bytes of the longest path that a socket can have. -/
def longestSocketPath : Nat := 107

/-- Whether a path is one for a socket. -/
def isSocketPath (path : String) : Bool :=
  match path.toList with
  | '\x00' :: name => (utf8 (String.ofList name)).length ≤ longestSocketPath
  | cs => (utf8 path).length ≤ longestSocketPath && !cs.contains '\x00'

/-- Why the service cannot listen. -/
inductive ListenError where
  /-- A folder stands there. -/
  | folder
  /-- No folder can be made for it. -/
  | blocked
  /-- The path is not one for a socket, or something else is found there. -/
  | path
  deriving DecidableEq, Repr

def ListenError.message : ListenError → String
  | .folder => "Failed to remove stale socket"
  | .blocked => "Failed to create the folder of the socket"
  | .path => "Failed to bind"

/-- Whether the service can listen at a path, given what stands there. -/
def listen (path : String) : Place → Except ListenError Unit
  | .folder => .error .folder
  | .blocked => .error .blocked
  | .unusable | .hidden => .error .path
  | .absent | .file _ => if isSocketPath path then .ok () else .error .path

end DisplayComposer
