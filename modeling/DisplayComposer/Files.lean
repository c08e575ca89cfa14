import DisplayComposer.Bytes
import DisplayComposer.Config.File
/-!
# DisplayComposer.Files

**The files that a run of the program finds and leaves.** A path is walked from
the root, name by name: a name leads into a folder, two dots lead back out of
one, and a folder has to be there before anything behind it can be found. To
write a file, folders that are missing on the way are made; only then is it known
where two dots behind them lead.

* `Path` — a path as its names;
* `Files`, `Files.find?` — what stands where a path leads;
* `Files.makeParents`, `Files.write`, `Files.remove` — changes;
* `Files.place` — a path as a place for a file.
-/

namespace DisplayComposer

/-! ## Paths -/

/-- The names on the way along a path. One dot stays where it is and is no name. -/
structure Path where
  names : List String
  /-- Whether the path ends as the path of a folder does: with a slash or with dots. -/
  ofFolder : Bool

namespace Path

def ofString (s : String) : Path :=
  let parts := s.splitOn "/"
  ⟨parts.filter fun name => name ≠ "" ∧ name ≠ ".",
    parts.getLast?.any fun name => name = "" ∨ name = "." ∨ name = ".."⟩

/-- The names on the way to the folder above. -/
def above (p : Path) : List String := p.names.dropLast

/-- Whether a path names nothing in any folder. Sockets have such names. -/
def isOutside (s : String) : Bool :=
  s = "" || (s.toList.head? = some '\x00' && (ofString s).names.length = 1)

end Path

/-- The bytes of the longest name that a file or folder can have. -/
def longestName : Nat := 255

/-- Whether a file or folder can have this name. -/
def isFileName (name : String) : Bool :=
  (utf8 name).length ≤ longestName && !name.toList.contains '\x00'

/-! ## Files -/

/-- Files, and folders besides those that hold them. Each is told by the names
that lead to it, none of which is two dots. -/
structure Files where
  folders : List (List String)
  files : List (List String × Bytes)

namespace Files

/-- The root, with some folder in it. -/
def ofFolder (names : List String) : Files := ⟨[names], []⟩

/-- Whether a folder stands there. -/
def isFolder (fs : Files) (names : List String) : Bool :=
  names.isEmpty || fs.folders.any names.isPrefixOf ||
    fs.files.any fun file => file.1 ≠ names && names.isPrefixOf file.1

/-- Whether a file stands there. -/
def isFile (fs : Files) (names : List String) : Bool := (fs.files.lookup names).isSome

/-- Follow names from one folder to another. -/
def walk (fs : Files) : (folder : List String) → List String → Option (List String)
  | folder, [] => some folder
  | folder, name :: rest =>
    if name = ".." then walk fs folder.dropLast rest
    else if fs.isFolder (folder ++ [name]) then walk fs (folder ++ [name]) rest
    else none

/-- The folder or file to which a path leads. -/
def find? (fs : Files) (path : String) : Option (List String) :=
  let p := Path.ofString path
  if Path.isOutside path then none
  else
    match fs.walk [] p.names, fs.walk [] p.above, p.names.getLast? with
    | some folder, _, _ => some folder
    | none, some folder, some name =>
      if !p.ofFolder && fs.isFile (folder ++ [name]) then some (folder ++ [name]) else none
    | none, _, _ => none

/-! ## Changes -/

/-- Follow names from a folder and make the folders that are missing; the folder
to which they lead. A file in the way, or a name that no folder can have, stops
this. -/
def makeFolders : (folder : List String) → List String → Files → Option (List String) × Files
  | folder, [], fs => (some folder, fs)
  | folder, name :: rest, fs =>
    if name = ".." then makeFolders folder.dropLast rest fs
    else
      let next := folder ++ [name]
      if fs.isFolder next then makeFolders next rest fs
      else if fs.isFile next || !isFileName name then (none, fs)
      else makeFolders next rest { fs with folders := next :: fs.folders }

/-- Make the folders above a path, and say where a file at it would stand. -/
def makeRoom (path : String) (fs : Files) : Option (List String) × Files :=
  let p := Path.ofString path
  match makeFolders [] p.above fs, p.names.getLast? with
  | (some folder, fs), some name => (some (folder ++ [name]), fs)
  | (_, fs), _ => (none, fs)

/-- With the folders above a path. -/
def makeParents (path : String) (fs : Files) : Files := (fs.makeRoom path).2

/-- Without the file at a path. Its folder stays. -/
def remove (path : String) (fs : Files) : Files :=
  match fs.find? path with
  | some names => ⟨names.dropLast :: fs.folders, fs.files.filter (·.1 ≠ names)⟩
  | none => fs

/-- With a file at a path. -/
def write (path : String) (content : Bytes) (fs : Files) : Files :=
  if Path.isOutside path then fs
  else
    match fs.makeRoom path with
    | (some names, fs) => { fs with files := (names, content) :: fs.files.filter (·.1 ≠ names) }
    | (none, fs) => fs

/-! ## Places -/

/-- What stands at a path, and if it is nothing, what writing a file there meets. -/
def place (fs : Files) (path : String) : Place :=
  let p := Path.ofString path
  if Path.isOutside path then .absent
  else
    match fs.find? path, fs.makeRoom path with
    | some names, _ => (fs.files.lookup names).elim .folder .file
    | none, (some names, fs) =>
      if p.ofFolder || fs.isFolder names || !p.names.all isFileName then .unusable
      else if fs.isFile names then .hidden
      else .absent
    | none, (none, _) => .blocked

end Files

end DisplayComposer
