import StaticNet.Bytes
import StaticNet.Dict
import StaticNet.Text.Path
import StaticNet.Text.Utf8

/-! # Hosts

The command reads and writes files through a host. A host in memory holds its files in a map from
paths; a directory exists when a file lies below it.
-/

namespace StaticNet.CommandLine

/-- Why a file operation fails. -/
inductive FileCause where
  | notFound
  | notDirectory
  | isDirectory
  | nameTooLong
  | invalidPath
  | other (detail : String)
deriving DecidableEq

/-- The wording of a file cause. -/
def FileCause.message : FileCause → String
  | .notFound => "no such file or directory"
  | .notDirectory => "not a directory"
  | .isDirectory => "is a directory"
  | .nameTooLong => "file name too long"
  | .invalidPath => "invalid argument"
  | .other detail => detail

/-- A file operation that failed. -/
structure FileFault where
  operation : String
  path : String
  cause : FileCause
deriving DecidableEq

/-- The wording of a file fault. -/
def FileFault.message (fault : FileFault) : String :=
  fault.operation ++ " " ++ fault.path ++ ": " ++ fault.cause.message

/-- What the command needs of the machine that it runs on: reading a file, telling whether a path
is a directory, making a directory with its parents, and writing a file. -/
structure Host (m : Type → Type) where
  readFile : String → m (Except FileFault Bytes)
  isDirectory : String → m (Except FileFault Bool)
  makeDirectory : String → m (Except FileFault Unit)
  writeFile : String → Bytes → m (Except FileFault Unit)

/-- Files by path, relative to the working directory. -/
abbrev Files := Dict Bytes

namespace Files

/-- The path of elements that are given last first. -/
def pathOf (reversed : List String) : String := "/".intercalate reversed.reverse

/-- Whether some file lies below a path. -/
def isBelow (files : Files) (path : String) : Bool :=
  files.keys.any fun key => key.startsWith (path ++ "/")

/-- Whether a path, given by its elements last first, is a directory. -/
def hasDirectory (files : Files) (reversed : List String) : Bool :=
  reversed.all (· = "..") || files.isBelow (pathOf reversed)

/-- The most bytes of an element of a path. -/
def elementLimit : Nat := 255

/-- The most bytes of a path. -/
def pathLimit : Nat := 4095

/-- A path must not hold the null character, nor be too long. -/
def checkPath (path : String) : Except FileCause Unit :=
  if path.toList.contains (Char.ofNat 0) then .error .invalidPath
  else if pathLimit < path.length then .error .nameTooLong
  else .ok ()

/-- Enter one element of a path. -/
def enter (files : Files) (reversed : List String) (element : String) :
    Except FileCause (List String) :=
  if files.hasDirectory reversed then
    if element = "" ∨ element = "." then .ok reversed
    else if element = ".." then
      match reversed with
      | [] => .ok [".."]
      | last :: before => .ok (if last = ".." then ".." :: reversed else before)
    else
      let next := element :: reversed
      if elementLimit < element.length then .error .nameTooLong
      else if files.contains (pathOf next) || files.isBelow (pathOf next) then .ok next
      else .error .notFound
  else .error .notDirectory

/-- Whether a path starts at the root. -/
def isRooted (path : String) : Bool := path.startsWith "/"

/-- Whether a clean path leads out of the working directory. -/
def isOutside (path : String) : Bool := isRooted path || path = ".." || path.startsWith "../"

/-- The elements of an existing path, last first. The root is a directory above the working
directory, and nothing else outside of that is known to exist. -/
def locate (files : Files) (path : String) : Except FileCause (List String) := do
  checkPath path
  (Path.elements path).foldlM files.enter (if isRooted path then [".."] else [])

/-- Read a file. -/
def read (files : Files) (path : String) : Except FileFault Bytes :=
  match files.locate path with
  | .error cause => .error ⟨"open", path, cause⟩
  | .ok reversed =>
      match files.get? (pathOf reversed) with
      | some bytes => .ok bytes
      | none => .error ⟨"read", path, .isDirectory⟩

/-- Whether an existing path is a directory. -/
def isDirectory (files : Files) (path : String) : Except FileFault Bool :=
  match files.locate path with
  | .error cause => .error ⟨"stat", path, cause⟩
  | .ok reversed => .ok (files.hasDirectory reversed)

/-- The paths that lead to a path, the shortest first and the path itself last. -/
def leading (path : String) : List String :=
  let elements := Path.elements path
  (List.range elements.length).map fun count => "/".intercalate (elements.take (count + 1))

/-- Make one directory, unless it exists: it may not be a file, nor have too long a name. -/
def makeOne (files : Files) (path : String) : Except FileCause Unit := do
  checkPath path
  if files.contains path then throw .notDirectory
  if elementLimit < (Path.base path).length then throw .nameTooLong

/-- Make a directory and all that lead to it, the shortest path first. -/
def makeDirectory (files : Files) (path : String) : Except FileFault Unit :=
  (leading path).forM fun part => (files.makeOne part).mapError fun cause => ⟨"mkdir", part, cause⟩

/-- Write a file into an existing directory. -/
def write (files : Files) (path : String) (bytes : Bytes) : Except FileFault Files :=
  match checkPath path with
  | .error cause => .error ⟨"open", path, cause⟩
  | .ok _ =>
      if files.isBelow path then .error ⟨"open", path, .isDirectory⟩
      else .ok (files.insert path bytes)

end Files

/-- The host whose files are held in memory. -/
def Host.inMemory : Host (StateM Files) where
  readFile path := do return (← get).read path
  isDirectory path := do return (← get).isDirectory path
  makeDirectory path := do return (← get).makeDirectory path
  writeFile path bytes := do
    match (← get).write path bytes with
    | .ok files => set files; return .ok ()
    | .error fault => return .error fault

end StaticNet.CommandLine
