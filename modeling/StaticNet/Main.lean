import StaticNet.CommandLine.Run

/-! # The command

The command on the files of the machine.
-/

namespace StaticNet.CommandLine

/-- The cause of a failed operation. -/
def causeOf (failure : IO.Error) : FileCause :=
  match failure with
  | .noFileOrDirectory .. => .notFound
  | .inappropriateType .. => .notDirectory
  | other => .other (Text.encode other.toString)

/-- Perform a file operation on a path and keep its failure as a value. -/
def attempt {α : Type} (operation path : String) (action : String → IO α) :
    IO (Except FileFault α) := do
  try
    return .ok (← action (Text.shown path))
  catch failure =>
    return .error ⟨operation, path, causeOf failure⟩

/-- Whether an existing path is a directory. -/
def pathIsDirectory (path : String) : IO Bool := do
  let real ← IO.FS.realPath path
  if ← real.pathExists then real.isDir
  else throw (.noFileOrDirectory path 2 "no such file or directory")

/-- Read a file; a directory is no file. -/
def readPath (path : String) : IO (Except FileFault Bytes) := do
  match ← attempt "open" path pathIsDirectory with
  | .error fault => return .error fault
  | .ok true => return .error ⟨"read", path, .isDirectory⟩
  | .ok false => attempt "open" path fun name => do
      return (← IO.FS.readBinFile name).toList

/-- The host of the machine. -/
def Host.machine : Host IO where
  readFile := readPath
  isDirectory path := attempt "stat" path pathIsDirectory
  makeDirectory path := attempt "mkdir" path fun name => IO.FS.createDirAll name
  writeFile path bytes := attempt "open" path fun name =>
    IO.FS.writeBinFile name ⟨bytes.toArray⟩

end StaticNet.CommandLine

open StaticNet.CommandLine in
/-- Run the command on the machine and exit with its code. -/
def main (arguments : List String) : IO UInt32 := do
  match ← run Host.machine false (arguments.map StaticNet.Text.encode) with
  | .finished code output errors =>
      (← IO.getStdout).write ⟨(StaticNet.Text.bytes output).toArray⟩
      (← IO.getStderr).write ⟨(StaticNet.Text.bytes errors).toArray⟩
      return code
  | .trapped =>
      (← IO.getStderr).putStr "picogen: internal error\n"
      return 2
