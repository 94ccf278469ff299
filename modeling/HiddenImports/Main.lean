import HiddenImports.CommandLine

/-!
# The program

Reads the files that the arguments name, and prints the reply.
-/

namespace HiddenImports.CommandLine

/-- The reason why a file could not be read. -/
def readError : IO.Error → ReadError
  | .noFileOrDirectory .. => .notFound
  | .inappropriateType _ 21 _ => .isDirectory
  | .inappropriateType _ 20 _ => .notDirectory
  | error => .other (toString error)

/-- Reads one file. -/
def readFile (path : String) : IO (String × Except ReadError ByteArray) := do
  try
    return (path, .ok (← IO.FS.readBinFile path))
  catch error =>
    return (path, .error (readError error))

/-- The files that were read, as a disk. -/
def diskOf (files : List (String × Except ReadError ByteArray)) : Disk where
  read path := (files.lookup path).getD (.error .notFound)

end HiddenImports.CommandLine

open HiddenImports.CommandLine in
def main (arguments : List String) : IO UInt32 := do
  let files ← (request arguments).files.mapM readFile
  let reply := reply (diskOf files) arguments
  IO.print reply.output
  IO.eprint reply.errors
  return reply.code.toUInt32
