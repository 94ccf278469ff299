/-!
# Reading files

All that is asked of a file system is the content of a file with a given path. A `Disk` answers that,
with the content or the reason why there is none.
-/

namespace HiddenImports

/-- Why a file cannot be read. -/
inductive ReadError where
  | notFound
  /-- The path leads on from a file. -/
  | notDirectory
  /-- The path leads to a directory. -/
  | isDirectory
  | nameTooLong
  /-- The path holds a null character. -/
  | nullInPath
  /-- The content is not encoded text. -/
  | notText
  /-- Another reason, in the system's words. -/
  | other (message : String)
  deriving DecidableEq, Repr

def ReadError.message : ReadError → String
  | .notFound => "No such file or directory (os error 2)"
  | .notDirectory => "Not a directory (os error 20)"
  | .isDirectory => "Is a directory (os error 21)"
  | .nameTooLong => "File name too long (os error 36)"
  | .nullInPath => "file name contained an unexpected NUL byte"
  | .notText => "stream did not contain valid UTF-8"
  | .other message => message

/-- The contents of files by path. -/
structure Disk where
  read : (path : String) → Except ReadError ByteArray

namespace Disk

/-- The content of a file as text. -/
def readText (disk : Disk) (path : String) : Except ReadError String :=
  match disk.read path with
  | .error cause => .error cause
  | .ok bytes =>
    match String.fromUTF8? bytes with
    | some text => .ok text
    | none => .error .notText

end Disk

end HiddenImports
