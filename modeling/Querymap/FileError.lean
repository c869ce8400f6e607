import Querymap.Path

/-! Why a file could not be read or written. -/
namespace Querymap

inductive FileError
  /-- No file of this name is in a set of files. -/
  | unknown (path : Path)
  | notFound
  | alreadyExists
  | notDirectory
  | isDirectory
  | nameTooLong
  | linkLoop
  | invalidName
  | invalidText
deriving DecidableEq, Inhabited

def FileError.message : FileError → String
  | .unknown path => path.spelling ++ " not found"
  | .notFound => "No such file or directory (os error 2)"
  | .alreadyExists => "File exists (os error 17)"
  | .notDirectory => "Not a directory (os error 20)"
  | .isDirectory => "Is a directory (os error 21)"
  | .nameTooLong => "File name too long (os error 36)"
  | .linkLoop => "Too many levels of symbolic links (os error 40)"
  | .invalidName => "file name contained an unexpected NUL byte"
  | .invalidText => "stream did not contain valid UTF-8"

end Querymap
