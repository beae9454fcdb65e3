/-!
# Failed access to files

Why a file cannot be read or written.
-/

namespace HeaderBindings

/-- Why a file cannot be read or written. -/
inductive AccessError where
  | notFound
  /-- A step of the path leads through something that is no directory. -/
  | notDirectory
  | isDirectory
  | nameTooLong
  | nulInPath
  | notText
  /-- Any other cause, in the words of the system. -/
  | other (message : String)
  deriving Repr, DecidableEq

def AccessError.message : AccessError → String
  | notFound => "No such file or directory (os error 2)"
  | notDirectory => "Not a directory (os error 20)"
  | isDirectory => "Is a directory (os error 21)"
  | nameTooLong => "File name too long (os error 36)"
  | nulInPath => "file name contained an unexpected NUL byte"
  | notText => "stream did not contain valid UTF-8"
  | other message => message

end HeaderBindings
