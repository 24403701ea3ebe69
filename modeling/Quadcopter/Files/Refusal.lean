/-!
# Quadcopter.Files.Refusal

Why a tree of files refuses a request, and the words in which it says so.
-/

namespace Quadcopter
namespace Files

/-- The reasons for which reading, writing or making a directory fails. -/
inductive Refusal where
  | missing
  | alreadyExists
  | notDirectory
  | isDirectory
  | nameTooLong
  | nulInName
  | notText
  deriving DecidableEq, Repr

def Refusal.message : Refusal → String
  | .missing => "No such file or directory (os error 2)"
  | .alreadyExists => "File exists (os error 17)"
  | .notDirectory => "Not a directory (os error 20)"
  | .isDirectory => "Is a directory (os error 21)"
  | .nameTooLong => "File name too long (os error 36)"
  | .nulInName => "file name contained an unexpected NUL byte"
  | .notText => "stream did not contain valid UTF-8"

end Files
end Quadcopter
