import Quadcopter.Files.Refusal
import Quadcopter.Picture.Png.Breach

/-!
# Quadcopter.Picture.Defect

Why a picture cannot be read from a file or written to one.
-/

namespace Quadcopter
namespace Picture

/-- The reasons for which a picture file is not read or written. -/
inductive Defect where
  | storage (why : Files.Refusal)
  /-- The name has an extension that belongs to no image format; it is quoted as written. -/
  | unknownExtension (quoted : String)
  | noExtension
  | unreadableFormat (name : String)
  | unwritableFormat (name : String)
  | cutShort
  /-- The picture would take more memory than pictures may. -/
  | tooLarge
  /-- The contents are an animation without frames. -/
  | noFrames
  /-- The contents end before the two bytes with which a JPEG starts. -/
  | unfilled
  | notJpeg
  /-- What the library for JPEG says. -/
  | jpeg (message : String)
  | malformed (why : Png.Breach)
  | noWidth
  | noHeight
  deriving DecidableEq, Repr

def Defect.message : Defect → String
  | .storage why => why.message
  | .unknownExtension quoted =>
    "The file extension `." ++ quoted ++ "` was not recognized as an image format"
  | .noExtension => "The image format could not be determined"
  | .unreadableFormat name => "The image format " ++ name ++ " is not supported"
  | .unwritableFormat name => "The image format `" ++ name ++ "` is not supported"
  | .cutShort => "unexpected end of file"
  | .tooLarge => "Memory limit exceeded"
  | .noFrames => "The parameter is malformed: End of image has been reached"
  | .unfilled => "failed to fill whole buffer"
  | .notJpeg =>
    "Format error decoding Jpeg: invalid JPEG format: first two bytes are not an SOI marker"
  | .jpeg message => message
  | .malformed why => "Format error decoding Png: " ++ why.message
  | .noWidth => "Zero width not allowed"
  | .noHeight => "Zero height not allowed"

end Picture
end Quadcopter
