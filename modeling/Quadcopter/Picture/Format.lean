import Quadcopter.Fault
import Quadcopter.Files.Tree
import Quadcopter.Picture.Png
import Quadcopter.Text.Quoted

/-!
# Quadcopter.Picture.Format

Pictures in files. The extension of the file's name, in any case, says what format it has; of the
formats that are known by name only PNG and JPEG are read and written. Of a JPEG only the start is checked
here, the rest is left to a library.

When loading, the file has to exist before its name is looked at, and its name has to be good before
its contents are. When saving, the name comes first, and a file is made even if nothing can be
written to it.
-/

namespace Quadcopter
namespace Picture

/-- The extension of a path: what follows the last dot of its last name, if something stands before
that dot. -/
def extension? (path : String) : Option String :=
  let names := ((Text.splitAt '/' path.toList).filter fun n => n != [] && n != ['.'])
  match names.getLast? with
  | none => none
  | some name =>
    if name = ['.', '.'] then none
    else
      match Text.splitWhile (· != '.') name.reverse with
      | (ext, _ :: _ :: _) => some (String.ofList ext.reverse)
      | _ => none

inductive Format where
  | png
  | jpeg
  | other (name : String)
  deriving DecidableEq

/-- The names of the formats that are known but not read or written, by their extensions. -/
def otherFormats : List (String × String) :=
  [("gif", "Gif"), ("webp", "WebP"), ("tif", "Tiff"), ("tiff", "Tiff"), ("tga", "Tga"),
   ("dds", "Dds"), ("bmp", "Bmp"), ("ico", "Ico"), ("hdr", "Hdr"), ("exr", "OpenExr"),
   ("pbm", "Pnm"), ("pam", "Pnm"), ("ppm", "Pnm"), ("pgm", "Pnm"), ("ff", "Farbfeld"),
   ("farbfeld", "Farbfeld"), ("avif", "Avif"), ("qoi", "Qoi")]

def formatOf (path : String) : Except Defect Format :=
  match extension? path with
  | none => .error .noExtension
  | some ext =>
    let key := String.ofList (ext.toList.map Char.toLower)
    if key = "png" then .ok .png
    else if key = "jpg" ∨ key = "jpeg" then .ok .jpeg
    else
      match otherFormats.lookup key with
      | some name => .ok (.other name)
      | none => .error (.unknownExtension (Text.quoted ext))

/-- The picture in the contents of a JPEG. Its first two bytes are looked at before all others. -/
def JpegCodec.read (codec : JpegCodec) (data : ByteArray) : Except Defect Picture :=
  match data.toList with
  | [] => .error .unfilled
  | first :: rest =>
    if first ≠ 0xFF then .error .notJpeg
    else
      match rest with
      | [] => .error .unfilled
      | second :: _ =>
        if second ≠ 0xD8 then .error .notJpeg else (codec.decode data).mapError .jpeg

def ofNode (codec : JpegCodec) (path : String) (node : Node) : Except Defect Picture :=
  match formatOf path with
  | .error e => .error e
  | .ok (.other name) => .error (.unreadableFormat name)
  | .ok .png =>
    match Files.contents node with
    | .error e => .error (.storage e)
    | .ok data => Png.decode data
  | .ok .jpeg =>
    match Files.contents node with
    | .error e => .error (.storage e)
    | .ok data => codec.read data

def load (files : Files) (path : String) : Except Cause Picture :=
  match files.openAt path with
  | .error e => .error (.unloadablePicture path (.storage e))
  | .ok node =>
    match ofNode files.jpeg path node with
    | .error e => .error (.unloadablePicture path e)
    | .ok p => .ok p

/-- What a format writes for a picture, and what is wrong with it. -/
def Format.encode (codec : JpegCodec) (p : Picture) : Format → ByteArray × Option Defect
  | .png => Png.encode p
  | .jpeg => ((codec.encode p).1, (codec.encode p).2.map .jpeg)
  | .other name => (.empty, some (.unwritableFormat name))

def save (p : Picture) (files : Files) (path : String) : Except Cause Unit × Files :=
  match formatOf path with
  | .error e => (.error (.unsavablePicture path e), files)
  | .ok format =>
    let (data, defect) := format.encode files.jpeg p
    match files.write path data with
    | .error e => (.error (.unsavablePicture path (.storage e)), files)
    | .ok files =>
      match defect with
      | some e => (.error (.unsavablePicture path e), files)
      | none => (.ok (), files)

end Picture
end Quadcopter
