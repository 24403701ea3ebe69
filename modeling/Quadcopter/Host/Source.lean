import Quadcopter.Files.Tree
import Quadcopter.Listing

/-!
# Quadcopter.Host.Source

Listings in files. A file is read line by line, and a line that cannot be read ends the work; a
listing is written with a newline behind each line.
-/

namespace Quadcopter
namespace Host

/-- Append lines, given as bytes, until one is no text or is refused. -/
def pushBytes (l : Listing) : List (List UInt8) → Except Fault Listing
  | [] => .ok l
  | bytes :: rest =>
    match String.fromUTF8? ⟨bytes.toArray⟩ with
    | none => .error ⟨.storage .notText, none⟩
    | some s =>
      match l.push s with
      | (.error f, _) => .error f
      | (.ok (), l) => pushBytes l rest

def byteLines (data : ByteArray) : List (List UInt8) := Text.linesOf 10 13 data.data.toList

def loadListing (files : Files) (path : String) : Except Fault Listing :=
  match files.openAt path with
  | .error why => .error ⟨.unopenable path why, none⟩
  | .ok node =>
    match Files.contents node with
    | .error why => .error ⟨.storage why, none⟩
    | .ok data => pushBytes .empty (byteLines data)

def listingText (l : Listing) : String := l.lines.foldl (fun s line => s ++ line ++ "\n") ""

/-- Write a listing, unless it is empty, to the file of a path. -/
def saveListing (files : Files) (l : Listing) (path : String) : Except Fault Files :=
  if l.isEmpty then .error ⟨.nothingToSave, none⟩
  else
    match files.write path (listingText l).toUTF8 with
    | .error why => .error ⟨.storage why, none⟩
    | .ok files => .ok files

end Host
end Quadcopter
