import SearchFilter.Failure
import SearchFilter.Location

namespace SearchFilter

/-- A file and its bytes. -/
structure File where
  location : Location
  content : List UInt8
  deriving Repr

/-- What stands under a name. -/
inductive FolderEntry
  | file (content : List UInt8)
  | folder
  | nothing
  deriving Repr

/-- The files in one place and below it. -/
abbrev Folder := List File

namespace Folder

/-- Whether a location is a folder: the place itself, one above it, or one that holds a file. -/
def isFolder (folder : Folder) (location : Location) : Bool :=
  location.steps.all (· == "..") ||
    folder.any fun file =>
      file.location.slashes == location.slashes &&
        location.steps.isPrefixOf file.location.steps

/-- What stands at a location. -/
def entryAt (folder : Folder) (location : Location) : FolderEntry :=
  match folder.find? fun file => file.location = location with
  | some file => .file file.content
  | none => if folder.isFolder location then .folder else .nothing

/-- A text with a line feed for each line end. -/
def unifyLineEnds : List Char → List Char
  | '\r' :: '\n' :: rest => '\n' :: unifyLineEnds rest
  | '\r' :: rest => '\n' :: unifyLineEnds rest
  | c :: rest => c :: unifyLineEnds rest
  | [] => []

/-- The text that bytes encode. -/
def decode (content : List UInt8) : Except Failure String :=
  match String.fromUTF8? ⟨content.toArray⟩ with
  | some text => .ok (String.ofList (unifyLineEnds text.toList))
  | none => .error .undecodable

/-- The text of a file; what kind of file it is shows if it is absent. -/
def textOf (folder : Folder) (subject : String) (location : Location) : Except Failure String :=
  match folder.entryAt location with
  | .file content => decode content
  | .folder => .error (.isFolder location.text)
  | .nothing => .error (.noFile subject location.text)

end Folder

end SearchFilter
