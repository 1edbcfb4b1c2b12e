-- The files a program can read: contents under relative paths, all of them below
-- one working directory. A path is followed part by part.
import ChatShell.NameMap
import ChatShell.Text.Blank
import ChatShell.Text.Utf8

namespace ChatShell.Console

open Text (Bytes)

/-- Why a path gives no content. -/
inductive ReadFault where
  | missing
  | notDirectory
  | directory
  | nameTooLong
  | notText
  deriving DecidableEq

/-- The fault in the words of the system. -/
def ReadFault.message : ReadFault → String
  | .missing => "No such file or directory (os error 2)"
  | .notDirectory => "Not a directory (os error 20)"
  | .directory => "Is a directory (os error 21)"
  | .nameTooLong => "File name too long (os error 36)"
  | .notText => "stream did not contain valid UTF-8"

/-- What a path gives. -/
abbrev Disk := String → Except ReadFault Bytes

/-- The parts of a path. -/
def parts (path : String) : List String := path.splitOn "/"

/-- What lies at a place below the working directory, given by its parts. -/
inductive Found where
  | file (content : Bytes)
  | directory
  | nothing
  deriving DecidableEq

/-- Looks up a place. A place is a directory if some file lies below it. -/
def find (files : List (List String × Bytes)) (place : List String) : Found :=
  match files.find? fun f => f.1 == place with
  | some f => .file f.2
  | none =>
    if place.isEmpty || files.any fun f => place.isPrefixOf f.1 then .directory else .nothing

/-- The most bytes a part of a path may have. -/
def partLimit : Nat := 255

/-- The number of bytes that no path reaches. -/
def pathLimit : Nat := 4096

/-- Where a path has led to. -/
inductive Place where
  /-- A place below the working directory, or that directory itself. -/
  | below (parts : List String)
  /-- A directory outside of it. Nothing there can be named. -/
  | outside
  deriving DecidableEq

/-- What lies at a place. -/
def Place.find (files : List (List String × Bytes)) : Place → Found
  | .below parts => Console.find files parts
  | .outside => .directory

/-- The directory that holds the place. -/
def Place.parent : Place → Place
  | .below [] => .outside
  | .below parts => .below parts.dropLast
  | .outside => .outside

/-- Goes from a directory to something in it. -/
def Place.child (name : String) : Place → Except ReadFault Place
  | .below parts => .ok (.below (parts ++ [name]))
  | .outside => .error .missing

/-- Goes from a place along one part of a path. -/
def Place.step (files : List (List String × Bytes)) (place : Place) (part : String) :
    Except ReadFault Place :=
  match place.find files with
  | .nothing => .error .missing
  | .file _ => .error .notDirectory
  | .directory =>
    if part = "" ∨ part = "." then .ok place
    else if part = ".." then .ok place.parent
    else if (Text.encode part).length > partLimit then .error .nameTooLong
    else place.child part

/-- The disk that holds the given files and nothing else. -/
def Disk.ofFiles (files : NameMap Bytes) : Disk := fun path =>
  let placed := files.entries.map fun f => (parts f.1, f.2)
  let start : Place := if Text.beginsWith path '/' then .outside else .below []
  if path.isEmpty then .error .missing
  else if (Text.encode path).length ≥ pathLimit then .error .nameTooLong
  else
    match (parts path).foldlM (Place.step placed) start with
    | .error e => .error e
    | .ok place =>
      match place.find placed with
      | .file content => .ok content
      | .directory => .error .directory
      | .nothing => .error .missing

/-- The content of a file as text. -/
def Disk.readText (d : Disk) (path : String) : Except ReadFault String :=
  match d path with
  | .error e => .error e
  | .ok bytes =>
    match Text.decode? bytes with
    | some text => .ok text
    | none => .error .notText

end ChatShell.Console
