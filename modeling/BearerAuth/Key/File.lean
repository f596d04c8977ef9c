import BearerAuth.Bytes

/-!
# Files

A path names a file by the directories on the way to it, from the root or from the directory in
which one works. Of a file system some directories and files are known; nothing else is there.
-/

namespace BearerAuth.Key

/-- Why a file gave no text. -/
inductive FileFault
  | notFound
  | invalidData
  | invalidInput
  | isADirectory
  | notADirectory
  | invalidFilename
  | other
  deriving DecidableEq, Repr

/-- What is at a place. -/
inductive Entry
  | directory
  | file (content : Bytes)
  deriving DecidableEq, Repr

/-- A file system: what is at a place, which is given by the names on the way to it from the root,
the last one first. The root itself is a directory. -/
structure FileSystem where
  entry? : List String → Option Entry

namespace FileSystem

/-- What is at a place, the root included. -/
def at? (fs : FileSystem) (place : List String) : Option Entry :=
  if place = [] then some .directory else fs.entry? place

/-- Goes along names from a place. An empty name and a dot stay there, two dots go back. -/
def follow (fs : FileSystem) (place : List String) : List String → Except FileFault Entry
  | [] =>
    match fs.at? place with
    | some e => .ok e
    | none => .error .notFound
  | name :: names =>
    match fs.at? place with
    | none => .error .notFound
    | some (.file _) => .error .notADirectory
    | some .directory =>
      if 255 < name.utf8ByteSize then .error .invalidFilename
      else if name = "" ∨ name = "." then fs.follow place names
      else if name = ".." then fs.follow (place.drop 1) names
      else fs.follow (name :: place) names

/-- Reads the file that a path names, for one who works at a place. -/
def read (fs : FileSystem) (place : List String) (path : String) : Except FileFault Bytes :=
  if path.contains '\x00' then .error .invalidInput
  else if path = "" then .error .notFound
  else if 4095 < path.utf8ByteSize then .error .invalidFilename
  else
    match fs.follow (if path.startsWith "/" then [] else place) (path.splitOn "/") with
    | .error fault => .error fault
    | .ok .directory => .error .isADirectory
    | .ok (.file content) => .ok content

end FileSystem

end BearerAuth.Key
