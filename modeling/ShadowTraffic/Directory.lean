import ShadowTraffic.Dictionary
import ShadowTraffic.Text.Pieces

/-! # A directory of files

What a program can see of the directory it runs in: files by their path below it, and the
directories that lead to them. A path is resolved part by part, and every part but the last must be
a directory. Of what lies outside only the directories above and those that every system has are
known.
-/

namespace ShadowTraffic

inductive FileEntry where
  | file (bytes : List UInt8)
  | directory
  /-- There, but with nothing to read. -/
  | device
  | missing
  /-- A part that is not the last is a file. -/
  | blocked
  /-- The path, or a part of it, is longer than paths and names may be. -/
  | tooLong
deriving DecidableEq

namespace FileEntry

def bytes? : FileEntry → Option (List UInt8)
  | file bytes => some bytes
  | _ => none

def isThere : FileEntry → Bool
  | file _ | directory | device => true
  | missing | blocked | tooLong => false

end FileEntry

/-- What can be seen of files: what each path leads to. -/
abbrev FileView := String → FileEntry

inductive WriteError where
  | noDirectory
  | blocked
  | isDirectory
  | tooLong
  | other (message : String)
deriving DecidableEq

def WriteError.message : WriteError → String
  | noDirectory => "No such file or directory (os error 2)"
  | blocked => "Not a directory (os error 20)"
  | isDirectory => "Is a directory (os error 21)"
  | tooLong => "File name too long (os error 36)"
  | other message => message

/-- Files by path, with slashes between the parts. -/
structure Directory where
  files : Dictionary (List UInt8) := .empty
deriving DecidableEq, Inhabited

namespace Directory

def join (parts : List String) : String :=
  Text.joined "/" parts

def at? (d : Directory) (parts : List String) : FileEntry :=
  if parts.isEmpty then .directory
  else
    match d.files.get? (join parts) with
    | some bytes => .file bytes
    | none =>
      let inside := join parts ++ "/"
      if d.files.keys.any fun name => inside.toList.isPrefixOf name.toList then .directory
      else .missing

/-- What a path outside leads to, by its parts behind the last directory that is known. -/
def outside (parts : List String) : FileEntry :=
  if parts.all fun part => part == "" || part == "." || part == ".." then .directory else .missing

def fromRoot (parts : List String) : FileEntry :=
  match parts.filter fun part => part != "" && part != "." with
  | ["dev"] | ["tmp"] => .directory
  | ["dev", "null"] => .device
  | parts => outside parts

def nameLimit : Nat := 255

def pathLimit : Nat := 4095

def follow (d : Directory) (here : List String) :
    List String → Option (List String) × FileEntry
  | [] => (some here, d.at? here)
  | part :: rest =>
    match d.at? here with
    | .directory =>
      if part == "" || part == "." then d.follow here rest
      else if part == ".." then
        if here.isEmpty then (none, outside rest) else d.follow here.dropLast rest
      else if part.utf8ByteSize > nameLimit then (none, .tooLong)
      else
        match rest, d.at? (here ++ [part]) with
        | [], e => (some (here ++ [part]), e)
        | rest, .missing =>
          (if rest.all (·.isEmpty) then some (here ++ [part]) else none, .missing)
        | rest, _ => d.follow (here ++ [part]) rest
    | .file _ => (none, .blocked)
    | e => (none, e)

/-- Where a path leads, and what stands there. -/
def resolve (d : Directory) (path : String) : Option (List String) × FileEntry :=
  if path.utf8ByteSize > pathLimit then (none, .tooLong)
  else
    match path.toList with
    | [] => (none, .missing)
    | '/' :: _ => (none, fromRoot (Text.pieces path "/"))
    | _ => d.follow [] (Text.pieces path "/")

/-- What can be seen of the files of a directory. -/
def view (d : Directory) : FileView :=
  fun path => (d.resolve path).2

/-- Writes a file. Its directory must be there, and a path that ends in a slash names no file. -/
def write (d : Directory) (path : String) (bytes : List UInt8) : Except WriteError Directory :=
  match d.resolve path with
  | (_, .directory) => .error .isDirectory
  | (_, .blocked) => .error .blocked
  | (_, .tooLong) => .error .tooLong
  | (none, _) => .error .noDirectory
  | (some parts, _) =>
    if path.toList.getLast? == some '/' then .error .isDirectory
    else .ok ⟨d.files.insert (join parts) bytes⟩

end Directory

end ShadowTraffic
