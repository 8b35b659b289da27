/-
A directory of text files, held in memory.

A path is walked part by part, from the directory itself or, if it begins with a
slash, from the root above it.  A step can only be made from a directory, also a
step that stays where it is or goes back up.  Of what lies around the directory
nothing is known but that those are directories.
-/
import FieldbusNode.Config.Loading
namespace FieldbusNode.CommandLine

/-- Text files, each with its path. -/
structure Directory where
  files : List (String × String)

/-- How many bytes a part of a path may have. -/
def maxNameLength : Nat := 255

/-- How many bytes a path may have. -/
def maxPathLength : Nat := 4095

/-- Where a walk along a path has come to. -/
inductive Place
  /-- Something in the directory: the names that lead there, the last one first. -/
  | inside (names : List String)
  /-- A directory around it. -/
  | outside
  | missing
  /-- A walk that had to stop. -/
  | blocked

namespace Directory

/-- The parts of a path that count. -/
def parts (path : String) : List String :=
  (path.splitOn "/").filter fun part => part != "" && part != "."

/-- The text of a file, by the names that lead to it. -/
def text? (d : Directory) (names : List String) : Option String :=
  (d.files.find? fun file => parts file.1 == names.reverse).map Prod.snd

/-- Whether names lead to a directory.  There is one wherever a file is below it. -/
def isFolder (d : Directory) (names : List String) : Bool :=
  names.isEmpty || d.files.any fun file =>
    let path := parts file.1
    names.length < path.length && path.take names.length == names.reverse

/-- The place that one part of a path leads to. -/
def walk (d : Directory) (place : Place) (part : String) : Place :=
  match place with
  | .missing => .missing
  | .blocked => .blocked
  | .outside =>
    if part = "" ∨ part = "." ∨ part = ".." then .outside
    else if maxNameLength < part.utf8ByteSize then .blocked
    else .missing
  | .inside names =>
    if !d.isFolder names then .blocked
    else if part = "" ∨ part = "." then .inside names
    else if part = ".." then
      match names with
      | [] => .outside
      | _ :: above => .inside above
    else if maxNameLength < part.utf8ByteSize then .blocked
    else
      let below := part :: names
      if d.isFolder below || (d.text? below).isSome then .inside below else .missing

/-- What is at a place. -/
def fileAt (d : Directory) : Place → File
  | .missing => .missing
  | .inside names =>
    match d.text? names with
    | some text => .ofText text
    | none => .unreadable
  | .outside | .blocked => .unreadable

/-- What is under a path. -/
def file (d : Directory) (path : String) : File :=
  if maxPathLength < path.utf8ByteSize then .unreadable
  else
    let start : Place := if path.startsWith "/" then .outside else .inside []
    d.fileAt ((path.splitOn "/").foldl d.walk start)

end Directory
end FieldbusNode.CommandLine
