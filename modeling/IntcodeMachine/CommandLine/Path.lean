import IntcodeMachine.Text.Lines
import IntcodeMachine.Text.Quoted

/-
  This file defines paths of files, and why a file cannot be
  reached.

  A path is a root, if it has one, and parts. Empty parts
  and single dots are dropped when a path is read from text;
  two dots are kept and lead to the parent.

  Key definitions include:
    * `CommandLine.Path`
    * `CommandLine.Path.ofText`
    * `CommandLine.Path.render`
    * `CommandLine.Obstacle`
-/

------------------------------------------------------------
-- Paths
------------------------------------------------------------

namespace IntcodeMachine

namespace CommandLine

/- The name of a file or directory, from a root or not. -/
structure Path where
  /- No slash, one slash or two. -/
  root : String
  parts : List String
deriving DecidableEq, Repr

namespace Path

/- The root of a path that starts with so many slashes. -/
def rootOf : Nat → String
| 0 => ""
| 2 => "//"
| _ => "/"

/- The path that a text names. -/
def ofText (s : String) : Path where
  root := rootOf (s.toList.takeWhile (· = '/')).length
  parts :=
    ((Text.pieces '/' s.toList).map String.ofList).filter
      fun part => part ≠ "" && part ≠ "."

/- The text of a path; a single dot if it is empty. -/
def render (p : Path) : String :=
  if p.root = "" && p.parts.isEmpty then "."
  else p.root ++ Text.joinStrings "/" p.parts

/- The parts that lead to a path, its root as the first. -/
def walk (p : Path) : List String :=
  if p.root = "" then p.parts else "/" :: p.parts

/- The directory that holds a path. -/
def parent (p : Path) : Path :=
  { p with parts := p.parts.dropLast }

/- The path has a character that no file name may have. -/
def hasNul (p : Path) : Bool :=
  p.parts.any fun part => part.toList.contains '\x00'

end Path

------------------------------------------------------------
-- Obstacles
------------------------------------------------------------

/- Why a file or directory cannot be reached. -/
inductive Obstacle where
| notFound
| notPermitted
| notDirectory
| isDirectory
| exists
| nameTooLong
deriving DecidableEq, Repr

namespace Obstacle

/- The number of an obstacle. -/
def code : Obstacle → Nat
| .notFound => 2
| .notPermitted => 13
| .exists => 17
| .notDirectory => 20
| .isDirectory => 21
| .nameTooLong => 36

/- The words for an obstacle. -/
def reason : Obstacle → String
| .notFound => "No such file or directory"
| .notPermitted => "Permission denied"
| .exists => "File exists"
| .notDirectory => "Not a directory"
| .isDirectory => "Is a directory"
| .nameTooLong => "File name too long"

/- The category under which an obstacle is reported. -/
def category : Obstacle → String
| .notFound => "FileNotFoundError"
| .notPermitted => "PermissionError"
| .exists => "FileExistsError"
| .notDirectory => "NotADirectoryError"
| .isDirectory => "IsADirectoryError"
| .nameTooLong => "OSError"

/- The words for an obstacle on a path. -/
def message
    (o : Obstacle)
    (p : Path) : String :=
  "[Errno " ++ String.ofList (Nat.toDigits 10 o.code) ++
    "] " ++ o.reason ++ ": " ++ Text.quote p.render

end Obstacle

end CommandLine

end IntcodeMachine
