import IntcodeMachine.CommandLine.Path

/-
  This file defines a tree of files, on which the command
  line can be run without a file system.

  The tree lists its files and its directories by the parts
  of their paths. A path is followed part by part; it fails
  at the first part that is missing, that is no directory
  although more parts follow, or whose name is too long.

  Key definitions include:
    * `CommandLine.Files`
    * `CommandLine.Files.find`
    * `CommandLine.Files.read`
    * `CommandLine.Files.makeDirectories`
    * `CommandLine.Files.append`
-/

------------------------------------------------------------
-- Trees Of Files
------------------------------------------------------------

namespace IntcodeMachine

namespace CommandLine

/- Files with their octets, and directories. -/
structure Files where
  files : List (List String × List UInt8)
  directories : List (List String)

namespace Files

/- What stands at a place of the tree. -/
inductive Node where
| file (octets : List UInt8)
| directory

/- The places above a place, the root first. -/
def above : List String → List (List String)
| [] => []
| part :: rest => [] :: (above rest).map (part :: ·)

/- The tree of some files, with the directories above. -/
def ofList
    (files : List (List String × List UInt8)) : Files where
  files := files
  directories := files.flatMap fun f => above f.1

/-
  The place is a directory. The top is always one, and so is
  what two dots lead to from there.
-/
def isDirectoryAt
    (t : Files)
    (place : List String) : Bool :=
  place.isEmpty || place = ["/"] ||
    place.getLast? = some ".." ||
    t.directories.contains place

/- What stands at a place, if anything does. -/
def nodeAt?
    (t : Files)
    (place : List String) : Option Node :=
  if t.isDirectoryAt place then some .directory
  else (t.files.lookup place).map .file

------------------------------------------------------------
-- Following Paths
------------------------------------------------------------

/- The most octets in the name of a part. -/
def maxName : Nat := 255

/- The most octets in a path. -/
def maxPath : Nat := 4095

/- The place that a part leads to, from a directory. -/
def stepInto
    (place : List String)
    (part : String) : List String :=
  if part = ".." then
    match place.getLast? with
    | none => [".."]
    | some last =>
        if last = ".." then place ++ [".."]
        else if place = ["/"] then place
        else place.dropLast
  else place ++ [part]

/- Follow parts from a place, and give where they lead. -/
def follow
    (t : Files) :
    List String → List String → Except Obstacle (List String)
| place, [] => .ok place
| place, part :: rest =>
    match t.nodeAt? place with
    | none => .error .notFound
    | some (.file _) => .error .notDirectory
    | some .directory =>
        if maxName < part.utf8ByteSize then
          .error .nameTooLong
        else follow t (stepInto place part) rest

/- The place that a path leads to. -/
def find
    (t : Files)
    (p : Path) : Except Obstacle (List String) :=
  if maxPath < p.render.utf8ByteSize then
    .error .nameTooLong
  else t.follow [] p.walk

/- What a path leads to. -/
def node
    (t : Files)
    (p : Path) : Except Obstacle Node :=
  match t.find p with
  | .error o => .error o
  | .ok place =>
      match t.nodeAt? place with
      | some n => .ok n
      | none => .error .notFound

/- The path leads to a directory. -/
def isDirectory
    (t : Files)
    (p : Path) : Bool :=
  match t.node p with
  | .ok .directory => true
  | _ => false

/- The octets of a file. -/
def read
    (t : Files)
    (p : Path) : Except Obstacle (List UInt8) :=
  match t.node p with
  | .error o => .error o
  | .ok .directory => .error .isDirectory
  | .ok (.file octets) => .ok octets

------------------------------------------------------------
-- Making Directories
------------------------------------------------------------

/- The tree with one more directory. -/
def makeDirectory
    (t : Files)
    (p : Path) : Except Obstacle Files :=
  match t.node p with
  | .ok _ => .error .exists
  | .error .notFound =>
      match t.node p.parent, t.find p with
      | .ok .directory, .ok place =>
          .ok
            { t with directories := place :: t.directories }
      | .ok (.file _), _ => .error .notDirectory
      | .error o, _ => .error o
      | _, .error o => .error o
  | .error o => .error o

/- Make a directory unless it is there. -/
def ensureDirectory
    (t : Files)
    (p : Path) : Except Obstacle Files :=
  match t.makeDirectory p with
  | .ok t' => .ok t'
  | .error o => if t.isDirectory p then .ok t else .error o

/-
  Make a directory and those above it unless they are there.
  The parts of the path count down.
-/
def makeFrom
    (t : Files)
    (p : Path) : Nat → Except Obstacle Files
| 0 => t.ensureDirectory p
| depth + 1 =>
    match t.makeDirectory p with
    | .ok t' => .ok t'
    | .error .notFound =>
        match makeFrom t p.parent depth with
        | .error o => .error o
        | .ok t' => t'.ensureDirectory p
    | .error o =>
        if t.isDirectory p then .ok t else .error o

/- Make a directory and those above it. -/
def makeDirectories
    (t : Files)
    (p : Path) : Except Obstacle Files :=
  t.makeFrom p p.parts.length

------------------------------------------------------------
-- Appending
------------------------------------------------------------

/- The tree with octets in the file at a place. -/
def put
    (t : Files)
    (place : List String)
    (octets : List UInt8) : Files :=
  { t with
    files :=
      (place, octets) ::
        t.files.filter fun f => f.1 ≠ place }

/- Add octets to a file, which is made if it is missing. -/
def append
    (t : Files)
    (p : Path)
    (octets : List UInt8) : Except Obstacle Files :=
  match t.node p with
  | .ok .directory => .error .isDirectory
  | .ok (.file before) =>
      match t.find p with
      | .error o => .error o
      | .ok place => .ok (t.put place (before ++ octets))
  | .error .notFound =>
      match t.node p.parent, t.find p with
      | .ok .directory, .ok place =>
          .ok (t.put place octets)
      | .ok (.file _), _ => .error .notDirectory
      | .error o, _ => .error o
      | _, .error o => .error o
  | .error o => .error o

end Files

end CommandLine

end IntcodeMachine
