import UsbHost.Text.Split

/-!
# Files and directories

A file tree knows what stands at each location, and which directory paths start from. A path is
followed name by name; a name can only be followed from a directory. An empty name, as a slash at
the end of a path leaves it behind, stays where it is. Where a name is a link, the names of its
target are followed first.

The system refuses to follow paths that are too long, names that are too long, names in directories
that may not be searched, and too many links. Then it does not say whether anything is there.
-/

set_option autoImplicit false

namespace UsbHost

/-- Why a text could not be read from a path. -/
inductive ReadError where
  | missing
  | notDirectory
  | isDirectory
  | denied
  | tooManyLinks
  | nameTooLong
  | nulInPath
  | notText
  deriving DecidableEq, Repr

def ReadError.message : ReadError → String
  | missing => "No such file or directory (os error 2)"
  | notDirectory => "Not a directory (os error 20)"
  | isDirectory => "Is a directory (os error 21)"
  | denied => "Permission denied (os error 13)"
  | tooManyLinks => "Too many levels of symbolic links (os error 40)"
  | nameTooLong => "File name too long (os error 36)"
  | nulInPath => "file name contained an unexpected NUL byte"
  | notText => "stream did not contain valid UTF-8"

/-- A location: the names that lead to it from the root. -/
abbrev Location := List String

/-- What stands at a location, and what the program may do with it. -/
inductive FileNode where
  /-- Only in a directory that may be searched can names be followed. -/
  | directory (searchable : Bool := true) (readable : Bool := true)
  | file (bytes : ByteArray) (readable : Bool := true)
  | link (target : String)

structure FileTree where
  nodes : List (Location × FileNode) := []
  /-- The directory that relative paths start from. -/
  current : Location := []

/-- Where one name leads: to a location, or to the target of a link. -/
inductive Stride where
  | lands (location : Location)
  | through (target : String)

namespace FileTree

/-- The largest number of bytes of a name. -/
def maxNameSize : Nat := 255

/-- The largest number of bytes of a path. -/
def maxPathSize : Nat := 4095

/-- The largest number of links that are followed for one path. -/
def maxLinks : Nat := 40

def node? (tree : FileTree) (location : Location) : Option FileNode :=
  if location.isEmpty then some .directory
  else (tree.nodes.find? fun node => node.1 == location).map Prod.snd

/-- Puts a node at a free location below an existing directory. -/
def add (tree : FileTree) (location : Location) (node : FileNode) : FileTree :=
  match tree.node? location with
  | some _ => tree
  | none => { tree with nodes := tree.nodes ++ [(location, node)] }

/-- Puts a node at a location, and directories where they are missing on the way. -/
def addBelow (tree : FileTree) (start : Location) : List String → FileNode → FileTree
  | [], _ => tree
  | [name], node => tree.add (start ++ [name]) node
  | name :: rest, node =>
    (tree.add (start ++ [name]) .directory).addBelow (start ++ [name]) rest node

/-- Where a name leads from a directory, whoever follows it. -/
def next? (tree : FileTree) (location : Location) (name : String) : Option Stride :=
  match tree.node? location with
  | some (.directory ..) =>
    if name.isEmpty || name == "." then some (.lands location)
    else if name == ".." then some (.lands location.dropLast)
    else
      match tree.node? (location ++ [name]) with
      | some (.link target) => some (.through target)
      | some _ => some (.lands (location ++ [name]))
      | none => none
  | _ => none

/-- Follows one name, as far as that is allowed. -/
def enter (tree : FileTree) (location : Location) (name : String) : Except ReadError Stride :=
  match tree.node? location with
  | some (.directory searchable _) =>
    if !name.isEmpty && !searchable then .error .denied
    else if maxNameSize < name.utf8ByteSize then .error .nameTooLong
    else
      match tree.next? location name with
      | some stride => .ok stride
      | none => .error .missing
  | some _ => .error .notDirectory
  | none => .error .missing

/-- Whether a path starts from the root. -/
def isAbsolute (path : String) : Bool :=
  path.toList.head? == some '/'

/-- Where a path starts from if it stands in a directory. -/
def start (path : String) (directory : Location) : Location :=
  if isAbsolute path then [] else directory

/-- Follows names up to a link. There `follow` goes on with the names of the link and the rest. -/
def walkWith (tree : FileTree) (follow : List String → Location → Except ReadError Location) :
    List String → Location → Except ReadError Location
  | [], location => .ok location
  | name :: rest, location =>
    match tree.enter location name with
    | .error cause => .error cause
    | .ok (.lands next) => tree.walkWith follow rest next
    | .ok (.through target) => follow (Text.split '/' target ++ rest) (start target location)

/-- Follows names, and no more than the given number of links. -/
def walk (tree : FileTree) : Nat → List String → Location → Except ReadError Location
  | 0 => tree.walkWith fun _ _ => .error .tooManyLinks
  | links + 1 => tree.walkWith (tree.walk links)

def resolve (tree : FileTree) (path : String) : Except ReadError Location :=
  if path.toList.contains '\x00' then .error .nulInPath
  else if path.isEmpty then .error .missing
  else if maxPathSize < path.utf8ByteSize then .error .nameTooLong
  else tree.walk maxLinks (Text.split '/' path) (start path tree.current)

/-- What the system finds at a path. -/
def status (tree : FileTree) (path : String) : Except ReadError FileNode :=
  match tree.resolve path with
  | .error cause => .error cause
  | .ok location =>
    match tree.node? location with
    | some (.link _) | none => .error .missing
    | some node => .ok node

/-- Whether the system finds anything at a path. Any error is a no. -/
def has (tree : FileTree) (path : String) : Bool :=
  (tree.status path).isOk

def readText (tree : FileTree) (path : String) : Except ReadError String :=
  match tree.status path with
  | .error cause => .error cause
  | .ok (.file bytes readable) =>
    if readable then
      match String.fromUTF8? bytes with
      | some text => .ok text
      | none => .error .notText
    else .error .denied
  | .ok (.directory _ readable) => .error (if readable then .isDirectory else .denied)
  | .ok (.link _) => .error .missing

/-- A path with one more name. A slash is put between them unless there is one. -/
def join (path name : String) : String :=
  if path.isEmpty || path.toList.getLast? == some '/' then path ++ name else path ++ "/" ++ name

end FileTree

end UsbHost
