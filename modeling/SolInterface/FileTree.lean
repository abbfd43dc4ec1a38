import SolInterface.FileError

/-!
File trees: files and directories under absolute locations, each with the time of its last change.
A path is followed name by name, so that every name before a `..` has to be a directory.

Left out are symbolic links, and with them the loops that a path may run into; permissions, so that
nothing is refused for want of them; and the times of directories, which stay those of their making
when names are added to them.
-/
namespace SolInterface

abbrev Time := Int

/-- The names on the way from the root. -/
abbrev Location := List Text

inductive FileTree.Node where
  | file (content : List UInt8) (mtime : Time)
  | directory (mtime : Time)
  deriving DecidableEq, Repr

def FileTree.Node.mtime : Node → Time
  | .file _ mtime => mtime
  | .directory mtime => mtime

/-- What stands at each location. -/
structure FileTree where
  entries : List (Location × FileTree.Node)
  deriving DecidableEq, Repr

namespace FileTree
open FileError (Cause)

def get? (t : FileTree) (loc : Location) : Option Node := t.entries.lookup loc

/-- The entries with a node put at a location. -/
def enter (loc : Location) (node : Node) : List (Location × Node) → List (Location × Node)
  | [] => [(loc, node)]
  | e :: es => if e.1 = loc then (loc, node) :: es else e :: enter loc node es

def put (t : FileTree) (loc : Location) (node : Node) : FileTree := ⟨enter loc node t.entries⟩

def erase (t : FileTree) (loc : Location) : FileTree := ⟨t.entries.filter fun e => e.1 ≠ loc⟩

/-- The location reached by the names from a directory. -/
def walk (t : FileTree) (here : Location) : List Text → Except Cause Location
  | [] => .ok here
  | name :: more =>
    match t.get? here with
    | some (.directory _) =>
      let next := if name = ("..".toList) then here.dropLast else here ++ [name]
      if Path.isLongName name then .error .nameTooLong
      else if (t.get? next).isSome then t.walk next more
      else .error .notFound
    | some (.file _ _) => .error .notDirectory
    | none => .error .notFound

/-- Where names are followed from. -/
def start (cwd p : Path) : Location := if p.isAbsolute then [] else cwd.names

/-- The location that the first names of a path lead to. -/
def follow (t : FileTree) (cwd p : Path) (names : List Text) : Except FileError Location :=
  match p.barrier? with
  | some cause => .error ⟨cause, p⟩
  | none =>
    match t.walk (start cwd p) names with
    | .ok loc => .ok loc
    | .error cause => .error ⟨cause, p⟩

/-- The location of a path at which something stands. -/
def locate (t : FileTree) (cwd p : Path) : Except FileError Location := t.follow cwd p p.names

def stat (t : FileTree) (cwd p : Path) : Except FileError Node :=
  match t.locate cwd p with
  | .ok loc =>
    match t.get? loc with
    | some node => .ok node
    | none => .error ⟨.notFound, p⟩
  | .error e => .error e

/-- What stands at a path, if anything does. -/
def stat? (t : FileTree) (cwd p : Path) : Except FileError (Option Node) :=
  match t.stat cwd p with
  | .ok node => .ok (some node)
  | .error e => if e.cause.isAbsence then .ok none else .error e

def pathExists (t : FileTree) (cwd p : Path) : Except FileError Bool :=
  (t.stat? cwd p).map Option.isSome

def isFile (t : FileTree) (cwd p : Path) : Except FileError Bool :=
  (t.stat? cwd p).map fun
    | some (.file _ _) => true
    | _ => false

def isDirectory (t : FileTree) (cwd p : Path) : Except FileError Bool :=
  (t.stat? cwd p).map fun
    | some (.directory _) => true
    | _ => false

def read (t : FileTree) (cwd p : Path) : Except FileError (List UInt8) :=
  match t.stat cwd p with
  | .ok (.file content _) => .ok content
  | .ok (.directory _) => .error ⟨.isDirectory, p⟩
  | .error e => .error e

/-- The directory that the path's last name stands in, and that name; `none` for a path that names
the place it starts from, or one that goes up. -/
def slot (t : FileTree) (cwd p : Path) : Except FileError (Option (Location × Text)) :=
  match p.names.getLast? with
  | none => .ok none
  | some name =>
    match t.follow cwd p p.names.dropLast with
    | .error e => .error e
    | .ok parent =>
      match t.get? parent with
      | some (.directory _) =>
        if name = ("..".toList) then .ok none
        else if Path.isLongName name then .error ⟨.nameTooLong, p⟩
        else .ok (some (parent, name))
      | some (.file _ _) => .error ⟨.notDirectory, p⟩
      | none => .error ⟨.notFound, p⟩

/-- A new directory, in one that exists. -/
def makeDirectory (t : FileTree) (cwd p : Path) (now : Time) : Except FileError FileTree :=
  match t.slot cwd p with
  | .error e => .error e
  | .ok none => .error ⟨.alreadyExists, p⟩
  | .ok (some (parent, name)) =>
    match t.get? (parent ++ [name]) with
    | some _ => .error ⟨.alreadyExists, p⟩
    | none => .ok (t.put (parent ++ [name]) (.directory now))

/-- The tree after a directory could not be made: no error if it is there already. -/
def excuse (t : FileTree) (cwd : Path) (e : FileError) : Except FileError Unit :=
  if e.cause.isRefusal then
    match t.isDirectory cwd e.path with
    | .ok true => .ok ()
    | .ok false => .error e
    | .error e => .error e
  else .error e

/-- A new directory, or one that is there already. -/
def ensureDirectory (t : FileTree) (cwd p : Path) (now : Time) : Except FileError FileTree :=
  match t.makeDirectory cwd p now with
  | .ok t' => .ok t'
  | .error e => if e.cause = .notFound then .error e else (t.excuse cwd e).map fun _ => t

/-- The directory that the first of the names, last one first, spell from the anchor, with all those
above it. A failure leaves the directories that were made before it. -/
def makePath (cwd : Path) (anchor : Anchor) (now : Time) :
    List Text → FileTree → Except FileError Unit × FileTree
  | names, t =>
    let p : Path := ⟨anchor, names.reverse⟩
    match t.makeDirectory cwd p now with
    | .ok t' => (.ok (), t')
    | .error e =>
      if e.cause = .notFound then
        match names with
        | [] => (.error e, t)
        | _ :: above =>
          match makePath cwd anchor now above t with
          | (.error e, t') => (.error e, t')
          | (.ok (), t') =>
            match t'.ensureDirectory cwd p now with
            | .ok t'' => (.ok (), t'')
            | .error e => (.error e, t')
      else (t.excuse cwd e, t)

/-- A directory, with all those above it. -/
def makeDirectories (t : FileTree) (cwd p : Path) (now : Time) : Except FileError Unit × FileTree :=
  makePath cwd p.anchor now p.names.reverse t

/-- A file with new content, in a directory that exists. -/
def write (t : FileTree) (cwd p : Path) (content : List UInt8) (now : Time) :
    Except FileError FileTree :=
  match t.slot cwd p with
  | .error e => .error e
  | .ok none => .error ⟨.isDirectory, p⟩
  | .ok (some (parent, name)) =>
    match t.get? (parent ++ [name]) with
    | some (.directory _) => .error ⟨.isDirectory, p⟩
    | _ => .ok (t.put (parent ++ [name]) (.file content now))

/-- The names that lead from a location to the things below it. -/
def below (t : FileTree) (loc : Location) : List (List Text) :=
  t.entries.filterMap fun e =>
    if e.1.take loc.length = loc ∧ loc.length < e.1.length then some (e.1.drop loc.length) else none

end FileTree
end SolInterface
