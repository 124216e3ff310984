/-!
The files the program reads and writes, behind an interface with two instances: the real file
system, and a directory tree held in memory that the program can be run against without
touching anything.

The tree answers as a POSIX file system does for the operations used: reading a directory fails
with "Is a directory", a path through a file fails with "Not a directory", a missing parent
with "No such file or directory", and making a directory where a file stands with "File exists".
-/

namespace PromRules.Cli

/-- An operating-system error, as the program reports it. -/
inductive IoError where
  | notFound
  | isDirectory
  | notDirectory
  | alreadyExists
  | other (message : String)
deriving DecidableEq, Repr

/-- The text of an operating-system error. -/
def IoError.message : IoError → String
  | .notFound => "No such file or directory (os error 2)"
  | .isDirectory => "Is a directory (os error 21)"
  | .notDirectory => "Not a directory (os error 20)"
  | .alreadyExists => "File exists (os error 17)"
  | .other message => message

/-- The file operations the program needs. -/
class FileSystem (m : Type → Type) where
  /-- The text of a file. -/
  readFile : String → m (Except IoError String)
  /-- Makes a directory and every missing ancestor of it. -/
  createDirAll : String → m (Except IoError Unit)
  /-- Writes a file, replacing what it held. -/
  writeFile : String → String → m (Except IoError Unit)

/-- The directory that holds a path: everything before its last component, with trailing
slashes ignored; `none` for the empty path and the root. -/
def parentPath (path : String) : Option String :=
  let parts := path.splitOn "/"
  let trimmed := (parts.reverse.dropWhile (·.isEmpty)).reverse
  match trimmed.reverse with
  | [] => none
  | [_] => if path.startsWith "/" then none else some ""
  | _ :: earlier =>
    let joined := "/".intercalate earlier.reverse
    some (if joined.isEmpty && path.startsWith "/" then "/" else joined)

/-- A directory tree held in memory. `workDir` is the absolute name of the working directory;
paths inside it are lists of components. `files` maps paths to contents and `dirs` lists the
directories made explicitly; every ancestor of a file or directory is a directory too. -/
structure Tree where
  workDir : String
  files : List (List String × String)
  dirs : List (List String)

namespace Tree

/-- The components of a path below the working directory, or `none` when the path leads
outside it. Empty and `.` components are skipped and `..` steps up. -/
def locate (t : Tree) (path : String) : Option (List String) :=
  let relative :=
    if path == t.workDir then some ""
    else if path.startsWith (t.workDir ++ "/") then some (path.drop (t.workDir.length + 1)).toString
    else if path.startsWith "/" then none
    else some path
  relative.bind fun rel =>
    (rel.splitOn "/").foldl (fun acc part =>
      acc.bind fun cs =>
        if part.isEmpty || part == "." then some cs
        else if part == ".." then (if cs.isEmpty then none else some cs.dropLast)
        else some (cs ++ [part])) (some [])

/-- The contents of the file at a path. -/
def fileAt (t : Tree) (cs : List String) : Option String := t.files.lookup cs

/-- Whether a path is a directory: the working directory, one made explicitly, or an ancestor
of a file or directory. -/
def isDir (t : Tree) (cs : List String) : Bool :=
  cs.isEmpty || t.dirs.contains cs ||
    t.files.any (fun f => cs.isPrefixOf f.1 && cs.length < f.1.length) ||
    t.dirs.any (fun d => cs.isPrefixOf d && cs.length < d.length)

/-- Whether a proper ancestor of a path is a file, so that the path cannot exist. -/
def throughFile (t : Tree) (cs : List String) : Bool :=
  (List.range cs.length).any fun n => n > 0 && (t.fileAt (cs.take n)).isSome

/-- Reads a file. -/
def read (t : Tree) (path : String) : Except IoError String :=
  match t.locate path with
  | none => .error .notFound
  | some cs =>
    if t.throughFile cs then .error .notDirectory
    else match t.fileAt cs with
      | some text => if path.endsWith "/" then .error .notDirectory else .ok text
      | none => if t.isDir cs then .error .isDirectory else .error .notFound

/-- Makes a directory and its missing ancestors. -/
def makeDirs (t : Tree) (path : String) : Except IoError Tree :=
  match t.locate path with
  | none => .ok t
  | some cs =>
    if t.isDir cs then .ok t
    else if t.throughFile cs then .error .notDirectory
    else if (t.fileAt cs).isSome then .error .alreadyExists
    else .ok { t with dirs := t.dirs ++ [cs] }

/-- Writes a file. -/
def write (t : Tree) (path text : String) : Except IoError Tree :=
  if path.isEmpty then .error .notFound
  else match t.locate path with
  | none => .ok t
  | some cs =>
    if t.throughFile cs then .error .notDirectory
    else if t.isDir cs then .error .isDirectory
    else if path.endsWith "/" then
      .error (if (t.fileAt cs).isSome then .notDirectory else .isDirectory)
    else if !t.isDir cs.dropLast then .error .notFound
    else .ok { t with files := (t.files.filter (·.1 != cs)) ++ [(cs, text)] }

/-- The path of a file inside the working directory, as written relative to it. -/
def pathText (cs : List String) : String := "/".intercalate cs

end Tree

/-- Runs a change of the tree that may fail, keeping the tree as it was on failure. -/
def Tree.change (f : Tree → Except IoError Tree) : StateM Tree (Except IoError Unit) :=
  modifyGet fun t =>
    match f t with
    | .ok t' => (.ok (), t')
    | .error e => (.error e, t)

instance : FileSystem (StateM Tree) where
  readFile path := do return (← get).read path
  createDirAll path := Tree.change (·.makeDirs path)
  writeFile path text := Tree.change (·.write path text)

end PromRules.Cli
