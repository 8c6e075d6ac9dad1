import PluralForms.Program.Run

/-!
# Runs in a directory of named files

A run may read one file. `Program.readFrom` answers that read from a working directory that holds
only the given text files (a name with slashes puts its file in subdirectories), walking the path
one component at a time the way the operating system does:

* an empty component (from a leading, doubled or final slash) and `.` stay where they are, and
  `..` goes up; above the working directory, and from `/`, there are directories but no files;
* a component longer than 255 bytes is refused as too long, a name that is not there is missing;
* every component but the last must be a directory, and so must the last when the path ends with
  a slash; the last must not be a directory, since a directory cannot be read as a file;
* a path of 4096 bytes or more is refused as too long, and the empty path names nothing.
-/

namespace PluralForms

namespace Program

def notFound : String := "No such file or directory (os error 2)"

def isDirectory : String := "Is a directory (os error 21)"

def notDirectory : String := "Not a directory (os error 20)"

/-- The reason for a path or a component of it that is too long. -/
def nameTooLong : String := "File name too long (os error 36)"

/-- Where a walk along a path stands. -/
inductive Place where
  /-- A directory inside the working directory, by the names leading to it (none for the working
  directory itself). -/
  | inside (dirs : List String)
  /-- A directory outside the working directory. -/
  | outside
  /-- A file, by its contents. -/
  | file (contents : String)

def lookIn (files : List (String × String)) (place : Place) (name : String) :
    Except String Place :=
  if name = "" || name = "." then .ok place
  else if name = ".." then
    match place with
    | .inside [] => .ok .outside
    | .inside dirs => .ok (.inside dirs.dropLast)
    | other => .ok other
  else if name.utf8ByteSize > 255 then .error nameTooLong
  else
    match place with
    | .inside dirs =>
      let key := "/".intercalate (dirs ++ [name])
      match files.find? (·.1 = key) with
      | some (_, contents) => .ok (.file contents)
      | none =>
        if files.any (·.1.startsWith (key ++ "/")) then .ok (.inside (dirs ++ [name]))
        else .error notFound
    | _ => .error notFound

/-- The contents read where a walk ended: a file, unless a directory was wanted. -/
def arrive (dirWanted : Bool) : Place → Except String String
  | .file contents => if dirWanted then .error notDirectory else .ok contents
  | _ => .error isDirectory

/-- Walks the components of a path; all but the last must lead to directories, and the last
must be a file, read as a directory when `dirWanted`. -/
def walk (files : List (String × String)) (dirWanted : Bool) (place : Place) :
    List String → Except String String
  | [] => arrive dirWanted place
  | name :: rest =>
    match lookIn files place name with
    | .error e => .error e
    | .ok (.file contents) =>
      if rest.all (· = "") then arrive dirWanted (.file contents) else .error notDirectory
    | .ok next => walk files dirWanted next rest

/-- Reads the file at `path` from a directory holding the named `files`. -/
def readFrom (files : List (String × String)) (path : String) : Except String String :=
  if path.utf8ByteSize ≥ 4096 then .error nameTooLong
  else if path.isEmpty then .error notFound
  else
    let start := if path.startsWith "/" then Place.outside else .inside []
    walk files (path.endsWith "/") start (path.splitOn "/")

/-- Finishes a run in a directory holding the named files. -/
def Run.complete (files : List (String × String)) : Run → Transcript
  | .done t => t
  | .reading path resume => resume (readFrom files path)

end Program

end PluralForms
