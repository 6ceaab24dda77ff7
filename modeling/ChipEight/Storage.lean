import ChipEight.Fault

namespace ChipEight

/-!
# Stored programs

Programs are read from files below a working directory. A path is made of names
separated by slashes, all but the last one naming directories. Empty names and
single dots lead nowhere else, and double dots lead to the directory above. A
path that leads out of the working directory, or begins with a slash, finds
directories but no files. A path that is too long is refused at once, and a
name that is too long when it is looked for in a directory.
-/

/--
Files and directories, each by the names that lead to it from the
working directory.
-/
structure Storage where
  files : List (List String × List UInt8)
  directories : List (List String)

namespace Storage

/-- The names of a path in order. -/
def pathNames
    (path : String) :
    List String :=
  path.splitOn "/"

/-- Where a name leads from a directory, when it leads there by its own meaning. -/
def enter
    (directory : List String)
    (name : String) :
    List String :=
  if name = "" ∨ name = "." then
    directory
  else if name = ".." then
    directory.dropLast
  else
    directory ++ [name]

/-- The directories that names lead through, the one they start from first. -/
def passed
    (directory : List String) :
    List String →
    List (List String)
  | [] => []
  | name :: rest => directory :: passed (enter directory name) rest

/-- The storage that holds files under the given paths. -/
def ofFiles
    (files : List (String × List UInt8)) :
    Storage :=
  { files := files.map fun (path, bytes) => ((pathNames path).foldl enter [], bytes),
    directories := files.flatMap fun (path, _) => passed [] (pathNames path) }

/--
The content of the file that the names lead to, the latest when there
are several.
-/
def file?
    (storage : Storage)
    (names : List String) :
    Option (List UInt8) :=
  (storage.files.reverse.find? fun file => file.1 = names).map Prod.snd

/-- Whether the names lead to a directory. -/
def isDirectory
    (storage : Storage)
    (names : List String) :
    Bool :=
  storage.directories.contains names

/-- What a path leads to. -/
inductive Place where
  | file (bytes : List UInt8)
  | directory
  | nowhere
  /-- A file was taken for a directory on the way. -/
  | throughFile
  /-- A name that was looked for is too long. -/
  | longName
  deriving DecidableEq, Repr

/-- A directory that is reached on the way along a path. -/
inductive Directory where
  /-- The working directory or one below it, by the names that lead to it. -/
  | inside (names : List String)
  /-- A directory that is not below the working directory. -/
  | outside
  deriving DecidableEq, Repr

namespace Directory

/-- The directory above. -/
def above : Directory → Directory
  | .inside [] => .outside
  | .inside names => .inside names.dropLast
  | .outside => .outside

end Directory

/-- The most bytes that a path may have. -/
def longestPath : Nat := 4095

/-- The most bytes that a name may have. -/
def longestName : Nat := 255

/-- What is found when names are followed from a directory. -/
def follow
    (storage : Storage)
    (directory : Directory) :
    List String →
    Place
  | [] => .directory
  | name :: rest =>
      if name = "" ∨ name = "." then
        storage.follow directory rest
      else if name = ".." then
        storage.follow directory.above rest
      else if longestName < name.utf8ByteSize then
        .longName
      else
        match directory with
        | .outside => .nowhere
        | .inside names =>
            let reached := names ++ [name]
            match storage.file? reached with
            | some bytes => if rest = [] then .file bytes else .throughFile
            | none =>
                if storage.isDirectory reached then
                  storage.follow (.inside reached) rest
                else
                  .nowhere

/-- The directory that a path starts from. -/
def startOf
    (path : String) :
    Directory :=
  if path.toList.head? = some '/' then
    .outside
  else
    .inside []

/-- The bytes of the file at a path. -/
def read
    (storage : Storage)
    (path : String) :
    Except Fault (List UInt8) :=
  if path.toList.contains '\x00' then
    .error .zeroInPath
  else if path = "" then
    .error (.fileMissing path)
  else if longestPath < path.utf8ByteSize then
    .error (.pathTooLong path)
  else
    match storage.follow (startOf path) (pathNames path) with
    | .file bytes => .ok bytes
    | .directory => .error (.pathIsDirectory path)
    | .nowhere => .error (.fileMissing path)
    | .throughFile => .error (.pathThroughFile path)
    | .longName => .error (.pathTooLong path)

end Storage

end ChipEight
