/-!
# Log files

Opening a log file makes the directories it lies in.  Directories and files
are kept as a table from places to what is there; a place is the list of
names that lead to it from the working directory.
-/

namespace ContainerBoard

/-- What is in a place of the file system. -/
inductive FileNode where
  | directory
  | file (content : String)
  deriving DecidableEq, Repr

/-- Why a path cannot be used. -/
inductive PathError where
  | missing
  | exists
  | notDirectory
  | isDirectory
  | nameTooLong
  deriving DecidableEq, Repr

/-- The system's text of an error. -/
def PathError.message : PathError → String
  | .missing => "No such file or directory (os error 2)"
  | .exists => "File exists (os error 17)"
  | .notDirectory => "Not a directory (os error 20)"
  | .isDirectory => "Is a directory (os error 21)"
  | .nameTooLong => "File name too long (os error 36)"

/-- The names that lead to a place. -/
abbrev Place := List String

/-- Directories and files below the working directory. -/
structure FileSystem where
  nodes : List (Place × FileNode) := []
  deriving DecidableEq, Repr, Inhabited

namespace FileSystem

def node? (fs : FileSystem) (place : Place) : Option FileNode :=
  if place.isEmpty then some .directory
  else (fs.nodes.find? fun entry => entry.1 = place).map Prod.snd

def put (fs : FileSystem) (place : Place) (node : FileNode) : FileSystem :=
  ⟨(place, node) :: fs.nodes.filter fun entry => !decide (entry.1 = place)⟩

def steps (path : String) : List String :=
  (path.splitOn "/").filter fun name => !name.isEmpty

/-- The longest name of a directory or file, in bytes. -/
def longestName : Nat := 255

/-- The place that a step leads to from a directory, whatever is there. -/
def stepFrom (place : Place) (step : String) : Except PathError Place :=
  if step = "." then .ok place
  else if step = ".." then .ok place.dropLast
  else if longestName < step.utf8ByteSize then .error .nameTooLong
  else .ok (place ++ [step])

/-- The place that steps lead to through directories. -/
def walk (fs : FileSystem) (place : Place) : List String → Except PathError Place
  | [] => .ok place
  | step :: rest =>
    match fs.node? place with
    | none => .error .missing
    | some (.file _) => .error .notDirectory
    | some .directory => do
      let next ← stepFrom place step
      fs.walk next rest

/-- The place of a path, whatever is there. -/
def resolve (fs : FileSystem) (path : String) : Except PathError Place :=
  if path.isEmpty then .error .missing else fs.walk [] (steps path)

def isDirectory (fs : FileSystem) (path : String) : Bool :=
  match fs.resolve path with
  | .ok place => fs.node? place = some .directory
  | .error _ => false

def makeDirectory (fs : FileSystem) (path : String) : Except PathError FileSystem := do
  let place ← fs.resolve path
  match fs.node? place with
  | some _ => .error .exists
  | none => .ok (fs.put place .directory)

/-- The characters of a path, last one first, without slashes and single
dots at the end. -/
def trimEnd : List Char → List Char
  | [] => []
  | ['/'] => ['/']
  | '/' :: rest => trimEnd rest
  | '.' :: '/' :: rest => trimEnd ('/' :: rest)
  | path => path

/-- The path of the directory that a path lies in; nothing for the root. -/
def parent? (path : String) : Option String :=
  match trimEnd path.toList.reverse with
  | [] => none
  | ['/'] => none
  | name =>
    let above := name.dropWhile (· != '/')
    some (String.ofList (trimEnd above).reverse)

/-- Makes a directory, unless there is one already. -/
def ensureDirectory (fs : FileSystem) (path : String) : Except PathError Unit × FileSystem :=
  match fs.makeDirectory path with
  | .ok fs => (.ok (), fs)
  | .error error => (if fs.isDirectory path then .ok () else .error error, fs)

/-- Makes a directory and those it lies in.  The fuel bounds the depth. -/
def makeDirectoriesWith (fs : FileSystem) (path : String) :
    (fuel : Nat) → Except PathError Unit × FileSystem
  | 0 => (.ok (), fs)
  | fuel + 1 =>
    if path.isEmpty then (.ok (), fs)
    else
      match fs.ensureDirectory path, parent? path with
      | (.error .missing, fs), some above =>
        match fs.makeDirectoriesWith above fuel with
        | (.ok (), fs) => fs.ensureDirectory path
        | (.error error, fs) => (.error error, fs)
      | answer, _ => answer

/-- Makes a directory and those it lies in. -/
def makeDirectories (fs : FileSystem) (path : String) : Except PathError Unit × FileSystem :=
  fs.makeDirectoriesWith path (path.length + 1)

/-- Opens a file to write at its end; gives its place. -/
def openFile (fs : FileSystem) (path : String) : Except PathError Place × FileSystem :=
  let endsInSlash := path.toList.getLast? = some '/'
  match fs.resolve path with
  | .error error => (.error error, fs)
  | .ok place =>
    if endsInSlash then (.error .isDirectory, fs)
    else
      match fs.node? place with
      | some .directory => (.error .isDirectory, fs)
      | some (.file _) => (.ok place, fs)
      | none => (.ok place, fs.put place (.file ""))

/-- Writes at the end of a file; gives what it holds then. -/
def append (fs : FileSystem) (place : Place) (text : String) : String × FileSystem :=
  let content :=
    match fs.node? place with
    | some (.file content) => content ++ text
    | _ => text
  (content, fs.put place (.file content))

/-- Why a log file cannot be opened. -/
structure LogFileError where
  /-- What was tried. -/
  attempt : String
  cause : PathError
  deriving DecidableEq, Repr

def LogFileError.message (error : LogFileError) : String :=
  error.attempt ++ ": " ++ error.cause.message

/-- The directory that a log file needs, if it names one. -/
def logDirectory? (path : String) : Option String :=
  (parent? path).filter fun above => !above.isEmpty

def prepare (fs : FileSystem) (path : String) : Except LogFileError Unit × FileSystem :=
  match logDirectory? path with
  | none => (.ok (), fs)
  | some above =>
    let (answer, fs) := fs.makeDirectories above
    (answer.mapError fun cause => ⟨"creating log directory " ++ above, cause⟩, fs)

/-- Opens a log file, in directories that are made if need be. -/
def openLog (fs : FileSystem) (path : String) : Except LogFileError Place × FileSystem :=
  match fs.prepare path with
  | (.error error, fs) => (.error error, fs)
  | (.ok (), fs) =>
    let (answer, fs) := fs.openFile path
    (answer.mapError fun cause => ⟨"opening log file " ++ path, cause⟩, fs)

end FileSystem

end ContainerBoard
