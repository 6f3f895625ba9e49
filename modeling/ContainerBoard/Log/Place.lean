/-!
# Where the log file is

Without a setting the log file lies in the user's cache directory, or in the
working directory if there is none.
-/

namespace ContainerBoard.LogPlace

def join (path name : String) : String :=
  if path.toList.getLast? = some '/' then path ++ name else path ++ "/" ++ name

def isAbsolute (path : String) : Bool :=
  path.toList.head? = some '/'

/-- The user's home directory: what the environment says, or else the
account. -/
def homeDirectory (home : Option String) (account : Option String) : Option String :=
  match home with
  | some home => if home.isEmpty then account else some home
  | none => account

/-- The user's cache directory.  Only an absolute path is taken from the
environment. -/
def cacheDirectory (home cacheHome : Option String) (account : Option String) :
    Option String :=
  match cacheHome.filter isAbsolute with
  | some path => some path
  | none => (homeDirectory home account).map fun home => join home ".cache"

/-- The log file. -/
def defaultPath (home cacheHome : Option String) (account : Option String) : String :=
  let directory :=
    match cacheDirectory home cacheHome account with
    | some cache => join cache "dockdeck"
    | none => "."
  join directory "dockdeck.log"

end ContainerBoard.LogPlace
