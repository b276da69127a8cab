import ClosureTemplate.Error
import ClosureTemplate.Text.Basic

namespace ClosureTemplate.Files

inductive Entry where
  | file (content : Except FileFault Text)
  | directory
  | absent (fault : FileFault)

structure Host where
  workingDirectory : String
  env? : String → Option String
  look : String → Entry
  isTerminal : Bool := false

def isAbsolute (path : String) : Bool := path.toList.head? = some '/'

def join (directory path : String) : String :=
  if isAbsolute path || directory.isEmpty then path
  else if directory.toList.getLast? = some '/' then directory ++ path
  else directory ++ "/" ++ path

namespace Host

def isFile (host : Host) (path : String) : Bool :=
  match host.look path with
  | .file _ => true
  | _ => false

def read (host : Host) (path : String) : Except FileFault Text :=
  match host.look path with
  | .file content => content
  | .directory => .error .isDirectory
  | .absent fault => .error fault

end Host

end ClosureTemplate.Files
