import ClosureTemplate.Files.Basic

namespace ClosureTemplate.Files

inductive Content where
  | directory
  | file (bytes : ByteArray)

def components : Text → List String
  | [] => [""]
  | c :: cs =>
    if c = '/' then "" :: components cs
    else match components cs with
      | [] => [String.singleton c]
      | part :: parts => (String.singleton c ++ part) :: parts

structure Tree where
  root : List String
  contents : List (List String × Content)

namespace Tree

/-- What lies at a place, given by all its components. Directories on the way to a file need no
entry of their own. -/
def at? (tree : Tree) (place : List String) : Option Content :=
  if place.isPrefixOf tree.root then some .directory
  else if tree.root.isPrefixOf place then
    let below := place.drop tree.root.length
    match tree.contents.find? fun entry => entry.1 == below with
    | some entry => some entry.2
    | none =>
      if tree.contents.any fun entry => below.isPrefixOf entry.1 then some .directory else none
  else none

def follow (tree : Tree) : List String → List String → Except FileFault (List String)
  | place, [] => .ok place
  | place, part :: parts =>
    match tree.at? place with
    | some .directory =>
      if part = "" || part = "." then tree.follow place parts
      else if part = ".." then tree.follow place.dropLast parts
      else
        let next := place ++ [part]
        match tree.at? next with
        | some _ => tree.follow next parts
        | none => .error .notFound
    | some (.file _) => .error .notADirectory
    | none => .error .notFound

def look (tree : Tree) (path : String) : Entry :=
  let start := if isAbsolute path then [] else tree.root
  match tree.follow start (components path.toList) with
  | .error fault => .absent fault
  | .ok place =>
    match tree.at? place with
    | some .directory => .directory
    | some (.file bytes) =>
      match String.fromUTF8? bytes with
      | some text => .file (.ok text.toList)
      | none => .file (.error .notUtf8)
    | none => .absent .notFound

def rootPath (tree : Tree) : String := "/" ++ "/".intercalate tree.root

def host (tree : Tree) (env? : String → Option String) : Host where
  workingDirectory := tree.rootPath
  env?
  look := tree.look

end Tree

end ClosureTemplate.Files
