/-! Trees of directories and text files. A path is a list of steps from the root, each a name, one dot for staying
or two dots for the way up, and every step but the last must lead to a directory that is there. -/

namespace EntityStore

inductive FileError where
  | notFound
  | exists
  | notDirectory
  | nameTooLong
  | zeroInPath
  deriving DecidableEq, Repr

def FileError.message : FileError → String
  | .notFound => "No such file or directory (os error 2)"
  | .exists => "File exists (os error 17)"
  | .notDirectory => "Not a directory (os error 20)"
  | .nameTooLong => "File name too long (os error 36)"
  | .zeroInPath => "file name contained an unexpected NUL byte"

inductive FileNode where
  | directory
  | file (content : String)
  deriving DecidableEq, Repr

/-- Every node but the root, with the names that lead to it. -/
structure FileTree where
  nodes : List (List String × FileNode)
  deriving DecidableEq, Repr

namespace FileTree

def empty : FileTree := ⟨[]⟩

/-- Steps of a path; slashes in a row count once. -/
def steps (path : String) : List String := (path.splitOn "/").filter (· != "")

def node? (tree : FileTree) (place : List String) : Option FileNode :=
  if place.isEmpty then some .directory else tree.nodes.lookup place

def put (tree : FileTree) (place : List String) (node : FileNode) : FileTree :=
  ⟨(place, node) :: tree.nodes.filter (·.1 != place)⟩

def move (tree : FileTree) (source target : List String) : FileTree :=
  match tree.node? source with
  | some node => FileTree.put ⟨tree.nodes.filter (·.1 != source)⟩ target node
  | none => tree

/-- One step from a directory. -/
def walkStep (place : List String) (step : String) : List String :=
  if step = "." then place else if step = ".." then place.dropLast else place ++ [step]

/-- The directory that steps lead to from a place. -/
def walk (tree : FileTree) (place : List String) : List String → Except FileError (List String)
  | [] => .ok place
  | step :: rest => do
      let next := walkStep place step
      match tree.node? next with
      | some .directory => tree.walk next rest
      | some (.file _) => .error .notDirectory
      | none => .error (if 255 < step.utf8ByteSize then .nameTooLong else .notFound)

def makeDirectory (tree : FileTree) (path : List String) : Except FileError FileTree :=
  match path.getLast? with
  | none => .error .exists
  | some last => do
      let place := walkStep (← tree.walk [] path.dropLast) last
      if (tree.node? place).isSome then .error .exists
      else if 255 < last.utf8ByteSize then .error .nameTooLong
      else if last = "." ∨ last = ".." then .error .notFound
      else .ok (tree.put place .directory)

def leadsToDirectory (tree : FileTree) (path : List String) : Bool :=
  match tree.walk [] path with
  | .ok _ => true
  | .error _ => false

/-- The path to the directory above, written without steps that stay. -/
def above (path : List String) : List String := (path.filter (· != ".")).dropLast

def ensureOne (tree : FileTree) (path : List String) : Except FileError FileTree :=
  match tree.makeDirectory path with
  | .ok made => .ok made
  | .error error => if tree.leadsToDirectory path then .ok tree else .error error

theorem length_above (path : List String) : (above path).length ≤ path.length - 1 := by
  have shorter := List.length_filter_le (· != ".") path
  simp only [above, List.length_dropLast]
  omega

/-- The tree that is left when something was to be made. -/
def keep (tree : FileTree) : Except FileError FileTree → Except FileError Unit × FileTree
  | .ok made => (.ok (), made)
  | .error error => (.error error, tree)

/-- Makes a directory and those above it that are missing. What has been made stays when another cannot be made. -/
def makeDirectories (tree : FileTree) (path : List String) : Except FileError Unit × FileTree :=
  match path with
  | [] => (.ok (), tree)
  | step :: rest =>
      match tree.ensureOne (step :: rest) with
      | .error .notFound =>
          match tree.makeDirectories (above (step :: rest)) with
          | (.ok (), made) => made.keep (made.ensureOne (step :: rest))
          | failed => failed
      | outcome => tree.keep outcome
termination_by path.length
decreasing_by
  have := length_above (step :: rest)
  simp only [List.length_cons] at *
  omega

/-- A path has so many octets at most. -/
def longestPath : Nat := 4095

/-- Makes the directory of a path and those above it that are missing. -/
def makeNamed (tree : FileTree) (path : String) : Except FileError Unit × FileTree :=
  if path.toList.contains '\x00' then (.error .zeroInPath, tree)
  else if longestPath < path.utf8ByteSize then (.error .nameTooLong, tree)
  else tree.makeDirectories (steps path)

/-- The nodes of a directory by name, if the path leads to one. -/
def list? (tree : FileTree) (path : List String) : Option (List (String × FileNode)) :=
  match tree.walk [] path with
  | .error _ => none
  | .ok place =>
      let inside := tree.nodes.filterMap fun (names, node) =>
        match names.getLast? with
        | some name => if names.dropLast = place then some (name, node) else none
        | none => none
      some (inside.mergeSort fun a b => a.1 ≤ b.1)

end FileTree
end EntityStore
