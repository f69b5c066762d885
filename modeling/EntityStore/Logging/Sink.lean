import EntityStore.Event
import EntityStore.FileTree
import EntityStore.Text.Decimal
import EntityStore.Text.Mask

/-! Log files. Lines go to the current file of a directory. When that file has grown too large, it is set aside under
the next number before another line is written. -/

namespace EntityStore.Logging

/-- Octets beyond which the current file takes no further line. -/
def rotateAt : Nat := 8 * 1024 * 1024

/-- Octets of the time and place at the front of a line, which are not kept. -/
def stampSize : Nat := 80

def currentName : String := "tablecrud_rCURRENT.log"

/-- The name under which a file is set aside, its number in five digits or more. -/
def numberedName (number : Nat) : String :=
  "tablecrud_r" ++ String.ofList (Text.Decimal.padded 5 number) ++ ".log"

/-- What the names of all log files start with. -/
def baseName : String := "tablecrud"

/-- The part of a name before its last point, and the part after it. -/
def splitName (name : List Char) : Option (List Char × List Char) :=
  let ending := name.reverse.takeWhile (· != '.')
  if ending.length = name.length then none
  else some (name.take (name.length - ending.length - 1), ending.reverse)

/-- What follows the last place in a text where a number may begin, and the whole text where there is none. -/
def afterLastMark (text : List Char) : Nat → List Char
  | 0 => text
  | start + 1 => if "_r".toList.isPrefixOf (text.drop start) then text.drop (start + 2) else afterLastMark text start

/-- The number that the name of a file counts for. Any log file counts whose name has a mark and a digit in the place
of the number, as zero where no number of 32 bits ends the name. -/
def number? (name : String) : Option Nat :=
  match splitName name.toList with
  | none => none
  | some (stem, ending) =>
      if (ending = "log".toList ∨ ending = "gz".toList) ∧ baseName.toList.isPrefixOf stem then
        match stem.drop (baseName.length + 1) with
        | 'r' :: c :: _ :: _ =>
            let ended := Text.Decimal.unsigned? (Nat.pow 2 32) (afterLastMark stem stem.length)
            if c.isDigit then some (ended.getD 0) else none
        | _ => none
      else none

/-- The number above all numbers in use, from zero. -/
def nextNumber (names : List String) : Nat :=
  (names.filterMap number?).foldl (fun next number => max next (number + 1)) 0

def line (event : Event) : String := event.level.label ++ " " ++ event.target ++ " " ++ event.message

/-- What messages leave open: durations, and places in the program. -/
def markers : List String := ["duration_ms=", "location="]

/-- How large the current file is known to be since it was opened, and the number for setting it aside. -/
structure Opened where
  size : Nat
  number : Nat
  deriving DecidableEq, Repr

/-- Where lines go. The current file is opened at the first line. -/
structure Sink where
  place : List String
  opened : Option Opened
  deriving DecidableEq, Repr

namespace Sink

def current (sink : Sink) : List String := sink.place ++ [currentName]

def names (sink : Sink) (tree : FileTree) : List String :=
  tree.nodes.filterMap fun (names, node) =>
    match node with
    | .file _ => if names.dropLast = sink.place then names.getLast? else none
    | .directory => none

/-- The current file, or nothing where a directory has its name. -/
def openFile? (sink : Sink) (tree : FileTree) : Option Opened :=
  match sink.opened, tree.node? sink.current with
  | some opened, _ => some opened
  | none, some (.file content) => some ⟨content.utf8ByteSize, nextNumber (sink.names tree)⟩
  | none, none => some ⟨0, nextNumber (sink.names tree)⟩
  | none, some .directory => none

def append (sink : Sink) (tree : FileTree) (text : String) : FileTree :=
  match tree.node? sink.current with
  | some (.file content) => tree.put sink.current (.file (content ++ text))
  | _ => tree.put sink.current (.file text)

/-- Sets the current file aside if it is too large. A file of the same name gives way, and a directory does not. -/
def rotate (sink : Sink) (opened : Opened) (tree : FileTree) : Opened × FileTree :=
  let target := sink.place ++ [numberedName opened.number]
  if rotateAt < opened.size ∧ tree.node? target ≠ some .directory then
    (⟨0, opened.number + 1⟩, tree.move sink.current target)
  else (opened, tree)

/-- Nothing is written and nothing fails where a directory has the name of the current file. -/
def write (sink : Sink) (tree : FileTree) (event : Event) : Sink × FileTree :=
  match sink.openFile? tree with
  | none => (sink, tree)
  | some opened =>
      let text := line event ++ "\n"
      let (opened, tree) := sink.rotate opened tree
      ({ sink with opened := some { opened with size := opened.size + text.utf8ByteSize + stampSize } },
        sink.append tree (Text.Mask.mask markers text))

end Sink
end EntityStore.Logging
