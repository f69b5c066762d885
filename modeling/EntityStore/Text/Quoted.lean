/-! Quoted names inside statement text. A name stands between double quotes and writes each of its own
quotes twice, so it ends at the first quote that no other quote follows. A question mark outside quoted
names stands for a parameter. -/

namespace EntityStore.Text.Quoted

def escape : List Char → List Char
  | [] => []
  | c :: rest => if c = '"' then '"' :: '"' :: escape rest else c :: escape rest

def quoteList (name : List Char) : List Char := '"' :: (escape name ++ ['"'])

def quote (name : String) : String := String.ofList (quoteList name.toList)

/-- Reads the rest of a name after its opening quote, up to the closing one. -/
def close : List Char → Option (List Char × List Char)
  | [] => none
  | '"' :: '"' :: rest => (close rest).map fun found => ('"' :: found.1, found.2)
  | c :: rest => if c = '"' then some ([], rest) else (close rest).map fun found => (c :: found.1, found.2)

inductive Token where
  | name (content : List Char)
  | mark
  | other (c : Char)
  deriving DecidableEq, Repr

/-- Where a reader stands: between tokens, inside a name, or after a quote inside a name that may be the
first of two. What was read of the name is kept newest first. -/
inductive Position where
  | outside
  | inside (read : List Char)
  | atQuote (read : List Char)

/-- The tokens of a statement. A name that is never closed is not a token. -/
def tokens : Position → List Char → List Token
  | .outside, [] | .inside _, [] => []
  | .atQuote read, [] => [.name read.reverse]
  | .outside, c :: rest =>
      if c = '"' then tokens (.inside []) rest
      else if c = '?' then .mark :: tokens .outside rest
      else .other c :: tokens .outside rest
  | .inside read, c :: rest =>
      if c = '"' then tokens (.atQuote read) rest else tokens (.inside (c :: read)) rest
  | .atQuote read, c :: rest =>
      if c = '"' then tokens (.inside ('"' :: read)) rest
      else if c = '?' then .name read.reverse :: .mark :: tokens .outside rest
      else .name read.reverse :: .other c :: tokens .outside rest

/-- The offset in octets of the mark that `skip` other marks precede. -/
def markOffset? : Bool → Nat → Nat → List Char → Option Nat
  | _, _, _, [] => none
  | quoted, skip, offset, c :: rest =>
      if c = '"' then markOffset? (!quoted) skip (offset + 1) rest
      else if c = '?' ∧ !quoted then
        match skip with
        | 0 => some offset
        | skip + 1 => markOffset? quoted skip (offset + 1) rest
      else markOffset? quoted skip (offset + c.utf8Size) rest

/-- The name that a text ends inside of: its offset in octets, and the characters from its opening quote on, newest
first. -/
def unfinished? : Nat → Option (Nat × List Char) → List Char → Option (Nat × List Char)
  | _, found, [] => found
  | offset, none, c :: rest => unfinished? (offset + c.utf8Size) (if c = '"' then some (offset, [c]) else none) rest
  | offset, some (start, read), '"' :: '"' :: rest => unfinished? (offset + 2) (some (start, '"' :: '"' :: read)) rest
  | offset, some (start, read), c :: rest =>
      unfinished? (offset + c.utf8Size) (if c = '"' then none else some (start, c :: read)) rest

end EntityStore.Text.Quoted
