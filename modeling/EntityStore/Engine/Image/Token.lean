/-! Tokens of texts that define tables. Blanks and comments stand between tokens and are none. -/

namespace EntityStore.Engine.Image

inductive Token where
  | word (text : String)
  /-- A name or a text between quotes. -/
  | quoted (text : String)
  | mark (c : Char)
  deriving DecidableEq, Repr

namespace Token

def isWordCharacter (c : Char) : Bool := c.isAlphanum || c == '_' || c == '$' || 0x80 ≤ c.toNat

def closing? : Char → Option Char
  | '"' => some '"'
  | '\x27' => some '\x27'
  | '\x60' => some '\x60'
  | '[' => some ']'
  | _ => none

/-- What is read: nothing, a word, a quoted text up to its closing quote, or a comment up to its end. -/
inductive Position where
  | outside
  | inWord (read : List Char)
  | inQuotes (closing : Char) (read : List Char)
  | atQuote (closing : Char) (read : List Char)
  | inLine
  | inComment (star : Bool)

private def finish : Position → List Token
  | .inWord read => [.word (String.ofList read.reverse)]
  | .atQuote _ read | .inQuotes _ read => [.quoted (String.ofList read.reverse)]
  | .outside | .inLine | .inComment _ => []

/-- Where a character leads that does not go on with what is read. -/
private def enter (c : Char) : Position × List Token :=
  match closing? c with
  | some closing => (.inQuotes closing [], [])
  | none =>
      if isWordCharacter c then (.inWord [c], [])
      else if c.isWhitespace then (.outside, [])
      else (.outside, [.mark c])

/-- Tokens one after the other. A quote written twice stands for one. -/
def scan : Position → List Char → List Token
  | position, [] => finish position
  | .inLine, c :: rest => scan (if c = '\n' then .outside else .inLine) rest
  | .inComment star, c :: rest => scan (if star ∧ c = '/' then .outside else .inComment (c = '*')) rest
  | .inQuotes closing read, c :: rest =>
      scan (if c = closing then .atQuote closing read else .inQuotes closing (c :: read)) rest
  | .atQuote closing read, c :: rest =>
      if c = closing ∧ c ≠ ']' then scan (.inQuotes closing (c :: read)) rest
      else
        let (next, found) := enter c
        finish (.atQuote closing read) ++ found ++ scan next rest
  | .inWord read, c :: rest =>
      if isWordCharacter c then scan (.inWord (c :: read)) rest
      else
        let (next, found) := enter c
        finish (.inWord read) ++ found ++ scan next rest
  | .outside, '-' :: '-' :: rest => scan .inLine rest
  | .outside, '/' :: '*' :: rest => scan (.inComment false) rest
  | .outside, c :: rest =>
      let (next, found) := enter c
      found ++ scan next rest

def ofText (text : String) : List Token := scan .outside text.toList

def name? : Token → Option String
  | .word text | .quoted text => some text
  | .mark _ => none

def isWord (keyword : String) : Token → Bool
  | .word text => text.toUpper == keyword
  | .quoted _ | .mark _ => false

/-- The tokens between a parenthesis, which is already read, and the one that closes it, and those after it. -/
def group (depth : Nat) : List Token → List Token × List Token
  | [] => ([], [])
  | .mark ')' :: rest =>
      match depth with
      | 0 => ([], rest)
      | depth + 1 => let (inside, after) := group depth rest; (.mark ')' :: inside, after)
  | .mark '(' :: rest => let (inside, after) := group (depth + 1) rest; (.mark '(' :: inside, after)
  | token :: rest => let (inside, after) := group depth rest; (token :: inside, after)

/-- The parts between the commas that stand outside parentheses. -/
def parts (depth : Nat) (read : List Token) : List Token → List (List Token)
  | [] => [read.reverse]
  | .mark ',' :: rest =>
      if depth = 0 then read.reverse :: parts 0 [] rest else parts depth (.mark ',' :: read) rest
  | .mark '(' :: rest => parts (depth + 1) (.mark '(' :: read) rest
  | .mark ')' :: rest => parts (depth - 1) (.mark ')' :: read) rest
  | token :: rest => parts depth (token :: read) rest

end Token
end EntityStore.Engine.Image
