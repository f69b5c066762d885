import EntityStore.Json

/-! JSON text over several lines, each level indented by two blanks. -/

namespace EntityStore.Json

/-- Only quotes, backslashes and control characters are escaped. -/
def escape (c : Char) : List Char :=
  match c with
  | '"' => ['\\', '"']
  | '\\' => ['\\', '\\']
  | '\n' => ['\\', 'n']
  | '\r' => ['\\', 'r']
  | '\t' => ['\\', 't']
  | '\x08' => ['\\', 'b']
  | '\x0c' => ['\\', 'f']
  | _ =>
      if c.toNat < 0x20 then
        let digits := Nat.toDigits 16 c.toNat
        '\\' :: 'u' :: (List.replicate (4 - digits.length) '0' ++ digits)
      else [c]

def quoted (text : String) : String := String.ofList ('"' :: (text.toList.flatMap escape ++ ['"']))

/-- Lines between an opening and a closing bracket, or the brackets alone. -/
def block (opening closing : String) (depth : Nat) (lines : List String) : String :=
  let indent (depth : Nat) := String.ofList (List.replicate (2 * depth) ' ')
  if lines.isEmpty then opening ++ closing
  else
    opening ++ "\n" ++ ",\n".intercalate (lines.map (indent (depth + 1) ++ ·)) ++ "\n" ++ indent depth ++ closing

mutual

def pretty (depth : Nat) : Json → String
  | .null => "null"
  | .bool flag => if flag then "true" else "false"
  | .integer n => Text.Decimal.text n
  | .real x => x.shortestText
  | .string content => quoted content
  | .array items => block "[" "]" depth (prettyItems (depth + 1) items)
  | .object fields => block "\x7b" "\x7d" depth (prettyFields (depth + 1) fields)

def prettyItems (depth : Nat) : List Json → List String
  | [] => []
  | item :: rest => pretty depth item :: prettyItems depth rest

def prettyFields (depth : Nat) : List (String × Json) → List String
  | [] => []
  | (name, value) :: rest => (quoted name ++ ": " ++ pretty depth value) :: prettyFields depth rest

end

end EntityStore.Json
