import EntityStore.Text.Printable

/-! Text literals as messages show them: between double quotes, with escapes for quotes, backslashes and every
character that cannot be shown as itself. -/

namespace EntityStore.Text.Literal

def escape (c : Char) : List Char :=
  match c with
  | '"' => ['\\', '"']
  | '\\' => ['\\', '\\']
  | '\n' => ['\\', 'n']
  | '\r' => ['\\', 'r']
  | '\t' => ['\\', 't']
  | '\x00' => ['\\', '0']
  | _ =>
      if Printable.isPrintable c then [c]
      else '\\' :: 'u' :: '\x7b' :: (Nat.toDigits 16 c.toNat ++ ['\x7d'])

def literal (text : String) : String := String.ofList ('"' :: (text.toList.flatMap escape ++ ['"']))

end EntityStore.Text.Literal
