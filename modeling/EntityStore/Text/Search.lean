/-! Finding a text inside another. -/

namespace EntityStore.Text

def occurs (part : List Char) : List Char → Bool
  | [] => part.isEmpty
  | c :: rest => part.isPrefixOf (c :: rest) || occurs part rest

end EntityStore.Text
