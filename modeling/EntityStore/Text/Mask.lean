/-! Masking: whatever stands between a marker and the next blank gives way to an underscore. -/

namespace EntityStore.Text.Mask

/-- Where a reader stands: outside, before the last characters of a marker, or in what is masked. -/
inductive Position where
  | outside
  | inMarker (left : Nat)
  | masked

def maskList (marker : List Char) : Position → List Char → List Char
  | .inMarker 0, [] => ['_']
  | _, [] => []
  | .outside, c :: rest =>
      c :: maskList marker (if marker.isPrefixOf (c :: rest) then .inMarker (marker.length - 1) else .outside) rest
  | .inMarker (left + 1), c :: rest => c :: maskList marker (.inMarker left) rest
  | .inMarker 0, c :: rest =>
      '_' :: if c.isWhitespace then c :: maskList marker .outside rest else maskList marker .masked rest
  | .masked, c :: rest => if c.isWhitespace then c :: maskList marker .outside rest else maskList marker .masked rest

/-- Masks what follows any of the markers, the markers one after the other. -/
def mask (markers : List String) (text : String) : String :=
  String.ofList (markers.foldl (fun text marker => maskList marker.toList .outside text) text.toList)

end EntityStore.Text.Mask
