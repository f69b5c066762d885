/-! Field masks. A mask of no names includes every field; any other mask includes the fields it names. -/

namespace EntityStore

structure FieldMask where
  fields : List String
  deriving Repr

namespace FieldMask

def all : FieldMask := ⟨[]⟩

def isAll (mask : FieldMask) : Bool := mask.fields.isEmpty

def included (mask : FieldMask) (field : String) : Bool := mask.isAll || mask.fields.contains field

/-- Masks are equal when they name the same fields, in any order and however often. -/
def equal (a b : FieldMask) : Bool := a.fields.all b.fields.contains && b.fields.all a.fields.contains

end FieldMask
end EntityStore
