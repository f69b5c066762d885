import EntityStore.Engine.Image.Naming

/-! Databases as files hold them. The first page opens with a header and names the tables and views. -/

namespace EntityStore.Engine.Image

def heading : List UInt8 := Text.Utf8.encode "SQLite format 3\x00".toList

/-- Whether a size of pages is a power of two that is in use. -/
def isPageSize (size : Nat) : Bool := 512 ≤ size && size ≤ 65536 && size == Nat.pow 2 size.log2

/-- The pages of a file, if its header is that of a database. A page that is cut short ends in zeros. -/
def pages (octets : Array UInt8) : Except EngineError Pages :=
  let part (offset length : Nat) : List UInt8 := (octets.extract offset (offset + length)).toList
  let stated := natural (part 16 2)
  let size := if stated = 1 then 65536 else stated
  let missing := if octets.size % size = 0 then 0 else size - octets.size % size
  let found : Pages := ⟨octets ++ Array.replicate missing 0, size, natural (part 20 1)⟩
  let known := part 0 16 = heading ∧ natural (part 19 1) ≤ 2 ∧ part 21 3 = [64, 32, 32]
  if ¬known ∨ !isPageSize size ∨ found.usable < 480 then .error .notADatabase
  else if natural (part 24 4) = natural (part 92 4) ∧ found.count < natural (part 28 4) then .error .malformed
  else .ok found

/-- What a file holds. Its tables may be beyond reading where its version is not. -/
structure Contents where
  version : Int32
  items : Except EngineError (List Item)

/-- A table can be read only if the indexes behind its keys are named as well. -/
def withIndexes (names : List String) (table : Table) : Table :=
  { table with intact := table.intact && table.indexNames.all names.contains }

/-- The items that the first page names. -/
def items (pages : Pages) : Except EngineError (List Item) :=
  if 4 < pages.naturalAt 1 44 4 then .error .unsupportedFormat
  else
    match pages.entries? pages.count 1 with
    | none => .error .malformed
    | some entries => do
        let namings := entries.map fun entry => Naming.ofRow entry.values
        let items ← namings.foldlM (Naming.add pages) []
        return items.map (·.mapTable (withIndexes (namings.map (·.name))))

/-- What octets hold. One octet at most is an empty database. -/
def read (octets : List UInt8) : Except EngineError Contents :=
  match octets with
  | [] | [_] => .ok ⟨0, .ok []⟩
  | _ => do
      let pages ← pages octets.toArray
      return ⟨Int32.ofInt (integer (pages.slice 1 60 4)), items pages⟩

end EntityStore.Engine.Image
