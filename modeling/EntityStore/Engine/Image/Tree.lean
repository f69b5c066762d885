import EntityStore.Engine.Image.Record
import EntityStore.Engine.Relation

/-! Pages and the trees of rows in them. A tree has rows on its leaves and branches above, each page of a tree
pointing to its parts from an array of offsets. A row that is too long for its page goes on in a chain of others. -/

namespace EntityStore.Engine.Image

structure Pages where
  octets : Array UInt8
  pageSize : Nat
  /-- Octets at the end of every page that hold nothing. -/
  reserved : Nat

namespace Pages

def count (pages : Pages) : Nat := pages.octets.size / pages.pageSize

/-- Octets of a page that can be used. -/
def usable (pages : Pages) : Nat := pages.pageSize - pages.reserved

/-- Some octets of a page, pages counting from one. -/
def slice (pages : Pages) (page offset length : Nat) : List UInt8 :=
  let start := (page - 1) * pages.pageSize + offset
  (pages.octets.extract start (min (start + length) (page * pages.pageSize))).toList

def naturalAt (pages : Pages) (page offset length : Nat) : Nat := natural (pages.slice page offset length)

/-- How many octets of a row stand on its own page. -/
def localSize (pages : Pages) (length : Nat) : Nat :=
  let most := pages.usable - 35
  let least := (pages.usable - 12) * 32 / 255 - 23
  let wanted := least + (length - least) % (pages.usable - 4)
  if length ≤ most then length else if wanted ≤ most then wanted else least

def chain (pages : Pages) : Nat → Nat → Nat → List UInt8
  | 0, _, _ => []
  | fuel + 1, page, length =>
      if length = 0 ∨ page = 0 then []
      else
        let here := min length (pages.usable - 4)
        pages.slice page 4 here ++ pages.chain fuel (pages.naturalAt page 0 4) (length - here)

/-- The row at an offset of a leaf. -/
def entry? (pages : Pages) (page offset : Nat) : Option Entry := do
  let opening := pages.slice page offset 18
  let (length, rest) ← number? opening
  let (number, rest) ← number? rest
  let start := offset + (opening.length - rest.length)
  let here := pages.localSize length
  let front := pages.slice page start here
  let next := if here < length then pages.naturalAt page (start + here) 4 else 0
  let octets := front ++ pages.chain pages.count next (length - here)
  if octets.length < length then none
  else return ⟨(Int64.ofNat number).toInt, record octets⟩

/-- The offsets that a page of a tree gives for its parts, which are no more than would fit. They are taken as offsets
within the page. -/
def offsets? (pages : Pages) (page start width : Nat) : Option (List Nat) :=
  let count := pages.naturalAt page (start + 3) 2
  if (pages.pageSize - 8) / 6 < count then none
  else some ((List.range count).map fun index => pages.naturalAt page (start + width + 2 * index) 2 % pages.pageSize)

/-- Octets of the first page before the tree that begins there. -/
def headerSize : Nat := 100

/-- The rows of a tree in the order of their numbers. -/
def entries? (pages : Pages) : Nat → Nat → Option (List Entry)
  | 0, _ => none
  | fuel + 1, page =>
      let start := if page = 1 then headerSize else 0
      if page = 0 ∨ pages.count < page then none
      else
        match pages.naturalAt page start 1 with
        | 13 => do (← pages.offsets? page start 8).mapM (pages.entry? page)
        | 5 => do
            let children := (← pages.offsets? page start 12).map fun offset => pages.naturalAt page offset 4
            let parts ← (children ++ [pages.naturalAt page (start + 8) 4]).mapM (pages.entries? fuel)
            return parts.flatten
        | _ => none

end Pages
end EntityStore.Engine.Image
