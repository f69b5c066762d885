import EntityStore.IntRange

/-! Dates and points in time. A date is a plain triple whose validity nobody checks. A timestamp counts
seconds and nanoseconds, and is stored as one count of microseconds that saturates at the ends of its
range. -/

namespace EntityStore

structure Date where
  year : Int32
  month : Int32
  day : Int32
  deriving DecidableEq, Repr

structure Timestamp where
  seconds : Int64
  nanos : Int32
  deriving DecidableEq, Repr

/-- Field by field, in the order of declaration. -/
def Date.order (a b : Date) : Ordering :=
  (compare a.year.toInt b.year.toInt).then
    ((compare a.month.toInt b.month.toInt).then (compare a.day.toInt b.day.toInt))

namespace Timestamp

def order (a b : Timestamp) : Ordering :=
  (compare a.seconds.toInt b.seconds.toInt).then (compare a.nanos.toInt b.nanos.toInt)

def microsPerSecond : Int := 1000000

/-- The nearest integer of 64 bits. -/
def saturate (n : Int) : Int64 := Int64.ofInt (IntRange.signed64.clamp n)

/-- Microseconds since the epoch. The seconds saturate before the rest is added, and what is below a
microsecond is dropped towards zero. -/
def asMicros (t : Timestamp) : Int64 :=
  let whole := saturate (t.seconds.toInt * microsPerSecond)
  saturate (whole.toInt + t.nanos.toInt.tdiv 1000)

/-- The seconds are rounded down, so that the nanoseconds are never negative. -/
def fromMicros (micros : Int64) : Timestamp :=
  ⟨Int64.ofInt (micros.toInt / microsPerSecond), Int32.ofInt (micros.toInt % microsPerSecond * 1000)⟩

end Timestamp
end EntityStore
