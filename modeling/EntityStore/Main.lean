import EntityStore.CommandLine
import EntityStore.Uuid

/-! The program: draws an id, runs the command line and prints what it says. -/

open EntityStore

def main : IO UInt32 := do
  let octets ← IO.getRandomBytes 16
  let bits := octets.toList.foldl (fun bits octet => bits * 256 + octet.toNat) 0
  let result := CommandLine.run (Uuid.random bits)
  result.output.forM IO.println
  result.errors.forM IO.eprintln
  return UInt32.ofNat result.code
