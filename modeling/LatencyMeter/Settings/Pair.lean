import LatencyMeter.Decimal.Natural
import LatencyMeter.Histogram
import LatencyMeter.Text.Blank

/-!
# Settings made of two numbers

A histogram geometry and a warmup are written as two whole numbers with a comma
between them, each number with an optional plus sign and with blanks around it.
Both numbers are 64-bit words.
-/

namespace LatencyMeter

/-- How many untimed messages precede the measurement, and at which rate. -/
structure Warmup where
  loops : UInt64
  rate : UInt64
  deriving DecidableEq, Repr

/-- The text of a warmup. -/
def Warmup.text (warmup : Warmup) : String :=
  wordText warmup.loops ++ "," ++ wordText warmup.rate

namespace Pair

/-- Read a word with blanks around it. -/
def word? (text : List Char) : Option UInt64 :=
  match Decimal.natural? Word.limit (Text.trim text) with
  | .ok value => some (UInt64.ofNat value)
  | .error _ => none

/-- The parts of a text before and behind its first comma. -/
def splitComma : List Char -> Option (List Char × List Char)
  | [] => none
  | ',' :: rest => some ([], rest)
  | character :: rest =>
      (splitComma rest).map fun (before, behind) => (character :: before, behind)

/-- Read two words with a comma between them. -/
def parse? (text : List Char) : Option (UInt64 × UInt64) := do
  let (first, second) <- splitComma (Text.trim text)
  let first <- word? first
  let second <- word? second
  return (first, second)

end Pair

/-- Read a histogram geometry. -/
def Geometry.parse (text : String) : Except ConfigFault Geometry :=
  match Pair.parse? text.toList with
  | some (count, width) => .ok ⟨count, width⟩
  | none => .error (.malformed text "num_buckets,ns_per_bucket")

/-- Read a warmup. -/
def Warmup.parse (text : String) : Except ConfigFault Warmup :=
  match Pair.parse? text.toList with
  | some (loops, rate) => .ok ⟨loops, rate⟩
  | none => .error (.malformed text "loops,rate")

example : (Pair.parse? " 1 , +02\t".toList) = some (1, 2) := by decide +kernel

example : Pair.parse? "1,2,3".toList = none := by decide +kernel

end LatencyMeter
