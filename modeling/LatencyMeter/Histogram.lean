import LatencyMeter.Error
import LatencyMeter.Word

/-!
# Latency histograms

A histogram of fixed geometry counts samples in buckets of equal width: bucket `i`
counts the samples from `i * width` up to, but not including, `(i + 1) * width`.
Samples beyond the last bucket are counted as overflows. Recording also keeps the
count, the sum modulo `2 ^ 64` and the extremes of all samples.

A percentile is the upper edge of the first bucket at which the cumulative count
exceeds the rank of the percentile; it is unavailable when that rank lies among
the overflows.
-/

namespace LatencyMeter

/-- How many buckets a histogram has and how wide each of them is, in nanoseconds. -/
structure Geometry where
  bucketCount : UInt64
  bucketWidth : UInt64
  deriving DecidableEq, Repr

/-- The text of a geometry. -/
def Geometry.text (geometry : Geometry) : String :=
  wordText geometry.bucketCount ++ "," ++ wordText geometry.bucketWidth

/-- Counts of samples in buckets of equal width. -/
structure Histogram where
  width : UInt64
  buckets : Array UInt64
  overflows : UInt64
  count : UInt64
  sum : UInt64
  /-- The smallest sample, the largest word when there is none. -/
  least : UInt64
  /-- The largest sample, zero when there is none. -/
  greatest : UInt64
  deriving DecidableEq, Repr

/-- A percentile and its value, unavailable when its rank lies among the overflows. -/
structure Percentile where
  percent : Float
  value : Option UInt64

/-- What a histogram says about its samples as a whole. -/
structure Summary where
  count : UInt64
  sum : UInt64
  mean : Option UInt64
  least : Option UInt64
  greatest : Option UInt64
  overflows : UInt64
  percentiles : List Percentile

namespace Histogram

/-- The largest bucket count that settings may ask for. -/
def maxBuckets : UInt64 := 268435456

/-- The least bucket count for which no storage exists: eight bytes each fill half the memory. -/
def unallocatable : UInt64 := 1152921504606846976

/-- A histogram without samples. -/
def fresh (bucketCount : Nat) (width : UInt64) : Histogram where
  width := width
  buckets := Array.replicate bucketCount 0
  overflows := 0
  count := 0
  sum := 0
  least := UInt64.ofNat Word.limit
  greatest := 0

instance : Inhabited Histogram := ⟨fresh 1 1⟩

/-- Make an empty histogram of a geometry. -/
def create (geometry : Geometry) : Except HistogramFault Histogram :=
  if geometry.bucketCount = 0 ∨ geometry.bucketWidth = 0 then
    .error (.invalidGeometry geometry.bucketCount geometry.bucketWidth)
  else if unallocatable ≤ geometry.bucketCount then
    .error (.allocation geometry.bucketCount)
  else
    .ok (fresh geometry.bucketCount.toNat geometry.bucketWidth)

/-- Forget all samples and keep the geometry. -/
def reset (histogram : Histogram) : Histogram :=
  fresh histogram.buckets.size histogram.width

/-- The geometry of a histogram. -/
def geometry (histogram : Histogram) : Geometry :=
  ⟨UInt64.ofNat histogram.buckets.size, histogram.width⟩

/-- Count a sample in its bucket, or as an overflow. -/
def tally (histogram : Histogram) (sample : UInt64) : Histogram :=
  let index := (sample / histogram.width).toNat
  if index < histogram.buckets.size then
    { histogram with buckets := histogram.buckets.modify index (· + 1) }
  else
    { histogram with overflows := histogram.overflows + 1 }

/-- Record one sample. -/
def record (histogram : Histogram) (sample : UInt64) : Histogram :=
  tally
    { histogram with
      count := histogram.count + 1
      sum := histogram.sum + sample
      greatest := if histogram.greatest < sample then sample else histogram.greatest
      least := if sample < histogram.least then sample else histogram.least }
    sample

theorem count_record (histogram : Histogram) (sample : UInt64) :
    (histogram.record sample).count = histogram.count + 1 := by
  unfold record tally
  dsimp only
  split <;> rfl

/-- Record the interval between two clock readings; one that runs backwards is refused. -/
def recordInterval (histogram : Histogram) (start finish : UInt64) :
    Except HistogramFault Histogram :=
  if start ≤ finish then
    .ok (histogram.record (finish - start))
  else
    .error (.negativeSample start finish)

/-- The upper edge of the first bucket at which the cumulative count exceeds a rank. -/
def edgeFrom (width rank : UInt64) : UInt64 -> UInt64 -> List UInt64 -> Option UInt64
  | _, _, [] => none
  | index, found, count :: rest =>
      if rank < found + count then
        some ((index + 1) * width)
      else
        edgeFrom width rank (index + 1) (found + count) rest

/-- The upper edge of the bucket that holds the sample of a rank. -/
def edge? (histogram : Histogram) (rank : UInt64) : Option UInt64 :=
  edgeFrom histogram.width rank 0 0 histogram.buckets.toList

/-- The rank of a percentile among the samples. -/
def rank (histogram : Histogram) (percent : Float) : UInt64 :=
  (histogram.count.toFloat * percent / 100.0).toUInt64

/-- The value of a percentile. -/
def percentile (histogram : Histogram) (percent : Float) : Option UInt64 :=
  histogram.edge? (histogram.rank percent)

/-- The percentiles of every summary. -/
def reportPercents : List Float := [90.0, 99.0, 99.9, 99.99, 99.999]

/-- A value that is available only when there are samples. -/
def whenSampled (histogram : Histogram) (value : UInt64) : Option UInt64 :=
  if 0 < histogram.count then some value else none

/-- What the histogram says about its samples as a whole. -/
def summary (histogram : Histogram) : Summary where
  count := histogram.count
  sum := histogram.sum
  mean := histogram.whenSampled (histogram.sum / histogram.count)
  least := histogram.whenSampled histogram.least
  greatest := histogram.whenSampled histogram.greatest
  overflows := histogram.overflows
  percentiles :=
    reportPercents.map fun percent => ⟨percent, histogram.percentile percent⟩

end Histogram
end LatencyMeter
