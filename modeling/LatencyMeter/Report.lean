import LatencyMeter.Calibration
import LatencyMeter.Decimal.Shortest
import LatencyMeter.Histogram
import LatencyMeter.Jitter
import LatencyMeter.Metrics

/-!
# Report lines

A report is made of lines of `name=value` pairs with fixed names. A value that is
not available is written as `-1`. Some lines keep a separator behind their last
pair, since programs that read reports split at it.
-/

namespace LatencyMeter
namespace Report

/-- The text of a value that may be unavailable. -/
def orUnavailable (value : Option UInt64) : String :=
  match value with
  | some value => wordText value
  | none => "-1"

/-- The text of the source of a stream. -/
def sourceText (source : Option SocketAddress) : String :=
  match source with
  | some address => address.text
  | none => "local"

/-- Percentages are written with their shortest digits and without an exponent. -/
def percentLayout : Decimal.Layout where
  positionalMax := 400
  positionalMin := -400
  wholeSuffix := []
  undefinedText := "NaN".toList

/-- The text of a percentage. -/
def percentText (percent : Float) : String :=
  String.ofList (percentLayout.chars percent)

/-- A named value of the parameter line. -/
abbrev Field := String × String

/-- The line of parameters that precedes a run. -/
def parameters (fields : List Field) : String :=
  String.join (fields.map fun (name, value) => name ++ "=" ++ value ++ ", ") ++ "\n"

/-- The value of a parameter that may be absent, as a signed number. -/
def optionalCpu (cpu : Option UInt64) : String :=
  match cpu with
  | some cpu => signedText cpu.toInt64
  | none => "-1"

/-- The bucket counts of a histogram, one on each line. -/
def bucketLines (histogram : Histogram) : List String :=
  histogram.buckets.toList.map fun count => wordText count ++ "\n"

/-- The lines on a histogram as a whole. -/
def summaryLines (geometry : Geometry) (summary : Summary) : List String :=
  [ "o_histogram=" ++ geometry.text ++ ", hist_overflows=" ++ wordText summary.overflows ++
      ", hist_min_sample=" ++ orUnavailable summary.least ++
      ", hist_max_sample=" ++ orUnavailable summary.greatest ++ ",\n",
    "hist_num_samples=" ++ wordText summary.count ++
      ", average_sample=" ++ orUnavailable summary.mean ++ ",\n",
    "Percentiles: " ++
      String.intercalate ", "
        (summary.percentiles.map fun percentile =>
          percentText percentile.percent ++ "=" ++ orUnavailable percentile.value) ++ "\n" ]

/-- The report of a histogram. -/
def histogram (histogram : Histogram) : String :=
  String.join (bucketLines histogram ++ summaryLines histogram.geometry histogram.summary)

/-- The line of send metrics. -/
def sendMetrics (metrics : SendMetrics) : String :=
  "actual_sends=" ++ wordText metrics.sends ++
    ", duration_ns=" ++ wordText metrics.duration ++
    ", result_rate=" ++ Decimal.fixed 6 metrics.rate ++
    ", global_max_tight_sends=" ++ wordText metrics.largestBurst ++
    ", max_flight_size=" ++ signedText metrics.largestFlight ++ "\n"

/-- The pairs of receive counts that are reported. -/
def countPairs (counts : ReceiveCounts) : String :=
  "num_rcv_msgs=" ++ wordText counts.received ++
    ", num_rx_msgs=" ++ wordText counts.retransmitted ++
    ", num_unrec_loss=" ++ wordText counts.lost ++ ", "

/-- The line of receive counts. -/
def receiveCounts (counts : ReceiveCounts) : String :=
  "Rcv: " ++ countPairs counts ++ "\n"

/-- The line of jitter extremes. -/
def jitterStats (stats : JitterStats) : String :=
  "ts_min_ns=" ++ orUnavailable stats.least ++
    ", ts_max_ns=" ++ orUnavailable stats.greatest ++ ", \n"

/-- The line of one calibration probe. -/
def coreProbe (probe : CoreProbe) : String :=
  "cpu=" ++ wordText probe.core ++ ", num_sends=" ++ wordText probe.sends ++ "\n"

/-- The line of a stream that begins. -/
def beginOfStream (source : Option SocketAddress) : String :=
  "rcv event BOS, source=" ++ sourceText source ++ ", \n"

/-- The line of a stream that ends. -/
def endOfStream (source : Option SocketAddress) (counts : ReceiveCounts) : String :=
  "rcv event EOS, source=" ++ sourceText source ++ ", " ++ countPairs counts ++ "\n"

end Report
end LatencyMeter
