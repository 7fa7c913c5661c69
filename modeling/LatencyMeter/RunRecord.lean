import LatencyMeter.Settings.Document
import LatencyMeter.Timestamp.Parser

/-!
# Run records

A run record is a document with everything about one measurement: when and on what
host it ran, its settings, what was sent and received, and the histogram with its
summary.
-/

namespace LatencyMeter

/-- The host of a run and the programs involved. -/
structure HostInfo where
  os : String
  architecture : String
  cores : UInt64
  languageVersion : String
  toolVersion : String
  deriving DecidableEq

/-- The version of this tool. -/
def toolVersion : String := "0.1.0"

/-- The version of the language that records name. -/
def languageVersion : String := "1.70"

/-- Everything about one measurement. -/
structure RunRecord where
  timestamp : Timestamp
  host : HostInfo
  settings : PingSettings
  send : SendMetrics
  receive : ReceiveCounts
  latency : Summary
  buckets : List UInt64

open Document

/-- The reader of points in time, in any spelling. -/
def Timestamp.reader : Reader :=
  stringReader fun characters => (Timestamp.parse? characters).map Timestamp.chars

/-- The point in time that a document stands for. -/
def Timestamp.ofDocument? (document : Document) : Option Timestamp := do
  let text <- document.string?
  Timestamp.parse? text.toList

/-- The document of a host. -/
def HostInfo.document (host : HostInfo) : Document :=
  .object
    [ ("os", .string host.os),
      ("architecture", .string host.architecture),
      ("cpu_cores", .word host.cores),
      ("rust_version", .string host.languageVersion),
      ("tool_version", .string host.toolVersion) ]

/-- The reader of hosts. -/
def HostInfo.reader : Reader :=
  recordReader
    (.plain
      [ .required "os" (stringReader some),
        .required "architecture" (stringReader some),
        .required "cpu_cores" wordReader,
        .required "rust_version" (stringReader some),
        .required "tool_version" (stringReader some) ])

/-- The host that a document stands for. -/
def HostInfo.ofDocument? (document : Document) : Option HostInfo :=
  match document.values with
  | [os, architecture, cores, languageVersion, toolVersion] => do
      let os <- os.string?
      let architecture <- architecture.string?
      let cores <- cores.word?
      let languageVersion <- languageVersion.string?
      let toolVersion <- toolVersion.string?
      return ⟨os, architecture, cores, languageVersion, toolVersion⟩
  | _ => none

/-- The document of send metrics. -/
def SendMetrics.document (metrics : SendMetrics) : Document :=
  .object
    [ ("actual_sends", .word metrics.sends),
      ("duration_ns", .word metrics.duration),
      ("result_rate", .number metrics.rate),
      ("max_tight_sends", .word metrics.largestBurst),
      ("max_flight_size", .integer metrics.largestFlight.toInt) ]

/-- The reader of send metrics. -/
def SendMetrics.reader : Reader :=
  recordReader
    (.plain
      [ .required "actual_sends" wordReader,
        .required "duration_ns" wordReader,
        .required "result_rate" numberReader,
        .required "max_tight_sends" wordReader,
        .required "max_flight_size" (integerReader (-9223372036854775808) 9223372036854775807) ])

/-- The send metrics that a document stands for. -/
def SendMetrics.ofDocument? (document : Document) : Option SendMetrics :=
  match document.values with
  | [sends, duration, rate, largestBurst, largestFlight] => do
      let sends <- sends.word?
      let duration <- duration.word?
      let rate <- rate.number?
      let largestBurst <- largestBurst.word?
      let largestFlight <- largestFlight.signed?
      return ⟨sends, duration, rate, largestBurst, largestFlight⟩
  | _ => none

/-- The document of receive counts. -/
def ReceiveCounts.document (counts : ReceiveCounts) : Document :=
  .object
    [ ("num_rcv_msgs", .word counts.received),
      ("num_rx_msgs", .word counts.retransmitted),
      ("num_unrec_loss", .word counts.lost),
      ("num_rejected_samples", .word counts.rejected),
      ("num_ignored_echoes", .word counts.ignored) ]

/-- The reader of receive counts; records of old have no count of ignored echoes. -/
def ReceiveCounts.reader : Reader :=
  recordReader
    (.plain
      [ .required "num_rcv_msgs" wordReader,
        .required "num_rx_msgs" wordReader,
        .required "num_unrec_loss" wordReader,
        .required "num_rejected_samples" wordReader,
        ⟨"num_ignored_echoes", wordReader, some (.integer 0), some (.integer 0)⟩ ])

/-- The receive counts that a document stands for. -/
def ReceiveCounts.ofDocument? (document : Document) : Option ReceiveCounts :=
  match document.values with
  | [received, retransmitted, lost, rejected, ignored] => do
      let received <- received.word?
      let retransmitted <- retransmitted.word?
      let lost <- lost.word?
      let rejected <- rejected.word?
      let ignored <- ignored.word?
      return ⟨received, retransmitted, lost, rejected, ignored⟩
  | _ => none

/-- The document of a percentile. -/
def Percentile.document (percentile : Percentile) : Document :=
  .object
    [ ("percentile", .number percentile.percent),
      ("value_ns", ofOption Document.word percentile.value) ]

/-- The reader of percentiles. -/
def Percentile.reader : Reader :=
  recordReader
    (.plain
      [ .required "percentile" numberReader,
        .nullable "value_ns" wordReader ])

/-- The percentile that a document stands for. -/
def Percentile.ofDocument? (document : Document) : Option Percentile :=
  match document.values with
  | [percent, value] => do
      let percent <- percent.number?
      let value <- optional? word? value
      return ⟨percent, value⟩
  | _ => none

/-- The document of a summary. -/
def Summary.document (summary : Summary) : Document :=
  .object
    [ ("sample_count", .word summary.count),
      ("sample_sum", .word summary.sum),
      ("mean_ns", ofOption Document.word summary.mean),
      ("min_ns", ofOption Document.word summary.least),
      ("max_ns", ofOption Document.word summary.greatest),
      ("overflow_count", .word summary.overflows),
      ("percentiles", .array (summary.percentiles.map Percentile.document)) ]

/-- The reader of summaries. -/
def Summary.reader : Reader :=
  recordReader
    (.plain
      [ .required "sample_count" wordReader,
        .required "sample_sum" wordReader,
        .nullable "mean_ns" wordReader,
        .nullable "min_ns" wordReader,
        .nullable "max_ns" wordReader,
        .required "overflow_count" wordReader,
        .required "percentiles" (listReader Percentile.reader) ])

/-- The summary that a document stands for. -/
def Summary.ofDocument? (document : Document) : Option Summary :=
  match document.values with
  | [count, sum, mean, least, greatest, overflows, .array percentiles] => do
      let count <- count.word?
      let sum <- sum.word?
      let mean <- optional? word? mean
      let least <- optional? word? least
      let greatest <- optional? word? greatest
      let overflows <- overflows.word?
      let percentiles <- percentiles.mapM Percentile.ofDocument?
      return ⟨count, sum, mean, least, greatest, overflows, percentiles⟩
  | _ => none

namespace RunRecord

/-- The record of a finished measurement. -/
def ofRun (timestamp : Timestamp) (host : HostInfo) (settings : PingSettings)
    (send : SendMetrics) (receive : ReceiveCounts) (histogram : Histogram) : RunRecord where
  timestamp := timestamp
  host := host
  settings := settings
  send := send
  receive := receive
  latency := histogram.summary
  buckets := histogram.buckets.toList

/-- The document of a record. -/
def document (record : RunRecord) : Document :=
  .object
    [ ("timestamp", .string record.timestamp.text),
      ("system", record.host.document),
      ("config", record.settings.document),
      ("send", record.send.document),
      ("receive", record.receive.document),
      ("latency", record.latency.document),
      ("buckets", .array (record.buckets.map Document.word)) ]

/-- The reader of records. -/
def reader : Reader :=
  recordReader
    (.plain
      [ .required "timestamp" Timestamp.reader,
        .required "system" HostInfo.reader,
        .required "config" PingSettings.reader,
        .required "send" SendMetrics.reader,
        .required "receive" ReceiveCounts.reader,
        .required "latency" Summary.reader,
        .required "buckets" (listReader wordReader) ])

/-- The record that a document stands for. -/
def ofDocument? (document : Document) : Option RunRecord :=
  match document.values with
  | [timestamp, host, settings, send, receive, latency, .array buckets] => do
      let timestamp <- Timestamp.ofDocument? timestamp
      let host <- HostInfo.ofDocument? host
      let settings <- PingSettings.ofDocument? settings
      let send <- SendMetrics.ofDocument? send
      let receive <- ReceiveCounts.ofDocument? receive
      let latency <- Summary.ofDocument? latency
      let buckets <- buckets.mapM word?
      return ⟨timestamp, host, settings, send, receive, latency, buckets⟩
  | _ => none

/-- The text that a record is stored as. -/
def text (record : RunRecord) : String :=
  record.document.brokenText

/-- Read a record from the content of a file, or from the reason why there is none. -/
def read (path : String) (content : Except String String) : Except Failure RunRecord :=
  match content with
  | .error reason =>
      .error ((Failure.ofCause (.io reason)).within (.readingResults path))
  | .ok text =>
      match readAs reader ofDocument? text with
      | .ok record => .ok record
      | .error fault => .error ((Failure.ofCause (.document fault)).within .readingRecord)

end RunRecord
end LatencyMeter
