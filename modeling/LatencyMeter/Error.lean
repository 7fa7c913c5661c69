import LatencyMeter.Address

/-!
# What can go wrong

Failures are causes with data; the wording of each stands in one `message`
function. A failure that stops a run also names the stages it passed on its way
out, and its text is the chain of those stages, outermost first, down to the
cause. A cause that was itself caused by an operating-system error shows that
error once more at the end of the chain.
-/

namespace LatencyMeter

/-- Decimal text of a 64-bit word. -/
def wordText (word : UInt64) : String :=
  String.ofList (Nat.toDigits 10 word.toNat)

/-- Decimal text of a signed 64-bit word. -/
def signedText (word : Int64) : String :=
  let value := word.toInt
  String.ofList ((if value < 0 then ['-'] else []) ++ Nat.toDigits 10 value.natAbs)

/-- Settings that cannot be used. -/
inductive ConfigFault
  | zero (name : String)
  | messageTooShort (length least : UInt64)
  | warmupRate (loops : UInt64)
  | tooManyBuckets (count limit : UInt64)
  | cpuOutOfRange (cpu limit : UInt64)
  | malformed (value expected : String)
  deriving DecidableEq, Repr

/-- The wording of a configuration fault. -/
def ConfigFault.message : ConfigFault -> String
  | .zero name => name ++ " must be greater than zero"
  | .messageTooShort length least =>
      "message length " ++ wordText length ++ " is smaller than the " ++ wordText least ++
        "-byte timestamp header"
  | .warmupRate loops =>
      "warmup rate must be greater than zero when " ++ wordText loops ++
        " warmup loops are requested"
  | .tooManyBuckets count limit =>
      "histogram bucket count " ++ wordText count ++ " exceeds the maximum of " ++
        wordText limit
  | .cpuOutOfRange cpu limit =>
      "cpu " ++ wordText cpu ++ " is out of range (maximum " ++ wordText limit ++ ")"
  | .malformed value expected =>
      "malformed value '" ++ value ++ "': expected " ++ expected

/-- Histograms that cannot be made and samples that cannot be recorded. -/
inductive HistogramFault
  | invalidGeometry (bucketCount bucketWidth : UInt64)
  | allocation (bucketCount : UInt64)
  | negativeSample (start finish : UInt64)
  deriving DecidableEq, Repr

/-- The wording of a histogram fault. -/
def HistogramFault.message : HistogramFault -> String
  | .invalidGeometry count width =>
      "invalid histogram geometry: bucket_count=" ++ wordText count ++
        ", bucket_width_ns=" ++ wordText width
  | .allocation count => "cannot allocate " ++ wordText count ++ " histogram buckets"
  | .negativeSample start finish =>
      "negative latency sample: start_ns=" ++ wordText start ++ " is after end_ns=" ++
        wordText finish

/-- Cores that cannot be used. -/
inductive AffinityFault
  | bindRejected (core : UInt64)
  | noBindableCore
  deriving DecidableEq, Repr

/-- The wording of an affinity fault. -/
def AffinityFault.message : AffinityFault -> String
  | .bindRejected core => "operating system rejected binding to core " ++ wordText core
  | .noBindableCore => "no candidate core could be bound"

/-- Failures of a transport. -/
inductive TransportFault
  | setup (reason : String)
  | send (reason : String)
  | disconnected
  | receiverPanicked
  deriving DecidableEq, Repr

/-- The wording of a transport fault. -/
def TransportFault.message : TransportFault -> String
  | .setup reason => "transport setup failed: " ++ reason
  | .send reason => "send failed: " ++ reason
  | .disconnected => "transport disconnected"
  | .receiverPanicked => "receive thread panicked"

/-- A buffer or payload without room for a header. -/
inductive HeaderFault
  | bufferTooShort
  | noHeader (length : Nat)
  deriving DecidableEq, Repr

/-- The wording of a header fault. -/
def HeaderFault.message : HeaderFault -> String
  | .bufferTooShort => "buffer too short for message header"
  | .noHeader length =>
      "payload of " ++ String.ofList (Nat.toDigits 10 length) ++ " bytes has no header"

/-- What is wrong with a document: its notation, its content, or that it ends early. -/
inductive DocumentFault
  | malformed
  | unsuitable
  | endsEarly
  deriving DecidableEq, Repr

/-- The wording of a document fault. -/
def DocumentFault.message : DocumentFault -> String
  | .malformed => "malformed document"
  | .unsuitable => "unsuitable document"
  | .endsEarly => "document ends early"

/-- The root of a failure. -/
inductive Cause
  | config (fault : ConfigFault)
  | histogram (fault : HistogramFault)
  | affinity (fault : AffinityFault)
  | transport (fault : TransportFault)
  | header (fault : HeaderFault)
  | document (fault : DocumentFault)
  | io (reason : String)
  | flight (level : Int64)
  | nothingReceived
  | echoFailed (reason : String)
  | reflectorStopped
  | workload (reason : String)
  deriving DecidableEq, Repr

/-- The texts of a cause, itself first. -/
def Cause.chain : Cause -> List String
  | .config fault => [fault.message]
  | .histogram fault => [fault.message]
  | .affinity fault => [fault.message]
  | .transport (.setup reason) => [(TransportFault.setup reason).message, reason]
  | .transport (.send reason) => [(TransportFault.send reason).message, reason]
  | .transport fault => [fault.message]
  | .header fault => [fault.message]
  | .document fault => [fault.message]
  | .io reason => [reason]
  | .flight level =>
      ["flight size went negative (" ++ signedText level ++
        "): send/confirm accounting is out of sync"]
  | .nothingReceived => ["no messages received"]
  | .echoFailed reason => ["echo send failed: " ++ reason]
  | .reflectorStopped => ["reflector stopped unexpectedly"]
  | .workload reason => [reason]

/-- A stage of a run that a failure passes on its way out. -/
inductive Stage
  | pacedLoop
  | delayedLoop
  | probeSend
  | probeOnCore (core : UInt64)
  | rebind
  | creatingHistogram
  | bindingSender (cpu : UInt64)
  | bindingCpu (cpu : UInt64)
  | openingTransport (bind : SocketAddress)
  | openingProbe
  | closing
  | stoppingReceiver
  | writingResults (path : String)
  | readingResults (path : String)
  | readingRecord
  deriving DecidableEq

/-- The wording of a stage. -/
def Stage.message : Stage -> String
  | .pacedLoop => "transport send failed during paced loop"
  | .delayedLoop => "transport send failed during delayed loop"
  | .probeSend => "probe send failed"
  | .probeOnCore core => "probe on core " ++ wordText core ++ " failed"
  | .rebind => "failed to re-bind to the calibrated core"
  | .creatingHistogram => "failed to create histogram"
  | .bindingSender cpu => "failed to bind send thread to cpu " ++ wordText cpu
  | .bindingCpu cpu => "failed to bind to cpu " ++ wordText cpu
  | .openingTransport bind => "failed to open udp transport on " ++ bind.text
  | .openingProbe => "failed to open probe socket"
  | .closing => "failed to close transport"
  | .stoppingReceiver => "failed to stop receive thread"
  | .writingResults path => "failed to write results to " ++ path
  | .readingResults path => "failed to read results from " ++ path
  | .readingRecord => "results file is not a ping record"

/-- A failure that stops a run: the stages it passed, outermost first, and its cause. -/
structure Failure where
  stages : List Stage
  cause : Cause
  deriving DecidableEq

namespace Failure

/-- A failure that has passed no stage yet. -/
def ofCause (cause : Cause) : Failure := ⟨[], cause⟩

/-- The failure seen from outside one more stage. -/
def within (stage : Stage) (failure : Failure) : Failure :=
  ⟨stage :: failure.stages, failure.cause⟩

@[simp] theorem cause_within (stage : Stage) (failure : Failure) :
    (failure.within stage).cause = failure.cause := rfl

/-- The whole chain of a failure in one line. -/
def text (failure : Failure) : String :=
  String.intercalate ": " (failure.stages.map Stage.message ++ failure.cause.chain)

/-- A result whose failure is seen from outside one more stage. -/
def inStage (stage : Stage) (result : Except Failure α) : Except Failure α :=
  result.mapError (within stage)

end Failure
end LatencyMeter
