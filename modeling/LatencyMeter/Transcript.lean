import LatencyMeter.Log

/-!
# Transcripts

A session writes its report, the lines on its streams and its diagnostics to three
outputs. The transcript keeps all of them in the order in which they were written,
and each output is the part of the transcript that was written to it.
-/

namespace LatencyMeter

/-- One thing that a session writes. -/
inductive Utterance
  | report (text : String)
  | stream (text : String)
  | diagnostic (entry : Log.Entry)
  deriving DecidableEq

/-- All that a session has written, in order. -/
abbrev Transcript := Array Utterance

namespace Transcript

/-- The text of the report. -/
def reportText (transcript : Transcript) : String :=
  String.join (transcript.toList.filterMap fun utterance =>
    match utterance with
    | .report text => some text
    | _ => none)

/-- The text of the lines on the streams. -/
def streamText (transcript : Transcript) : String :=
  String.join (transcript.toList.filterMap fun utterance =>
    match utterance with
    | .stream text => some text
    | _ => none)

/-- The text of the report and the lines on the streams on one output. -/
def outputText (transcript : Transcript) : String :=
  String.join (transcript.toList.filterMap fun utterance =>
    match utterance with
    | .report text => some text
    | .stream text => some text
    | .diagnostic _ => none)

/-- The diagnostics. -/
def entries (transcript : Transcript) : List Log.Entry :=
  transcript.toList.filterMap fun utterance =>
    match utterance with
    | .diagnostic entry => some entry
    | _ => none

end Transcript
end LatencyMeter
