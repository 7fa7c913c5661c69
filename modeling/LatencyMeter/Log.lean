import LatencyMeter.Text.Quoted

/-!
# Diagnostics

A diagnostic has a level, a message and named values, and is written on one line:
a tag for errors and warnings, the message, then the values in their order. A
threshold drops the less severe ones; on a terminal a whole line has the colour of
its level.
-/

namespace LatencyMeter
namespace Log

/-- How severe a diagnostic is, the most severe first. -/
inductive Level
  | error
  | warning
  | info
  | debug
  | trace
  deriving DecidableEq, Repr

/-- The rank of a level; more severe levels come first. -/
def Level.rank : Level -> Nat
  | .error => 1
  | .warning => 2
  | .info => 3
  | .debug => 4
  | .trace => 5

/-- The name of a level. -/
def Level.name : Level -> String
  | .error => "error"
  | .warning => "warn"
  | .info => "info"
  | .debug => "debug"
  | .trace => "trace"

/-- What stands in front of a line of a level. -/
def Level.tag : Level -> String
  | .error => "error: "
  | .warning => "warning: "
  | _ => ""

/-- The terminal colour of a level. -/
def Level.colour : Level -> String
  | .error => "31"
  | .warning => "33"
  | .info => "37"
  | .debug => "34"
  | .trace => "35"

/-- The least severe level that is written, if any is. -/
structure Threshold where
  level : Option Level
  deriving DecidableEq, Repr

/-- Whether diagnostics of a level are written. -/
def Threshold.admits (threshold : Threshold) (level : Level) : Bool :=
  threshold.level.any fun least => level.rank ≤ least.rank

/-- The threshold for a verbosity count. -/
def Threshold.ofVerbosity (verbosity : Nat) : Threshold :=
  match verbosity with
  | 0 => ⟨some .info⟩
  | 1 => ⟨some .debug⟩
  | _ => ⟨some .trace⟩

/-- The threshold that a level's name or number stands for, in any case of letters. -/
def Threshold.ofName? (name : String) : Option Threshold :=
  match name.toLower with
  | "off" => some ⟨none⟩
  | "0" => some ⟨none⟩
  | "error" => some ⟨some .error⟩
  | "1" => some ⟨some .error⟩
  | "warn" => some ⟨some .warning⟩
  | "2" => some ⟨some .warning⟩
  | "info" => some ⟨some .info⟩
  | "3" => some ⟨some .info⟩
  | "debug" => some ⟨some .debug⟩
  | "4" => some ⟨some .debug⟩
  | "trace" => some ⟨some .trace⟩
  | "5" => some ⟨some .trace⟩
  | _ => none

/-- One diagnostic. -/
structure Entry where
  level : Level
  message : String
  fields : List (String × String)
  deriving DecidableEq, Repr

/-- The line of a diagnostic, without colour. -/
def Entry.line (entry : Entry) : String :=
  entry.level.tag ++ entry.message ++
    String.join (entry.fields.map fun (name, value) => " " ++ name ++ "=" ++ value)

/-- The line of a diagnostic in the colour of its level. -/
def Entry.colouredLine (entry : Entry) : String :=
  "\x1b[" ++ entry.level.colour ++ "m" ++ entry.line ++ "\x1b[0m"

/-- The diagnostics that a threshold admits, in their order. -/
def admitted (threshold : Threshold) (entries : List Entry) : List Entry :=
  entries.filter fun entry => threshold.admits entry.level

/-- The lines that a threshold admits. -/
def lines (threshold : Threshold) (entries : List Entry) : List String :=
  (admitted threshold entries).map Entry.line

end Log
end LatencyMeter
