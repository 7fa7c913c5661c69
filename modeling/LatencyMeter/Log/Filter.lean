import LatencyMeter.Log

/-!
# Filters of diagnostics

The user may set the threshold by a text: directives with commas between them. A
directive is the name of a level for everything, or the name of a component, with an
equals sign and a level or without, which means all levels. A component stands for
all names that begin with it, and the directive with the longest one counts. What is
no directive is passed over, and without any directive the fallback holds.
-/

namespace LatencyMeter
namespace Log

/-- A threshold for the components whose names begin with a text. -/
structure Directive where
  component : String
  threshold : Threshold
  deriving DecidableEq, Repr

namespace Directive

/-- Whether a character may stand in the name of a component. -/
def isNameChar (character : Char) : Bool :=
  character.isAlphanum || character == '_' || character == ':' || character == '-'

/-- The directive for a component, with the text of its level if there is one. -/
def ofComponent? (component : List Char) (level : Option (List Char)) : Option Directive :=
  let named (threshold : Threshold) : Directive := ⟨String.ofList component, threshold⟩
  if component.isEmpty || !component.all isNameChar then
    none
  else
    match level with
    | none => some (named ⟨some .trace⟩)
    | some [] => some (named ⟨some .trace⟩)
    | some level => (Threshold.ofName? (String.ofList level)).map named

/-- The parts of a text between its commas. -/
def parts (text : List Char) : List (List Char) :=
  text.splitOn ','

/-- Read a directive. -/
def parse? (text : List Char) : Option Directive :=
  match Threshold.ofName? (String.ofList text) with
  | some threshold => some ⟨"", threshold⟩
  | none =>
      let component := text.takeWhile fun character => character != '='
      match text.dropWhile fun character => character != '=' with
      | [] => ofComponent? component none
      | _ :: level => ofComponent? component (some level)

/-- Read all directives of a text. -/
def parseAll (text : String) : List Directive :=
  (parts text.toList).filterMap parse?

/-- The more specific of two directives, the later one if both are the same. -/
def preferred (chosen : Option Directive) (directive : Directive) : Option Directive :=
  match chosen with
  | none => some directive
  | some earlier =>
      if directive.component.length < earlier.component.length then some earlier
      else some directive

end Directive

/-- The threshold that a text sets for a component, with the fallback for no directive. -/
def Threshold.ofFilter (component : String) (fallback : Threshold) (text : String) : Threshold :=
  let directives := Directive.parseAll text
  let applying := directives.filter fun directive =>
    directive.component.toList.isPrefixOf component.toList
  match applying.foldl Directive.preferred none with
  | some directive => directive.threshold
  | none => if directives.isEmpty then fallback else ⟨none⟩

end Log
end LatencyMeter
