import LatencyMeter.Document.Lexeme

/-!
# Reading documents of a known shape

A reader knows what value a document should hold and gives that value in its
canonical form: members in their declared order, absent ones filled in, texts
respelled. A value of another kind is unsuitable, but broken notation met before
that is found out comes first. Readers are put together from readers of parts.

A record is read from an object, with its members in any order, or from a list of
the members in their declared order. Members of an object that the record does not
know are skipped. Lists, objects and choices may be nested at most 127 deep; what
is skipped may be nested as deep as it likes.
-/

namespace LatencyMeter
namespace Document

/-- A reader of one value, given how much deeper it may still be nested. -/
abbrev Reader := Nat -> List Char -> Except DocumentFault (Document × List Char)

/-- Refuse a value of another kind, once its notation is found not to be broken. -/
def unsuited {α : Type} (text : List Char) : Except DocumentFault (α × List Char) :=
  match text with
  | [] => .error .endsEarly
  | 'n' :: rest => do
      let _ <- expect "ull".toList rest
      throw .unsuitable
  | 't' :: rest => do
      let _ <- expect "rue".toList rest
      throw .unsuitable
  | 'f' :: rest => do
      let _ <- expect "alse".toList rest
      throw .unsuitable
  | '-' :: rest => do
      let _ <- quantity true rest
      throw .unsuitable
  | '"' :: rest => do
      let _ <- stringRest rest
      throw .unsuitable
  | '[' :: _ => .error .unsuitable
  | '\x7b' :: _ => .error .unsuitable
  | first :: _ => do
      if (Decimal.digit? first).isSome then
        let _ <- quantity false text
        throw .unsuitable
      else
        throw .malformed

/-- Read what is inside a list, an object or a choice, one level deeper. -/
def nested {α : Type} (depth : Nat)
    (inside : Nat -> Except DocumentFault (α × List Char)) :
    Except DocumentFault (α × List Char) :=
  if depth ≤ 1 then .error .malformed else inside (depth - 1)

/-! ## Single values -/

/-- Read a number of any kind. -/
def anyQuantity (text : List Char) : Except DocumentFault (Quantity × List Char) :=
  match skipSpace text with
  | '-' :: rest => quantity true rest
  | first :: rest =>
      if (Decimal.digit? first).isSome then quantity false (first :: rest)
      else unsuited (first :: rest)
  | [] => .error .endsEarly

/-- Read a whole number between two limits. -/
def integerReader (least greatest : Int) : Reader := fun _ text => do
  let (value, rest) <- anyQuantity text
  match value with
  | .whole value =>
      if least ≤ value ∧ value ≤ greatest then return (.integer value, rest)
      else throw .unsuitable
  | .scaled _ => throw .unsuitable

/-- Read a word. -/
def wordReader : Reader := integerReader 0 Word.limit

/-- Read a number, whole or not, as a double. -/
def numberReader : Reader := fun _ text => do
  let (value, rest) <- anyQuantity text
  match value with
  | .whole value =>
      let size := (UInt64.ofNat value.natAbs).toFloat
      return (.number (if value < 0 then -size else size), rest)
  | .scaled value => return (.number value, rest)

/-- Read a truth value. -/
def boolReader : Reader := fun _ text =>
  match skipSpace text with
  | 't' :: rest => do
      let (_, rest) <- expect "rue".toList rest
      return (.bool true, rest)
  | 'f' :: rest => do
      let (_, rest) <- expect "alse".toList rest
      return (.bool false, rest)
  | text => unsuited text

/-- Read a text. -/
def anyString (text : List Char) : Except DocumentFault (List Char × List Char) :=
  match skipSpace text with
  | '"' :: rest => stringRest rest
  | text => unsuited text

/-- Read a text and respell it; a text without a canonical spelling is unsuitable. -/
def stringReader (canonical : List Char -> Option (List Char)) : Reader := fun _ text => do
  let (characters, rest) <- anyString text
  match canonical characters with
  | some spelling => return (.string (String.ofList spelling), rest)
  | none => throw .unsuitable

/-- Read a value that may be absent. -/
def optionReader (inner : Reader) : Reader := fun depth text =>
  match skipSpace text with
  | 'n' :: rest => do
      let (_, rest) <- expect "ull".toList rest
      return (.null, rest)
  | text => inner depth text

/-! ## Values that are skipped -/

/-- A bracket that is open while values are skipped. -/
inductive Bracket
  | list
  | object
  deriving DecidableEq, Repr

/-- Skip the name of a member and the colon behind it. -/
def skipName (text : List Char) : Except DocumentFault (Unit × List Char) := do
  match skipSpace text with
  | [] => throw .endsEarly
  | '"' :: rest =>
      let (_, rest) <- skipString rest
      match skipSpace rest with
      | [] => throw .endsEarly
      | ':' :: rest => return ((), rest)
      | _ => throw .malformed
  | _ => throw .malformed

/-- Skip what may stand between values: closing brackets, then a comma, then a name. -/
def skipBetween :
    Nat -> Bool -> List Bracket -> List Char ->
      Except DocumentFault (List Bracket × List Char)
  | _, _, [], text => .ok ([], text)
  | 0, _, _, _ => .error .endsEarly
  | bound + 1, behindValue, bracket :: outer, text =>
      let opened (text : List Char) : Except DocumentFault (List Bracket × List Char) :=
        match bracket with
        | .list => .ok (bracket :: outer, text)
        | .object => do
            let (_, rest) <- skipName text
            return (bracket :: outer, rest)
      match skipSpace text with
      | [] => .error .endsEarly
      | ',' :: rest => if behindValue then opened rest else opened (',' :: rest)
      | ']' :: rest =>
          if bracket = .list then skipBetween bound true outer rest
          else if behindValue then .error .malformed
          else opened (']' :: rest)
      | '\x7d' :: rest =>
          if bracket = .object then skipBetween bound true outer rest
          else if behindValue then .error .malformed
          else opened ('\x7d' :: rest)
      | text => if behindValue then .error .malformed else opened text

/-- Skip values until no bracket is open. -/
def skipFrom : Nat -> List Bracket -> List Char -> Except DocumentFault (Unit × List Char)
  | 0, _, _ => .error .endsEarly
  | bound + 1, brackets, text => do
      let behind (rest : List Char) : Except DocumentFault (List Bracket × List Char) :=
        skipBetween (rest.length + 1) true brackets rest
      let (brackets, rest) <-
        match skipSpace text with
        | [] => throw .endsEarly
        | 'n' :: rest => do
            let (_, rest) <- expect "ull".toList rest
            behind rest
        | 't' :: rest => do
            let (_, rest) <- expect "rue".toList rest
            behind rest
        | 'f' :: rest => do
            let (_, rest) <- expect "alse".toList rest
            behind rest
        | '-' :: rest => do
            let (_, rest) <- skipNumber rest
            behind rest
        | '"' :: rest => do
            let (_, rest) <- skipString rest
            behind rest
        | '[' :: rest => skipBetween (rest.length + 1) false (.list :: brackets) rest
        | '\x7b' :: rest => skipBetween (rest.length + 1) false (.object :: brackets) rest
        | first :: rest => do
            if (Decimal.digit? first).isSome then
              let (_, rest) <- skipNumber (first :: rest)
              behind rest
            else
              throw .malformed
      match brackets with
      | [] => return ((), rest)
      | _ => skipFrom bound brackets rest

/-- Skip one value of any kind. -/
def skipValue (text : List Char) : Except DocumentFault (Unit × List Char) :=
  skipFrom (text.length + 1) [] text

/-! ## Lists and objects -/

/-- Go to the next element of a list, if there is one. -/
def nextElement (first : Bool) (text : List Char) : Except DocumentFault (Bool × List Char) :=
  match skipSpace text with
  | [] => .error .endsEarly
  | ']' :: rest => .ok (false, ']' :: rest)
  | text =>
      if first then
        .ok (true, text)
      else
        match text with
        | ',' :: rest =>
            match skipSpace rest with
            | [] => .error .endsEarly
            | ']' :: _ => .error .malformed
            | rest => .ok (true, rest)
        | _ => .error .malformed

/-- Read the end of a list. -/
def closeList (text : List Char) : Except DocumentFault (Unit × List Char) :=
  match skipSpace text with
  | [] => .error .endsEarly
  | ']' :: rest => .ok ((), rest)
  | _ => .error .malformed

/-- Read the elements of a list of any length. -/
def elementsFrom (element : Reader) :
    Nat -> Bool -> Nat -> List Char -> Except DocumentFault (List Document × List Char)
  | 0, _, _, _ => .error .endsEarly
  | bound + 1, first, depth, text => do
      let (more, text) <- nextElement first text
      if more then
        let (value, text) <- element depth text
        let (values, text) <- elementsFrom element bound false depth text
        return (value :: values, text)
      else
        return ([], text)

/-- Read a list of values of one kind. -/
def listReader (element : Reader) : Reader := fun depth text =>
  match skipSpace text with
  | '[' :: rest =>
      nested depth fun depth => do
        let (values, rest) <- elementsFrom element (rest.length + 1) true depth rest
        let (_, rest) <- closeList rest
        return (.array values, rest)
  | text => unsuited text

/-- Go to the name of the next member of an object, if there is one, and read it. -/
def nextName (first : Bool) (text : List Char) : Except DocumentFault (Option String × List Char) :=
  let named (text : List Char) : Except DocumentFault (Option String × List Char) :=
    match text with
    | '"' :: rest => do
        let (name, rest) <- stringRest rest
        return (some (String.ofList name), rest)
    | _ => .error .malformed
  match skipSpace text with
  | [] => .error .endsEarly
  | '\x7d' :: rest => .ok (none, rest)
  | text =>
      if first then
        named text
      else
        match text with
        | ',' :: rest =>
            match skipSpace rest with
            | [] => .error .endsEarly
            | rest => named rest
        | _ => .error .malformed

/-- Read the colon behind a name. -/
def colon (text : List Char) : Except DocumentFault (Unit × List Char) :=
  match skipSpace text with
  | [] => .error .endsEarly
  | ':' :: rest => .ok ((), rest)
  | _ => .error .malformed

/-! ## Records -/

/-- One member of a record. -/
structure Member where
  name : String
  reader : Reader
  /-- What an object without the member means by leaving it out, if it may. -/
  whenAbsent : Option Document
  /-- What a list that ends before the member means, if it may. -/
  whenCut : Option Document

/-- A member that has to be there. -/
def Member.required (name : String) (reader : Reader) : Member :=
  ⟨name, reader, none, none⟩

/-- A member that is null when an object leaves it out. -/
def Member.nullable (name : String) (reader : Reader) : Member :=
  ⟨name, optionReader reader, some .null, none⟩

/-- What a record consists of. -/
structure Shape where
  members : List Member
  /-- Whether members that the record does not know are refused. -/
  closed : Bool
  /-- The canonical form of the values of all members, if they suit each other. -/
  settle : List Document -> Option (List Document)

/-- A record whose members do not depend on each other. -/
def Shape.plain (members : List Member) : Shape :=
  ⟨members, false, some⟩

/-- Read the members of a record from a list. -/
def cutMembers :
    List Member -> Bool -> Nat -> List Char ->
      Except DocumentFault (List Document × List Char)
  | [], _, _, text => .ok ([], text)
  | member :: rest, first, depth, text => do
      let (more, text) <- nextElement first text
      if more then
        let (value, text) <- member.reader depth text
        let (values, text) <- cutMembers rest false depth text
        return (value :: values, text)
      else
        match member.whenCut with
        | none => throw .unsuitable
        | some value =>
            let (values, text) <- cutMembers rest false depth text
            return (value :: values, text)

/-- The position of a member of a record. -/
def positionOf (name : String) (members : List Member) : Option Nat :=
  members.findIdx? fun member => member.name == name

/-- Read the members of a record from an object into their places. -/
def namedMembers (shape : Shape) :
    Nat -> Bool -> List (Option Document) -> Nat -> List Char ->
      Except DocumentFault (List (Option Document) × List Char)
  | 0, _, _, _, _ => .error .endsEarly
  | bound + 1, first, values, depth, text => do
      let (name, text) <- nextName first text
      match name with
      | none => return (values, text)
      | some name =>
          match positionOf name shape.members with
          | none =>
              if shape.closed then
                throw .unsuitable
              else
                let (_, text) <- colon text
                let (_, text) <- skipValue text
                namedMembers shape bound false values depth text
          | some position =>
              match values[position]?, shape.members[position]? with
              | some none, some member =>
                  let (_, text) <- colon text
                  let (value, text) <- member.reader depth text
                  namedMembers shape bound false (values.set position (some value)) depth text
              | _, _ => throw .unsuitable

/-- The values of all members, those left out filled in. -/
def filled : List Member -> List (Option Document) -> Option (List Document)
  | [], _ => some []
  | member :: rest, values => do
      let value <- (values.head?.bind id).or member.whenAbsent
      let others <- filled rest values.tail
      return value :: others

/-- The canonical form of a record with the given values. -/
def Shape.document (shape : Shape) (values : List Document) : Except DocumentFault Document :=
  match shape.settle values with
  | some values => .ok (.object ((shape.members.map Member.name).zip values))
  | none => .error .unsuitable

/-- Read a record. -/
def recordReader (shape : Shape) : Reader := fun depth text =>
  match skipSpace text with
  | '[' :: rest =>
      nested depth fun depth => do
        let (values, rest) <- cutMembers shape.members true depth rest
        let document <- shape.document values
        let (_, rest) <- closeList rest
        return (document, rest)
  | '\x7b' :: rest =>
      nested depth fun depth => do
        let empty := shape.members.map fun _ => none
        let (values, rest) <- namedMembers shape (rest.length + 1) true empty depth rest
        match filled shape.members values with
        | none => throw .unsuitable
        | some values =>
            let document <- shape.document values
            return (document, rest)
  | text => unsuited text

/-! ## Choices -/

/-- One of the alternatives of a choice; one without content is written as its name alone. -/
structure Alternative where
  name : String
  content : Option Reader

/-- Read the content of an alternative. -/
def alternativeContent (alternative : Alternative) (depth : Nat) (text : List Char) :
    Except DocumentFault (Document × List Char) := do
  let (_, text) <- colon text
  match alternative.content with
  | some reader =>
      let (value, rest) <- reader depth text
      return (.object [(alternative.name, value)], rest)
  | none =>
      match skipSpace text with
      | 'n' :: rest =>
          let (_, rest) <- expect "ull".toList rest
          return (.string alternative.name, rest)
      | text => unsuited text

/-- Read a choice: a name alone, or an object with one member that is named for it. -/
def choiceReader (alternatives : List Alternative) : Reader := fun depth text =>
  let find (name : List Char) : Except DocumentFault Alternative :=
    match alternatives.find? fun alternative => alternative.name == String.ofList name with
    | some alternative => .ok alternative
    | none => .error .unsuitable
  match skipSpace text with
  | [] => .error .endsEarly
  | '\x7b' :: rest => do
      let (value, rest) <-
        nested depth fun depth => do
          let (name, rest) <- anyString rest
          let alternative <- find name
          alternativeContent alternative depth rest
      match skipSpace rest with
      | [] => throw .endsEarly
      | '\x7d' :: rest => return (value, rest)
      | _ => throw .malformed
  | '"' :: rest => do
      let (name, rest) <- stringRest rest
      let alternative <- find name
      match alternative.content with
      | none => return (.string alternative.name, rest)
      | some _ => throw .unsuitable
  | _ => .error .malformed

/-! ## Whole documents -/

/-- How deep a document may be nested, and one more. -/
def depthLimit : Nat := 128

/-- Read a whole text as one document. -/
def read (reader : Reader) (text : String) : Except DocumentFault Document := do
  let (value, rest) <- reader depthLimit text.toList
  match skipSpace rest with
  | [] => return value
  | _ => throw .malformed

end Document
end LatencyMeter
