import LatencyMeter.Decimal.Shortest
import LatencyMeter.Error
import LatencyMeter.Word

/-!
# Documents

A document is a tree of named values, lists, texts and numbers. It has two printed
forms with the same content: a compact one without blanks, and a broken one with
one value on each line, indented by two blanks for each level. Members keep their
order.
-/

namespace LatencyMeter

/-- A value of a document. -/
inductive Document
  | null
  | bool (value : Bool)
  | integer (value : Int)
  | number (value : Float)
  | string (text : String)
  | array (elements : List Document)
  | object (members : List (String × Document))

namespace Document

/-- A whole number that fits into a word. -/
def word (value : UInt64) : Document := .integer value.toNat

/-- A value that may be absent. -/
def option (value : Option Document) : Document := value.getD .null

/-- The characters of a character inside a text. -/
def stringChar (character : Char) : List Char :=
  match character with
  | '"' => ['\\', '"']
  | '\\' => ['\\', '\\']
  | '\x08' => ['\\', 'b']
  | '\x0c' => ['\\', 'f']
  | '\n' => ['\\', 'n']
  | '\r' => ['\\', 'r']
  | '\t' => ['\\', 't']
  | _ =>
      if character.toNat < 0x20 then
        ['\\', 'u', '0', '0', Nat.digitChar (character.toNat / 16),
          Nat.digitChar (character.toNat % 16)]
      else
        [character]

/-- The characters of a text between its quotes. -/
def stringChars (text : String) : List Char :=
  '"' :: text.toList.flatMap stringChar ++ ['"']

/-- The characters of a whole number. -/
def integerChars (value : Int) : List Char :=
  (if value < 0 then ['-'] else []) ++ Nat.toDigits 10 value.natAbs

/-- Numbers show their shortest digits, whole ones a zero behind the point. -/
def numberLayout : Decimal.Layout where
  positionalMax := 16
  positionalMin := -4
  wholeSuffix := ['.', '0']
  undefinedText := "null".toList

mutual

/-- The compact form of a value. -/
def chars : Document -> List Char
  | .null => "null".toList
  | .bool value => if value then "true".toList else "false".toList
  | .integer value => integerChars value
  | .number value => numberLayout.chars value
  | .string text => stringChars text
  | .array elements => '[' :: elementChars elements ++ [']']
  | .object members => '\x7b' :: memberChars members ++ ['\x7d']

/-- The compact form of the elements of a list. -/
def elementChars : List Document -> List Char
  | [] => []
  | [last] => last.chars
  | element :: rest => element.chars ++ ',' :: elementChars rest

/-- The compact form of the members of an object. -/
def memberChars : List (String × Document) -> List Char
  | [] => []
  | [(name, last)] => stringChars name ++ ':' :: last.chars
  | (name, value) :: rest => stringChars name ++ ':' :: (value.chars ++ ',' :: memberChars rest)

end

/-- The compact form of a document. -/
def text (document : Document) : String :=
  String.ofList document.chars

/-- The start of a line at a level. -/
def indent (level : Nat) : List Char :=
  '\n' :: List.replicate (2 * level) ' '

mutual

/-- The broken form of a value at a level. -/
def brokenChars (level : Nat) : Document -> List Char
  | .null => "null".toList
  | .bool value => if value then "true".toList else "false".toList
  | .integer value => integerChars value
  | .number value => numberLayout.chars value
  | .string text => stringChars text
  | .array [] => ['[', ']']
  | .array elements => '[' :: brokenElements (level + 1) elements ++ indent level ++ [']']
  | .object [] => ['\x7b', '\x7d']
  | .object members =>
      '\x7b' :: brokenMembers (level + 1) members ++ indent level ++ ['\x7d']

/-- The broken form of the elements of a list. -/
def brokenElements (level : Nat) : List Document -> List Char
  | [] => []
  | [last] => indent level ++ brokenChars level last
  | element :: rest =>
      indent level ++ brokenChars level element ++ ',' :: brokenElements level rest

/-- The broken form of the members of an object. -/
def brokenMembers (level : Nat) : List (String × Document) -> List Char
  | [] => []
  | [(name, last)] => indent level ++ stringChars name ++ ':' :: ' ' :: brokenChars level last
  | (name, value) :: rest =>
      indent level ++ stringChars name ++ ':' :: ' ' ::
        (brokenChars level value ++ ',' :: brokenMembers level rest)

end

/-- The broken form of a document. -/
def brokenText (document : Document) : String :=
  String.ofList (document.brokenChars 0)

end Document
end LatencyMeter
