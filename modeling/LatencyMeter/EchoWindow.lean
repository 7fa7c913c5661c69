/-!
# Echo window

Each message number may be confirmed once. The window remembers the newest number
that was accepted and, for each of the 4096 numbers up to it, whether that number
was accepted too. The marks stand in a ring, at the position of the number modulo
the size of the window; when the newest number moves on, the marks of the numbers
that it skips are cleared. A mark is one bit, and the ring is made of words of 64
bits.
-/

namespace LatencyMeter

/-- What an echoed message number is. -/
inductive EchoVerdict
  /-- The first echo of a message that was sent. -/
  | fresh
  /-- An echo that was accepted before. -/
  | duplicate
  /-- Too far behind the newest echo to tell. -/
  | stale
  /-- Not the number of a message that was sent. -/
  | unsent
  deriving DecidableEq, Repr

/-- The name of a verdict. -/
def EchoVerdict.name : EchoVerdict -> String
  | .fresh => "Fresh"
  | .duplicate => "Duplicate"
  | .stale => "Stale"
  | .unsent => "Unsent"

/-- One bit for each of 4096 positions. -/
structure EchoRing where
  words : Vector UInt64 64

namespace EchoRing

/-- No position is marked. -/
def blank : EchoRing := ⟨Vector.replicate 64 0⟩

/-- The word that holds the bit of a position. -/
def word (position : Fin 4096) : Fin 64 :=
  ⟨position.val / 64, Nat.div_lt_of_lt_mul position.isLt⟩

/-- The bit of a position in its word. -/
def mask (position : Fin 4096) : UInt64 := 1 <<< UInt64.ofNat (position.val % 64)

/-- Whether a position is marked. -/
def isMarked (ring : EchoRing) (position : Fin 4096) : Bool :=
  ring.words.get (word position) &&& mask position != 0

/-- Mark a position. -/
def mark (ring : EchoRing) (position : Fin 4096) : EchoRing :=
  ⟨ring.words.set (word position) (ring.words.get (word position) ||| mask position)⟩

/-- Clear a position. -/
def clear (ring : EchoRing) (position : Fin 4096) : EchoRing :=
  ⟨ring.words.set (word position) (ring.words.get (word position) &&& ~~~mask position)⟩

end EchoRing

/-- The accepted numbers among the newest ones. -/
structure EchoWindow where
  newest : Option UInt64
  seen : EchoRing

namespace EchoWindow

/-- How many numbers the window covers. -/
def span : Nat := 4096

/-- No number has been accepted. -/
def empty : EchoWindow := ⟨none, EchoRing.blank⟩

instance : Inhabited EchoWindow := ⟨empty⟩

/-- The position of a number in the ring. -/
def slot (number : Nat) : Fin 4096 :=
  ⟨number % 4096, Nat.mod_lt _ (by decide)⟩

/-- Clear the marks of `count` consecutive numbers. -/
def clearFrom (first : Nat) : Nat -> EchoRing -> EchoRing
  | 0, seen => seen
  | count + 1, seen => clearFrom (first + 1) count (seen.clear (slot first))

@[simp] theorem clearFrom_zero (first : Nat) (seen : EchoRing) :
    clearFrom first 0 seen = seen := rfl

@[simp] theorem clearFrom_succ (first count : Nat) (seen : EchoRing) :
    clearFrom first (count + 1) seen =
      clearFrom (first + 1) count (seen.clear (slot first)) := rfl

/-- The window with one more number marked as accepted. -/
def mark (window : EchoWindow) (number : UInt64) : EchoWindow :=
  { window with seen := window.seen.mark (slot number.toNat) }

/-- The window moved on to a number newer than the newest. -/
def advance (window : EchoWindow) (newest number : UInt64) : EchoWindow :=
  let ahead := number.toNat - newest.toNat
  { newest := some number
    seen :=
      if span ≤ ahead then EchoRing.blank
      else clearFrom (newest.toNat + 1) ahead window.seen }

/-- Judge a number when `total` messages have been sent, and mark it when it is accepted. -/
def check (window : EchoWindow) (number total : UInt64) : EchoVerdict × EchoWindow :=
  if total ≤ number then
    (.unsent, window)
  else
    match window.newest with
    | none => (.fresh, { window with newest := some number }.mark number)
    | some newest =>
        if number ≤ newest then
          if span ≤ newest.toNat - number.toNat then
            (.stale, window)
          else if window.seen.isMarked (slot number.toNat) then
            (.duplicate, window)
          else
            (.fresh, window.mark number)
        else
          (.fresh, (window.advance newest number).mark number)

end EchoWindow
end LatencyMeter
