/-!
# Readers that restore what was written

A reader restores a writer if it reads every written value back. Then a text that was read may
be replaced by what is written for its value: it is read as the same value, and writing it
once more changes nothing.
-/

namespace LatencyMeter

/-- Everything that is written is read back. -/
def Restores (read : String -> Except ε α) (write : α -> String) : Prop :=
  forall value, read (write value) = .ok value

/-- The text that is written for the value of a text. -/
def respell (read : String -> Except ε α) (write : α -> String) (text : String) :
    Except ε String :=
  (read text).map write

namespace Restores

variable {read : String -> Except ε α} {write : α -> String}

/-- A text and its respelling are read as the same value. -/
theorem read_respell (restores : Restores read write) (text : String) :
    (respell read write text >>= read) = read text := by
  unfold respell
  cases read text with
  | error fault => rfl
  | ok value => exact restores value

/-- A respelled text is spelled as it would be respelled. -/
theorem respell_respell (restores : Restores read write) (text : String) :
    (respell read write text >>= respell read write) = respell read write text := by
  unfold respell
  cases read text with
  | error fault => rfl
  | ok value => exact congrArg (Except.map write) (restores value)

end Restores
end LatencyMeter
