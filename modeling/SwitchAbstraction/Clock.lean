import SwitchAbstraction.Text

/-!
# Time

A clock that moves only when told to.  It counts seconds in a word of 64 bits
and wraps around at its end.  A span of time is shown in seconds from one
second on and in milliseconds below, without zeros at the end of a fraction.
No time at all is shown in nanoseconds.
-/

namespace SwitchAbstraction

/-- A clock at a number of seconds. -/
structure Clock where
  now : UInt64
  deriving DecidableEq

namespace Clock

/-- The clock put to a time. -/
def set (_ : Clock) (seconds : UInt64) : Clock :=
  ⟨seconds⟩

/-- The clock moved on by some seconds. -/
def advance (clock : Clock) (seconds : UInt64) : Clock :=
  ⟨clock.now + seconds⟩

end Clock

namespace Text

/-- The three decimal places of a fraction, without zeros at its end. -/
def thousandths (n : Nat) : List Char :=
  let places := [Nat.digitChar (n / 100 % 10), Nat.digitChar (n / 10 % 10),
    Nat.digitChar (n % 10)]
  (places.reverse.dropWhile (· = '0')).reverse

/-- The text of a number of milliseconds. -/
def span (milliseconds : Nat) : String :=
  if milliseconds = 0 then "0ns"
  else if milliseconds < 1000 then decimal milliseconds ++ "ms"
  else
    match thousandths (milliseconds % 1000) with
    | [] => decimal (milliseconds / 1000) ++ "s"
    | places => decimal (milliseconds / 1000) ++ "." ++ String.ofList places ++ "s"

end Text

end SwitchAbstraction
