/-!
# Instants and durations

Instants and durations are natural numbers of nanoseconds; instants are counted from the
moment a clock was started. `Duration.text` is the notation for a duration in diagnostics:
the largest of the units s, ms, µs and ns that gives a whole part of at least one, with only
the decimal places that are needed.
-/

namespace Telecontrol

namespace Duration

/-- The duration of a number of milliseconds. -/
def ofMillis (n : Nat) : Nat := n * 1000000

/-- The duration of a number of seconds. -/
def ofSeconds (n : Nat) : Nat := n * 1000000000

/-- The last `places` decimal digits of a number, most significant first. -/
def digits : (places : Nat) → Nat → List Char
  | 0, _ => []
  | places + 1, n => digits places (n / 10) ++ [Char.ofNat (48 + n % 10)]

/-- Decimal places without the zeros at their end. -/
def significant (places : List Char) : List Char :=
  (places.reverse.dropWhile (· == '0')).reverse

/-- A duration in a unit of which the nanosecond is the last of `places` decimal places. -/
def textIn (places : Nat) (unit : String) (d : Nat) : String :=
  let whole := toString (d / Nat.pow 10 places)
  match significant (digits places (d % Nat.pow 10 places)) with
  | [] => whole ++ unit
  | fraction => whole ++ "." ++ String.ofList fraction ++ unit

/-- A duration in the largest unit that gives a whole part of at least one. -/
def text (d : Nat) : String :=
  if 1000000000 ≤ d then textIn 9 "s" d
  else if 1000000 ≤ d then textIn 6 "ms" d
  else if 1000 ≤ d then textIn 3 "µs" d
  else textIn 0 "ns" d

end Duration

end Telecontrol
