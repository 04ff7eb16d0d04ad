/-!
The text of a duration: a decimal number of the largest unit of s, ms, µs and ns that leaves an
integer part, without trailing zeros.
-/

namespace LinkBench

/-- A length of time in nanoseconds. -/
structure Duration where
  nanoseconds : Nat
  deriving DecidableEq, Repr

namespace Duration

def ofSeconds (n : Nat) : Duration := ⟨n * 1000000000⟩

def ofMilliseconds (n : Nat) : Duration := ⟨n * 1000000⟩

/-- The quotient by `10 ^ places` in decimal; trailing zeros of the fraction are left out. -/
def decimal (n places : Nat) : String :=
  let unit := Nat.pow 10 places
  let fraction := (Nat.toDigits 10 (n % unit)).leftpad places '0'
  let kept := (fraction.reverse.dropWhile (· == '0')).reverse
  if kept = [] then toString (n / unit) else toString (n / unit) ++ "." ++ String.ofList kept

def text (d : Duration) : String :=
  if d.nanoseconds ≥ 1000000000 then decimal d.nanoseconds 9 ++ "s"
  else if d.nanoseconds ≥ 1000000 then decimal d.nanoseconds 6 ++ "ms"
  else if d.nanoseconds ≥ 1000 then decimal d.nanoseconds 3 ++ "µs"
  else decimal d.nanoseconds 0 ++ "ns"

end Duration

end LinkBench
