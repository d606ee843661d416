import DelegatedScopes.Arithmetic
import DelegatedScopes.Text

/-!
# Decimal — the shortest digits of a double

The fewest decimal digits that read back as a given double, and of those the nearest.  A finite
double is `m · 2 ^ q`, and the reals that read back as it form an interval around it that reaches
half way to its neighbours, ends included when `m` is even.  For one, two and up to seventeen
digits the two neighbours of the value on the decimal grid are tried, in whole numbers.

* `Binary64.ofBits`: sign, `m` and `q` of the bits of a double.
* `Binary64.shortest`: the digits and the exponent of the first.
* `FloatFormat`, `Binary64.write`: how digits and exponent are laid out.
-/

namespace DelegatedScopes

/-- A finite double: `m · 2 ^ q`, with its sign. -/
structure Binary64 where
  negative : Bool
  m : Nat
  q : Int
deriving DecidableEq

namespace Binary64

/-- The double with the given bits, read as finite. -/
def ofBits (bits : UInt64) : Binary64 :=
  let n := bits.toNat
  let exponent : Nat := n / twoTo 52 % twoTo 11
  let fraction : Nat := n % twoTo 52
  if exponent = 0 then ⟨n / twoTo 63 == 1, fraction, -1074⟩
  else ⟨n / twoTo 63 == 1, fraction + twoTo 52, (exponent : Int) - 1075⟩

/-- A quotient of whole numbers, with the same denominator for the value and for the ends of the
interval that reads back as it.  The neighbour below a power of two is nearer than the one above. -/
structure Interval where
  low : Nat
  value : Nat
  high : Nat
  denominator : Nat
  closed : Bool

/-- The interval of a double. -/
def interval (x : Binary64) : Interval :=
  let scale := x.q - 2
  let up := twoTo scale.toNat
  let below := if x.m = twoTo 52 ∧ -1074 < x.q then 1 else 2
  { low := (4 * x.m - below) * up
    value := 4 * x.m * up
    high := (4 * x.m + 2) * up
    denominator := twoTo (-scale).toNat
    closed := x.m % 2 == 0 }

/-- Whether `d` units of `10 ^ k` lie in the interval. -/
def Interval.holds (i : Interval) (d : Nat) (k : Int) : Bool :=
  let unit := d * i.denominator * tenTo k.toNat
  let down := tenTo (-k).toNat
  if i.closed then i.low * down ≤ unit && unit ≤ i.high * down
  else i.low * down < unit && unit < i.high * down

/-- The number of whole units of `10 ^ k` in the value, and whether the next one is nearer; of two
equally near ones the even one counts as nearer. -/
def Interval.floor (i : Interval) (k : Int) : Nat × Bool :=
  let value := i.value * tenTo (-k).toNat
  let unit := i.denominator * tenTo k.toNat
  let d := value / unit
  let twice := 2 * (value % unit)
  (d, unit < twice || (unit == twice && d % 2 == 1))

/-- The exponent of the first digit: the greatest `e` with `10 ^ e` not above the value.  It is
searched from an estimate by the binary exponent. -/
def Interval.magnitude (i : Interval) : Int :=
  let binary := (Nat.log2 i.value : Int) - Nat.log2 i.denominator
  let estimate := binary * 30103 / 100000
  let fits (e : Int) : Bool := 0 < (i.floor e).1
  if fits (estimate + 1) then estimate + 1
  else if fits estimate then estimate
  else estimate - 1

/-- A point of the grid `10 ^ k` in the interval, the nearer one if there are two. -/
def Interval.onGrid? (i : Interval) (k : Int) : Option Nat :=
  let (d, nextIsNearer) := i.floor k
  match i.holds d k, i.holds (d + 1) k with
  | true, true => some (if nextIsNearer then d + 1 else d)
  | true, false => some d
  | false, true => some (d + 1)
  | false, false => none

/-- The first of the grids with `count`, `count + 1`, … digits that has a point in the interval. -/
def Interval.firstGrid (i : Interval) (magnitude : Int) (count : Nat) : (tries : Nat) → Nat × Int
  | 0 => (i.value / i.denominator, 0)
  | tries + 1 =>
    let k := magnitude - count + 1
    match i.onGrid? k with
    | some d => (d, k)
    | none => i.firstGrid magnitude (count + 1) tries

/-- The shortest digits of a positive double, and the exponent of the first of them. -/
def shortest (x : Binary64) : Text × Int :=
  let i := x.interval
  let (d, k) := i.firstGrid i.magnitude 1 17
  let digits := Text.decimal d
  let kept := (digits.reverse.dropWhile (· = '0')).reverse
  (kept, k + digits.length - 1)

end Binary64

/-- How digits and exponent are laid out: the exponents that are written positionally, and the
least number of digits of an exponent that is written out. -/
structure FloatFormat where
  least : Int
  most : Int
  exponentDigits : Nat

/-- The text of a double.  A whole number keeps a fraction of zero. -/
def Binary64.write (format : FloatFormat) (x : Binary64) : Text :=
  let sign := if x.negative then ['-'] else []
  if x.m = 0 then sign ++ "0.0".toList
  else
    let (digits, e) := x.shortest
    let zeros (n : Int) : Text := List.replicate n.toNat '0'
    let body :=
      if format.least ≤ e ∧ e ≤ format.most then
        if e < 0 then "0.".toList ++ zeros (-e - 1) ++ digits
        else
          let whole := digits.take (e.toNat + 1) ++ zeros (e + 1 - digits.length)
          let fraction := digits.drop (e.toNat + 1)
          whole ++ ['.'] ++ if fraction.isEmpty then ['0'] else fraction
      else
        let exponent := Text.decimal e.natAbs
        digits.take 1 ++ (if digits.length = 1 then [] else '.' :: digits.drop 1) ++ ['e']
          ++ [if e < 0 then '-' else '+'] ++ zeros (format.exponentDigits - exponent.length)
          ++ exponent
    sign ++ body

end DelegatedScopes
