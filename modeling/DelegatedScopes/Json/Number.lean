import DelegatedScopes.Decimal.Shortest
import DelegatedScopes.Json.Scan

/-!
# JSON — numbers

A number without fraction and exponent is a whole number as long as it fits 64 bits, unsigned, or
signed when it is negative.  Every other number is a double: its digits, as far as they fit 64
bits, as a double, times or divided by a power of ten.  That is not always the nearest double to
what is written.  A number too large for a double is malformed.

* `Json.Number`: the three kinds of number.
* `Json.scanNumber`: a number, from its sign on.
-/

namespace DelegatedScopes.Json

/-- A number that was read. -/
inductive Number
  | whole (n : Nat)
  | below (n : Nat)
  | double (x : Float)

/-- Doubles are written positionally from `0.00001` to sixteen places before the point. -/
def doubleFormat : FloatFormat := ⟨-5, 15, 2⟩

/-- The text of a number: `below n` is `-n`. -/
def Number.write : Number → Text
  | .whole n => Text.decimal n
  | .below n => '-' :: Text.decimal n
  | .double x => (Binary64.ofBits x.toBits).write doubleFormat

/-- Adds digits to a significand as long as it fits 64 bits.  The result is the significand and
the digits that were left out. -/
def takeSignificand (significand : Nat) : Text → Nat × Text
  | [] => (significand, [])
  | c :: cs =>
    let next := significand * 10 + Text.digitValue c
    if next < Text.naturalLimit then takeSignificand next cs else (significand, c :: cs)

/-- Divides by `10 ^ e`, by `10 ^ 308` at a time. -/
def divideByPower (x : Float) (e : Nat) : Float :=
  if e ≤ 308 then x / Float.ofScientific 1 false e
  else if x == 0 then x
  else divideByPower (x / Float.ofScientific 1 false 308) (e - 308)
termination_by e

/-- The double `significand · 10 ^ e`, unless it is too large. -/
def toDouble? (negative : Bool) (significand : Nat) (e : Int) : Option Float :=
  let x := significand.toUInt64.toFloat
  let signed (y : Float) : Float := if negative then -y else y
  if e < 0 then some (signed (divideByPower x e.natAbs))
  else if 308 < e then if significand = 0 then some (signed x) else none
  else
    let y := x * Float.ofScientific 1 false e.toNat
    if y.isInf then none else some (signed y)

/-- The double `significand · 10 ^ e` as a number. -/
def double (negative : Bool) (significand : Nat) (e : Int) (rest : Text) :
    Except Misread (Number × Text) :=
  match toDouble? negative significand e with
  | some x => .ok (.double x, rest)
  | none => .error (.before .numberTooLarge rest)

theorem length_double {negative : Bool} {significand : Nat} {e : Int} {t rest : Text} {n : Number}
    (h : double negative significand e t = .ok (n, rest)) : rest.length ≤ t.length := by
  unfold double at h
  split at h
  · cases h; exact Nat.le_refl _
  · cases h

theorem length_dropDigits (t : Text) : (t.dropWhile Char.isDigit).length ≤ t.length :=
  (List.dropWhile_suffix _).length_le

/-- The digits of an exponent behind the one that takes it over 31 bits. -/
def pastLimit (exponent : Nat) : Text → Text
  | [] => []
  | c :: cs =>
    let next := exponent * 10 + Text.digitValue c
    if 2147483647 < next then cs else pastLimit next cs

/-- The exponent after `e`, on top of the exponent `e` that the digits have already.  An exponent
of more than 31 bits makes the number zero, or too large as soon as it has that many. -/
def scanExponent (negative : Bool) (significand : Nat) (e : Int) (t : Text) :
    Except Misread (Number × Text) :=
  let (down, t) := match t with
    | '+' :: t => (false, t)
    | '-' :: t => (true, t)
    | t => (false, t)
  let digits := t.takeWhile Char.isDigit
  let rest := t.dropWhile Char.isDigit
  match digits, rest with
  | [], [] => .error (.on .endOfValue [])
  | [], rest => .error (.on .badNumber rest)
  | digits, rest =>
    let size : Int := Text.digitsValue digits
    if 2147483647 < size then
      if significand ≠ 0 ∧ ¬ down then .error (.before .numberTooLarge (pastLimit 0 digits ++ rest))
      else double negative 0 0 rest
    else double negative significand (if down then e - size else e + size) rest

theorem length_scanExponent {negative : Bool} {significand : Nat} {e : Int} {t rest : Text}
    {n : Number} (h : scanExponent negative significand e t = .ok (n, rest)) :
    rest.length ≤ t.length := by
  unfold scanExponent at h
  split at h
  rename_i down u hu
  have hle : u.length ≤ t.length := by
    split at hu <;> cases hu <;> simp
  have hd := length_dropDigits u
  simp only at h
  split at h
  · cases h
  · cases h
  · split at h
    · split at h
      · cases h
      · have := length_double h
        omega
    · have := length_double h
      omega

/-- What may follow the whole part: a fraction, an exponent, or nothing. -/
def scanFraction (negative : Bool) (significand : Nat) (e : Int) (t : Text) :
    Except Misread (Number × Text) :=
  let digits := t.takeWhile Char.isDigit
  let rest := t.dropWhile Char.isDigit
  match digits, rest with
  | [], [] => .error (.on .endOfValue [])
  | [], rest => .error (.on .badNumber rest)
  | digits, rest =>
    let (significand, left) := takeSignificand significand digits
    let e := e - (digits.length - left.length : Nat)
    match rest with
    | 'e' :: rest | 'E' :: rest => scanExponent negative significand e rest
    | rest => double negative significand e rest

theorem length_scanFraction {negative : Bool} {significand : Nat} {e : Int} {t rest : Text}
    {n : Number} (h : scanFraction negative significand e t = .ok (n, rest)) :
    rest.length ≤ t.length := by
  have hd := length_dropDigits t
  unfold scanFraction at h
  simp only at h
  split at h
  · cases h
  · cases h
  · split at h
    · next hr =>
      have := length_scanExponent h
      rw [hr, List.length_cons] at hd
      omega
    · next hr =>
      have := length_scanExponent h
      rw [hr, List.length_cons] at hd
      omega
    · have := length_double h
      omega

/-- A number after its sign. -/
def scanUnsigned (negative : Bool) (t : Text) : Except Misread (Number × Text) :=
  let digits := t.takeWhile Char.isDigit
  let rest := t.dropWhile Char.isDigit
  match digits, rest with
  | [], [] => .error (.on .endOfValue [])
  | [], rest => .error (.on .badNumber rest)
  | '0' :: d :: left, rest => .error (.on .badNumber (d :: left ++ rest))
  | digits, rest =>
    let (significand, left) := takeSignificand 0 digits
    let e : Int := left.length
    match rest with
    | '.' :: rest => scanFraction negative significand e rest
    | 'e' :: rest | 'E' :: rest => scanExponent negative significand e rest
    | rest =>
      if !left.isEmpty then double negative significand e rest
      else if !negative then .ok (.whole significand, rest)
      else if 0 < significand ∧ 2 * significand ≤ Text.naturalLimit then
        .ok (.below significand, rest)
      else double true significand 0 rest

theorem length_scanUnsigned {negative : Bool} {t rest : Text} {n : Number}
    (h : scanUnsigned negative t = .ok (n, rest)) : rest.length < t.length := by
  have hd : t.takeWhile Char.isDigit ≠ [] → (t.dropWhile Char.isDigit).length < t.length := by
    intro hne
    have hlen := congrArg List.length (List.takeWhile_append_dropWhile (p := Char.isDigit) (l := t))
    have := List.length_pos_iff.2 hne
    rw [List.length_append] at hlen
    omega
  unfold scanUnsigned at h
  simp only at h
  split at h
  · cases h
  · cases h
  · cases h
  · next hne _ =>
    have hlt := hd (by intro he; simp_all)
    split at h
    · next hr =>
      have := length_scanFraction h
      rw [hr, List.length_cons] at hlt
      omega
    · next hr =>
      have := length_scanExponent h
      rw [hr, List.length_cons] at hlt
      omega
    · next hr =>
      have := length_scanExponent h
      rw [hr, List.length_cons] at hlt
      omega
    · split at h
      · have := length_double h
        omega
      · split at h
        · cases h; exact hlt
        · split at h
          · cases h; exact hlt
          · have := length_double h
            omega

/-- A number, from its sign on. -/
def scanNumber : Text → Except Misread (Number × Text)
  | '-' :: t => scanUnsigned true t
  | t => scanUnsigned false t

theorem length_scanNumber {t rest : Text} {n : Number} (h : scanNumber t = .ok (n, rest)) :
    rest.length < t.length := by
  unfold scanNumber at h
  split at h
  · exact Nat.lt_succ_of_lt (length_scanUnsigned h)
  · exact length_scanUnsigned h

end DelegatedScopes.Json
