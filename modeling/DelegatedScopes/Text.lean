/-!
# Text

Scopes, role ids, client ids and documents are texts: lists of characters.

Two texts are ordered by `compare`, character by character and by code point, a text before every
text it starts.  UTF-8 keeps the order of code points, so this is also the order of the encoded
bytes; and no character's encoding starts another's, so one text starts another exactly when its
bytes do.  Lengths are the one place where bytes and characters part: `byteLength` counts bytes.

* `leads`: whether one text starts another.
* `splits`: every way to cut a text in two.
* `decimal`, `natural?`: writing and reading a number.
-/

namespace DelegatedScopes

/-- A text, as the list of its characters. -/
abbrev Text := List Char

namespace Text

/-- The number of bytes of a text in UTF-8. -/
def byteLength : Text → Nat
  | [] => 0
  | c :: cs => c.utf8Size + byteLength cs

@[simp] theorem byteLength_append (s t : Text) :
    byteLength (s ++ t) = byteLength s + byteLength t := by
  induction s with
  | nil => simp [byteLength]
  | cons c cs ih => simp [byteLength, ih, Nat.add_assoc]

/-- Whether `lead` starts `t`. -/
def leads (lead t : Text) : Bool := lead.isPrefixOf t

/-- What is left of `t` after `lead`, when `lead` starts it. -/
def after? : (lead t : Text) → Option Text
  | [], t => some t
  | _ :: _, [] => none
  | c :: cs, d :: ds => if c = d then after? cs ds else none

theorem after?_eq_some {lead t rest : Text} : after? lead t = some rest ↔ t = lead ++ rest := by
  induction lead generalizing t with
  | nil => simp [after?, eq_comm]
  | cons c cs ih =>
    cases t with
    | nil => simp [after?]
    | cons d ds =>
      by_cases h : c = d
      · simp [after?, h, ih]
      · simp [after?, h, Ne.symm h]

/-- Every way to cut a text in two, the shortest first part first. -/
def splits : Text → List (Text × Text)
  | [] => [([], [])]
  | c :: cs => ([], c :: cs) :: (splits cs).map fun cut => (c :: cut.1, cut.2)

theorem mem_splits {t a b : Text} : (a, b) ∈ splits t ↔ a ++ b = t := by
  induction t generalizing a with
  | nil => simp [splits]
  | cons c cs ih =>
    cases a with
    | nil => simp [splits]
    | cons d ds =>
      simp only [splits, List.mem_cons, Prod.mk.injEq, reduceCtorEq, false_and, List.mem_map,
        Prod.exists, List.cons.injEq, List.cons_append, false_or]
      constructor
      · rintro ⟨x, y, h, ⟨rfl, rfl⟩, rfl⟩
        exact ⟨rfl, ih.1 h⟩
      · rintro ⟨rfl, h⟩
        exact ⟨ds, b, ih.2 h, ⟨rfl, rfl⟩, rfl⟩

/-- Whether `part` occurs somewhere in a text. -/
def contains (part : Text) : Text → Bool
  | [] => leads part []
  | c :: cs => leads part (c :: cs) || contains part cs

/-- The texts joined, with `sep` between neighbours. -/
def join (sep : Text) : List Text → Text
  | [] => []
  | [t] => t
  | t :: u :: ts => t ++ sep ++ join sep (u :: ts)

/-! ### Numbers -/

/-- The decimal digits of a number. -/
def decimal (n : Nat) : Text := Nat.toDigits 10 n

/-- The value of a digit. -/
def digitValue (c : Char) : Nat := c.toNat - '0'.toNat

/-- The value of a run of digits. -/
def digitsValue (digits : Text) : Nat := digits.foldl (fun n c => n * 10 + digitValue c) 0

/-- The least number that 64 bits do not hold. -/
def naturalLimit : Nat := 18446744073709551616

/-- The natural number of 64 bits that a text writes: digits, perhaps after a plus sign. -/
def natural? (t : Text) : Option Nat :=
  let digits := match t with
    | '+' :: rest => rest
    | t => t
  if digits.isEmpty || !digits.all Char.isDigit then none
  else if digitsValue digits < naturalLimit then some (digitsValue digits)
  else none

end Text

end DelegatedScopes
