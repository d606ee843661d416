import DelegatedScopes.Arithmetic
import DelegatedScopes.Text
import Mathlib.Data.Char
import Mathlib.Tactic.SplitIfs

/-!
# Texts — bytes and digits

* `Text.compare_utf8`: texts are ordered as their bytes are.
* `Text.digitsValue_decimal`: the digits of a number have its value.

A character with a greater code point has more bytes than another one, and then its first byte is
greater; or it has as many, which together are the code point in base 64.
-/

namespace DelegatedScopes.Text

/-- The bytes of a text in UTF-8. -/
def utf8 (t : Text) : List UInt8 := t.flatMap String.utf8EncodeChar

theorem utf8_cons (c : Char) (t : Text) :
    utf8 (c :: t) = String.utf8EncodeChar c ++ utf8 t := rfl

theorem compare_append_left (x y z : List UInt8) : compare (x ++ y) (x ++ z) = compare y z := by
  induction x with
  | nil => rfl
  | cons b x ih =>
      rw [List.cons_append, List.cons_append, List.compare_cons_cons, Std.compare_self]
      exact ih

/-- The first bytes decide, unless they are the same. -/
theorem compare_bytes_eq_lt {a b : Nat} {x y : List UInt8} (hb : b < 256) (hle : a ≤ b)
    (h : a = b → compare x y = .lt) :
    compare (UInt8.ofNat a :: x) (UInt8.ofNat b :: y) = .lt := by
  rw [List.compare_cons_cons, Ordering.then_eq_lt]
  rcases Nat.lt_or_eq_of_le hle with hlt | rfl
  · left
    rw [Std.compare_eq_lt, UInt8.lt_iff_toNat_lt, UInt8.toNat_ofNat', UInt8.toNat_ofNat']
    omega
  · exact .inr ⟨Std.compare_self, h rfl⟩

/-- The bytes of a character decide between two texts, whatever follows it. -/
theorem compare_utf8EncodeChar {c d : Char} (h : c < d) (x y : List UInt8) :
    compare (String.utf8EncodeChar c ++ x) (String.utf8EncodeChar d ++ y) = .lt := by
  have hlt : c.val.toNat < d.val.toNat := h
  have hd : d.val.toNat < 0x110000 := d.valid.elim (fun h => by omega) (fun h => h.2)
  unfold String.utf8EncodeChar
  dsimp only
  generalize c.val.toNat = m at *
  generalize d.val.toNat = n at *
  -- one case for each pair of lengths; each byte that is the same leaves the ones behind it
  split_ifs <;> simp only [List.cons_append, List.nil_append] <;>
    repeat refine compare_bytes_eq_lt (by omega) (by omega) fun _ => ?_
  all_goals omega

/-- **The order of texts is the order of their bytes.** -/
theorem compare_utf8 (a b : Text) : compare a.utf8 b.utf8 = compare a b := by
  induction a generalizing b with
  | nil =>
      cases b with
      | nil => rfl
      | cons d b =>
          obtain ⟨x, xs, h⟩ := List.exists_cons_of_ne_nil (String.utf8EncodeChar_ne_nil (c := d))
          rw [utf8_cons, h]
          rfl
  | cons c a ih =>
      cases b with
      | nil =>
          obtain ⟨x, xs, h⟩ := List.exists_cons_of_ne_nil (String.utf8EncodeChar_ne_nil (c := c))
          rw [utf8_cons, h]
          rfl
      | cons d b =>
          rw [utf8_cons, utf8_cons, List.compare_cons_cons]
          cases h : compare c d with
          | lt => exact compare_utf8EncodeChar (compare_lt_iff_lt.1 h) _ _
          | eq =>
              obtain rfl := Std.LawfulEqCmp.eq_of_compare h
              rw [compare_append_left]
              exact ih b
          | gt =>
              have hlt := compare_utf8EncodeChar (compare_gt_iff_gt.1 h) (utf8 b) (utf8 a)
              exact Std.OrientedCmp.gt_iff_lt.2 hlt

/-! ### Digits -/

theorem digitsValue_eq (digits : Text) : digitsValue digits = Nat.ofDigitChars 10 digits 0 := by
  have hstep : (fun n c => n * 10 + digitValue c) = fun n c => 10 * n + digitValue c := by
    funext n c
    rw [Nat.mul_comm]
  rw [digitsValue, Nat.ofDigitChars_eq_foldl, hstep]
  rfl

/-- **The digits of a number have its value.** -/
theorem digitsValue_decimal (n : Nat) : digitsValue (decimal n) = n := by
  rw [digitsValue_eq]
  exact Nat.ofDigitChars_ten_toDigits

theorem isDigit_decimal (n : Nat) : ∀ c ∈ decimal n, c.isDigit = true :=
  fun _ => Nat.isDigit_of_mem_toDigits (by decide) (by decide)

/-- Zeros in front make no difference. -/
theorem digitsValue_replicate_zero (k : Nat) (digits : Text) :
    digitsValue (List.replicate k '0' ++ digits) = digitsValue digits := by
  rw [digitsValue_eq, digitsValue_eq, Nat.ofDigitChars_append, Nat.ofDigitChars_replicate_zero,
    Nat.mul_zero]

/-- Digits stand for less than one more digit could. -/
theorem digitsValue_lt {digits : Text} (h : ∀ c ∈ digits, c.isDigit = true) :
    digitsValue digits < tenTo digits.length := by
  rw [digitsValue_eq]
  induction digits with
  | nil => decide
  | cons c digits ih =>
      obtain ⟨hc, hdigits⟩ := List.forall_mem_cons.1 h
      have hvalue : c.toNat - '0'.toNat ≤ 9 := by
        simp only [Char.isDigit, Bool.and_eq_true, decide_eq_true_eq] at hc
        have hle : c.toNat ≤ '9'.toNat := hc.2
        exact Nat.sub_le_sub_right hle _
      have hrest := ih hdigits
      have hmul := Nat.mul_le_mul_left (tenTo digits.length) hvalue
      have hten : tenTo (digits.length + 1) = tenTo digits.length * 10 := rfl
      rw [Nat.ofDigitChars_cons, Nat.mul_zero, Nat.zero_add,
        Nat.ofDigitChars_eq_ofDigitChars_zero, List.length_cons, hten]
      change tenTo digits.length * (c.toNat - '0'.toNat) + _ < _
      omega

end DelegatedScopes.Text
