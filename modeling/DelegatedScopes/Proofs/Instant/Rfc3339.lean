import DelegatedScopes.Instant.Rfc3339
import DelegatedScopes.Proofs.Instant.Calendar
import DelegatedScopes.Proofs.Text

/-!
# Instants — what is written is read back

The written form pads every field to its width, so the reader finds each field at once, with no
blanks to pass over.  Only an instant that there is can be written so that it is read back: its year
is in the calendar, and only the last second of a minute can be followed by a leap second.  The
reader makes no other instants, since an offset is a whole number of minutes.

* `Instant.Proper`: the instants that there are.
* `Instant.read_write`: an instant that is written is read back.
* `Instant.proper_of_read`: an instant that is read is proper.
-/

namespace DelegatedScopes.Instant

open Text (digitsValue)

variable {t u : Text} {c : Char} {n : Nat}

/-! ### Digits -/

theorem isDigit_padded (width n : Nat) : ∀ c ∈ padded width n, c.isDigit = true := by
  intro c hc
  rw [padded, List.mem_append, List.mem_replicate] at hc
  obtain ⟨-, rfl⟩ | hc := hc
  · rfl
  · exact Text.isDigit_decimal n c hc

theorem digitsValue_padded (width n : Nat) : digitsValue (padded width n) = n :=
  (Text.digitsValue_replicate_zero _ _).trans (Text.digitsValue_decimal n)

/-- A number that fits is written with as many digits as it is to have. -/
theorem length_padded {width : Nat} (h : n < tenTo width) (hwidth : 0 < width) :
    (padded width n).length = width := by
  have hle : (Text.decimal n).length ≤ width :=
    (Nat.length_toDigits_le_iff (by decide) hwidth).2 h
  rw [padded, List.length_append, List.length_replicate, Nat.sub_add_cancel hle]

theorem padded_ne_nil (width n : Nat) : padded width n ≠ [] :=
  List.append_ne_nil_of_right_ne_nil _ Nat.toDigits_ne_nil

theorem exists_cons_padded (width n : Nat) :
    ∃ c digits, padded width n = c :: digits ∧ c.isDigit = true := by
  obtain ⟨c, digits, h⟩ := List.exists_cons_of_ne_nil (padded_ne_nil width n)
  exact ⟨c, digits, h, isDigit_padded width n c (h ▸ List.mem_cons_self)⟩

/-- No digit is passed over as a blank. -/
theorem isBlank_of_isDigit (h : c.isDigit = true) : isBlank c = false := by
  simp only [Char.isDigit, Bool.and_eq_true, decide_eq_true_eq] at h
  have hlow : 0x30 ≤ c.toNat := h.1
  have hhigh : c.toNat ≤ 0x39 := h.2
  unfold isBlank
  dsimp only
  simp
  omega

/-- A text that does not go on with a digit. -/
def Stops (t : Text) : Prop := ∀ c ∈ t.head?, c.isDigit = false

theorem stops_cons (h : c.isDigit = false) (t : Text) : Stops (c :: t) := by
  intro d hd
  obtain rfl : c = d := by simpa using hd
  exact h

/-- Digits are taken up to the most that may be, or as far as they go. -/
theorem takeDigits_append {most : Nat} {digits : Text} (hd : ∀ c ∈ digits, c.isDigit = true)
    (h : digits.length = most ∨ digits.length ≤ most ∧ Stops t) :
    takeDigits most (digits ++ t) = (digits, t) := by
  induction digits generalizing most with
  | nil =>
      cases most with
      | zero => rfl
      | succ most =>
          cases t with
          | nil => rfl
          | cons c t =>
            have hc : c.isDigit = false := (h.resolve_left (by simp)).2 c rfl
            rw [List.nil_append, takeDigits, hc]
            rfl
  | cons c digits ih =>
      obtain ⟨hc, hdigits⟩ := List.forall_mem_cons.1 hd
      cases most with
      | zero => simp at h
      | succ most =>
          rw [List.cons_append, takeDigits, if_pos hc, ih hdigits (by simpa using h)]

theorem readNumber_append {most : Nat} {digits : Text} (hd : ∀ c ∈ digits, c.isDigit = true)
    (hne : digits ≠ []) (h : digits.length = most ∨ digits.length ≤ most ∧ Stops t) :
    readNumber most (digits ++ t) = .ok (digitsValue digits, t) := by
  rw [readNumber, takeDigits_append hd h]
  cases digits with
  | nil => exact absurd rfl hne
  | cons c digits => rfl

/-! ### Fields -/

theorem skipBlanks_cons (h : isBlank c = false) (t : Text) : skipBlanks (c :: t) = c :: t :=
  List.dropWhile_cons_of_neg (by simp [h])

theorem skipBlanks_padded (width n : Nat) (t : Text) :
    skipBlanks (padded width n ++ t) = padded width n ++ t := by
  obtain ⟨c, digits, h, hc⟩ := exists_cons_padded width n
  rw [h, List.cons_append, skipBlanks_cons (isBlank_of_isDigit hc)]

theorem readMark_cons (h : isBlank c = false) (t : Text) : readMark c (c :: t) = .ok t := by
  rw [readMark, skipBlanks_cons h]
  exact if_pos rfl

/-- A number that is written with leading zeros is read again. -/
theorem readNumber_padded {width : Nat} (h : n < tenTo width) (hwidth : 0 < width) (t : Text) :
    readNumber width (padded width n ++ t) = .ok (n, t) := by
  rw [readNumber_append (isDigit_padded _ _) (padded_ne_nil _ _)
    (.inl (length_padded h hwidth)), digitsValue_padded]

/-- A field of two digits is read again if it is in range. -/
theorem readField_padded {low high : Nat} (hlow : low ≤ n) (hhigh : n ≤ high) (h : n < 100)
    (t : Text) : readField low high (padded 2 n ++ t) = .ok (n, t) := by
  rw [readField, skipBlanks_padded, readNumber_padded h (by decide)]
  exact if_pos ⟨hlow, hhigh⟩

/-- A number behind the sign of a year. -/
theorem readNumber_signed (n : Nat) (ht : Stops t) :
    readNumber (padded 4 n ++ t).length (padded 4 n ++ t) = .ok (n, t) := by
  have hlength : (padded 4 n).length ≤ (padded 4 n ++ t).length := by simp
  rw [readNumber_append (isDigit_padded _ _) (padded_ne_nil _ _) (.inr ⟨hlength, ht⟩),
    digitsValue_padded]

/-- A year of the calendar is read again, with a sign or without. -/
theorem readYear_writeYear {year : Int} (h : inCalendar year = true) (ht : Stops t) :
    readYear (writeYear year ++ t) = .ok (year, t) := by
  have hrange : -2147483648 ≤ year ∧ year ≤ 2147483647 := by
    simp only [inCalendar, Bool.and_eq_true, decide_eq_true_eq] at h
    omega
  have hcheck : ∀ y : Int, y = year →
      (if -2147483648 ≤ y ∧ y ≤ 2147483647 then .ok (y, t) else .error .outOfRange) =
        (.ok (year, t) : Except Fault (Int × Text)) := by
    rintro _ rfl
    exact if_pos hrange
  unfold writeYear
  split_ifs with hplain hneg
  · have hlt : year.toNat < 10000 := by omega
    have hread : readNumber 4 (padded 4 year.toNat ++ t) = .ok (year.toNat, t) :=
      readNumber_padded hlt (by decide) t
    obtain ⟨c, digits, hcons, hc⟩ := exists_cons_padded 4 year.toNat
    rw [readYear, skipBlanks_padded]
    rw [hcons] at hread ⊢
    split
    · rename_i hminus
      cases hminus
      cases hc
    · rename_i hplus
      cases hplus
      cases hc
    · rw [hread]
      exact hcheck _ (by omega)
  · rw [List.cons_append, readYear, skipBlanks_cons (by decide)]
    simp only [readNumber_signed _ ht]
    exact hcheck _ (by omega)
  · rw [List.cons_append, readYear, skipBlanks_cons (by decide)]
    simp only [readNumber_signed _ ht]
    exact hcheck _ (by omega)

/-- A fraction of up to nine digits. -/
theorem readFraction_digits {width nano : Nat} (h : n < tenTo width) (hpos : 0 < width)
    (hwidth : width ≤ 9) (hnano : n * tenTo (9 - width) = nano) (ht : Stops t) :
    readFraction ('.' :: (padded width n ++ t)) = .ok (nano, t) := by
  have hlen := length_padded h hpos
  have hstop : (padded width n).length ≤ 9 ∧ Stops t :=
    ⟨Nat.le_trans (Nat.le_of_eq hlen) hwidth, ht⟩
  rw [readFraction, takeDigits_append (isDigit_padded _ _) (.inr hstop)]
  obtain ⟨c, digits, hcons, -⟩ := exists_cons_padded width n
  rw [hcons]
  dsimp only
  rw [← hcons, digitsValue_padded, hlen, hnano]
  have hdrop : t.dropWhile Char.isDigit = t := by
    cases t with
    | nil => rfl
    | cons c t => exact List.dropWhile_cons_of_neg (by simp [ht c rfl])
  rw [hdrop]

/-- The nanoseconds are read again from the digits that are written of them. -/
theorem readFraction_writeFraction {nano : Nat} (h : nano < 1000000000) (ht : Stops t)
    (hdot : t.head? ≠ some '.') :
    readFraction (writeFraction nano ++ t) = .ok (nano, t) := by
  rw [writeFraction]
  split_ifs with h₀ h₃ h₆
  · subst h₀
    unfold readFraction
    split
    · rename_i hcons
      exact absurd (congrArg List.head? hcons) hdot
    · rfl
  · have hlt : nano / 1000000 < 1000 := by omega
    have hmillis : nano / 1000000 * 1000000 = nano := by omega
    exact readFraction_digits hlt (by decide) (by decide) hmillis ht
  · have hlt : nano / 1000 < 1000000 := by omega
    have hmicros : nano / 1000 * 1000 = nano := by omega
    exact readFraction_digits hlt (by decide) (by decide) hmicros ht
  · exact readFraction_digits h (by decide) (by decide) (Nat.mul_one nano) ht

/-! ### Instants -/

/-- The instants that there are: their year is in the calendar, and only the last second of a minute
can be followed by a leap second. -/
structure Proper (i : Instant) : Prop where
  year : inCalendar (Date.ofDayNumber (i.second / 86400 + Date.epochDay)).year = true
  nano : i.nano < 2000000000
  leap : i.isLeap = true → i.second % 60 = 59

/-- A proper instant is in its second, or in the leap second behind it. -/
theorem Proper.cases {i : Instant} (h : i.Proper) :
    i.nano / 1000000000 = 0 ∨ i.nano / 1000000000 = 1 ∧ i.second % 60 = 59 := by
  have hnano := h.nano
  have hleap := h.leap
  rw [isLeap, decide_eq_true_iff] at hleap
  omega

/-- The fields of an instant make that instant. -/
theorem ofLocal_fields {i : Instant} (h : i.Proper) {time : Nat}
    (htime : (time : Int) = i.second % 86400) :
    ofLocal (Date.ofDayNumber (i.second / 86400 + Date.epochDay)) (time / 3600) (time / 60 % 60)
      (time % 60 + i.nano / 1000000000) (i.nano % 1000000000) 0 = .ok i := by
  have hleap := h.cases
  have htotal : (i.second / 86400 + Date.epochDay - Date.epochDay) * 86400 +
      ((time / 3600 : Nat) : Int) * 3600 + ((time / 60 % 60 : Nat) : Int) * 60 +
      ((time % 60 + i.nano / 1000000000 - (time % 60 + i.nano / 1000000000) / 60 : Nat) : Int) - 0 =
      i.second := by omega
  have hnano : i.nano % 1000000000 + (time % 60 + i.nano / 1000000000) / 60 * 1000000000 =
      i.nano := by omega
  rw [ofLocal, if_neg (not_not.2 ⟨h.year, Date.valid_ofDayNumber _⟩), if_neg (by decide)]
  dsimp only
  rw [Date.dayNumber_ofDayNumber, htotal, if_pos h.year, hnano]

/-- **An instant that is written is read back.** -/
theorem read_write {i : Instant} (h : i.Proper) : read i.write = .ok i := by
  have hvalid := Date.valid_ofDayNumber (i.second / 86400 + Date.epochDay)
  have hdayle := hvalid.day_le
  have hleap := h.cases
  have htime : ((i.second % 86400).toNat : Int) = i.second % 86400 := by omega
  have hlocal := ofLocal_fields h htime
  have hyear := h.year
  unfold write
  -- What the fields are worth is settled; from here on only their bounds count.
  generalize Date.ofDayNumber (i.second / 86400 + Date.epochDay) = date at *
  generalize (i.second % 86400).toNat = time at *
  have hyear : ∀ t, readYear (writeYear date.year ++ '-' :: t) = .ok (date.year, '-' :: t) :=
    fun t => readYear_writeYear hyear (stops_cons rfl t)
  obtain ⟨hmonth, hmonthle, hday, -⟩ := hvalid
  have hmonth := readField_padded hmonth hmonthle (by omega)
  have hday := readField_padded hday hdayle (by omega)
  have hhour : ∀ t, readField 0 23 (padded 2 (time / 3600) ++ t) = .ok (time / 3600, t) :=
    readField_padded (Nat.zero_le _) (by omega) (by omega)
  have hminute : ∀ t, readField 0 59 (padded 2 (time / 60 % 60) ++ t) = .ok (time / 60 % 60, t) :=
    readField_padded (Nat.zero_le _) (by omega) (by omega)
  have hsecond : ∀ t, readField 0 60 (padded 2 (time % 60 + i.nano / 1000000000) ++ t) =
      .ok (time % 60 + i.nano / 1000000000, t) :=
    readField_padded (Nat.zero_le _) (by omega) (by omega)
  have hfraction : readFraction (writeFraction (i.nano % 1000000000) ++ ['Z']) =
      .ok (i.nano % 1000000000, ['Z']) :=
    readFraction_writeFraction (by omega) (stops_cons rfl []) (by decide)
  have hmark : ∀ t, readMark '-' ('-' :: t) = .ok t := readMark_cons rfl
  have hcolon : ∀ t, readMark ':' (':' :: t) = .ok t := readMark_cons rfl
  simp only [List.append_assoc, List.cons_append, List.nil_append, read, bind, Except.bind, hyear,
    hmonth, hday, hhour, hminute, hsecond, hfraction, hmark, hcolon, true_or, if_true]
  exact hlocal

/-! ### What is read -/

theorem exists_of_bind_eq_ok {ε α β : Type} {x : Except ε α} {f : α → Except ε β} {b : β}
    (h : x >>= f = .ok b) : ∃ a, x = .ok a ∧ f a = .ok b := by
  cases x with
  | error e => cases h
  | ok a => exact ⟨a, rfl, h⟩

/-- A field that is read is in range. -/
theorem readField_le {low high : Nat} {r : Nat × Text} (h : readField low high t = .ok r) :
    r.1 ≤ high := by
  obtain ⟨⟨n, rest⟩, -, h⟩ := exists_of_bind_eq_ok h
  dsimp only at h
  split_ifs at h with hrange
  cases h
  exact hrange.2

theorem isDigit_takeDigits (most : Nat) (t : Text) :
    (takeDigits most t).1.length ≤ most ∧ ∀ c ∈ (takeDigits most t).1, c.isDigit = true := by
  fun_induction takeDigits most t with
  | case1 most c cs hc digits rest hrest ih =>
      rw [hrest] at ih
      exact ⟨Nat.succ_le_succ ih.1, List.forall_mem_cons.2 ⟨hc, ih.2⟩⟩
  | case2 => exact ⟨Nat.zero_le _, List.forall_mem_nil _⟩
  | case3 => exact ⟨Nat.zero_le _, List.forall_mem_nil _⟩

/-- A fraction that is read is less than a second. -/
theorem readFraction_lt {r : Nat × Text} (h : readFraction t = .ok r) : r.1 < 1000000000 := by
  unfold readFraction at h
  split at h
  · rename_i t
    obtain ⟨hlength, hdigits⟩ := isDigit_takeDigits 9 t
    split at h
    · cases h
    · cases h
    · rename_i digits rest _ _ htake
      rw [htake] at hlength hdigits
      cases h
      have hlt := Text.digitsValue_lt hdigits
      have hmul := Nat.mul_lt_mul_of_pos_right hlt (tenTo_pos (9 - digits.length))
      rw [← tenTo_add, Nat.add_sub_cancel' hlength] at hmul
      exact hmul
  · cases h
    exact Nat.zero_lt_succ _

theorem readOffsetSize_mod {r : Nat × Text} (h : readOffsetSize t = .ok r) : r.1 % 60 = 0 := by
  rcases t with _ | ⟨a, _ | ⟨b, t⟩⟩
  · cases h
  · cases h
  · unfold readOffsetSize at h
    dsimp only at h
    split_ifs at h
    · obtain ⟨⟨hours, rest⟩, hhours, h⟩ := exists_of_bind_eq_ok h
      dsimp only at h
      split at h
      · split_ifs at h
        cases h
        dsimp only
        omega
      · cases h
      · cases h
    · cases h

/-- An offset is a number of whole minutes. -/
theorem readOffset_mod {r : Int × Text} (h : readOffset t = .ok r) : r.1 % 60 = 0 := by
  unfold readOffset at h
  split at h
  · cases h
  · split_ifs at h
    · cases h
      rfl
    · cases h
      rfl
    · obtain ⟨⟨n, rest⟩, hn, h⟩ := exists_of_bind_eq_ok h
      cases h
      have := readOffsetSize_mod hn
      dsimp only at *
      omega
    · obtain ⟨⟨n, rest⟩, hn, h⟩ := exists_of_bind_eq_ok h
      cases h
      have := readOffsetSize_mod hn
      dsimp only at *
      omega

/-- An instant that is read is made from its fields. -/
theorem exists_ofLocal_of_read {i : Instant} (h : read t = .ok i) :
    ∃ (date : Date) (hour minute second nano : Nat) (offset : Int),
      second ≤ 60 ∧ nano < 1000000000 ∧ offset % 60 = 0 ∧
        ofLocal date hour minute second nano offset = .ok i := by
  obtain ⟨⟨year, t₁⟩, -, h⟩ := exists_of_bind_eq_ok h
  obtain ⟨t₂, -, h⟩ := exists_of_bind_eq_ok h
  obtain ⟨⟨month, t₃⟩, -, h⟩ := exists_of_bind_eq_ok h
  obtain ⟨t₄, -, h⟩ := exists_of_bind_eq_ok h
  obtain ⟨⟨day, t₅⟩, -, h⟩ := exists_of_bind_eq_ok h
  rcases t₅ with _ | ⟨c, t₅⟩
  · cases h
  · dsimp only at h
    split_ifs at h
    · obtain ⟨t₆, -, h⟩ := exists_of_bind_eq_ok h
      obtain ⟨⟨hour, t₇⟩, -, h⟩ := exists_of_bind_eq_ok h
      obtain ⟨t₈, -, h⟩ := exists_of_bind_eq_ok h
      obtain ⟨⟨minute, t₉⟩, -, h⟩ := exists_of_bind_eq_ok h
      obtain ⟨t₁₀, -, h⟩ := exists_of_bind_eq_ok h
      obtain ⟨⟨second, t₁₁⟩, hsecond, h⟩ := exists_of_bind_eq_ok h
      obtain ⟨⟨nano, t₁₂⟩, hnano, h⟩ := exists_of_bind_eq_ok h
      obtain ⟨⟨offset, t₁₃⟩, hoffset, h⟩ := exists_of_bind_eq_ok h
      dsimp only at h
      split_ifs at h
      · exact ⟨_, hour, minute, second, nano, offset, readField_le hsecond,
          readFraction_lt hnano, readOffset_mod hoffset, h⟩
    · cases h

/-- **An instant that is read is proper.** -/
theorem proper_of_read {i : Instant} (h : read t = .ok i) : i.Proper := by
  obtain ⟨date, hour, minute, second, nano, offset, hsecond, hnano, hoffset, h⟩ :=
    exists_ofLocal_of_read h
  unfold ofLocal at h
  dsimp only at h
  split_ifs at h with hdate hrange hyear
  cases h
  refine ⟨hyear, ?_, fun hleap => ?_⟩
  · dsimp only
    omega
  · -- Second 60 is the only one with a leap second, and the offset does not move it in its minute.
    dsimp only
    rw [isLeap, decide_eq_true_iff] at hleap
    dsimp only at hleap
    obtain rfl : second = 60 := by omega
    omega

end DelegatedScopes.Instant
