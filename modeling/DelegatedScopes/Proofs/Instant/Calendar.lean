import DelegatedScopes.Instant.Calendar
import Mathlib.Tactic.SplitIfs

/-!
# Instants — dates and day numbers

* `Date.dayNumber_ofDayNumber`: the date of a day has the number of that day.
* `Date.valid_ofDayNumber`: and it is a date that exists.

The mean length of a year says which year a day falls in, up to the year before and the year after;
where those years start decides.  The months are counted off from the start of the year.
-/

namespace DelegatedScopes.Date

/-- A year starts as many days after the year before as that one has. -/
theorem yearStart_succ (year : Int) :
    yearStart (year + 1) = yearStart year + total (monthLengths year) := by
  unfold yearStart monthLengths isLeap
  simp only [total]
  split_ifs with h
  · simp at h
    omega
  · simp at h
    omega

/-- The year of a day is the one that has begun by then and not ended. -/
theorem yearStart_yearOfDay (n : Int) :
    yearStart (yearOfDay n) ≤ n ∧ n < yearStart (yearOfDay n + 1) := by
  unfold yearOfDay
  dsimp only
  generalize hguess : n * 400 / 146097 = guess
  split_ifs with h₁ h₂
  · rw [Int.sub_add_cancel]
    refine ⟨?_, h₁⟩
    unfold yearStart at *
    omega
  · omega
  · unfold yearStart at *
    omega

/-- Months are counted off until one of them has the day. -/
theorem findMonth_spec (month : Nat) {days : Nat} {lengths : List Nat}
    (h : days < total lengths) : ∃ k before,
      before + total (lengths.take k) = days ∧ before < lengths.getD k 0 ∧ k < lengths.length ∧
        findMonth month days lengths = (month + k, before + 1) := by
  induction lengths generalizing month days with
  | nil => cases h
  | cons length lengths ih =>
      rw [findMonth]
      split_ifs with hlt
      · exact ⟨0, days, rfl, hlt, Nat.zero_lt_succ _, rfl⟩
      · rw [total] at h
        have hrest : days - length < total lengths := by omega
        obtain ⟨k, before, htotal, hbefore, hk, hfind⟩ := ih (month + 1) hrest
        refine ⟨k + 1, before, ?_, hbefore, Nat.succ_lt_succ hk, ?_⟩
        · rw [List.take_succ_cons, total]
          omega
        · rw [hfind, Nat.add_right_comm]
          rfl

/-- Where a day lies in its year. -/
theorem ofDayNumber_eq (n : Int) : ∃ k before : Nat,
    yearStart (yearOfDay n) + (before + total ((monthLengths (yearOfDay n)).take k) : Nat) = n ∧
      before < (monthLengths (yearOfDay n)).getD k 0 ∧ k < 12 ∧
      ofDayNumber n = ⟨yearOfDay n, 1 + k, before + 1⟩ := by
  obtain ⟨hstart, hend⟩ := yearStart_yearOfDay n
  rw [yearStart_succ] at hend
  have hdays : (n - yearStart (yearOfDay n)).toNat < total (monthLengths (yearOfDay n)) := by omega
  obtain ⟨k, before, htotal, hbefore, hk, hfind⟩ := findMonth_spec 1 hdays
  refine ⟨k, before, by omega, hbefore, hk, ?_⟩
  rw [ofDayNumber, hfind]

/-- **The date of a day has the number of that day.** -/
theorem dayNumber_ofDayNumber (n : Int) : (ofDayNumber n).dayNumber = n := by
  obtain ⟨k, before, htotal, -, -, h⟩ := ofDayNumber_eq n
  rw [h, dayNumber]
  dsimp only
  rw [Nat.add_sub_cancel_left]
  omega

/-- The date of a day exists. -/
theorem valid_ofDayNumber (n : Int) : (ofDayNumber n).Valid := by
  obtain ⟨k, before, -, hbefore, hk, h⟩ := ofDayNumber_eq n
  rw [h, Valid]
  dsimp only
  rw [Nat.add_sub_cancel_left]
  omega

theorem Valid.day_le {d : Date} (h : d.Valid) : d.day ≤ 31 := by
  refine Nat.le_trans h.2.2.2 ?_
  have hlengths : ∀ length ∈ monthLengths d.year, length ≤ 31 := by
    unfold monthLengths
    split_ifs <;> decide
  rw [List.getD_eq_getElem?_getD]
  cases hget : (monthLengths d.year)[d.month - 1]? with
  | none => exact Nat.zero_le _
  | some length => exact hlengths length (List.mem_of_getElem? hget)

end DelegatedScopes.Date
