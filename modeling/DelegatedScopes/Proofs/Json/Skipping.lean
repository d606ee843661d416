import DelegatedScopes.Proofs.Json.Causal

/-!
# JSON — passing over looks no further

What is passed over of a text is passed over of every longer one.  The brackets that are open
around a value are on a stack, so `skipInside` and `skipAfter` are treated together.

* `Json.skipString_append`, `Json.skipScalar_causal`: tokens.
* `Json.skipValue_causal`: values.
-/

namespace DelegatedScopes.Json

variable {t u : Text}

/-! ### Tokens -/

theorem skipDigits_causal : CausalSkip skipDigits := by
  intro u hu t
  rcases t with _ | ⟨c, t⟩
  · rcases u with _ | ⟨c, u⟩
    · exact .fault rfl
    · rw [List.nil_append, skipDigits, skipDigits, if_neg (by simp [hu.not_digit c rfl])]
      exact .fault rfl
  · rw [List.cons_append, skipDigits, skipDigits, dropDigits_append hu]
    split
    · exact .value
    · exact .fault rfl

theorem skipSigned_causal : CausalSkip skipSigned := by
  intro u hu t
  unfold skipSigned
  split
  · exact skipDigits_causal hu _
  · exact skipDigits_causal hu _
  · rename_i hplus hminus
    split
    · rename_i h
      exact absurd h (hu.append_ne (by decide) hplus _)
    · rename_i h
      exact absurd h (hu.append_ne (by decide) hminus _)
    · exact skipDigits_causal hu t

/-- An exponent is passed over to its end. -/
theorem skipExponent_causal : CausalSkip skipExponent := by
  intro u hu t
  unfold skipExponent
  split
  · exact skipSigned_causal hu _
  · exact skipSigned_causal hu _
  · rename_i he hE
    split
    · rename_i h
      exact absurd h (hu.append_ne (by decide) he _)
    · rename_i h
      exact absurd h (hu.append_ne (by decide) hE _)
    · exact .value

/-- A fraction is a point with digits behind it. -/
theorem skipFraction_dot (t : Text) :
    skipFraction ('.' :: t) = (skipDigits t).bind skipExponent := by
  rw [skipFraction]
  cases skipDigits t <;> rfl

/-- Where there is no point, there is no fraction. -/
theorem skipFraction_of_ne (h : ∀ left, t ≠ '.' :: left) : skipFraction t = skipExponent t := by
  unfold skipFraction
  split
  · exact absurd rfl (h _)
  · rfl

theorem skipFraction_causal : CausalSkip skipFraction := by
  intro u hu t
  by_cases hdot : ∃ left, t = '.' :: left
  · obtain ⟨left, rfl⟩ := hdot
    rw [List.cons_append, skipFraction_dot, skipFraction_dot]
    exact (skipDigits_causal hu left).bind fun rest _ => skipExponent_causal hu rest
  · rw [not_exists] at hdot
    rw [skipFraction_of_ne hdot, skipFraction_of_ne (hu.append_ne (by decide) hdot)]
    exact skipExponent_causal hu t

/-- Where the first digit is no zero, others may follow it. -/
theorem skipNumber_of_ne (h : ∀ left, t ≠ '0' :: left) :
    skipNumber t = (skipDigits t).bind skipFraction := by
  unfold skipNumber
  split
  · exact absurd rfl (h _)
  · cases skipDigits t <;> rfl

/-- A number is passed over to its end. -/
theorem skipNumber_causal : CausalSkip skipNumber := by
  intro u hu t
  by_cases hzero : ∃ left, t = '0' :: left
  · obtain ⟨left, rfl⟩ := hzero
    have hhead : (left ++ u).head?.any Char.isDigit = left.head?.any Char.isDigit := by
      rcases left with _ | ⟨c, left⟩
      · rcases u with _ | ⟨c, u⟩
        · rfl
        · simp [hu.not_digit c rfl]
      · rfl
    rw [List.cons_append, skipNumber, skipNumber, hhead]
    split
    · exact .fault rfl
    · exact skipFraction_causal hu left
  · rw [not_exists] at hzero
    rw [skipNumber_of_ne hzero, skipNumber_of_ne (hu.append_ne (by decide) hzero)]
    exact (skipDigits_causal hu t).bind fun rest _ => skipFraction_causal hu rest

theorem skipEscape_append (t u : Text) : Extends (· ++ u) (skipEscape t) (skipEscape (t ++ u)) := by
  rcases t with _ | ⟨c, t⟩
  · exact .short rfl
  · rw [List.cons_append, skipEscape, skipEscape]
    split
    · exact (scanUnit_append t u).map fun _ => rfl
    · split
      · exact .value
      · exact .fault rfl

/-- A string is passed over one character or escape at a time. -/
theorem skipString_cons (c : Char) (rest : Text) :
    skipString (c :: rest) =
      if c = '"' then .ok rest
      else if c = '\\' then (skipEscape rest).bind skipString
      else if c.toNat < 0x20 then .error (.before .controlCharacter (c :: rest))
      else skipString rest := by
  rw [skipString]
  split
  · rfl
  · split
    · split <;> rename_i h <;> rw [h] <;> rfl
    · rfl

/-- A string that is passed over ends with its own quote, whatever follows. -/
theorem skipString_append (t u : Text) :
    Extends (· ++ u) (skipString t) (skipString (t ++ u)) := by
  induction h : t.length using Nat.strongRecOn generalizing t with
  | ind n ih =>
  subst h
  cases t with
  | nil => rw [skipString]; exact .short rfl
  | cons c rest =>
      rw [List.cons_append, skipString_cons, skipString_cons]
      split
      · exact .value
      · split
        · refine (skipEscape_append rest u).bind fun left hleft => ?_
          have hlt := length_skipEscape hleft
          exact ih _ (by simp only [List.length_cons]; omega) left rfl
        · split
          · exact .fault rfl
          · exact ih _ (by simp) rest rfl

/-- What starts like no word, no string and no negative number is a number, or no value at all. -/
theorem skipScalar_of_ne {c : Char} (hc : c ∉ ['n', 't', 'f', '"', '-']) (t : Text) :
    skipScalar (c :: t) =
      if c.isDigit then skipNumber (c :: t) else .error (.on .noValue (c :: t)) := by
  simp only [List.mem_cons, List.not_mem_nil, or_false, not_or] at hc
  unfold skipScalar
  split <;> simp_all

/-- A value without brackets is passed over to its end. -/
theorem skipScalar_causal : CausalSkip skipScalar := by
  intro u hu t
  rcases t with _ | ⟨c, t⟩
  · exact .short rfl
  · by_cases hc : c ∈ ['n', 't', 'f', '"', '-']
    · simp only [List.mem_cons, List.not_mem_nil, or_false] at hc
      obtain rfl | rfl | rfl | rfl | rfl := hc
      · exact scanWord_append _ t u
      · exact scanWord_append _ t u
      · exact scanWord_append _ t u
      · exact skipString_append t u
      · exact skipNumber_causal hu t
    · rw [List.cons_append, skipScalar_of_ne hc, skipScalar_of_ne hc]
      split
      · exact skipNumber_causal hu (c :: t)
      · exact .fault rfl

/-! ### Keys -/

theorem scanColon_append (t u : Text) : Extends (· ++ u) (scanColon t) (scanColon (t ++ u)) := by
  unfold scanColon
  rcases h : skipSpace t with _ | ⟨c, rest⟩
  · exact .short rfl
  · rw [skipSpace_append h u]
    dsimp only
    split
    · exact .value
    · exact .fault rfl

/-- A key is a string and a colon. -/
theorem skipKey_eq {c : Char} {rest : Text} (h : skipSpace t = c :: rest) :
    skipKey t =
      if c = '"' then (skipString rest).bind scanColon
      else .error (.on .keyNoString (c :: rest)) := by
  unfold skipKey
  rw [h]
  dsimp only
  split
  · cases skipString rest <;> rfl
  · rfl

theorem skipKey_append (t u : Text) : Extends (· ++ u) (skipKey t) (skipKey (t ++ u)) := by
  rcases h : skipSpace t with _ | ⟨c, rest⟩
  · rw [skipKey, h]
    exact .short rfl
  · have hu := skipSpace_append h u
    rw [skipKey_eq h, skipKey_eq hu]
    split
    · exact (skipString_append rest u).bind fun left _ => scanColon_append left u
    · exact .fault rfl

/-- Only in an object is there anything in front of an item. -/
theorem Bracket.skipLabel_append (b : Bracket) (t u : Text) :
    Extends (· ++ u) (b.skipLabel t) (b.skipLabel (t ++ u)) := by
  cases b with
  | array => exact .value
  | object => exact skipKey_append t u

/-! ### Brackets -/

section Brackets

variable {c d : Char} {rest rest' : Text} {b : Bracket} {brackets : List Bracket}

theorem skipInside_blank (h : skipSpace t = []) :
    skipInside brackets t = .error (.on .endOfValue []) := by
  rw [skipInside]
  split
  · rfl
  · simp_all

/-- Where a value is wanted, one without brackets is passed over, and what is behind it follows. -/
theorem skipInside_scalar (h : skipSpace t = c :: rest) (hc : Bracket.ofOpening? c = none) :
    skipInside brackets t = (skipScalar (c :: rest)).bind (skipAfter brackets) := by
  rw [skipInside]
  split
  · simp_all
  · rename_i h'
    cases h.symm.trans h'
    split
    · split <;> rename_i hs <;> rw [hs] <;> rfl
    · simp_all

/-- A bracket that the text ends with is not closed. -/
theorem skipInside_open (h : skipSpace t = c :: rest) (hc : Bracket.ofOpening? c = some b)
    (hr : skipSpace rest = []) : skipInside brackets t = .error (.on (.endInside b) []) := by
  rw [skipInside]
  split
  · simp_all
  · rename_i h'
    cases h.symm.trans h'
    split
    · simp_all
    · rename_i b' hb
      cases hc.symm.trans hb
      split
      · rfl
      · simp_all

/-- A bracket may be closed at once. -/
theorem skipInside_close (h : skipSpace t = c :: rest) (hc : Bracket.ofOpening? c = some b)
    (hr : skipSpace rest = b.close :: rest') :
    skipInside brackets t = skipAfter brackets rest' := by
  rw [skipInside]
  split
  · simp_all
  · rename_i h'
    cases h.symm.trans h'
    split
    · simp_all
    · rename_i b' hb
      cases hc.symm.trans hb
      split
      · simp_all
      · rename_i hr'
        cases hr.symm.trans hr'
        rw [if_pos rfl]

/-- If it is not, its first item is wanted, and there is one more bracket to close. -/
theorem skipInside_item (h : skipSpace t = c :: rest) (hc : Bracket.ofOpening? c = some b)
    (hr : skipSpace rest = d :: rest') (hd : d ≠ b.close) :
    skipInside brackets t = (b.skipLabel (d :: rest')).bind (skipInside (b :: brackets)) := by
  rw [skipInside]
  split
  · simp_all
  · rename_i h'
    cases h.symm.trans h'
    split
    · simp_all
    · rename_i b' hb
      cases hc.symm.trans hb
      split
      · simp_all
      · rename_i hr'
        cases hr.symm.trans hr'
        rw [if_neg hd]
        split <;> rename_i hs <;> rw [hs] <;> rfl

/-- The text may not end while a bracket is open. -/
theorem skipAfter_blank (h : skipSpace t = []) :
    skipAfter (b :: brackets) t = .error (.on (.endInside b) []) := by
  rw [skipAfter]
  split
  · rfl
  · simp_all

/-- Behind an item its bracket is closed, or another item is wanted. -/
theorem skipAfter_cons (h : skipSpace t = c :: rest) :
    skipAfter (b :: brackets) t =
      if c = b.close then skipAfter brackets rest
      else if c = ',' then (b.skipLabel rest).bind (skipInside (b :: brackets))
      else .error (.on (.noCommaOrClose b) (c :: rest)) := by
  rw [skipAfter]
  split
  · simp_all
  · rename_i h'
    cases h.symm.trans h'
    split
    · rfl
    · split
      · split <;> rename_i hs <;> rw [hs] <;> rfl
      · rfl

end Brackets

/-- Both functions, by induction on the length of what is passed over. -/
theorem skip_causal (hu : Delimits u) (n : Nat) : ∀ {brackets : List Bracket} {t : Text},
    t.length ≤ n →
    Extends (· ++ u) (skipInside brackets t) (skipInside brackets (t ++ u)) ∧
      Extends (· ++ u) (skipAfter brackets t) (skipAfter brackets (t ++ u)) := by
  induction n using Nat.strongRecOn with
  | ind n ih =>
  intro brackets t hn
  have inside : ∀ {brackets : List Bracket} {t' : Text}, t'.length < t.length →
      Extends (· ++ u) (skipInside brackets t') (skipInside brackets (t' ++ u)) :=
    fun hlt => (ih _ (Nat.lt_of_lt_of_le hlt hn) (Nat.le_refl _)).1
  have after : ∀ {brackets : List Bracket} {t' : Text}, t'.length < t.length →
      Extends (· ++ u) (skipAfter brackets t') (skipAfter brackets (t' ++ u)) :=
    fun hlt => (ih _ (Nat.lt_of_lt_of_le hlt hn) (Nat.le_refl _)).2
  have hs := length_skipSpace t
  -- Inside, the first character tells how the value starts; after it, how its bracket goes on.
  constructor
  · rcases h : skipSpace t with _ | ⟨c, rest⟩
    · rw [skipInside_blank h]
      exact .short rfl
    · have hu' := skipSpace_append h u
      rw [h, List.length_cons] at hs
      rcases hc : Bracket.ofOpening? c with _ | b
      · rw [skipInside_scalar h hc, skipInside_scalar hu' hc]
        refine (skipScalar_causal hu (c :: rest)).bind fun left hleft => ?_
        have hlt := length_skipScalar hleft
        rw [List.length_cons] at hlt
        exact after (by omega)
      · have hr := length_skipSpace rest
        rcases hd : skipSpace rest with _ | ⟨d, rest'⟩
        · rw [skipInside_open h hc hd]
          exact .short rfl
        · have hd' := skipSpace_append hd u
          rw [hd, List.length_cons] at hr
          by_cases hclose : d = b.close
          · subst hclose
            rw [skipInside_close h hc hd, skipInside_close hu' hc hd']
            exact after (by omega)
          · rw [skipInside_item h hc hd hclose, skipInside_item hu' hc hd' hclose]
            refine (b.skipLabel_append (d :: rest') u).bind fun left hleft => ?_
            have hlt := Bracket.length_skipLabel hleft
            rw [List.length_cons] at hlt
            exact inside (by omega)
  · rcases brackets with _ | ⟨b, brackets⟩
    · rw [skipAfter, skipAfter]
      exact .value
    · rcases h : skipSpace t with _ | ⟨c, rest⟩
      · rw [skipAfter_blank h]
        exact .short rfl
      · have hu' := skipSpace_append h u
        rw [h, List.length_cons] at hs
        rw [skipAfter_cons h, skipAfter_cons hu']
        split
        · exact after (by omega)
        · split
          · refine (b.skipLabel_append rest u).bind fun left hleft => ?_
            have hlt := Bracket.length_skipLabel hleft
            exact inside (by omega)
          · exact .fault rfl

/-- **A value is passed over to its end**, however deep its brackets are. -/
theorem skipValue_causal : CausalSkip skipValue :=
  fun _ hu t => (skip_causal hu t.length (Nat.le_refl _)).1

end DelegatedScopes.Json
