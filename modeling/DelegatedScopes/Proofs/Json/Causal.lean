import DelegatedScopes.Json.Record
import Mathlib.Data.List.Basic

/-!
# JSON — reading from left to right

A reader takes its text from the front and looks no further than it has to.  So what it has made of
a text it also makes of every longer one, value and error alike, unless it ran out of text.  Only a
number goes on with whatever stands behind it; `Delimits` says that nothing does.

* `placeless`, `Decided`: outcomes but for the places of errors, and those that more text leaves.
* `Extends`: what becomes of an outcome when more text is put behind.
* `Causal`, `Steady`: whatever follows, or at least a string, leaves what has been read.
* `scanString_append`, `scanNumber_causal`: strings and numbers are read from left to right.
-/

namespace DelegatedScopes.Json

variable {α β γ : Type} {t u r : Text}

/-! ### Outcomes on longer texts -/

/-- What becomes of an outcome when more text is put behind.  An error keeps its code, unless the
text ended too early; its place is said from the end of the text, and moves. -/
inductive Extends (put : β → β) : Except Misread β → Except Misread β → Prop
  | short {m : Misread} {y : Except Misread β} (hm : m.code.fault = .truncated) :
      Extends put (.error m) y
  | fault {m m' : Misread} (hm : m'.code = m.code) : Extends put (.error m) (.error m')
  | value {b : β} : Extends put (.ok b) (.ok (put b))

/-- An outcome but for the place of an error. -/
def placeless (x : Except Misread β) : Except Code β := x.mapError Misread.code

theorem placeless_map (x : Except Misread β) (f : β → γ) :
    placeless (x.map f) = (placeless x).map f := by
  cases x <;> rfl

/-- An outcome other than running out of text. -/
def Decided (x : Except Code β) : Prop := ∀ code, x = .error code → code.fault ≠ .truncated

/-- Whatever is no error about the end of the text is decided. -/
theorem Decided.placeless {x : Except Misread β}
    (h : ∀ m, x = .error m → m.code.fault ≠ .truncated) : Decided (placeless x) := by
  rintro code hx
  cases x with
  | error m =>
      cases hx
      exact h m rfl
  | ok b => cases hx

namespace Extends

variable {put : β → β} {put' : γ → γ} {x y : Except Misread β}

/-- What is decided about a text is decided about every longer one. -/
theorem placeless_eq (h : Extends put x y) (hx : Decided (placeless x)) :
    placeless y = (placeless x).map put := by
  cases h with
  | short hm => exact absurd hm (hx _ rfl)
  | fault hm => exact congrArg Except.error hm
  | value => rfl

/-- A value that is made of a text is made of the longer one. -/
theorem of_ok {b : β} (h : Extends put (.ok b) y) : y = .ok (put b) := by
  cases h
  rfl

/-- What is made of the values does not change how the outcomes extend. -/
theorem map (h : Extends put x y) {f : β → γ} (hf : ∀ b, f (put b) = put' (f b)) :
    Extends put' (x.map f) (y.map f) := by
  cases h with
  | short hm => exact .short hm
  | fault hm => exact .fault hm
  | value =>
      simp only [Except.map, hf]
      exact .value

/-- One step and then another: the second goes on with what the first has left, in both texts. -/
theorem bind {f : β → Except Misread γ} (h : Extends put x y)
    (hf : ∀ b, x = .ok b → Extends put' (f b) (f (put b))) :
    Extends put' (x.bind f) (y.bind f) := by
  cases h with
  | short hm => exact .short hm
  | fault hm => exact .fault hm
  | value => exact hf _ rfl

end Extends

/-- The characters that a number can go on with. -/
def goesOn (c : Char) : Bool := c.isDigit || c ∈ ['.', 'e', 'E', '+', '-']

/-- A text that does not go on with a number. -/
def Delimits (u : Text) : Prop := ∀ c ∈ u.head?, goesOn c = false

/-- Puts more text behind what is left. -/
def behind (u : Text) (found : α × Text) : α × Text := (found.1, found.2 ++ u)

/-- More text behind is more text left. -/
theorem Extends.pair (a : α) (r u : Text) : Extends (behind u) (.ok (a, r)) (.ok (a, r ++ u)) :=
  .value

/-- A last step reads nothing, and comes out the same. -/
theorem Extends.conclude (x : Except Code α) (r u : Text) :
    Extends (behind u) (Json.conclude x r) (Json.conclude x (r ++ u)) := by
  cases x with
  | error code => exact .fault rfl
  | ok a => exact .pair ..

/-- What is made of a text is made of every longer one, unless the text ended too early. -/
def Causal (f : Text → Except Misread (α × Text)) : Prop :=
  ∀ ⦃u : Text⦄, Delimits u → ∀ t, Extends (behind u) (f t) (f (t ++ u))

/-- The same of what is passed over. -/
def CausalSkip (f : Text → Except Misread Text) : Prop :=
  ∀ ⦃u : Text⦄, Delimits u → ∀ t, Extends (· ++ u) (f t) (f (t ++ u))

/-- What is made of a text is made of it in front of a string, unless the text ended too early. -/
def Steady (f : Text → Except Misread (α × Text)) : Prop :=
  ∀ left t, Extends (behind ('"' :: left)) (f t) (f (t ++ '"' :: left))

theorem delimits_nil : Delimits [] := by
  intro c hc
  cases hc

theorem delimits_cons {c : Char} (hc : goesOn c = false) (u : Text) : Delimits (c :: u) := by
  intro d hd
  obtain rfl : c = d := by simpa using hd
  exact hc

/-- No number goes on with a quote. -/
theorem delimits_quote (left : Text) : Delimits ('"' :: left) := delimits_cons (by decide) left

/-- A string may follow whatever is causal. -/
theorem Causal.steady {f : Text → Except Misread (α × Text)} (h : Causal f) : Steady f :=
  fun left t => h (delimits_quote left) t

/-! ### Words and strings -/

/-- Blanks end at the same character, unless the text ends with them. -/
theorem skipSpace_append {c : Char} {rest : Text} (h : skipSpace t = c :: rest) (u : Text) :
    skipSpace (t ++ u) = c :: (rest ++ u) := by
  unfold skipSpace at h ⊢
  rw [List.dropWhile_append, h]
  rfl

/-- Characters are compared one by one; those that a text ends before may still come. -/
theorem scanExactly_append {ended : Code} (hended : ended.fault = .truncated) (other : Code)
    (expected t u : Text) :
    Extends (· ++ u) (scanExactly ended other expected t)
      (scanExactly ended other expected (t ++ u)) := by
  induction expected generalizing t with
  | nil => exact .value
  | cons c expected ih =>
      cases t with
      | nil => exact .short hended
      | cons d t =>
          simp only [List.cons_append, scanExactly]
          split
          · exact ih t
          · exact .fault rfl

theorem scanWord_append (word t u : Text) :
    Extends (· ++ u) (scanWord word t) (scanWord word (t ++ u)) :=
  scanExactly_append rfl .noWord word t u

/-- A hexadecimal digit is one byte. -/
theorem utf8Size_of_hexValue? {c : Char} (h : (hexValue? c).isSome = true) : c.utf8Size = 1 := by
  have hc : c ≤ 'f' := by
    unfold hexValue? at h
    split at h
    · rename_i hr
      exact Char.le_trans hr.2 (by decide)
    · split at h
      · rename_i hr
        exact hr.2
      · split at h
        · rename_i hr
          exact Char.le_trans hr.2 (by decide)
        · cases h
  exact if_pos (UInt32.le_trans hc (by decide))

theorem byteLength_of_hexValue? (h : ∀ c ∈ t, (hexValue? c).isSome = true) :
    t.byteLength = t.length := by
  induction t with
  | nil => rfl
  | cons c t ih =>
      rw [List.forall_mem_cons] at h
      rw [Text.byteLength, utf8Size_of_hexValue? h.1, ih h.2, List.length_cons, Nat.add_comm]

/-- Of four bytes or more, the first four characters have to be digits. -/
theorem scanUnit_badEscape {c : Char} (hc : c ∈ t.take 4) (hx : hexValue? c = none)
    (hb : 4 ≤ t.byteLength) : scanUnit t = .error ⟨.badEscape, t.byteLength - 4⟩ := by
  unfold scanUnit
  split
  · split
    · simp only [List.take_succ_cons, List.take_zero, List.mem_cons, List.not_mem_nil,
        or_false] at hc
      obtain rfl | rfl | rfl | rfl := hc <;> simp_all
    · rfl
  · rw [if_neg (by omega)]

/-- Four bytes make a unit or break it, so only a text of fewer can go on. -/
theorem scanUnit_append (t u : Text) : Extends (behind u) (scanUnit t) (scanUnit (t ++ u)) := by
  by_cases hlen : t.length < 4
  · have hshort : scanUnit t =
        .error ⟨if t.byteLength < 4 then .endInString else .badEscape, t.byteLength - 4⟩ := by
      unfold scanUnit
      split
      · simp only [List.length_cons] at hlen
        omega
      · rfl
    rw [hshort]
    by_cases hb : t.byteLength < 4
    · rw [if_pos hb]
      exact .short rfl
    · rw [if_neg hb]
      -- A text of four bytes that is too short holds a character that is no digit.
      have hex : ∃ c ∈ t, hexValue? c = none := by
        by_contra hall
        have hsome : ∀ c ∈ t, (hexValue? c).isSome = true := by
          simpa [Option.isSome_iff_ne_none] using hall
        rw [byteLength_of_hexValue? hsome] at hb
        exact hb hlen
      obtain ⟨c, hc, hx⟩ := hex
      have hmem : c ∈ (t ++ u).take 4 := by
        rw [List.take_append, List.take_of_length_le (by omega)]
        exact List.mem_append_left _ hc
      rw [scanUnit_badEscape hmem hx (by rw [Text.byteLength_append]; omega)]
      exact .fault rfl
  · rcases t with _ | ⟨a, _ | ⟨b, _ | ⟨c, _ | ⟨d, t⟩⟩⟩⟩
    case cons.cons.cons.cons =>
      simp only [List.cons_append, scanUnit]
      split
      · exact .value
      · exact .fault rfl
    all_goals exact absurd (by simp) hlen

/-- The second unit of a pair is looked for behind its mark. -/
theorem scanUnicode_eq (t : Text) :
    scanUnicode t = (scanUnit t).bind fun high =>
      if high.1 < 0xd800 ∨ 0xdfff < high.1 then .ok (Char.ofNat high.1, high.2)
      else if 0xdc00 ≤ high.1 then .error (.before .loneSurrogate high.2)
      else (scanMark high.2).bind fun rest => (scanUnit rest).bind fun low =>
        if 0xdc00 ≤ low.1 ∧ low.1 ≤ 0xdfff then
          .ok (Char.ofNat (0x10000 + (high.1 - 0xd800) * 0x400 + (low.1 - 0xdc00)), low.2)
        else .error (.before .loneSurrogate low.2) := by
  unfold scanUnicode
  rcases scanUnit t with e | ⟨high, rest⟩
  · rfl
  · simp only [Except.bind]
    refine ite_congr rfl (fun _ => rfl) fun _ => ite_congr rfl (fun _ => rfl) fun _ => ?_
    rcases scanMark rest with e | rest
    · rfl
    · dsimp only
      rcases scanUnit rest with e | low <;> rfl

/-- A string, one character or escape at a time. -/
theorem scanString_cons (c : Char) (rest : Text) :
    scanString (c :: rest) =
      if c = '"' then .ok ([], rest)
      else if c = '\\' then
        (scanEscape rest).bind fun found =>
          (scanString found.2).map fun s => (found.1 :: s.1, s.2)
      else if c.toNat < 0x20 then .error (.on .controlCharacter (c :: rest))
      else (scanString rest).map fun s => (c :: s.1, s.2) := by
  rw [scanString]
  split
  · rfl
  · split
    · split <;> rename_i h <;> rw [h] <;> rfl
    · rfl

theorem Delimits.not_digit (hu : Delimits u) : ∀ c ∈ u.head?, c.isDigit = false := by
  intro c hc
  have h := hu c hc
  rw [goesOn, Bool.or_eq_false_iff] at h
  exact h.1

/-- No digit follows the digits, so they end where they ended. -/
theorem dropDigits_append (hu : Delimits u) (t : Text) :
    (t ++ u).dropWhile Char.isDigit = t.dropWhile Char.isDigit ++ u := by
  rw [List.dropWhile_append]
  split
  · rename_i hall
    rw [List.isEmpty_iff.1 hall, List.nil_append]
    cases u with
    | nil => rfl
    | cons c u => exact List.dropWhile_cons_of_neg (by simp [hu.not_digit c rfl])
  · rfl

theorem takeDigits_append (hu : Delimits u) (t : Text) :
    (t ++ u).takeWhile Char.isDigit = t.takeWhile Char.isDigit := by
  have h := List.takeWhile_append_dropWhile (p := Char.isDigit) (l := t ++ u)
  rw [dropDigits_append hu, ← List.append_assoc] at h
  have h' := List.append_cancel_right h
  have ht := List.takeWhile_append_dropWhile (p := Char.isDigit) (l := t)
  exact List.append_cancel_right (h'.trans ht.symm)

/-- A number does not go on behind its own text. -/
theorem Delimits.append_ne (hu : Delimits u) {c : Char} (hc : goesOn c = true)
    (ht : ∀ left, t ≠ c :: left) (rest : Text) : t ++ u ≠ c :: rest := by
  intro h
  rcases t with _ | ⟨d, t⟩
  · rw [List.nil_append] at h
    rw [hu c (by rw [h]; rfl)] at hc
    cases hc
  · exact ht t (by rw [(List.cons.inj h).1])

end DelegatedScopes.Json
