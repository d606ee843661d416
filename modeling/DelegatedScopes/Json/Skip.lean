import DelegatedScopes.Json.Scan

/-!
# JSON — passing over values

A member that no field of a record asks for is passed over.  Its value is held only to the form of
JSON: its numbers may have any size, and its escapes need not pair up to characters.

* `Json.skipValue`: any value.

The brackets that are open are kept on a stack, so values may be nested to any depth.
-/

namespace DelegatedScopes.Json

/-- At least one digit. -/
def skipDigits : Text → Except Misread Text
  | [] => .error (.on .badNumber [])
  | c :: rest =>
    if c.isDigit then .ok (rest.dropWhile Char.isDigit) else .error (.on .badNumber (c :: rest))

theorem length_skipDigits {t rest : Text} (h : skipDigits t = .ok rest) :
    rest.length < t.length := by
  cases t with
  | nil => simp [skipDigits] at h
  | cons c t =>
    simp only [skipDigits] at h
    split at h
    · cases h
      have := (List.dropWhile_suffix Char.isDigit (l := t)).length_le
      simp only [List.length_cons]
      omega
    · cases h

/-- The digits after the `e` of an exponent, with their sign. -/
def skipSigned : Text → Except Misread Text
  | '+' :: t => skipDigits t
  | '-' :: t => skipDigits t
  | t => skipDigits t

theorem length_skipSigned {t rest : Text} (h : skipSigned t = .ok rest) :
    rest.length < t.length := by
  unfold skipSigned at h
  split at h
  · exact Nat.lt_succ_of_lt (length_skipDigits h)
  · exact Nat.lt_succ_of_lt (length_skipDigits h)
  · exact length_skipDigits h

/-- An exponent, if there is one. -/
def skipExponent : Text → Except Misread Text
  | 'e' :: t => skipSigned t
  | 'E' :: t => skipSigned t
  | t => .ok t

theorem length_skipExponent {t rest : Text} (h : skipExponent t = .ok rest) :
    rest.length ≤ t.length := by
  unfold skipExponent at h
  split at h
  · have := length_skipSigned h
    simp only [List.length_cons]
    omega
  · have := length_skipSigned h
    simp only [List.length_cons]
    omega
  · cases h
    exact Nat.le_refl _

/-- A fraction and an exponent, as far as they are there. -/
def skipFraction : Text → Except Misread Text
  | '.' :: t =>
    match skipDigits t with
    | .error e => .error e
    | .ok t => skipExponent t
  | t => skipExponent t

theorem length_skipFraction {t rest : Text} (h : skipFraction t = .ok rest) :
    rest.length ≤ t.length := by
  unfold skipFraction at h
  split at h
  · split at h
    · cases h
    · next hd =>
      have h₁ := length_skipDigits hd
      have h₂ := length_skipExponent h
      simp only [List.length_cons]
      omega
  · exact length_skipExponent h

/-- A number after its sign.  One that ends too early is malformed. -/
def skipNumber (t : Text) : Except Misread Text :=
  match t with
  | '0' :: rest =>
    if rest.head?.any Char.isDigit then .error (.on .badNumber rest) else skipFraction rest
  | t =>
    match skipDigits t with
    | .error e => .error e
    | .ok rest => skipFraction rest

theorem length_skipNumber {t rest : Text} (h : skipNumber t = .ok rest) :
    rest.length < t.length := by
  unfold skipNumber at h
  split at h
  · split at h
    · cases h
    · have := length_skipFraction h
      simp only [List.length_cons]
      omega
  · split at h
    · cases h
    · next hd =>
      have h₁ := length_skipDigits hd
      have h₂ := length_skipFraction h
      omega

/-- An escape whose backslash has been read. -/
def skipEscape : Text → Except Misread Text
  | [] => .error (.on .endInString [])
  | c :: rest =>
    if c = 'u' then (scanUnit rest).map Prod.snd
    else if (escaped? c).isSome then .ok rest
    else .error (.on .badEscape (c :: rest))

theorem length_skipEscape {t rest : Text} (h : skipEscape t = .ok rest) :
    rest.length < t.length := by
  cases t with
  | nil => simp [skipEscape] at h
  | cons c t =>
    simp only [skipEscape] at h
    split at h
    · cases hu : scanUnit t with
      | error e => simp [hu, Except.map] at h
      | ok found =>
        simp only [hu, Except.map, Except.ok.injEq] at h
        have := length_scanUnit hu
        simp only [List.length_cons, ← h]
        omega
    · split at h
      · cases h
        simp
      · cases h

/-- A string whose opening quote has been read.  Unlike in a string that is wanted, a control
character is not read before it is refused. -/
def skipString (t : Text) : Except Misread Text :=
  match t with
  | [] => .error (.on .endInString [])
  | c :: rest =>
    if c = '"' then .ok rest
    else if c = '\\' then
      match _h : skipEscape rest with
      | .error e => .error e
      | .ok rest => skipString rest
    else if c.toNat < 0x20 then .error (.before .controlCharacter (c :: rest))
    else skipString rest
termination_by t.length
decreasing_by
  · have := length_skipEscape _h
    simp only [List.length_cons]
    omega
  · simp

theorem length_skipString {t rest : Text} (h : skipString t = .ok rest) :
    rest.length < t.length := by
  fun_induction skipString t generalizing rest with
  | case1 => cases h
  | case2 => cases h; simp
  | case3 => cases h
  | case4 rest' rest'' he _ ih =>
    have h₁ := length_skipEscape he
    have h₂ := ih h
    simp only [List.length_cons]
    omega
  | case5 => cases h
  | case6 c rest' _ _ _ ih =>
    have := ih h
    simp only [List.length_cons]
    omega

/-- A token without brackets: a word, a number or a string. -/
def skipScalar : Text → Except Misread Text
  | [] => .error (.on .endOfValue [])
  | 'n' :: t => scanWord "ull".toList t
  | 't' :: t => scanWord "rue".toList t
  | 'f' :: t => scanWord "alse".toList t
  | '"' :: t => skipString t
  | '-' :: t => skipNumber t
  | c :: t => if c.isDigit then skipNumber (c :: t) else .error (.on .noValue (c :: t))

theorem length_skipScalar {t rest : Text} (h : skipScalar t = .ok rest) :
    rest.length < t.length := by
  unfold skipScalar at h
  split at h
  · cases h
  · have := length_scanWord h
    simp only [List.length_cons]
    omega
  · have := length_scanWord h
    simp only [List.length_cons]
    omega
  · have := length_scanWord h
    simp only [List.length_cons]
    omega
  · have := length_skipString h
    simp only [List.length_cons]
    omega
  · have := length_skipNumber h
    simp only [List.length_cons]
    omega
  · split at h
    · exact length_skipNumber h
    · cases h

/-- The colon between a key and its value. -/
def scanColon (t : Text) : Except Misread Text :=
  match skipSpace t with
  | [] => .error (.on (.endInside .object) [])
  | c :: rest => if c = ':' then .ok rest else .error (.on .noColon (c :: rest))

theorem length_scanColon {t rest : Text} (h : scanColon t = .ok rest) :
    rest.length < t.length := by
  have hs := length_skipSpace t
  unfold scanColon at h
  split at h
  · cases h
  · next c rest' ht =>
    split at h
    · cases h
      rw [ht] at hs
      exact hs
    · cases h

/-- A key and its colon. -/
def skipKey (t : Text) : Except Misread Text :=
  match skipSpace t with
  | [] => .error (.on (.endInside .object) [])
  | c :: rest =>
    if c = '"' then
      match skipString rest with
      | .error e => .error e
      | .ok rest => scanColon rest
    else .error (.on .keyNoString (c :: rest))

theorem length_skipKey {t rest : Text} (h : skipKey t = .ok rest) : rest.length < t.length := by
  have hs := length_skipSpace t
  unfold skipKey at h
  split at h
  · cases h
  · next c rest' ht =>
    rw [ht, List.length_cons] at hs
    split at h
    · split at h
      · cases h
      · next hk =>
        have h₁ := length_skipString hk
        have h₂ := length_scanColon h
        omega
    · cases h

/-- What comes before the next value inside a bracket: a key in an object, nothing in an array. -/
def Bracket.skipLabel (b : Bracket) (t : Text) : Except Misread Text :=
  match b with
  | .array => .ok t
  | .object => skipKey t

theorem Bracket.length_skipLabel {b : Bracket} {t rest : Text} (h : b.skipLabel t = .ok rest) :
    rest.length ≤ t.length := by
  cases b with
  | array => cases h; exact Nat.le_refl _
  | object => exact Nat.le_of_lt (length_skipKey h)

mutual
/-- A value, and then everything up to the end of the brackets that are open around it. -/
def skipInside (brackets : List Bracket) (t : Text) : Except Misread Text :=
  match _h : skipSpace t with
  | [] => .error (.on .endOfValue [])
  | c :: rest =>
    match Bracket.ofOpening? c with
    | none =>
      match _h' : skipScalar (c :: rest) with
      | .error e => .error e
      | .ok rest => skipAfter brackets rest
    | some b =>
      match _h' : skipSpace rest with
      | [] => .error (.on (.endInside b) [])
      | d :: rest' =>
        if d = b.close then skipAfter brackets rest'
        else
          match _h'' : b.skipLabel (d :: rest') with
          | .error e => .error e
          | .ok rest => skipInside (b :: brackets) rest
termination_by t.length
decreasing_by
  · exact Nat.lt_of_lt_of_le (length_skipScalar _h') (_h ▸ length_skipSpace t)
  · have h₁ := length_skipSpace t
    have h₂ := _h' ▸ length_skipSpace _
    rw [_h, List.length_cons] at h₁
    rw [List.length_cons] at h₂
    omega
  · have h₁ := length_skipSpace t
    have h₂ := _h' ▸ length_skipSpace _
    have h₃ := Bracket.length_skipLabel _h''
    rw [_h, List.length_cons] at h₁
    rw [List.length_cons] at h₂ h₃
    omega

/-- Everything after a value, up to the end of the brackets that are open around it. -/
def skipAfter (brackets : List Bracket) (t : Text) : Except Misread Text :=
  match brackets with
  | [] => .ok t
  | b :: outer =>
    match _h : skipSpace t with
    | [] => .error (.on (.endInside b) [])
    | c :: rest =>
      if c = b.close then skipAfter outer rest
      else if c = ',' then
        match _h' : b.skipLabel rest with
        | .error e => .error e
        | .ok rest => skipInside (b :: outer) rest
      else .error (.on (.noCommaOrClose b) (c :: rest))
termination_by t.length
decreasing_by
  · have := length_skipSpace t
    simp only [_h, List.length_cons] at *
    omega
  · have := length_skipSpace t
    have := Bracket.length_skipLabel _h'
    simp only [_h, List.length_cons] at *
    omega
end

/-- Any value. -/
def skipValue (t : Text) : Except Misread Text := skipInside [] t

/-- Both functions leave less than they were given, by induction on its length. -/
theorem length_skip (n : Nat) : ∀ {brackets : List Bracket} {t rest : Text}, t.length ≤ n →
    (skipInside brackets t = .ok rest → rest.length < t.length) ∧
      (skipAfter brackets t = .ok rest → rest.length ≤ t.length) := by
  induction n using Nat.strongRecOn with
  | ind n ih =>
    intro brackets t rest hn
    have after : ∀ {brackets : List Bracket} {t' rest : Text}, t'.length < t.length →
        skipAfter brackets t' = .ok rest → rest.length ≤ t'.length :=
      fun hlt => (ih _ (Nat.lt_of_lt_of_le hlt hn) (Nat.le_refl _)).2
    have inside : ∀ {brackets : List Bracket} {t' rest : Text}, t'.length < t.length →
        skipInside brackets t' = .ok rest → rest.length < t'.length :=
      fun hlt => (ih _ (Nat.lt_of_lt_of_le hlt hn) (Nat.le_refl _)).1
    have hs := length_skipSpace t
    constructor
    · intro h
      rw [skipInside] at h
      split at h
      · cases h
      · next c r ht =>
        rw [ht, List.length_cons] at hs
        split at h
        · split at h
          · cases h
          · next hc =>
            have h₁ := length_skipScalar hc
            rw [List.length_cons] at h₁
            have h₂ := after (by omega) h
            omega
        · have hr := length_skipSpace r
          split at h
          · cases h
          · next hd =>
            rw [hd, List.length_cons] at hr
            split at h
            · have := after (by omega) h
              omega
            · split at h
              · cases h
              · next hl =>
                have h₁ := Bracket.length_skipLabel hl
                rw [List.length_cons] at h₁
                have h₂ := inside (by omega) h
                omega
    · intro h
      cases brackets with
      | nil => rw [skipAfter] at h; cases h; exact Nat.le_refl _
      | cons b outer =>
        rw [skipAfter] at h
        split at h
        · cases h
        · next ht =>
          rw [ht, List.length_cons] at hs
          split at h
          · have := after (by omega) h
            omega
          · split at h
            · split at h
              · cases h
              · next hl =>
                have h₁ := Bracket.length_skipLabel hl
                have h₂ := inside (by omega) h
                omega
            · cases h

theorem length_skipValue {t rest : Text} (h : skipValue t = .ok rest) :
    rest.length < t.length :=
  (length_skip t.length (Nat.le_refl _)).1 h

end DelegatedScopes.Json
