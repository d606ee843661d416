import DelegatedScopes.Json.Error

/-!
# JSON — scanning

A document is read once, from left to right, and the first error ends it.  The functions here take
one token from the front of a text and return what is left.

* `Json.skipSpace`, `Json.scanWord`: blanks, and the words `null`, `true` and `false`.
* `Json.scanString`: a string, with its escapes.
-/

namespace DelegatedScopes.Json

/-- The blanks between tokens. -/
def isSpace (c : Char) : Bool := c == ' ' || c == '\n' || c == '\t' || c == '\r'

/-- The text without the blanks it starts with. -/
def skipSpace (t : Text) : Text := t.dropWhile isSpace

theorem length_skipSpace (t : Text) : (skipSpace t).length ≤ t.length :=
  (List.dropWhile_suffix _).length_le

/-- Certain characters.  The text may end before they do, or go on with others. -/
def scanExactly (ended other : Code) : (expected : Text) → Text → Except Misread Text
  | [], t => .ok t
  | _ :: _, [] => .error (.on ended [])
  | c :: expected, d :: t =>
    if c = d then scanExactly ended other expected t else .error (.on other (d :: t))

theorem length_scanExactly {ended other : Code} {expected t rest : Text}
    (h : scanExactly ended other expected t = .ok rest) : rest.length ≤ t.length := by
  induction expected generalizing t with
  | nil => simp only [scanExactly, Except.ok.injEq] at h; simp [h]
  | cons c expected ih =>
    cases t with
    | nil => simp [scanExactly] at h
    | cons d t =>
      simp only [scanExactly] at h
      split at h
      · have := ih h
        simp only [List.length_cons]
        omega
      · cases h

/-- The rest of a word whose first letter has been read. -/
def scanWord (word t : Text) : Except Misread Text := scanExactly .endOfValue .noWord word t

theorem length_scanWord {word t rest : Text} (h : scanWord word t = .ok rest) :
    rest.length ≤ t.length := length_scanExactly h

/-! ### Strings -/

/-- The value of a hexadecimal digit. -/
def hexValue? (c : Char) : Option Nat :=
  if '0' ≤ c ∧ c ≤ '9' then some (c.toNat - '0'.toNat)
  else if 'a' ≤ c ∧ c ≤ 'f' then some (c.toNat - 'a'.toNat + 10)
  else if 'A' ≤ c ∧ c ≤ 'F' then some (c.toNat - 'A'.toNat + 10)
  else none

/-- Four hexadecimal digits.  Four bytes are read at once, and a text of fewer has ended too early,
whatever it holds. -/
def scanUnit (t : Text) : Except Misread (Nat × Text) :=
  match t with
  | a :: b :: c :: d :: rest =>
    match hexValue? a, hexValue? b, hexValue? c, hexValue? d with
    | some a, some b, some c, some d => .ok (((a * 16 + b) * 16 + c) * 16 + d, rest)
    | _, _, _, _ => .error ⟨.badEscape, Text.byteLength (a :: b :: c :: d :: rest) - 4⟩
  | t => .error ⟨if t.byteLength < 4 then .endInString else .badEscape, t.byteLength - 4⟩

theorem length_scanUnit {t rest : Text} {n : Nat} (h : scanUnit t = .ok (n, rest)) :
    rest.length < t.length := by
  unfold scanUnit at h
  split at h
  · split at h
    · cases h
      simp only [List.length_cons]
      omega
    · cases h
  · cases h

/-- The mark of an escape that has to follow another one. -/
def scanMark (t : Text) : Except Misread Text :=
  scanExactly .endInString .endOfEscape ['\\', 'u'] t

theorem length_scanMark {t rest : Text} (h : scanMark t = .ok rest) : rest.length ≤ t.length :=
  length_scanExactly h

/-- The character after `\u`: one unit, or two that pair up. -/
def scanUnicode (t : Text) : Except Misread (Char × Text) :=
  match scanUnit t with
  | .error e => .error e
  | .ok (high, rest) =>
    if high < 0xd800 ∨ 0xdfff < high then .ok (Char.ofNat high, rest)
    else if 0xdc00 ≤ high then .error (.before .loneSurrogate rest)
    else match scanMark rest with
      | .error e => .error e
      | .ok rest =>
        match scanUnit rest with
        | .error e => .error e
        | .ok (low, rest) =>
          if 0xdc00 ≤ low ∧ low ≤ 0xdfff then
            .ok (Char.ofNat (0x10000 + (high - 0xd800) * 0x400 + (low - 0xdc00)), rest)
          else .error (.before .loneSurrogate rest)

theorem length_scanUnicode {t rest : Text} {c : Char} (h : scanUnicode t = .ok (c, rest)) :
    rest.length < t.length := by
  unfold scanUnicode at h
  split at h
  · cases h
  · next high rest' hu =>
    have hl := length_scanUnit hu
    split at h
    · simp only [Except.ok.injEq, Prod.mk.injEq] at h
      exact h.2 ▸ hl
    · split at h
      · cases h
      · split at h
        · cases h
        · next hm =>
          have hm' := length_scanMark hm
          split at h
          · cases h
          · next low rest'' hu' =>
            have hl' := length_scanUnit hu'
            split at h
            · simp only [Except.ok.injEq, Prod.mk.injEq] at h
              rw [← h.2]
              omega
            · cases h

/-- What an escape of one letter stands for. -/
def escaped? (c : Char) : Option Char :=
  match c with
  | '"' => some '"'
  | '\\' => some '\\'
  | '/' => some '/'
  | 'b' => some '\x08'
  | 'f' => some '\x0c'
  | 'n' => some '\n'
  | 'r' => some '\r'
  | 't' => some '\t'
  | _ => none

/-- An escape whose backslash has been read. -/
def scanEscape (t : Text) : Except Misread (Char × Text) :=
  match t with
  | [] => .error (.on .endInString [])
  | c :: rest =>
    if c = 'u' then scanUnicode rest
    else match escaped? c with
      | some d => .ok (d, rest)
      | none => .error (.on .badEscape (c :: rest))

theorem length_scanEscape {t rest : Text} {c : Char} (h : scanEscape t = .ok (c, rest)) :
    rest.length < t.length := by
  unfold scanEscape at h
  split at h
  · cases h
  · split at h
    · have := length_scanUnicode h
      simp only [List.length_cons]
      omega
    · split at h
      · cases h
        simp
      · cases h

/-- A string whose opening quote has been read. -/
def scanString (t : Text) : Except Misread (Text × Text) :=
  match t with
  | [] => .error (.on .endInString [])
  | c :: rest =>
    if c = '"' then .ok ([], rest)
    else if c = '\\' then
      match _h : scanEscape rest with
      | .error e => .error e
      | .ok (d, rest) => (scanString rest).map fun found => (d :: found.1, found.2)
    else if c.toNat < 0x20 then .error (.on .controlCharacter (c :: rest))
    else (scanString rest).map fun found => (c :: found.1, found.2)
termination_by t.length
decreasing_by
  · have := length_scanEscape _h
    simp only [List.length_cons]
    omega
  · simp

theorem length_scanString {t s rest : Text} (h : scanString t = .ok (s, rest)) :
    rest.length < t.length := by
  fun_induction scanString t generalizing s rest with
  | case1 => cases h
  | case2 => cases h; simp
  | case3 => cases h
  | case4 rest' d rest'' he _ ih =>
    cases hs : scanString rest'' with
    | error e => simp [hs, Except.map] at h
    | ok found =>
      simp only [hs, Except.map, Except.ok.injEq, Prod.mk.injEq] at h
      have h₁ := length_scanEscape he
      have h₂ := ih hs
      simp only [List.length_cons, ← h.2]
      omega
  | case5 => cases h
  | case6 c rest' _ _ _ ih =>
    cases hs : scanString rest' with
    | error e => simp [hs, Except.map] at h
    | ok found =>
      simp only [hs, Except.map, Except.ok.injEq, Prod.mk.injEq] at h
      have := ih hs
      simp only [List.length_cons, ← h.2]
      omega

end DelegatedScopes.Json
