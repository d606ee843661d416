import DelegatedScopes.Instant.Rfc3339
import DelegatedScopes.Json.Number
import DelegatedScopes.Json.Scan
import DelegatedScopes.Text.Quoted

/-!
# JSON — reading values

A reader takes a value of one kind from the front of a text.  A value of another kind is described
in the error; its token is read to the end first, so what is wrong inside the token comes before the
complaint about its kind.

* `Json.Reader`: a reader, with the proof that it takes at least one character.
* `Json.found`: a value in words.
* `Reader.text`, `Reader.flag`, `Reader.natural`, `Reader.instant`: single values.
* `Reader.list`: an array of values.
-/

namespace DelegatedScopes.Json

/-- A reader of values from the front of a text: it gives the value and what is left. -/
structure Reader (α : Type) where
  run : Text → Except Misread (α × Text)
  shortens : ∀ {t rest : Text} {a : α}, run t = .ok (a, rest) → rest.length < t.length

/-! ### Values of the wrong kind -/

/-- A number in words. -/
def Number.describe (n : Number) : Text :=
  let kind := match n with
    | .whole _ | .below _ => "integer"
    | .double _ => "floating point"
  kind.toList ++ " `".toList ++ n.write ++ "`".toList

/-- The value at the start of a text in words, and what is left.  Of an array or an object nothing
is taken. -/
def found (t : Text) : Except Misread (Text × Text) :=
  match t with
  | [] => .error (.on .endOfValue [])
  | 'n' :: rest => (scanWord "ull".toList rest).map fun rest => ("null".toList, rest)
  | 't' :: rest => (scanWord "rue".toList rest).map fun rest => ("boolean `true`".toList, rest)
  | 'f' :: rest => (scanWord "alse".toList rest).map fun rest => ("boolean `false`".toList, rest)
  | '"' :: rest =>
    (scanString rest).map fun s => ("string ".toList ++ Text.quoted s.1, s.2)
  | '[' :: rest => .ok ("sequence".toList, '[' :: rest)
  | '{' :: rest => .ok ("map".toList, '{' :: rest)
  | c :: rest =>
    if c.isDigit || c == '-' then (scanNumber (c :: rest)).map fun n => (n.1.describe, n.2)
    else .error (.on .noValue (c :: rest))

/-- What is wrong with a value that is not of the wanted kind. -/
def mismatch (wanted : Text) (t : Text) : Misread :=
  match found t with
  | .ok (value, rest) =>
    .before (.message ("invalid type: ".toList ++ value ++ ", expected ".toList ++ wanted)) rest
  | .error e => e

namespace Reader

variable {α β : Type}

/-- The value that is read, changed by a function. -/
def map (f : α → β) (r : Reader α) : Reader β where
  run t := (r.run t).map fun found => (f found.1, found.2)
  shortens {t rest b} h := by
    cases hr : r.run t with
    | error e => simp [hr, Except.map] at h
    | ok found =>
      simp only [hr, Except.map, Except.ok.injEq, Prod.mk.injEq] at h
      exact h.2 ▸ r.shortens hr

/-! ### Texts and instants -/

/-- A string, or a complaint that says what was wanted. -/
def scanText (wanted : Text) (t : Text) : Except Misread (Text × Text) :=
  match skipSpace t with
  | '"' :: rest => scanString rest
  | t => .error (mismatch wanted t)

theorem length_scanText {wanted t s rest : Text} (h : scanText wanted t = .ok (s, rest)) :
    rest.length < t.length := by
  have hs := length_skipSpace t
  unfold scanText at h
  split at h
  · next r hr =>
    have := length_scanString h
    rw [hr, List.length_cons] at hs
    omega
  · cases h

/-- A string. -/
def text : Reader Text := ⟨scanText "a string".toList, length_scanText⟩

/-- An instant, as a string. -/
def instant : Reader Instant where
  run t :=
    match scanText "an RFC 3339 formatted date and time string".toList t with
    | .error e => .error e
    | .ok (s, rest) =>
      match Instant.read s with
      | .error fault => .error (.before (.message fault.message.toList) rest)
      | .ok i => .ok (i, rest)
  shortens {t rest i} h := by
    split at h
    · cases h
    · next hs =>
      split at h
      · cases h
      · cases h
        exact length_scanText hs

/-! ### Truth values and numbers -/

/-- `true` or `false`. -/
def flag : Reader Bool where
  run t :=
    match skipSpace t with
    | 't' :: rest => (scanWord "rue".toList rest).map fun rest => (true, rest)
    | 'f' :: rest => (scanWord "alse".toList rest).map fun rest => (false, rest)
    | t => .error (mismatch "a boolean".toList t)
  shortens {t rest b} h := by
    have hs := length_skipSpace t
    have word : ∀ {word r : Text} {v : Bool},
        (scanWord word r).map (fun rest => (v, rest)) = .ok (b, rest) → rest.length ≤ r.length := by
      intro word r v h
      cases hw : scanWord word r with
      | error e => simp [hw, Except.map] at h
      | ok left =>
        simp only [hw, Except.map, Except.ok.injEq, Prod.mk.injEq] at h
        exact h.2 ▸ length_scanWord hw
    split at h
    · next r hr =>
      rw [hr, List.length_cons] at hs
      exact Nat.lt_of_lt_of_le (Nat.lt_succ_of_le (word h)) hs
    · next r hr =>
      rw [hr, List.length_cons] at hs
      exact Nat.lt_of_lt_of_le (Nat.lt_succ_of_le (word h)) hs
    · cases h

/-- A number that is a natural number of 64 bits. -/
def asNatural (kind : Text) : Number → Except Code Nat
  | .whole n => .ok n
  | .below n => .error (.message
      ("invalid value: ".toList ++ (Number.below n).describe ++ ", expected ".toList ++ kind))
  | .double x => .error (.message
      ("invalid type: ".toList ++ (Number.double x).describe ++ ", expected ".toList ++ kind))

/-- A natural number of 64 bits; `kind` says which one, in a complaint. -/
def natural (kind : Text) : Reader Nat where
  run t :=
    match skipSpace t with
    | c :: rest =>
      if c.isDigit || c == '-' then
        match scanNumber (c :: rest) with
        | .error e => .error e
        | .ok (n, rest) => conclude (asNatural kind n) rest
      else .error (mismatch kind (c :: rest))
    | [] => .error (.on .endOfValue [])
  shortens {t rest n} h := by
    have hs := length_skipSpace t
    split at h
    · next c r hr =>
      rw [hr] at hs
      split at h
      · split at h
        · cases h
        · next m left hm =>
          have hl := length_scanNumber hm
          rw [(conclude_eq_ok h).2]
          omega
      · cases h
    · cases h

/-! ### Lists -/

end Reader

/-- Where a bracket goes on: it is closed, or another item follows. -/
inductive Next
  | closed (rest : Text)
  | item (rest : Text)

/-- Looks for the next item inside a bracket.  There is a comma before every item but the first, and
none before the end. -/
def next (b : Bracket) (first : Bool) (t : Text) : Except Misread Next :=
  match skipSpace t with
  | [] => .error (.on (.endInside b) [])
  | c :: rest =>
    if c = b.close then .ok (.closed rest)
    else if first then .ok (.item (c :: rest))
    else if c = ',' then
      match skipSpace rest with
      | [] => .error (.on .endOfValue [])
      | d :: rest =>
        if d = b.close then .error (.on .trailingComma (d :: rest)) else .ok (.item (d :: rest))
    else .error (.on (.noCommaOrClose b) (c :: rest))

theorem length_next_closed {b : Bracket} {first : Bool} {t rest : Text}
    (h : next b first t = .ok (.closed rest)) : rest.length < t.length := by
  have hs := length_skipSpace t
  unfold next at h
  split at h
  · cases h
  · next hr =>
    rw [hr, List.length_cons] at hs
    split at h
    · cases h; exact hs
    · split at h
      · cases h
      · split at h
        · split at h
          · cases h
          · split at h <;> cases h
        · cases h

theorem length_next_item {b : Bracket} {first : Bool} {t rest : Text}
    (h : next b first t = .ok (.item rest)) : rest.length ≤ t.length := by
  have hs := length_skipSpace t
  unfold next at h
  split at h
  · cases h
  · next c r hr =>
    rw [hr] at hs
    split at h
    · cases h
    · split at h
      · cases h; exact hs
      · split at h
        · have hs' := length_skipSpace r
          rw [List.length_cons] at hs
          split at h
          · cases h
          · next hd =>
            rw [hd] at hs'
            split at h
            · cases h
            · cases h
              exact Nat.le_of_lt (Nat.lt_of_le_of_lt hs' hs)
        · cases h

namespace Reader

variable {α : Type}

/-- The items of an array whose opening bracket has been read. -/
def items (r : Reader α) (first : Bool) (t : Text) : Except Misread (List α × Text) :=
  match _h : next .array first t with
  | .error e => .error e
  | .ok (.closed rest) => .ok ([], rest)
  | .ok (.item t) =>
    match _h' : r.run t with
    | .error e => .error e
    | .ok (a, rest) => (r.items false rest).map fun found => (a :: found.1, found.2)
termination_by t.length
decreasing_by exact Nat.lt_of_lt_of_le (r.shortens _h') (length_next_item _h)

theorem length_items {r : Reader α} {first : Bool} {t rest : Text} {as : List α}
    (h : r.items first t = .ok (as, rest)) : rest.length < t.length := by
  fun_induction items r first t generalizing as rest with
  | case1 => cases h
  | case2 first t left hn => cases h; exact length_next_closed hn
  | case3 => cases h
  | case4 first t u hn a left ha ih =>
    cases hi : r.items false left with
    | error e => simp [hi, Except.map] at h
    | ok found =>
      simp only [hi, Except.map, Except.ok.injEq, Prod.mk.injEq] at h
      have h₁ := length_next_item hn
      have h₂ := r.shortens ha
      have h₃ := ih hi
      rw [← h.2]
      omega

/-- An array of values. -/
def list (r : Reader α) : Reader (List α) where
  run t :=
    match skipSpace t with
    | '[' :: rest => r.items true rest
    | t => .error (mismatch "a sequence".toList t)
  shortens {t rest as} h := by
    have hs := length_skipSpace t
    split at h
    · next hr =>
      rw [hr, List.length_cons] at hs
      exact Nat.lt_of_lt_of_le (Nat.lt_succ_of_lt (length_items h)) hs
    · cases h

/-- A value that is a whole document: only blanks may follow it. -/
def document (r : Reader α) (t : Text) : Except Error α :=
  match r.run t with
  | .error e => .error (e.inDocument t)
  | .ok (a, rest) =>
    match skipSpace rest with
    | [] => .ok a
    | c :: rest => .error ((Misread.on .trailingCharacters (c :: rest)).inDocument t)

end Reader

end DelegatedScopes.Json
