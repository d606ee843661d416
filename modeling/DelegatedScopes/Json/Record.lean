import DelegatedScopes.Json.Reader
import DelegatedScopes.Json.Skip

/-!
# JSON — reading records

A record is written as an object, in any order and with members that no field asks for, or as an
array of its fields in their order.  Its fields are gathered one by one into parts, each of which
may still be missing; `Schema.finish` makes the record from the parts, and decides which of them
may be missing.

* `Json.Field`, `Json.Schema`: the fields of a kind of record.
* `Schema.reader`: its reader.
-/

namespace DelegatedScopes.Json

/-- A field of a record whose parts are of type `ρ`: its name, whether the parts have it already,
and the reader that adds it to them. -/
structure Field (ρ : Type) where
  name : String
  isSet : ρ → Bool
  read : Reader (ρ → ρ)

/-- A kind of record: its name, its fields in their order, and how a record is made from parts.
`finish` is told what is wrong when the field at an index is missing. -/
structure Schema (ρ α : Type) where
  name : String
  fields : List (Field ρ)
  blank : ρ
  finish : (missing : Nat → Code) → ρ → Except Code α

variable {ρ α β : Type}

/-- A field that is kept as an optional part. -/
def Field.part (name : String) (get : ρ → Option β) (set : β → ρ → ρ) (r : Reader β) : Field ρ :=
  ⟨name, fun parts => (get parts).isSome, r.map set⟩

/-- A part that may not be missing. -/
def required (missing : Code) : Option β → Except Code β
  | some b => .ok b
  | none => .error missing

/-! ### Objects -/

/-- A key and its colon, from the key's first character on. -/
def scanKey (t : Text) : Except Misread (Text × Text) :=
  match t with
  | '"' :: rest => scanString rest
  | t => .error (.on .keyNoString t)

theorem length_scanKey {t key rest : Text} (h : scanKey t = .ok (key, rest)) :
    rest.length < t.length := by
  unfold scanKey at h
  split at h
  · exact Nat.lt_succ_of_lt (length_scanString h)
  · cases h

/-- The reader of a member that no field asks for. -/
def passOver : Reader (ρ → ρ) where
  run t := (skipValue t).map fun rest => (id, rest)
  shortens {t rest f} h := by
    cases hs : skipValue t with
    | error e => simp [hs, Except.map] at h
    | ok left =>
      simp only [hs, Except.map, Except.ok.injEq, Prod.mk.injEq] at h
      exact h.2 ▸ length_skipValue hs

namespace Schema

/-- The reader for the member with a key.  A field may not be given twice. -/
def member (s : Schema ρ α) (key : Text) (parts : ρ) : Except Code (Reader (ρ → ρ)) :=
  match s.fields.find? fun f => f.name.toList == key with
  | none => .ok passOver
  | some f =>
    if f.isSet parts then
      .error (.message ("duplicate field `".toList ++ key ++ "`".toList))
    else .ok f.read

/-- What is left when an object is left behind a key: its closing brace is read if it comes next. -/
def leave (t : Text) : Text :=
  match skipSpace t with
  | '}' :: rest => rest
  | t => t

/-- The members of an object whose opening brace has been read. -/
def members (s : Schema ρ α) (first : Bool) (parts : ρ) (t : Text) : Except Misread (ρ × Text) :=
  match _h : next .object first t with
  | .error e => .error e
  | .ok (.closed rest) => .ok (parts, rest)
  | .ok (.item t) =>
    match _hk : scanKey t with
    | .error e => .error e
    | .ok (key, rest) =>
      match s.member key parts with
      | .error code => .error (.before code (leave rest))
      | .ok r =>
        match _hc : scanColon rest with
        | .error e => .error e
        | .ok rest =>
          match _hr : r.run rest with
          | .error e => .error e
          | .ok (add, rest) => s.members false (add parts) rest
termination_by t.length
decreasing_by
  exact Nat.lt_of_lt_of_le
    (Nat.lt_trans (Nat.lt_trans (r.shortens _hr) (length_scanColon _hc)) (length_scanKey _hk))
    (length_next_item _h)

theorem length_members {s : Schema ρ α} {first : Bool} {parts parts' : ρ} {t rest : Text}
    (h : s.members first parts t = .ok (parts', rest)) : rest.length < t.length := by
  fun_induction members s first parts t generalizing parts' rest with
  | case1 => cases h
  | case2 parts first t left hn => cases h; exact length_next_closed hn
  | case3 => cases h
  | case4 => cases h
  | case5 => cases h
  | case6 => cases h
  | case7 parts first t u hn key afterKey hk r _ afterColon hc add left hr ih =>
    have h₁ := length_next_item hn
    have h₂ := length_scanKey hk
    have h₃ := length_scanColon hc
    have h₄ := r.shortens hr
    have h₅ := ih h
    omega

/-- What is wrong with an object without the field at an index. -/
def missingMember (s : Schema ρ α) (i : Nat) : Code :=
  .message ("missing field `".toList ++ (s.fields[i]?.elim [] fun f => f.name.toList) ++
    "`".toList)

/-! ### Arrays -/

/-- What is wrong with a character behind the last item that there may be.  A comma is read there,
with the blanks behind it. -/
def surplus (c : Char) (rest : Text) : Misread :=
  if c = ',' then
    match skipSpace rest with
    | [] => .on .trailingCharacters []
    | d :: rest => .on (if d = ']' then .trailingComma else .trailingCharacters) (d :: rest)
  else .on .trailingCharacters (c :: rest)

/-- The items of an array whose opening bracket has been read: a value for each of some fields.
The last fields may be left out; nothing may follow them. -/
def items (first : Bool) (parts : ρ) : List (Field ρ) → Text → Except Misread (ρ × Text)
  | [], t =>
    match skipSpace t with
    | [] => .error (.on (.endInside .array) [])
    | c :: rest => if c = ']' then .ok (parts, rest) else .error (surplus c rest)
  | f :: fields, t =>
    match next .array first t with
    | .error e => .error e
    | .ok (.closed rest) => .ok (parts, rest)
    | .ok (.item t) =>
      match f.read.run t with
      | .error e => .error e
      | .ok (add, rest) => items false (add parts) fields rest

theorem length_items {first : Bool} {parts parts' : ρ} {fields : List (Field ρ)} {t rest : Text}
    (h : items first parts fields t = .ok (parts', rest)) : rest.length < t.length := by
  induction fields generalizing first parts t with
  | nil =>
    have hs := length_skipSpace t
    unfold items at h
    split at h
    · cases h
    · next hr =>
      rw [hr, List.length_cons] at hs
      split at h
      · cases h; exact hs
      · cases h
  | cons f fields ih =>
    unfold items at h
    split at h
    · cases h
    · next hn => cases h; exact length_next_closed hn
    · next hn =>
      split at h
      · cases h
      · next hf =>
        have h₁ := length_next_item hn
        have h₂ := f.read.shortens hf
        have h₃ := ih h
        omega

/-- What is wrong with an array without an item for the field at an index. -/
def missingItem (s : Schema ρ α) (i : Nat) : Code :=
  .message ("invalid length ".toList ++ Text.decimal i ++ ", expected struct ".toList
    ++ s.name.toList ++ " with ".toList ++ Text.decimal s.fields.length ++ " elements".toList)

/-! ### Records -/

/-- A record, as an object or as an array. -/
def reader (s : Schema ρ α) : Reader α where
  run t :=
    match skipSpace t with
    | '{' :: rest =>
      match s.members true s.blank rest with
      | .error e => .error e
      | .ok (parts, rest) => conclude (s.finish s.missingMember parts) rest
    | '[' :: rest =>
      match items true s.blank s.fields rest with
      | .error e => .error e
      | .ok (parts, rest) => conclude (s.finish s.missingItem parts) rest
    | t => .error (mismatch ("struct ".toList ++ s.name.toList) t)
  shortens {t rest a} h := by
    have hs := length_skipSpace t
    split at h
    · next hr =>
      rw [hr, List.length_cons] at hs
      split at h
      · cases h
      · next hm =>
        have := length_members hm
        rw [(conclude_eq_ok h).2]
        omega
    · next hr =>
      rw [hr, List.length_cons] at hs
      split at h
      · cases h
      · next hm =>
        have := length_items hm
        rw [(conclude_eq_ok h).2]
        omega
    · cases h

end Schema

end DelegatedScopes.Json
