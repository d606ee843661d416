import DelegatedScopes.Json.Value
import DelegatedScopes.Proofs.Json.Regular
import DelegatedScopes.Proofs.Text

/-!
# JSON — the spellings of a value

The two written forms of a value differ in their blanks only.  A spelling of a value has blanks
wherever the writer may put them, so both forms are spellings, and what holds of every spelling
holds of both.

* `Json.scanString_quote`: a text that is written as a string is read again.
* `Json.Spells`: the spellings of a value.
* `Json.spells_compact`, `Json.spells_pretty`: both forms are among them.
-/

namespace DelegatedScopes.Json

variable {t w p : Text}

/-! ### Strings -/

/-- A hexadecimal digit is read as the number it was written for. -/
theorem hexValue?_hexDigit (n : Nat) : hexValue? (hexDigit n) = some (n % 16) := by
  have h : ∀ d < 16, hexValue? (Nat.digitChar d) = some d := by decide
  exact h _ (Nat.mod_lt _ (by decide))

/-- The four digits of a control character are its number. -/
theorem scanUnit_control {n : Nat} (h : n < 0x20) (t : Text) :
    scanUnit ('0' :: '0' :: hexDigit (n / 16) :: hexDigit n :: t) = .ok (n, t) := by
  have hzero : hexValue? '0' = some 0 := by decide
  have hunit : ((0 * 16 + 0) * 16 + n / 16 % 16) * 16 + n % 16 = n := by omega
  simp only [scanUnit, hzero, hexValue?_hexDigit, hunit]

/-- A control character that is written by its number is read again. -/
theorem scanEscape_control {c : Char} (h : c.toNat < 0x20) (t : Text) :
    scanEscape ('u' :: '0' :: '0' :: hexDigit (c.toNat / 16) :: hexDigit c.toNat :: t) =
      .ok (c, t) := by
  rw [scanEscape, if_pos rfl, scanUnicode_eq, scanUnit_control h]
  dsimp only [Except.bind]
  rw [if_pos (by omega), Char.ofNat_toNat]

theorem scanString_slash {c : Char} {t t' : Text} (h : scanEscape t = .ok (c, t')) :
    scanString ('\\' :: t) = (scanString t').map fun found => (c :: found.1, found.2) := by
  rw [scanString_cons, if_neg (by decide), if_pos rfl, h]
  rfl

/-- A character of a string is read as it was. -/
theorem scanString_escape (c : Char) (t : Text) :
    scanString (escape c ++ t) = (scanString t).map fun found => (c :: found.1, found.2) := by
  unfold escape
  split_ifs with hquote hslash hline hreturn htab hback hfeed hcontrol
  · exact scanString_slash (by subst hquote; rfl)
  · exact scanString_slash (by subst hslash; rfl)
  · exact scanString_slash (by subst hline; rfl)
  · exact scanString_slash (by subst hreturn; rfl)
  · exact scanString_slash (by subst htab; rfl)
  · exact scanString_slash (by subst hback; rfl)
  · exact scanString_slash (by subst hfeed; rfl)
  · exact scanString_slash (scanEscape_control hcontrol t)
  · rw [List.singleton_append, scanString_cons, if_neg hquote, if_neg hslash, if_neg hcontrol]

/-- **A text that is written as a string is read again**, whatever follows the string. -/
theorem scanString_quote (s t : Text) : scanString (s.flatMap escape ++ '"' :: t) = .ok (s, t) := by
  induction s with
  | nil => rw [List.flatMap_nil, List.nil_append, scanString_cons, if_pos rfl]
  | cons c s ih =>
      rw [List.flatMap_cons, List.append_assoc, scanString_escape, ih]
      rfl

theorem quote_append (s t : Text) : quote s ++ t = '"' :: (s.flatMap escape ++ '"' :: t) := by
  simp [quote]

/-! ### Spellings -/

mutual
/-- The spellings of a value. -/
inductive Spells : Json → Text → Prop
  | null : Spells .null "null".toList
  | bool (b : Bool) : Spells (.bool b) (if b then "true" else "false").toList
  | number (n : Nat) : Spells (.number n) (Text.decimal n)
  | text (s : Text) : Spells (.text s) (quote s)
  | array {items : List Json} {p : Text} (hp : SpellsItems true items p) :
      Spells (.array items) ('[' :: p)
  | object {members : List (Text × Json)} {p : Text} (hp : SpellsMembers true members p) :
      Spells (.object members) ('{' :: p)

/-- The spellings of the last items of an array, up to its closing bracket. -/
inductive SpellsItems : (first : Bool) → List Json → Text → Prop
  | nil {first : Bool} {w : Text} (hw : Blank w) : SpellsItems first [] (w ++ [']'])
  | cons {first : Bool} {v : Json} {items : List Json} {sep w t p : Text}
      (hs : Separator first sep) (hw : Blank w) (hv : Spells v t) (hp : SpellsItems false items p) :
      SpellsItems first (v :: items) (sep ++ (w ++ (t ++ p)))

/-- The spellings of the last members of an object, up to its closing brace. -/
inductive SpellsMembers : (first : Bool) → List (Text × Json) → Text → Prop
  | nil {first : Bool} {w : Text} (hw : Blank w) : SpellsMembers first [] (w ++ ['}'])
  | cons {first : Bool} {key : Text} {v : Json} {members : List (Text × Json)}
      {sep w w' t p : Text} (hs : Separator first sep) (hw : Blank w) (hw' : Blank w')
      (hv : Spells v t) (hp : SpellsMembers false members p) :
      SpellsMembers first ((key, v) :: members)
        (sep ++ (w ++ (quote key ++ ':' :: (w' ++ (t ++ p)))))
end

/-- A spelling starts with none of the characters that stand between values. -/
theorem Spells.exists_cons {v : Json} (h : Spells v t) :
    ∃ c left, t = c :: left ∧ isSpace c = false ∧ c ≠ ']' := by
  cases h with
  | null => exact ⟨'n', _, rfl, rfl, by decide⟩
  | bool b => cases b <;> exact ⟨_, _, rfl, rfl, by decide⟩
  | number n =>
      have hne : Text.decimal n ≠ [] := Nat.toDigits_ne_nil
      obtain ⟨c, left, hn⟩ := List.exists_cons_of_ne_nil hne
      have hdigit : c.isDigit = true := Text.isDigit_decimal n c (hn ▸ List.mem_cons_self)
      refine ⟨c, left, hn, ?_, ?_⟩
      · rw [Bool.eq_false_iff]
        intro hspace
        simp only [isSpace, Bool.or_eq_true, beq_iff_eq] at hspace
        obtain ((rfl | rfl) | rfl) | rfl := hspace <;> cases hdigit
      · rintro rfl
        cases hdigit
  | text s => exact ⟨'"', _, rfl, rfl, by decide⟩
  | array hp => exact ⟨'[', _, rfl, rfl, by decide⟩
  | object hp => exact ⟨'{', _, rfl, rfl, by decide⟩

/-! ### On one line -/

theorem separator_comma : Separator false [','] := .comma blank_nil

section

variable {v : Json} {key w' : Text} {items : List Json} {members : List (Text × Json)}

/-- The first item of an array has no separator in front of it. -/
theorem SpellsItems.first (hw : Blank w) (hv : Spells v t) (hp : SpellsItems false items p) :
    SpellsItems true (v :: items) (w ++ (t ++ p)) := (SpellsItems.cons .none hw hv hp :)

theorem SpellsMembers.first (hw : Blank w) (hw' : Blank w') (hv : Spells v t)
    (hp : SpellsMembers false members p) :
    SpellsMembers true ((key, v) :: members) (w ++ (quote key ++ ':' :: (w' ++ (t ++ p)))) :=
  (SpellsMembers.cons .none hw hw' hv hp :)

/-- The items after the first one are items with a comma in front of them. -/
theorem SpellsItems.after_comma (h : SpellsItems true (v :: items) p) :
    SpellsItems false (v :: items) (',' :: p) := by
  cases h with
  | cons hs hw hv hp =>
      cases hs
      exact .cons separator_comma hw hv hp

/-- The members after the first one are members with a comma in front of them. -/
theorem SpellsMembers.after_comma {m : Text × Json} (h : SpellsMembers true (m :: members) p) :
    SpellsMembers false (m :: members) (',' :: p) := by
  cases h with
  | cons hs hw hw' hv hp =>
      cases hs
      exact .cons separator_comma hw hw' hv hp

end

mutual
/-- **The form on one line is a spelling.** -/
theorem spells_compact : ∀ v : Json, Spells v v.compact
  | .null => by
      rw [compact]
      exact .null
  | .bool b => by
      rw [compact]
      exact .bool b
  | .number n => by
      rw [compact]
      exact .number n
  | .text s => by
      rw [compact]
      exact .text s
  | .array items => by
      rw [compact]
      exact .array (spellsItems_compact items)
  | .object members => by
      rw [compact]
      exact .object (spellsMembers_compact members)

theorem spellsItems_compact :
    ∀ items : List Json, SpellsItems true items (compactItems items ++ [']'])
  | [] => by
      rw [compactItems]
      exact .nil blank_nil
  | [v] => by
      rw [compactItems]
      exact .first blank_nil (spells_compact v) (.nil blank_nil)
  | v :: v' :: items => by
      rw [compactItems, List.append_assoc, List.cons_append]
      exact .first blank_nil (spells_compact v)
        (spellsItems_compact (v' :: items)).after_comma

theorem spellsMembers_compact :
    ∀ members : List (Text × Json), SpellsMembers true members (compactMembers members ++ ['}'])
  | [] => by
      rw [compactMembers]
      exact .nil blank_nil
  | [(key, v)] => by
      rw [compactMembers, List.append_assoc, List.cons_append]
      exact .first blank_nil blank_nil (spells_compact v) (.nil blank_nil)
  | (key, v) :: m :: members => by
      simp only [compactMembers, List.append_assoc, List.cons_append]
      exact .first blank_nil blank_nil (spells_compact v)
        (spellsMembers_compact (m :: members)).after_comma
end

/-! ### Over several lines -/

theorem blank_newLine (level : Nat) : Blank (newLine level) := by
  intro c hc
  obtain rfl | hc := List.mem_cons.1 hc
  · rfl
  · obtain ⟨-, rfl⟩ := List.mem_replicate.1 hc
    rfl

theorem blank_space : Blank [' '] := List.forall_mem_singleton.2 rfl

mutual
/-- The form over several lines is a spelling, whatever the level of its brackets. -/
theorem spells_prettyAt (level : Nat) : ∀ v : Json, Spells v (v.prettyAt level)
  | .null => by
      rw [prettyAt]
      exact .null
  | .bool b => by
      rw [prettyAt]
      exact .bool b
  | .number n => by
      rw [prettyAt]
      exact .number n
  | .text s => by
      rw [prettyAt]
      exact .text s
  | .array [] => by
      rw [prettyAt]
      exact .array (.nil blank_nil)
  | .array (v :: items) => by
      simp only [prettyAt, List.append_assoc, List.cons_append]
      exact .array (.first (blank_newLine _) (spells_prettyAt (level + 1) v)
        (spellsItems_pretty level items))
  | .object [] => by
      rw [prettyAt]
      exact .object (.nil blank_nil)
  | .object ((key, v) :: members) => by
      simp only [prettyAt, List.append_assoc, List.cons_append]
      exact .object (.first (blank_newLine _) blank_space (spells_prettyAt (level + 1) v)
        (spellsMembers_pretty level members))

theorem spellsItems_pretty (level : Nat) : ∀ items : List Json,
    SpellsItems false items (prettyItems (level + 1) items ++ (newLine level ++ [']']))
  | [] => by
      rw [prettyItems]
      exact .nil (blank_newLine level)
  | v :: items => by
      simp only [prettyItems, List.append_assoc, List.cons_append]
      exact .cons separator_comma (blank_newLine _) (spells_prettyAt (level + 1) v)
        (spellsItems_pretty level items)

theorem spellsMembers_pretty (level : Nat) : ∀ members : List (Text × Json),
    SpellsMembers false members (prettyMembers (level + 1) members ++ (newLine level ++ ['}']))
  | [] => by
      rw [prettyMembers]
      exact .nil (blank_newLine level)
  | (key, v) :: members => by
      simp only [prettyMembers, List.append_assoc, List.cons_append]
      exact .cons separator_comma (blank_newLine _) blank_space (spells_prettyAt (level + 1) v)
        (spellsMembers_pretty level members)
end

/-- **The form over several lines is a spelling.** -/
theorem spells_pretty (v : Json) : Spells v v.pretty := spells_prettyAt 0 v

end DelegatedScopes.Json
