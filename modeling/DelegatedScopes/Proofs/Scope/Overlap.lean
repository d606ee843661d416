import DelegatedScopes.Proofs.Scope.Implication
import DelegatedScopes.Scope.Activation

/-!
# Scopes — activation as overlap

Two scopes overlap when some text satisfies both.

* `activate_eq_matchRole`: activation compares the scope with `assume:` and the role id; the
  wildcard scopes that stop inside `assume:` are no exception.
* `exists_matchRole`: scopes that overlap match.
* `common_of_matchRole`, `prefix_of_common`: when they match, the role's literal part and the
  capture spell out a text that satisfies both, and every text that satisfies both starts with it.
* `activate_overlap`: a scope activates a role exactly when it overlaps with the role's activation
  scope, and what it captures is the best that is known about all the texts in common.

The texts in common with a role's activation scope all start with both literal parts, so one of the
two starts the other.  The longer one is the least text in common, and the capture is what it has
beyond the role's literal part.
-/

namespace DelegatedScopes.Scope

/-! ### Satisfying a scope -/

theorem literal_isPrefix (s : Scope) : s.literal <+: s := by
  rw [literal]
  split
  · exact List.dropLast_prefix s
  · exact List.prefix_rfl

theorem satisfiedBy_wildcard_iff {s : Scope} (h : s.isWildcard = true) {w : Text} :
    s.satisfiedBy w = true ↔ s.literal <+: w := by
  rw [satisfiedBy, if_pos h, Text.leads_iff_isPrefix]

theorem satisfiedBy_exact_iff {s : Scope} (h : s.isWildcard = false) {w : Text} :
    s.satisfiedBy w = true ↔ w = s := by
  rw [satisfiedBy, if_neg (Bool.eq_false_iff.1 h), beq_iff_eq, eq_comm]

/-- The literal part of a scope satisfies it. -/
theorem satisfiedBy_literal (s : Scope) : s.satisfiedBy s.literal = true := by
  cases h : s.isWildcard with
  | true => exact (satisfiedBy_wildcard_iff h).2 List.prefix_rfl
  | false => exact (satisfiedBy_exact_iff h).2 (eq_of_not_isWildcard h)

/-- Whatever satisfies a scope starts with its literal part. -/
theorem literal_prefix_of_satisfiedBy {s : Scope} {w : Text} (h : s.satisfiedBy w = true) :
    s.literal <+: w := by
  cases hw : s.isWildcard with
  | true => exact (satisfiedBy_wildcard_iff hw).1 h
  | false =>
      obtain rfl := (satisfiedBy_exact_iff hw).1 h
      exact literal_isPrefix w

/-- Whatever satisfies a scope satisfies every scope that implies it. -/
theorem satisfiedBy_of_implies {a b : Scope} (hab : implies a b = true) {w : Text}
    (h : b.satisfiedBy w = true) : a.satisfiedBy w = true := by
  rcases implies_iff.1 hab with rfl | ⟨hw, hp⟩
  · exact h
  · exact (satisfiedBy_wildcard_iff hw).2 (hp.trans (literal_prefix_of_satisfiedBy h))

/-- A text that satisfies both scopes. -/
def Common (a b : Scope) (w : Text) : Prop := a.satisfiedBy w = true ∧ b.satisfiedBy w = true

/-! ### Activation compares two scopes -/

theorem isWildcard_append {t u : Text} (h : u ≠ []) : isWildcard (t ++ u) = isWildcard u := by
  rw [isWildcard, isWildcard, List.getLast?_append, List.getLast?_eq_some_getLast h,
    Option.some_or]

theorem isWildcard_append_eq_false_iff {t u : Text} :
    isWildcard (t ++ u) = false ↔ isWildcard u = false ∧ (u = [] → isWildcard t = false) := by
  by_cases h : u = []
  · subst h
    simp [isWildcard]
  · simp [isWildcard_append h, h]

theorem isWildcard_assume_append (t : Text) : isWildcard (assume ++ t) = isWildcard t := by
  by_cases h : t = []
  · subst h; rfl
  · exact isWildcard_append h

theorem literal_assume_append (t : Text) : literal (assume ++ t) = assume ++ literal t := by
  rw [literal, literal, isWildcard_assume_append]
  split
  · rename_i h
    have hne : t ≠ [] := by rintro rfl; cases h
    exact List.dropLast_append_of_ne_nil hne
  · rfl

theorem after?_append (a b t : Text) : (a ++ b).after? (a ++ t) = b.after? t := by
  induction a with
  | nil => rfl
  | cons c cs ih => simpa [Text.after?] using ih

theorem leads_append (a b t : Text) : (a ++ b).leads (a ++ t) = b.leads t := by
  rw [Bool.eq_iff_iff, Text.leads_iff_isPrefix, Text.leads_iff_isPrefix,
    List.prefix_append_right_inj]

/-- A text that `a` does not start is started by `a ++ b` in no way, and starts it only by
starting `a`. -/
theorem prefix_append_iff {a b t : Text} (h : ¬ a <+: t) : t <+: a ++ b ↔ t <+: a := by
  refine ⟨fun ht => ?_, fun ht => ht.trans (List.prefix_append a b)⟩
  exact (List.prefix_or_prefix_of_prefix ht (List.prefix_append a b)).resolve_right h

/-- **Activation compares the scope with the role's activation scope.** -/
theorem activate_eq_matchRole (id : Text) (s : Scope) :
    activate id s = matchRole (assume ++ id) s := by
  rw [activate]
  split
  · rename_i query h
    obtain rfl := Text.after?_eq_some.1 h
    simp only [matchRole, literal_assume_append, isWildcard_assume_append, after?_append,
      leads_append, List.append_cancel_left_eq]
  · rename_i h
    have hs : ¬ assume <+: s := Text.after?_eq_none.1 h
    have hl : ¬ assume <+: s.literal := fun hp => hs (hp.trans (literal_isPrefix s))
    have hne : assume ++ literal id ≠ s.literal := fun e => hl (e ▸ List.prefix_append _ _)
    have hafter : (assume ++ literal id).after? s.literal = none :=
      Text.after?_eq_none.2 fun hp => hl ((List.prefix_append _ _).trans hp)
    have hleads : s.literal.leads (assume ++ literal id) = s.literal.leads assume := by
      rw [Bool.eq_iff_iff, Text.leads_iff_isPrefix, Text.leads_iff_isPrefix, prefix_append_iff hl]
    simp only [matchRole, literal_assume_append, isWildcard_assume_append, hafter, hleads]
    cases isWildcard id <;> cases s.isWildcard <;> simp [hne]

/-! ### Matching -/

variable {id : Text} {s : Scope} {m : Activation}

/-- **What a match says.**  It is open just when the scope is a wildcard scope.  A parameterized
role's literal part and the capture spell out the scope's literal part, or the capture is empty and
the scope's literal part starts the role's. -/
theorem matchRole_cases (h : matchRole id s = some m) :
    m.isOpen = isWildcard s ∧
      (s.literal = literal id ++ m.capture ∧ (m.capture = [] ∨ isWildcard id = true) ∨
        m.capture = [] ∧ isWildcard s = true ∧ s.literal <+: literal id) := by
  simp only [matchRole] at h
  split at h <;> rename_i hid hs
  · split at h
    · rename_i e
      cases h
      exact ⟨hs.symm, Or.inl ⟨e.symm.trans (List.append_nil _).symm, Or.inl rfl⟩⟩
    · cases h
  · obtain ⟨rest, e, rfl⟩ := Option.map_eq_some_iff.1 h
    exact ⟨hs.symm, Or.inl ⟨Text.after?_eq_some.1 e, Or.inr hid⟩⟩
  · split at h
    · rename_i e
      cases h
      exact ⟨hs.symm, Or.inr ⟨rfl, hs, Text.leads_iff_isPrefix.1 e⟩⟩
    · cases h
  · split at h
    · rename_i rest e
      cases h
      exact ⟨hs.symm, Or.inl ⟨Text.after?_eq_some.1 e, Or.inr hid⟩⟩
    · split at h
      · rename_i e
        cases h
        exact ⟨hs.symm, Or.inr ⟨rfl, hs, Text.leads_iff_isPrefix.1 e⟩⟩
      · cases h

theorem isOpen_of_matchRole (h : matchRole id s = some m) : m.isOpen = isWildcard s :=
  (matchRole_cases h).1

/-- What a scope matched by a role has in common with the role. -/
theorem overlap_of_matchRole (h : matchRole id s = some m) :
    s.literal = literal id ++ m.capture ∧ (m.capture = [] ∨ isWildcard id = true) ∨
      m.capture = [] ∧ isWildcard s = true ∧ s.literal <+: literal id :=
  (matchRole_cases h).2

/-- An exact match leaves nothing of the scope beyond the role's literal part and the capture. -/
theorem eq_of_matchRole_exact (h : matchRole id s = some m) (hs : isWildcard s = false) :
    s = literal id ++ m.capture := by
  rcases overlap_of_matchRole h with ⟨e, -⟩ | ⟨-, hw, -⟩
  · rwa [eq_of_not_isWildcard hs] at e
  · rw [hs] at hw
    cases hw

/-- A plain role captures nothing. -/
theorem capture_eq_nil_of_matchRole (h : matchRole id s = some m) (hid : isWildcard id = false) :
    m.capture = [] := by
  rcases overlap_of_matchRole h with ⟨-, hc | hw⟩ | ⟨hc, -⟩
  · exact hc
  · rw [hid] at hw
    cases hw
  · exact hc

/-- **Scopes that overlap match.** -/
theorem exists_matchRole {w : Text} (h : Common s id w) : ∃ m, matchRole id s = some m := by
  obtain ⟨hs, hid⟩ := h
  cases hwi : isWildcard id with
  | false =>
      obtain rfl := (satisfiedBy_exact_iff hwi).1 hid
      cases hws : isWildcard s with
      | false =>
          have he : w = s := (satisfiedBy_exact_iff hws).1 hs
          exact ⟨.exactly [], by simp only [matchRole, hws, he, if_true]⟩
      | true =>
          have hp := (satisfiedBy_wildcard_iff hws).1 hs
          rw [← eq_of_not_isWildcard hwi, ← Text.leads_iff_isPrefix] at hp
          exact ⟨.startingWith [], by simp only [matchRole, hwi, hws, hp, if_true]⟩
  | true =>
      cases hws : isWildcard s with
      | false =>
          obtain rfl := (satisfiedBy_exact_iff hws).1 hs
          obtain ⟨rest, hrest⟩ := (satisfiedBy_wildcard_iff hwi).1 hid
          have ha : (literal id).after? (literal w) = some rest := by
            rw [Text.after?_eq_some, hrest, eq_of_not_isWildcard hws]
          exact ⟨.exactly rest, by simp only [matchRole, hwi, hws, ha, Option.map_some]⟩
      | true =>
          cases ha : (literal id).after? s.literal with
          | some rest => exact ⟨.startingWith rest, by simp only [matchRole, hwi, hws, ha]⟩
          | none =>
              -- both literal parts start the text in common
              have hp : s.literal <+: literal id :=
                (List.prefix_or_prefix_of_prefix (literal_prefix_of_satisfiedBy hs)
                  (literal_prefix_of_satisfiedBy hid)).resolve_right (Text.after?_eq_none.1 ha)
              rw [← Text.leads_iff_isPrefix] at hp
              exact ⟨.startingWith [], by simp only [matchRole, hwi, hws, ha, hp, if_true]⟩

/-- **The role's literal part and the capture are in common.** -/
theorem common_of_matchRole (h : matchRole id s = some m) :
    Common s id (literal id ++ m.capture) := by
  rcases overlap_of_matchRole h with ⟨e, hc⟩ | ⟨hc, hw, hp⟩
  · refine ⟨e ▸ satisfiedBy_literal s, ?_⟩
    rcases hc with hc | hw
    · rw [hc, List.append_nil]
      exact satisfiedBy_literal id
    · exact (satisfiedBy_wildcard_iff hw).2 (List.prefix_append _ _)
  · rw [hc, List.append_nil]
    exact ⟨(satisfiedBy_wildcard_iff hw).2 hp, satisfiedBy_literal id⟩

/-- **They start every text in common.** -/
theorem prefix_of_common (h : matchRole id s = some m) {w : Text} (hw : Common s id w) :
    literal id ++ m.capture <+: w := by
  rcases overlap_of_matchRole h with ⟨e, -⟩ | ⟨hc, -⟩
  · exact e ▸ literal_prefix_of_satisfiedBy hw.1
  · rw [hc, List.append_nil]
    exact literal_prefix_of_satisfiedBy hw.2

/-! ### Activation -/

theorem isOpen_of_activate (h : activate id s = some m) : m.isOpen = s.isWildcard :=
  isOpen_of_matchRole (activate_eq_matchRole id s ▸ h)

/-- A scope that activates a role exactly spells out the role's literal part and the capture. -/
theorem eq_of_activate_exact (h : activate id s = some m) (hm : m.isOpen = false) :
    s = assume ++ literal id ++ m.capture := by
  have hs : isWildcard s = false := by rw [← isOpen_of_activate h, hm]
  rw [← literal_assume_append]
  exact eq_of_matchRole_exact (activate_eq_matchRole id s ▸ h) hs

/-- What a scope captures exactly does not end in a wildcard, since the scope does not. -/
theorem isWildcard_capture (h : activate id s = some m) (hm : m.isOpen = false) :
    isWildcard m.capture = false := by
  have hs : isWildcard (assume ++ literal id ++ m.capture) = false := by
    rw [← eq_of_activate_exact h hm, ← isOpen_of_activate h, hm]
  exact (isWildcard_append_eq_false_iff.1 hs).1

/-- **Activation is overlap, with the best known capture.**  A scope activates a role exactly when
some text satisfies both the scope and the role's activation scope.  For a parameterized role, its
literal part and the capture then spell out such a text, every such text starts with it, and after
an exact activation it is the only one.  A plain role captures nothing. -/
theorem activate_overlap (id : Text) (s : Scope) :
    ((activate id s).isSome = true ↔ ∃ w, Common s (assume ++ id) w) ∧
      ∀ m, activate id s = some m →
        (isWildcard id = true →
          Common s (assume ++ id) (assume ++ literal id ++ m.capture) ∧
          (∀ w, Common s (assume ++ id) w →
            ∃ c, w = assume ++ literal id ++ c ∧ m.capture <+: c) ∧
          (m.isOpen = false → ∀ w, Common s (assume ++ id) w →
            w = assume ++ literal id ++ m.capture)) ∧
        (isWildcard id = false → m.capture = []) := by
  rw [activate_eq_matchRole, ← literal_assume_append, Option.isSome_iff_exists]
  constructor
  · exact ⟨fun ⟨m, h⟩ => ⟨_, common_of_matchRole h⟩, fun ⟨w, hw⟩ => exists_matchRole hw⟩
  · intro m h
    refine ⟨fun _ => ⟨common_of_matchRole h, ?_, ?_⟩, fun hid => ?_⟩
    · intro w hw
      obtain ⟨rest, rfl⟩ := prefix_of_common h hw
      exact ⟨m.capture ++ rest, List.append_assoc _ _ _, List.prefix_append _ _⟩
    · -- an exact scope is the one text that satisfies it
      intro hm w hw
      have hs : isWildcard s = false := by rw [← isOpen_of_matchRole h, hm]
      exact ((satisfiedBy_exact_iff hs).1 hw.1).trans (eq_of_matchRole_exact h hs)
    · exact capture_eq_nil_of_matchRole h (by rw [isWildcard_assume_append, hid])

/-- The scope for all desks whose number starts with 7 meets the role at desk 7, and wherever it
meets the role there is a desk with such a number. -/
theorem activate_overlap_desk :
    activate "desk*".toList "assume:desk7*".toList = some (.startingWith "7".toList) ∧
      Common "assume:desk7*".toList "assume:desk*".toList "assume:desk7".toList ∧
      ∀ w, Common "assume:desk7*".toList "assume:desk*".toList w →
        ∃ c, w = "assume:desk".toList ++ c ∧ "7".toList <+: c := by
  have h : activate "desk*".toList "assume:desk7*".toList = some (.startingWith "7".toList) := by
    decide
  obtain ⟨hleast, hall, -⟩ := ((activate_overlap _ _).2 _ h).1 rfl
  exact ⟨h, hleast, hall⟩

end DelegatedScopes.Scope
