import DelegatedScopes.Store.Basic
import DelegatedScopes.Proofs.Role.Effective

/-!
# The store — entries under their own keys

Roles and clients are kept in maps under their own ids.  A map has no order of its own: whoever
lists it gets the entries in some order, and puts them under their ids again.

* `byKey`: the entries of a list by their own key, the later one of two with the same key.
* `Keyed`: every entry of a map stands under its own key.  Nothing that a store does changes that
  (`Store.lawful_ofEntries`, `Store.Lawful.op`).
* `Keyed.getElem?_byKey_of_perm`: a listing gives back the map it was made from.
-/

namespace DelegatedScopes

variable {α : Type} {key : α → Text}

/-- The entries of a list by their own key; of two with the same key the later one counts. -/
def byKey (key : α → Text) (entries : List α) : Std.TreeMap Text α :=
  entries.foldl (fun known x => known.insert (key x) x) ∅

/-- Every entry stands under its own key. -/
def Keyed (key : α → Text) (map : Std.TreeMap Text α) : Prop :=
  ∀ (k : Text) (x : α), map[k]? = some x → key x = k

/-- Of the entries with one key, the last one is found. -/
theorem getElem?_byKey (entries : List α) (k : Text) :
    (byKey key entries)[k]? = entries.reverse.find? fun x => key x = k := by
  rw [byKey, List.foldl_eq_foldr_reverse]
  induction entries.reverse with
  | nil => simp
  | cons x l ih =>
      simp only [List.foldr_cons, Std.TreeMap.getElem?_insert, ih, List.find?_cons,
        Std.LawfulEqCmp.compare_eq_iff_eq]
      by_cases h : key x = k <;> simp [h]

theorem mem_values {map : Std.TreeMap Text α} {x : α} :
    x ∈ map.values ↔ ∃ k : Text, map[k]? = some x := by
  simp only [Role.values_eq_map, List.mem_map, Prod.exists, exists_eq_right,
    Std.TreeMap.mem_toList_iff_getElem?_eq_some]

/-- Entries that are put under their keys are found under them. -/
theorem keyed_byKey (entries : List α) : Keyed key (byKey key entries) := by
  intro k x hx
  rw [getElem?_byKey] at hx
  simpa using List.find?_some hx

namespace Keyed

variable {map : Std.TreeMap Text α}

theorem insert (h : Keyed key map) (x : α) : Keyed key (map.insert (key x) x) := by
  intro k y hy
  simp only [Std.TreeMap.getElem?_insert, Std.LawfulEqCmp.compare_eq_iff_eq] at hy
  split at hy
  · rename_i hk
    exact Option.some.inj hy ▸ hk
  · exact h k y hy

theorem erase (h : Keyed key map) (k : Text) : Keyed key (map.erase k) := by
  intro j y hy
  rw [Std.TreeMap.getElem?_erase] at hy
  split at hy
  · cases hy
  · exact h j y hy

/-- A change that leaves the keys alone leaves the entries under them. -/
theorem modify (h : Keyed key map) (k : Text) {f : α → α} (hf : ∀ x, key (f x) = key x) :
    Keyed key (map.modify k f) := by
  intro j y hy
  simp only [Std.TreeMap.getElem?_modify, Std.LawfulEqCmp.compare_eq_iff_eq] at hy
  split at hy
  · rename_i hk
    subst hk
    obtain ⟨x, hx, rfl⟩ := Option.map_eq_some_iff.1 hy
    rw [hf, h k x hx]
  · exact h j y hy

/-- An entry is among the values just when it is found under its key. -/
theorem mem_values_iff (h : Keyed key map) {x : α} : x ∈ map.values ↔ map[key x]? = some x := by
  rw [mem_values]
  exact ⟨fun ⟨k, hk⟩ => (h k x hk).symm ▸ hk, fun hx => ⟨_, hx⟩⟩

/-- **A listing gives back the map it was made from**, in whatever order it came. -/
theorem getElem?_byKey_of_perm (h : Keyed key map) {listed : List α}
    (hl : listed.Perm map.values) (k : Text) : (byKey key listed)[k]? = map[k]? := by
  have hfound : ∀ {x}, (byKey key listed)[k]? = some x → map[k]? = some x := by
    intro x hx
    rw [getElem?_byKey] at hx
    have hkey : key x = k := by simpa using List.find?_some hx
    have hmem : x ∈ listed := List.mem_reverse.1 (List.mem_of_find?_eq_some hx)
    exact hkey ▸ h.mem_values_iff.1 (hl.mem_iff.1 hmem)
  cases hm : map[k]? with
  | none =>
      cases hx : (byKey key listed)[k]? with
      | none => rfl
      | some x => rw [hfound hx] at hm; cases hm
  | some x =>
      have hmem : x ∈ listed := hl.mem_iff.2 (mem_values.2 ⟨k, hm⟩)
      have hsome : (listed.reverse.find? fun y => key y = k).isSome = true :=
        List.find?_isSome.2 ⟨x, List.mem_reverse.2 hmem, by simp [h k x hm]⟩
      obtain ⟨y, hy⟩ := Option.isSome_iff_exists.1 hsome
      rw [← getElem?_byKey] at hy
      rw [hy, ← hm, hfound hy]

end Keyed

end DelegatedScopes
