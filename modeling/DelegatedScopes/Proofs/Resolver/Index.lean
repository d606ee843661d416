import DelegatedScopes.Proofs.Resolver.Lookup
import Mathlib.Data.List.Nodup

/-!
# Resolver — the index finds every activated role once

A role whose literal part meets a query stands in more than one table, but a lookup takes it from
one only.  An exact query finds a plain id in the first table and literal parts in the second, and
no id has both forms.  An open query takes the roles whose literal part it starts from the sorted
list, and from the second table those that leave something of the query.

* `RoleIndex.nodup_lookup`: no table gives a role twice, and no two tables give the same one.
* `RoleIndex.lookup_each_once`: a lookup is the list of the activated roles.
-/

namespace DelegatedScopes

/-- The cuts of a text leave different ends. -/
theorem Text.nodup_splits (t : Text) : ((splits t).map Prod.snd).Nodup := by
  induction t with
  | nil => simp [splits]
  | cons c cs ih =>
      have hsnd : ((splits cs).map fun cut => (c :: cut.1, cut.2)).map Prod.snd =
          (splits cs).map Prod.snd := by
        rw [List.map_map]
        rfl
      rw [splits, List.map_cons, hsnd]
      refine List.nodup_cons.2 ⟨fun hmem => ?_, ih⟩
      obtain ⟨⟨a, b⟩, hab, hb⟩ := List.mem_map.1 hmem
      have hlen := congrArg List.length (mem_splits.1 hab)
      rw [show b = c :: cs from hb, List.length_append, List.length_cons] at hlen
      omega

namespace RoleIndex
open Scope

variable {ids : List Text} {q : Text}

/-- The roles whose literal part starts a query leave different ends of it. -/
theorem nodup_leading (index : RoleIndex) (q : Text) :
    ((index.leading q).map Prod.snd).Nodup := by
  rw [List.Nodup, List.pairwise_map, leading, List.pairwise_filterMap]
  refine (List.pairwise_map.1 (Text.nodup_splits q)).imp fun hne _ hb _ hb' => ?_
  obtain ⟨_, -, rfl⟩ := Option.map_eq_some_iff.1 hb
  obtain ⟨_, -, rfl⟩ := Option.map_eq_some_iff.1 hb'
  exact hne

/-- Each role stands once in the list of literal parts. -/
theorem nodup_byLiteral (ids : List Text) : ((ofIds ids).byLiteral.map Prod.snd).Nodup := by
  have hperm := (List.mergeSort_perm (ids.zipIdx.map fun e => (literal e.1, e.2)) literalOrder).map
    Prod.snd
  have hsnd : (ids.zipIdx.map fun e => (literal e.1, e.2)).map Prod.snd =
      ids.zipIdx.map Prod.snd := by
    rw [List.map_map]
    rfl
  rw [byLiteral_ofIds, hperm.nodup_iff, hsnd, List.zipIdx_map_snd]
  exact List.nodup_range'

/-- **The two tables of an exact query have no role in common**: what the first has is plain. -/
theorem nodup_lookupExact (h : ids.Nodup) (hq : isWildcard q = false) :
    ((ofIds ids).lookupExact q).Nodup := by
  have hindex := indexes_ofIds h
  refine List.nodup_append.2 ⟨?_, ?_, ?_⟩
  · cases (ofIds ids).plain[q]? <;> simp
  · refine List.Nodup.of_map (fun found => found.2.capture) ?_
    rw [List.map_map]
    exact nodup_leading _ q
  · rintro ⟨i, m⟩ hplain ⟨j, m'⟩ hleading heq
    obtain ⟨rfl, rfl⟩ := Prod.mk.inj heq
    simp only [List.mem_map, Option.mem_toList, hindex.plain, Prod.mk.injEq, Prod.exists,
      mem_leading hindex] at hplain hleading
    obtain ⟨i, ⟨hid, -⟩, rfl, -⟩ := hplain
    obtain ⟨j, c, ⟨l, -, hid'⟩, rfl, -⟩ := hleading
    rw [List.mk_mem_zipIdx_iff_getElem?] at hid hid'
    rw [Option.some.inj (hid.symm.trans hid'), isWildcard_append_star] at hq
    cases hq

/-- **The two tables of an open query give different captures**: none, and something. -/
theorem nodup_lookupOpen (ids : List Text) (q : Text) : ((ofIds ids).lookupOpen q).Nodup := by
  refine List.nodup_append.2 ⟨?_, ?_, ?_⟩
  · refine List.Nodup.of_map Prod.fst ?_
    rw [List.map_map]
    exact (nodup_byLiteral ids).sublist
      (((List.takeWhile_sublist _).trans (List.dropWhile_sublist _)).map Prod.snd)
  · refine List.Nodup.of_map (fun found => found.2.capture) ?_
    rw [List.map_map]
    exact (nodup_leading (ofIds ids) q).sublist (List.filter_sublist.map Prod.snd)
  · rintro ⟨i, m⟩ hextending ⟨j, m'⟩ hleading heq
    obtain ⟨rfl, rfl⟩ := Prod.mk.inj heq
    simp only [List.mem_map, List.mem_filter, Prod.mk.injEq, Prod.exists] at hextending hleading
    obtain ⟨-, i, -, -, rfl⟩ := hextending
    obtain ⟨j, c, ⟨-, hc⟩, -, heq⟩ := hleading
    rw [show c = [] from congrArg Activation.capture heq] at hc
    cases hc

/-- No role comes up twice, whichever of the two ways of looking up is taken. -/
theorem nodup_lookup (h : ids.Nodup) (s : Scope) : ((ofIds ids).lookup s).Nodup := by
  rw [lookup]
  split
  · split
    · exact nodup_lookupOpen ids _
    · rename_i query _ hq
      exact nodup_lookupExact h (by simpa using hq)
  · split
    · refine List.Nodup.of_map Prod.fst ?_
      rw [List.map_map]
      exact (List.map_id' _).symm ▸ List.nodup_range
    · exact List.nodup_nil

/-- **A lookup finds every activated role once.**  Whatever the scope, the index of distinct role
ids gives no role twice, and it gives just the roles that trying every id would find, each with the
same capture, open or exact. -/
theorem lookup_each_once (h : ids.Nodup) (s : Scope) :
    (((ofIds ids).lookup s).map Prod.fst).Nodup ∧
      ∀ i m, (i, m) ∈ (ofIds ids).lookup s ↔ ∃ id, ids[i]? = some id ∧ activate id s = some m := by
  refine ⟨(nodup_lookup h s).map_on ?_, fun i m => mem_lookup h⟩
  rintro ⟨i, m⟩ hm ⟨j, m'⟩ hm' (rfl : i = j)
  obtain ⟨id, hid, hact⟩ := (mem_lookup h).1 hm
  obtain ⟨id', hid', hact'⟩ := (mem_lookup h).1 hm'
  obtain rfl := Option.some.inj (hid.symm.trans hid')
  rw [Option.some.inj (hact.symm.trans hact')]

/-- A wing, all of its rooms, and the rooms of its first floor. -/
def wingIds : List Text := ["wing".toList, "wing*".toList, "wing1*".toList]

/-- The rooms of the first floor are found among all rooms by what they leave of the query, and for
themselves; the wing is not found. -/
theorem lookup_each_once_wing :
    wingIds.Nodup ∧
      (((ofIds wingIds).lookup "assume:wing1*".toList).map Prod.fst).Nodup ∧
      (1, .startingWith ['1']) ∈ (ofIds wingIds).lookup "assume:wing1*".toList ∧
      (2, .startingWith []) ∈ (ofIds wingIds).lookup "assume:wing1*".toList ∧
      ∀ m, (0, m) ∉ (ofIds wingIds).lookup "assume:wing1*".toList := by
  have hids : wingIds.Nodup := by decide
  obtain ⟨honce, hmem⟩ := lookup_each_once hids "assume:wing1*".toList
  refine ⟨hids, honce, (hmem 1 _).2 ⟨_, rfl, by decide⟩, (hmem 2 _).2 ⟨_, rfl, by decide⟩,
    fun m hm => ?_⟩
  obtain ⟨id, hid, hact⟩ := (hmem 0 m).1 hm
  obtain rfl := Option.some.inj hid
  have hnone : activate "wing".toList "assume:wing1*".toList = none := by decide
  rw [hnone] at hact
  cases hact

end RoleIndex
end DelegatedScopes
