import DelegatedScopes.Proofs.Instant.Rfc3339
import DelegatedScopes.Proofs.Json.Blind
import DelegatedScopes.Proofs.Json.Spelling

/-!
# JSON — what is written is read back

A reader reads a value back when it takes every spelling of it, and nothing behind it, whatever
follows.  Not every value that a record can hold is read back: an instant has to be one that there
is.  So the other half is what can come out of a reader at all.

* `Json.Reads`: a reader takes every spelling of a value.
* `Json.Reads.list`, `Json.Reads.record`: arrays and objects.
* `Json.Reader.Yields`: what a reader makes of any text has a property.
* `Json.Reader.Yields.list`, `Json.Schema.yields`: arrays and records.
* `Json.Survives`: the two halves together, for whole documents.
-/

namespace DelegatedScopes.Json

variable {α β ρ : Type} {t w p rest : Text} {v : Json}

/-! ### Reading back -/

/-- A reader takes every spelling of a value, and nothing behind it, and makes `a` of it. -/
def Reads (r : Reader α) (v : Json) (a : α) : Prop :=
  ∀ ⦃w t : Text⦄, Blank w → Spells v t → ∀ rest, r.run (w ++ (t ++ rest)) = .ok (a, rest)

/-- A string is read back, whatever the reader calls what it wants. -/
theorem scanText_quote (wanted : Text) (hw : Blank w) (s rest : Text) :
    Reader.scanText wanted (w ++ (quote s ++ rest)) = .ok (s, rest) := by
  rw [quote_append, Reader.scanText_eq (skipSpace_blank_cons hw (by decide) _), if_pos rfl,
    scanString_quote]

namespace Reads

/-- A field that is read back is added to the parts. -/
theorem part {name : String} {get : ρ → Option β} {set : β → ρ → ρ} {r : Reader β} {b : β}
    (h : Reads r v b) : Reads (Field.part name get set r).read v (set b) := by
  intro w t hw ht rest
  change (r.run _).map _ = _
  rw [h hw ht]
  rfl

theorem text (s : Text) : Reads .text (.text s) s := by
  intro w t hw ht rest
  cases ht
  exact scanText_quote _ hw s rest

theorem flag (b : Bool) : Reads .flag (.bool b) b := by
  intro w t hw ht rest
  cases ht
  cases b
  · exact Reader.flag_eq (skipSpace_blank_cons hw (by decide) _)
  · exact Reader.flag_eq (skipSpace_blank_cons hw (by decide) _)

/-- A proper instant is read back. -/
theorem instant {i : Instant} (h : i.Proper) : Reads .instant (.instant i) i := by
  intro w t hw ht rest
  have hread := Instant.read_write h
  -- The text of an instant is any text, as far as the string around it goes.
  unfold Json.instant at ht
  generalize i.write = s at ht hread
  cases ht
  rw [Reader.instant_eq, scanText_quote _ hw]
  dsimp only [Except.bind]
  rw [hread]
  rfl

/-- What is read back makes a whole document. -/
theorem document {r : Reader α} {a : α} (h : Reads r v a) (ht : Spells v t) :
    r.document t = .ok a := by
  have hrun := h blank_nil ht []
  rw [List.nil_append, List.append_nil] at hrun
  rw [Reader.document, hrun]
  rfl

/-! ### Arrays -/

section

variable {r : Reader α} {f : β → Json} {g : β → α} {bs : List β}

/-- The last items of an array are read back, up to its closing bracket. -/
theorem items (h : ∀ b ∈ bs, Reads r (f b) (g b)) {first : Bool}
    (hp : SpellsItems first (bs.map f) p) (rest : Text) :
    r.items first (p ++ rest) = .ok (bs.map g, rest) := by
  induction bs generalizing first p with
  | nil =>
      cases hp with
      | nil hw =>
          rw [List.append_assoc]
          exact Reader.items_closed (next_close .array hw rest)
  | cons b bs ih =>
      obtain ⟨hb, hbs⟩ := List.forall_mem_cons.1 h
      rw [List.map_cons] at hp
      cases hp with
      | cons hs hw hv hp =>
          -- The blanks in front of the item are skipped when the next item is looked for.
          have hrun := hb blank_nil hv
          obtain ⟨c, left, rfl, hspace, hclose⟩ := hv.exists_cons
          simp only [List.append_assoc, List.cons_append, List.nil_append] at hrun ⊢
          rw [Reader.items_item (next_item hs hw hspace hclose), hrun]
          dsimp only [Except.bind]
          rw [ih hbs hp]
          rfl

/-- **An array is read back** when its items are. -/
theorem list (h : ∀ b ∈ bs, Reads r (f b) (g b)) :
    Reads r.list (.array (bs.map f)) (bs.map g) := by
  intro w t hw ht rest
  cases ht with
  | array hp =>
      rw [List.cons_append, Reader.list_eq (skipSpace_blank_cons hw (by decide) _), if_pos rfl]
      exact items h hp rest

end

theorem texts (ts : List Text) : Reads (.list .text) (.texts ts) ts := by
  have h : Reads (.list .text) (.texts ts) (ts.map id) := list fun s _ => text s
  rwa [List.map_id] at h

end Reads

/-! ### Objects -/

/-- The members that lead a record from some parts to others: each is given to a reader, which
makes of its value what is added to the parts. -/
inductive Schema.Gathers (s : Schema ρ α) : ρ → List (Text × Json) → ρ → Prop
  | nil {parts : ρ} : s.Gathers parts [] parts
  | cons {parts parts' : ρ} {key : Text} {v : Json} {members : List (Text × Json)}
      {r : Reader (ρ → ρ)} {add : ρ → ρ} (hm : s.member key parts = .ok r) (hr : Reads r v add)
      (h : s.Gathers (add parts) members parts') : s.Gathers parts ((key, v) :: members) parts'

section

variable {s : Schema ρ α} {parts parts' : ρ} {ms : List (Text × Json)}

/-- The last members of an object lead from the parts so far to all of them. -/
theorem Schema.Gathers.members (h : s.Gathers parts ms parts') {first : Bool}
    (hp : SpellsMembers first ms p) (rest : Text) :
    s.members first parts (p ++ rest) = .ok (parts', rest) := by
  induction h generalizing first p with
  | nil =>
      cases hp with
      | nil hw =>
          rw [List.append_assoc]
          exact Schema.members_closed (next_close .object hw rest)
  | cons hm hr _ ih =>
      cases hp with
      | cons hs hw hw' hv hp =>
          simp only [List.append_assoc, quote_append, List.cons_append]
          rw [Schema.members_quote hs hw, scanString_quote]
          dsimp only [Except.bind]
          rw [hm]
          dsimp only [conclude]
          rw [← List.nil_append (':' :: _), scanColon_blank blank_nil]
          dsimp only
          rw [hr hw' hv]
          exact ih hp

/-- **An object is read back** when its members gather the parts of the record. -/
theorem Reads.record {a : α} (h : s.Gathers s.blank ms parts)
    (hfinish : s.finish s.missingMember parts = .ok a) : Reads s.reader (.object ms) a := by
  intro w t hw ht rest
  cases ht with
  | object hp =>
      rw [List.cons_append, Schema.reader_eq (skipSpace_blank_cons hw (by decide) _), if_pos rfl,
        h.members hp]
      dsimp only [Except.bind]
      rw [hfinish]
      rfl

end

/-! ### What can be read -/

theorem exists_of_map_eq_ok {ε : Type} {x : Except ε α} {f : α → β} {b : β}
    (h : x.map f = .ok b) : ∃ a, x = .ok a ∧ f a = b := by
  cases x with
  | error e => cases h
  | ok a => exact ⟨a, rfl, Except.ok.inj h⟩

/-- What a reader makes of any text has a property. -/
def Reader.Yields (r : Reader α) (P : α → Prop) : Prop :=
  ∀ ⦃t rest : Text⦄ ⦃a : α⦄, r.run t = .ok (a, rest) → P a

namespace Reader.Yields

variable {r : Reader α} {P : α → Prop} {Q : β → Prop}

/-- A property of what is read carries over to what is made of it. -/
theorem map {f : α → β} (h : r.Yields P) (hf : ∀ a, P a → Q (f a)) : (r.map f).Yields Q := by
  intro t rest b hb
  obtain ⟨found, hfound, hb⟩ := exists_of_map_eq_ok hb
  obtain ⟨rfl, -⟩ := Prod.mk.inj hb
  exact hf _ (h hfound)

/-- Nothing is said of a value that has no property to keep. -/
theorem any : r.Yields fun _ => True := fun _ _ _ _ => trivial

/-- Only proper instants are read. -/
theorem instant : Reader.instant.Yields Instant.Proper := by
  intro t rest i h
  rw [instant_eq] at h
  obtain ⟨s, -, h⟩ := Instant.exists_of_bind_eq_ok h
  cases hread : Instant.read s.1 with
  | error fault =>
      rw [hread] at h
      cases h
  | ok j =>
      rw [hread] at h
      cases h
      exact Instant.proper_of_read hread

theorem items (h : r.Yields P) {first : Bool} {as : List α}
    (has : r.items first t = .ok (as, rest)) : ∀ a ∈ as, P a := by
  fun_induction Reader.items r first t generalizing as rest with
  | case1 => cases has
  | case2 => cases has; exact List.forall_mem_nil _
  | case3 => cases has
  | case4 first t t' _ a left ha ih =>
      obtain ⟨found, hfound, has⟩ := exists_of_map_eq_ok has
      cases has
      exact List.forall_mem_cons.2 ⟨h ha, ih hfound⟩

/-- **The items of an array** have whatever their reader yields. -/
theorem list (h : r.Yields P) : r.list.Yields fun as => ∀ a ∈ as, P a := by
  intro t rest as has
  unfold Reader.list at has
  dsimp only at has
  split at has
  · exact h.items has
  · cases has

/-- What a reader makes of a whole document has the property too. -/
theorem document {a : α} (h : r.Yields P) (ha : r.document t = .ok a) : P a := by
  unfold Reader.document at ha
  split at ha
  · cases ha
  · rename_i hrun
    split at ha
    · cases ha
      exact h hrun
    · cases ha

end Reader.Yields

/-- A field that keeps a property of the parts. -/
def Field.Keeps (I : ρ → Prop) (f : Field ρ) : Prop :=
  f.read.Yields fun add => ∀ parts, I parts → I (add parts)

/-- A field keeps a property of the parts if setting any value that it yields does. -/
theorem Field.Keeps.part {I : ρ → Prop} {name : String} {get : ρ → Option β} {set : β → ρ → ρ}
    {r : Reader β} {P : β → Prop} (h : r.Yields P)
    (hset : ∀ b parts, P b → I parts → I (set b parts)) : (Field.part name get set r).Keeps I :=
  h.map fun b hb parts => hset b parts hb

namespace Schema

variable {s : Schema ρ α} {I : ρ → Prop} {parts parts' : ρ} {first : Bool}

/-- Members keep what every field keeps; the unknown ones change nothing. -/
theorem members_keep (hs : ∀ f ∈ s.fields, f.Keeps I) (hI : I parts)
    (h : s.members first parts t = .ok (parts', rest)) : I parts' := by
  fun_induction members s first parts t with
  | case1 => cases h
  | case2 => cases h; exact hI
  | case3 => cases h
  | case4 => cases h
  | case5 => cases h
  | case6 => cases h
  | case7 first parts t t' _ key afterKey _ r hm afterColon _ add left hr ih =>
      refine ih ?_ h
      obtain rfl | ⟨f, hf, rfl⟩ := member_cases hm
      · rw [eq_id_of_passOver hr]
        exact hI
      · exact hs f hf hr parts hI

/-- Items keep what every field keeps. -/
theorem items_keep {fields : List (Field ρ)} (hs : ∀ f ∈ fields, f.Keeps I) (hI : I parts)
    (h : items first parts fields t = .ok (parts', rest)) : I parts' := by
  induction fields generalizing first parts t with
  | nil =>
      unfold items at h
      split at h
      · cases h
      · split at h
        · cases h
          exact hI
        · cases h
  | cons f fields ih =>
      obtain ⟨hf, hfields⟩ := List.forall_mem_cons.1 hs
      unfold items at h
      split at h
      · cases h
      · cases h
        exact hI
      · split at h
        · cases h
        · rename_i hr
          exact ih hfields (hf hr parts hI) h

/-- **What a record is made of**: parts that have whatever the fields keep. -/
theorem yields {P : α → Prop} (hs : ∀ f ∈ s.fields, f.Keeps I) (hblank : I s.blank)
    (hfinish : ∀ missing parts a, I parts → s.finish missing parts = .ok a → P a) :
    s.reader.Yields P := by
  intro t rest a h
  unfold reader at h
  dsimp only at h
  split at h
  · split at h
    · cases h
    · rename_i hmembers
      obtain ⟨ha, -⟩ := conclude_eq_ok h
      exact hfinish _ _ _ (members_keep hs hblank hmembers) ha
  · split at h
    · cases h
    · rename_i hitems
      obtain ⟨ha, -⟩ := conclude_eq_ok h
      exact hfinish _ _ _ (items_keep hs hblank hitems) ha
  · cases h

end Schema

/-! ### Documents -/

/-- Whatever `r` reads from a document survives being written, on one line or over several: what is
kept of it is what `r'` reads from its written form, and it is written in the same way again. -/
def Survives (r r' : Reader α) (toJson : α → Json) (kept : α → α) : Prop :=
  ∀ (doc : Text) (a : α), r.document doc = .ok a → ∀ form ∈ [compact, pretty],
    r'.document (form (toJson a)) = .ok (kept a) ∧ toJson (kept a) = toJson a

namespace Survives

variable {r r' : Reader α} {P : α → Prop} {toJson : α → Json} {kept : α → α}

/-- What can be read is read back, and what is kept of it is written in the same way. -/
theorem of_reads (hr : r.Yields P) (hread : ∀ a, P a → Reads r' (toJson a) (kept a))
    (hkept : ∀ a, toJson (kept a) = toJson a) : Survives r r' toJson kept := by
  intro doc a ha form hform
  have hspells : ∀ v, Spells v (form v) := by
    simp only [List.mem_cons, List.not_mem_nil, or_false] at hform
    obtain rfl | rfl := hform
    · exact spells_compact
    · exact spells_pretty
  exact ⟨(hread a (hr.document ha)).document (hspells _), hkept a⟩

/-- **Documents that hold an array** survive being written if its items do. -/
theorem list (hr : r.Yields P) (hread : ∀ a, P a → Reads r' (toJson a) (kept a))
    (hkept : ∀ a, toJson (kept a) = toJson a) :
    Survives r.list r'.list (fun as => .array (as.map toJson)) (List.map kept) := by
  refine of_reads hr.list (fun as has => .list fun a ha => hread a (has a ha)) fun as => ?_
  rw [List.map_map]
  exact congrArg _ (List.map_congr_left fun a _ => hkept a)

end Survives

end DelegatedScopes.Json
