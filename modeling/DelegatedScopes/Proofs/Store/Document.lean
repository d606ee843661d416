import DelegatedScopes.Proofs.Client.Token
import DelegatedScopes.Proofs.Json.Roundtrip
import DelegatedScopes.Role.Document
import DelegatedScopes.Store.Document

/-!
# The store — documents that are written and read again

A role or a client that was read holds instants that there are, since every instant in it was read,
or is the one at which the document was read.  Such a record is read back from what is written of
it, but for the token of a client, which is not written.  When it is read back does not matter,
because the token is all that is left out, and what stands in for it is empty.

* `Role.yields_reader`, `Client.yields_reader`: what can be read.
* `Role.reads_toJson`, `Client.reads_toJson`: what is read back.
* `documents_survive`: a document that is read, written and read again.
-/

namespace DelegatedScopes

open Json (Code Reads Survives required)

/-! ### Parts -/

theorem exists_of_required {α β : Type} {missing : Code} {part : Option α}
    {f : α → Except Code β} {b : β} (h : required missing part >>= f = .ok b) :
    ∃ a, part = some a ∧ f a = .ok b := by
  cases part with
  | none => cases h
  | some a => exact ⟨a, rfl, h⟩

/-- What is there, or else stands in for it. -/
theorem getD_of_forall {α : Type} {P : α → Prop} {part : Option α} {a : α}
    (h : ∀ b ∈ part, P b) (ha : P a) : P (part.getD a) := by
  cases part with
  | none => exact ha
  | some b => exact h b rfl

/-! ### Roles -/

namespace RoleDetails

/-- The details hold instants that there are. -/
structure Proper (d : RoleDetails) : Prop where
  created : d.created.Proper
  lastModified : d.lastModified.Proper

/-- The parts that are there hold instants that there are. -/
structure Parts.Proper (p : Parts) : Prop where
  created : ∀ i ∈ p.created, i.Proper
  lastModified : ∀ i ∈ p.lastModified, i.Proper

/-- Every instant of the parts was read. -/
theorem keeps_schema : ∀ f ∈ schema.fields, f.Keeps Parts.Proper := by
  intro f hf
  simp only [schema, List.mem_cons, List.not_mem_nil, or_false] at hf
  obtain rfl | rfl := hf
  · exact .part .instant fun i p hi hp => { hp with created := by simpa using hi }
  · exact .part .instant fun i p hi hp =>
      { hp with lastModified := by simpa using hi }

/-- The details that are read hold instants that there are. -/
theorem yields_reader : schema.reader.Yields Proper := by
  refine Json.Schema.yields keeps_schema ⟨by simp [schema], by simp [schema]⟩ ?_
  intro missing p d hp h
  obtain ⟨created, hcreated, h⟩ := exists_of_required h
  obtain ⟨lastModified, hlastModified, h⟩ := exists_of_required h
  cases h
  exact ⟨hp.created _ hcreated, hp.lastModified _ hlastModified⟩

/-- Details are read back from their members. -/
theorem reads_members {d : RoleDetails} (h : d.Proper) :
    Reads schema.reader (.object d.members) d :=
  .record (.cons rfl (Reads.instant h.created).part
    (.cons rfl (Reads.instant h.lastModified).part .nil)) rfl

end RoleDetails

namespace Role

variable {now : Instant}

theorem keeps_schema (now : Instant) :
    ∀ f ∈ (schema now).fields, f.Keeps fun p => ∀ d ∈ p.details, d.Proper := by
  intro f hf
  simp only [schema, List.mem_cons, List.not_mem_nil, or_false] at hf
  obtain rfl | rfl | rfl | rfl := hf
  · exact .part .any fun _ _ _ hp => hp
  · exact .part .any fun _ _ _ hp => hp
  · exact .part .any fun _ _ _ hp => hp
  · exact .part RoleDetails.yields_reader fun d _ hd _ => by simpa using hd

/-- A role that is read holds instants that there are, if it is read at one. -/
theorem yields_reader (hnow : now.Proper) : (reader now).Yields fun r => r.details.Proper := by
  refine Json.Schema.yields (keeps_schema now) (by simp [schema]) ?_
  intro missing p r hp h
  obtain ⟨id, -, h⟩ := exists_of_required h
  obtain ⟨scopes, -, h⟩ := exists_of_required h
  cases h
  exact getD_of_forall hp ⟨hnow, hnow⟩

/-- **A role is read back from what is written of it.** -/
theorem reads_toJson {r : Role} (h : r.details.Proper) (later : Instant) :
    Reads (reader later) r.toJson r :=
  .record (.cons rfl (Reads.text r.id).part (.cons rfl (Reads.texts r.scopes).part
    (.cons rfl (Reads.text r.description).part
      (.cons rfl (RoleDetails.reads_members h).part .nil)))) rfl

end Role

/-! ### Clients -/

namespace ClientDetails

/-- The details hold instants that there are. -/
structure Proper (d : ClientDetails) : Prop where
  created : d.created.Proper
  lastModified : d.lastModified.Proper
  lastUsed : d.lastUsed.Proper
  lastRotated : d.lastRotated.Proper

/-- The parts that are there hold instants that there are. -/
structure Parts.Proper (p : Parts) : Prop where
  created : ∀ i ∈ p.created, i.Proper
  lastModified : ∀ i ∈ p.lastModified, i.Proper
  lastUsed : ∀ i ∈ p.lastUsed, i.Proper
  lastRotated : ∀ i ∈ p.lastRotated, i.Proper

/-- Every instant of the parts was read. -/
theorem keeps_schema : ∀ f ∈ schema.fields, f.Keeps Parts.Proper := by
  intro f hf
  simp only [schema, List.mem_cons, List.not_mem_nil, or_false] at hf
  obtain rfl | rfl | rfl | rfl := hf
  · exact .part .instant fun i p hi hp => { hp with created := by simpa using hi }
  · exact .part .instant fun i p hi hp => { hp with lastModified := by simpa using hi }
  · exact .part .instant fun i p hi hp => { hp with lastUsed := by simpa using hi }
  · exact .part .instant fun i p hi hp => { hp with lastRotated := by simpa using hi }

/-- The details that are read hold instants that there are. -/
theorem yields_reader : schema.reader.Yields Proper := by
  refine Json.Schema.yields keeps_schema
    ⟨by simp [schema], by simp [schema], by simp [schema], by simp [schema]⟩ ?_
  intro missing p d hp h
  obtain ⟨created, hcreated, h⟩ := exists_of_required h
  obtain ⟨lastModified, hlastModified, h⟩ := exists_of_required h
  obtain ⟨lastUsed, hlastUsed, h⟩ := exists_of_required h
  obtain ⟨lastRotated, hlastRotated, h⟩ := exists_of_required h
  cases h
  exact ⟨hp.created _ hcreated, hp.lastModified _ hlastModified, hp.lastUsed _ hlastUsed,
    hp.lastRotated _ hlastRotated⟩

/-- Details are read back from their members. -/
theorem reads_members {d : ClientDetails} (h : d.Proper) :
    Reads schema.reader (.object d.members) d :=
  .record (.cons rfl (Reads.instant h.created).part
    (.cons rfl (Reads.instant h.lastModified).part (.cons rfl (Reads.instant h.lastUsed).part
      (.cons rfl (Reads.instant h.lastRotated).part .nil)))) rfl

end ClientDetails

namespace Client

variable {now : Instant}

/-- The client holds instants that there are. -/
structure Proper (c : Client) : Prop where
  expires : c.expires.Proper
  details : c.details.Proper

/-- The parts that are there hold instants that there are. -/
structure Parts.Proper (p : Parts) : Prop where
  expires : ∀ i ∈ p.expires, i.Proper
  details : ∀ d ∈ p.details, d.Proper

theorem keeps_schema (now : Instant) : ∀ f ∈ (schema now).fields, f.Keeps Parts.Proper := by
  intro f hf
  simp only [schema, List.mem_cons, List.not_mem_nil, or_false] at hf
  obtain rfl | rfl | rfl | rfl | rfl | rfl | rfl := hf
  · exact .part .any fun _ _ _ hp => { hp with }
  · exact .part .any fun _ _ _ hp => { hp with }
  · exact .part .any fun _ _ _ hp => { hp with }
  · exact .part .instant fun i p hi hp => { hp with expires := by simpa using hi }
  · exact .part .any fun _ _ _ hp => { hp with }
  · exact .part .any fun _ _ _ hp => { hp with }
  · exact .part ClientDetails.yields_reader fun d p hd hp =>
      { hp with details := by simpa using hd }

/-- A client that is read holds instants that there are, if it is read at one. -/
theorem yields_reader (hnow : now.Proper) : (reader now).Yields Proper := by
  refine Json.Schema.yields (keeps_schema now) ⟨by simp [schema], by simp [schema]⟩ ?_
  intro missing p c hp h
  obtain ⟨id, -, h⟩ := exists_of_required h
  obtain ⟨expires, hexpires, h⟩ := exists_of_required h
  cases h
  exact ⟨hp.expires _ hexpires, getD_of_forall hp.details ⟨hnow, hnow, hnow, hnow⟩⟩

/-- **A client is read back from what is written of it**, but for its token. -/
theorem reads_toJson {c : Client} (h : c.Proper) (later : Instant) :
    Reads (reader later) c.toJson c.tokenless :=
  .record (.cons rfl (Reads.text c.id).part (.cons rfl (Reads.text c.description).part
    (.cons rfl (Reads.instant h.expires).part (.cons rfl (Reads.texts c.scopes).part
      (.cons rfl (Reads.flag c.disabled).part
        (.cons rfl (ClientDetails.reads_members h.details).part .nil)))))) rfl

end Client

/-! ### Documents -/

/-- **Documents survive being written and read back**, with a role or a client in them, or an array
of roles or of clients.  Only the tokens of clients do not.  A clock tells the instant at which a
document is read, so it is one that there is. -/
theorem documents_survive {now : Instant} (hnow : now.Proper) (later : Instant) :
    Survives (Role.reader now) (Role.reader later) Role.toJson id ∧
      Survives (Client.reader now) (Client.reader later) Client.toJson Client.tokenless ∧
      Survives (Role.reader now).list (Role.reader later).list
        (fun roles => .array (roles.map Role.toJson)) id ∧
      Survives (Client.reader now).list (Client.reader later).list
        (fun clients => .array (clients.map Client.toJson)) (List.map Client.tokenless) := by
  have hrole : ∀ r : Role, r.details.Proper → Reads (Role.reader later) r.toJson r :=
    fun r hr => Role.reads_toJson hr later
  have hclient : ∀ c : Client, c.Proper → Reads (Client.reader later) c.toJson c.tokenless :=
    fun c hc => Client.reads_toJson hc later
  have htoken : ∀ c : Client, c.tokenless.toJson = c.toJson := fun c => Client.toJson_eq rfl
  refine ⟨.of_reads (Role.yields_reader hnow) hrole fun _ => rfl,
    .of_reads (Client.yields_reader hnow) hclient htoken, ?_,
    .list (Client.yields_reader hnow) hclient htoken⟩
  rw [← List.map_id_fun]
  exact .list (Role.yields_reader hnow) hrole fun _ => rfl

/-- A client as an array: with escapes, a year of five digits, a leap second at an offset, and no
details. -/
def scribeDocument : Text :=
  "[\"a\\u0001\\/\\\"é\", \"\\n\",\"t\" ,".toList ++
    "\"+12345-6-30 22:59:60.1234567891 -01:00\",[\"x*\"]]".toList

/-- The client of the document, read at the start of 1970. -/
def scribe : Client where
  id := "a\x01/\"é".toList
  description := "\n".toList
  accessToken := "t".toList
  expires := ⟨327419020799, 1123456789⟩
  scopes := ["x*".toList]
  disabled := false
  details := .new ⟨0, 0⟩

/-- The scribe survives, read a second later; the token does not. -/
theorem documents_survive_scribe :
    (⟨0, 0⟩ : Instant).Proper ∧ (Client.reader ⟨0, 0⟩).document scribeDocument = .ok scribe ∧
      (Client.reader ⟨1, 0⟩).document scribe.toJson.pretty = .ok scribe.tokenless ∧
      scribe.tokenless.toJson = scribe.toJson ∧ scribe.tokenless ≠ scribe := by
  have hnow : (⟨0, 0⟩ : Instant).Proper := ⟨by decide, by decide, by decide⟩
  have hread : (Client.reader ⟨0, 0⟩).document scribeDocument = .ok scribe := by decide +kernel
  obtain ⟨-, hclient, -⟩ := documents_survive hnow ⟨1, 0⟩
  obtain ⟨hback, hform⟩ := hclient scribeDocument scribe hread Json.pretty (by simp)
  exact ⟨hnow, hread, hback, hform, by decide⟩

end DelegatedScopes
