import DelegatedScopes.Proofs.Store.Contents
import Mathlib.Data.List.Permutation

/-!
# The store — changes that go untold

A store does not wait for room in the channel of its subscriber.  A change that finds the channel
full is dropped, on the ground that a full channel has changes in it that will be acted on.  They
need not be of the same kind: whoever takes them reads the other kind of record again, and does not
hear of this one.

* `Store.Exchange`, `Store.after`: a store and its subscriber, in any order.
* `Store.Subscribed`: the newest channel is open, and never holds more than it has room for.
* `Store.told_iff`: a change goes untold just when the channel is full of changes of the other kind.
* `Store.client_untold`: and that happens.
-/

namespace DelegatedScopes

/-- The other kind of record. -/
def Change.other : Change → Change
  | .roles => .clients
  | .clients => .roles

theorem Change.eq_other_iff {k l : Change} : l = k.other ↔ l ≠ k := by
  cases k <;> cases l <;> decide

/-- The kind of record that an edit is about, if it is about records at all. -/
def Edit.kind? : Edit → Option Change
  | .putRole _ | .deleteRole _ => some .roles
  | .putClient _ | .deleteClient _ => some .clients
  | .touch _ _ | .setUnavailable _ => none

namespace Store

variable {s : Store} {c room : Nat} {k : Change} {history : List Exchange}

/-- An edit announces its own kind of record only. -/
theorem kind?_of_announced {change : Edit} (h : s.announced change = some k) :
    change.kind? = some k := by
  cases change with
  | deleteRole id | deleteClient id =>
      simp only [announced, Option.ite_none_right_eq_some] at h
      exact h.2
  | _ => exact h

/-! ### A store and its subscriber -/

/-- What goes on between a store and whoever subscribed: the store is edited, or the oldest change
is taken from the channel. -/
inductive Exchange
  | edit (change : Edit)
  | receive

/-- The store after that.  Where nothing waits, nothing is taken. -/
def exchanged (c : Nat) (s : Store) : Exchange → Store
  | .edit change => s.edited change
  | .receive => ((s.receive? c).map Prod.snd).getD s

/-- The store after one thing and the other. -/
def after (c : Nat) (s : Store) (history : List Exchange) : Store :=
  history.foldl (exchanged c) s

/-- A channel is the newest one, its receiving end is there, and it holds no more than it has room
for. -/
structure Subscribed (s : Store) (c room : Nat) : Prop where
  isFed : s.isFed c = true
  channel : s.channels[c]? = some ⟨room, s.waiting c, true⟩
  le : (s.waiting c).length ≤ room

theorem waiting_of_channel {ch : Channel} (h : s.channels[c]? = some ch) :
    s.waiting c = ch.waiting := by
  rw [waiting, h]
  rfl

/-- Whoever subscribes gets an empty channel. -/
theorem subscribed_of_subscribe {subscribed : Store} {capacity : Nat}
    (h : s.subscribe capacity = (c, subscribed)) :
    subscribed.Subscribed c (max capacity 1) ∧ subscribed.waiting c = [] := by
  cases h
  have hch : (s.channels.push (.new capacity))[s.channels.size]? = some (.new capacity) :=
    Array.getElem?_push_size
  have hnil : ({ s with channels := s.channels.push (.new capacity) } : Store).waiting
      s.channels.size = [] := (waiting_of_channel hch).trans rfl
  refine ⟨⟨?_, ?_, ?_⟩, hnil⟩
  · simp [Store.isFed]
  · rw [hnil]
    exact hch
  · rw [hnil]
    exact Nat.zero_le _

namespace Subscribed

/-- **What an edit does to the channel**: what it announces is added, if there is room. -/
theorem channel_edited (h : s.Subscribed c room) (change : Edit) :
    (s.edited change).channels[c]? = some ⟨room, s.waiting c ++
      (if (s.waiting c).length < room then (s.announced change).toList else []), true⟩ := by
  have hlast : s.channels.size - 1 = c := by
    have hfed := h.isFed
    simp only [Store.isFed, beq_iff_eq] at hfed
    omega
  rw [channels_edited]
  cases s.announced change with
  | none => simp [h.channel]
  | some k =>
      rw [Option.elim_some, Array.getElem?_modify, if_pos hlast, h.channel, Option.map_some,
        Channel.send]
      by_cases hroom : (s.waiting c).length < room <;> simp [hroom]

/-- An edit is told where there is room, and its news waits behind the others. -/
theorem waiting_edited (h : s.Subscribed c room) (change : Edit) :
    (s.edited change).waiting c = s.waiting c ++
      if (s.waiting c).length < room then (s.announced change).toList else [] :=
  waiting_of_channel (h.channel_edited change)

/-- An edit leaves the channel open and no fuller than its room. -/
theorem edited (h : s.Subscribed c room) (change : Edit) :
    (s.edited change).Subscribed c room where
  isFed := by
    have hsize : (s.edited change).channels.size = s.channels.size := by
      rw [channels_edited]
      cases s.announced change with
      | none => rfl
      | some k => exact Array.size_modify
    rw [Store.isFed, hsize]
    exact h.isFed
  channel := by rw [h.waiting_edited, h.channel_edited]
  le := by
    have hle := h.le
    rw [h.waiting_edited, List.length_append]
    cases s.announced change <;> split <;> simp <;> omega

/-- Whoever takes a change takes the oldest one. -/
theorem waiting_received (h : s.Subscribed c room) :
    (exchanged c s .receive).waiting c = (s.waiting c).tail ∧
      (exchanged c s .receive).Subscribed c room := by
  rw [exchanged]
  cases hr : s.receive? c with
  | none =>
      have hnil : s.waiting c = [] := by
        rw [receive?, h.channel] at hr
        cases hw : s.waiting c with
        | nil => rfl
        | cons head rest => simp [Channel.receive?, hw] at hr
      exact ⟨by simp [hnil], h⟩
  | some found =>
      obtain ⟨change, s'⟩ := found
      obtain ⟨ch, rest, hch, hw, rfl⟩ := receive?_eq_some hr
      obtain rfl := Option.some.inj (h.channel.symm.trans hch)
      have hch' : (s.onChannel c fun _ => ⟨room, rest, true⟩).channels[c]? =
          some ⟨room, rest, true⟩ := by
        rw [onChannel, Array.getElem?_modify, if_pos rfl, h.channel]
        rfl
      have hrest := waiting_of_channel hch'
      have hle := h.le
      dsimp only at hw
      rw [hw] at hle ⊢
      refine ⟨hrest, ⟨?_, ?_, ?_⟩⟩
      · have hsize : (s.onChannel c fun _ => ⟨room, rest, true⟩).channels.size =
            s.channels.size := Array.size_modify
        exact (congrArg (c + 1 == ·) hsize).trans h.isFed
      · exact hrest ▸ hch'
      · exact hrest ▸ Nat.le_of_succ_le hle

theorem exchanged (h : s.Subscribed c room) (x : Exchange) :
    (exchanged c s x).Subscribed c room := by
  cases x with
  | edit change => exact h.edited change
  | receive => exact h.waiting_received.2

/-- **A channel stays open, and no fuller than its room**, whatever is edited and received. -/
theorem after (h : s.Subscribed c room) (history : List Exchange) :
    (after c s history).Subscribed c room := by
  induction history generalizing s with
  | nil => exact h
  | cons x history ih => exact ih (h.exchanged x)

/-- Whatever waits was announced by an edit, or waited at the start. -/
theorem mem_waiting_after (h : s.Subscribed c room) (hk : k ∈ (Store.after c s history).waiting c) :
    k ∈ s.waiting c ∨ ∃ change, .edit change ∈ history ∧ change.kind? = some k := by
  induction history generalizing s with
  | nil => exact Or.inl hk
  | cons x history ih =>
      rcases ih (h.exchanged x) hk with hwait | ⟨change, hmem, hkind⟩
      · cases x with
        | edit change =>
            rw [Store.exchanged, h.waiting_edited, List.mem_append] at hwait
            refine hwait.imp_right fun hnew => ⟨change, List.mem_cons_self, ?_⟩
            split at hnew
            · exact kind?_of_announced (Option.mem_toList.1 hnew)
            · cases hnew
        | receive =>
            rw [h.waiting_received.1] at hwait
            exact Or.inl (List.mem_of_mem_tail hwait)
      · exact Or.inr ⟨change, List.mem_cons_of_mem _ hmem, hkind⟩

/-- An edit is told unless the channel is full of changes of the other kind. -/
theorem mem_waiting_edited_iff (h : s.Subscribed c room) {change : Edit}
    (hk : s.announced change = some k) :
    k ∈ (s.edited change).waiting c ↔ s.waiting c ≠ List.replicate room k.other := by
  rw [h.waiting_edited, hk, Option.toList_some]
  by_cases hroom : (s.waiting c).length < room
  · have hne : s.waiting c ≠ List.replicate room k.other := fun heq => by
      rw [heq, List.length_replicate] at hroom
      exact Nat.lt_irrefl room hroom
    simp [hroom, hne]
  · -- nothing is added to a full channel, so the kind waits if it has waited before
    have hlen : (s.waiting c).length = room := Nat.le_antisymm h.le (Nat.le_of_not_lt hroom)
    rw [if_neg hroom, List.append_nil, ne_eq, List.eq_replicate_iff, hlen]
    simp only [true_and, Change.eq_other_iff]
    exact ⟨fun hmem hall => hall k hmem rfl, fun hall => Decidable.byContradiction
      fun hmem => hall fun l hl hlk => hmem (hlk ▸ hl)⟩

end Subscribed

/-! ### What is told -/

/-- **A change goes untold just when the channel is full of changes of the other kind.**  Let
somebody subscribe to a store, with whatever capacity, and let the store be edited and changes be
taken from the channel in any order.  After an edit that announces a change, a change of that kind
waits in the channel, unless before the edit as many changes as there was room for were waiting and
all were of the other kind.  Something waits in any case; and as long as nothing of the other kind
was edited, what was announced does. -/
theorem told_iff {subscribed : Store} {capacity : Nat} (hs : s.subscribe capacity = (c, subscribed))
    (history : List Exchange) {change : Edit}
    (hk : (after c subscribed history).announced change = some k) :
    (k ∈ ((after c subscribed history).edited change).waiting c ↔
      (after c subscribed history).waiting c ≠ List.replicate (max capacity 1) k.other) ∧
    ((after c subscribed history).edited change).waiting c ≠ [] ∧
    ((∀ e, .edit e ∈ history → e.kind? ≠ some k.other) →
      k ∈ ((after c subscribed history).edited change).waiting c) := by
  obtain ⟨hstart, hempty⟩ := subscribed_of_subscribe hs
  have hsub := hstart.after history
  have hiff := hsub.mem_waiting_edited_iff hk
  have hroom : max capacity 1 ≠ 0 := Nat.ne_of_gt (Nat.le_max_right capacity 1)
  refine ⟨hiff, fun hnil => ?_, fun hother => hiff.2 fun hfull => ?_⟩
  · have hbefore : (after c subscribed history).waiting c = [] := by
      rw [hsub.waiting_edited, List.append_eq_nil_iff] at hnil
      exact hnil.1
    rw [hnil, hbefore] at hiff
    have hfull := Decidable.not_not.1 (mt hiff.2 List.not_mem_nil)
    exact hroom (List.replicate_eq_nil_iff _ |>.1 hfull.symm)
  · -- a channel full of the other kind has some of it, which an edit has announced
    have hmem : k.other ∈ (after c subscribed history).waiting c := by
      rw [hfull]
      exact List.mem_replicate.2 ⟨hroom, rfl⟩
    rcases hstart.mem_waiting_after hmem with hwait | ⟨e, he, hkind⟩
    · rw [hempty] at hwait
      cases hwait
    · exact hother e he hkind

/-! ### A client that nobody hears of -/

/-- An empty store, with a channel that has room for two changes. -/
def quietStore : Store := ((ofEntries [] []).subscribe 2).2

/-- A desk and a hall are put into it. -/
def deskAndHall : List Exchange :=
  [.edit (.putRole (.plain "desk".toList [] ⟨0, 0⟩)),
    .edit (.putRole (.plain "hall".toList [] ⟨0, 0⟩))]

/-- Then comes a client. -/
def newcomer : Client := ⟨"ci".toList, [], [], ⟨86400, 0⟩, [], false, .new ⟨0, 0⟩⟩

/-- The client is in the store, and the channel tells of roles only. -/
theorem client_untold :
    (ofEntries [] []).subscribe 2 = (0, quietStore) ∧
    (after 0 quietStore deskAndHall).announced (.putClient newcomer) = some .clients ∧
    ((after 0 quietStore deskAndHall).edited (.putClient newcomer)).client? "ci".toList =
      some newcomer ∧
    ((after 0 quietStore deskAndHall).edited (.putClient newcomer)).waiting 0 =
      [.roles, .roles] ∧
    .clients ∉ ((after 0 quietStore deskAndHall).edited (.putClient newcomer)).waiting 0 := by
  have hwait : ((after 0 quietStore deskAndHall).edited (.putClient newcomer)).waiting 0 =
      [.roles, .roles] := by decide +kernel
  exact ⟨rfl, rfl, by decide +kernel, hwait, by rw [hwait]; decide⟩

/-- If one change is taken first, there is room for the client. -/
theorem told_iff_newcomer :
    (ofEntries [] []).subscribe 2 = (0, quietStore) ∧
    (after 0 quietStore (deskAndHall ++ [.receive])).announced (.putClient newcomer) =
      some .clients ∧
    .clients ∈ ((after 0 quietStore (deskAndHall ++ [.receive])).edited
      (.putClient newcomer)).waiting 0 := by
  have hs : (ofEntries [] []).subscribe 2 = (0, quietStore) := rfl
  have hk : (after 0 quietStore (deskAndHall ++ [.receive])).announced (.putClient newcomer) =
      some .clients := rfl
  have hone : (after 0 quietStore (deskAndHall ++ [.receive])).waiting 0 = [.roles] := by
    decide +kernel
  obtain ⟨hiff, -⟩ := told_iff hs (deskAndHall ++ [.receive]) hk
  exact ⟨hs, hk, hiff.2 (by rw [hone]; decide)⟩

end Store
end DelegatedScopes
