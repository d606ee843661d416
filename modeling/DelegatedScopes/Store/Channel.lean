/-!
# The store — channels of changes

Whoever subscribes to a store is told what kind of record has changed, through a channel of limited
capacity.  Nobody waits for room: a change that finds its channel full is dropped.

* `Channel.send`, `Channel.receive?`: the two ends of a channel.
-/

namespace DelegatedScopes

/-- The kind of record that changed. -/
inductive Change
  | roles
  | clients
deriving DecidableEq

/-- A channel: what waits in it, the oldest first, how much may wait, and whether the end that
takes it out is still there. -/
structure Channel where
  capacity : Nat
  waiting : List Change
  isOpen : Bool
deriving DecidableEq

namespace Channel

/-- A new channel.  It holds at least one change. -/
def new (capacity : Nat) : Channel := ⟨max capacity 1, [], true⟩

/-- Sends a change, unless the channel is full or nobody receives from it. -/
def send (c : Channel) (change : Change) : Channel :=
  if c.isOpen ∧ c.waiting.length < c.capacity then { c with waiting := c.waiting ++ [change] }
  else c

/-- Takes the oldest change. -/
def receive? (c : Channel) : Option (Change × Channel) :=
  match c.waiting with
  | [] => none
  | change :: rest => some (change, { c with waiting := rest })

/-- Gives up receiving: what waits is lost. -/
def close (c : Channel) : Channel := { c with waiting := [], isOpen := false }

end Channel

end DelegatedScopes
