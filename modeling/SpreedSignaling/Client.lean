import Mathlib.Data.List.Count
import Mathlib.Data.List.Nodup

/-!
# The `EtcdClient` record and its listener set

`EtcdClient` holds the compatibility section name, the `atomic.Value` slot with the current
`clientv3.Client`, and the listener set `map[EtcdClientListener]bool` guarded by `mu`. The model
keeps the client type `C` and the listener type `L` abstract; a client handle is compared by
identity, a listener by interface equality, so both only need decidable equality.

What the record does to the outside world, closing a client and calling
`EtcdClientCreated` on a listener, is returned as a list of `Effect`s. A notification is tagged
with the client handle it announces: the one a `load` installed for `notifyListeners`, the
current one for the goroutine `AddListener` starts.

The listener set is a `ListenerSet`, a list that carries its own `Nodup` proof, as the keys of a
Go map are distinct. Go ranges over a map in an unspecified order; the model iterates in list
order, which is one of the orders Go may take. Which listeners are notified, and how often, does
not depend on it; the order of the notifications of one client among the listeners is the
model's (`EtcdClient.loads_spec` states it as a list).
-/

namespace SpreedSignaling

/-! ### The listener set -/

/-- The key set of `EtcdClient.listeners`, duplicate-free by construction. -/
structure ListenerSet (L : Type) where
  toList : List L
  nodup : toList.Nodup

namespace ListenerSet

variable {L : Type}

/-- No listener: a fresh `EtcdClient`, whose map is still `nil`. -/
def empty : ListenerSet L := ⟨[], List.nodup_nil⟩

@[simp]
theorem not_mem_empty (l : L) : l ∉ (empty : ListenerSet L).toList := List.not_mem_nil l

variable [DecidableEq L]

/-- `c.listeners[listener] = true`. -/
def insert (l : L) (s : ListenerSet L) : ListenerSet L := ⟨s.toList.insert l, s.nodup.insert⟩

/-- `delete(c.listeners, listener)`. -/
def erase (l : L) (s : ListenerSet L) : ListenerSet L := ⟨s.toList.erase l, s.nodup.erase l⟩

@[simp]
theorem mem_insert {l l' : L} {s : ListenerSet L} :
    l ∈ (s.insert l').toList ↔ l = l' ∨ l ∈ s.toList := List.mem_insert_iff

@[simp]
theorem mem_erase {l l' : L} {s : ListenerSet L} :
    l ∈ (s.erase l').toList ↔ l ≠ l' ∧ l ∈ s.toList := s.nodup.mem_erase_iff

/-- A listener occurs in the set at most once. -/
theorem count_toList (s : ListenerSet L) (l : L) :
    s.toList.count l = if l ∈ s.toList then 1 else 0 :=
  List.count_eq_of_nodup s.nodup

end ListenerSet

/-! ### The record and its effects -/

/-- `EtcdClient`: `compatSection`, the `client` slot (`none` until the first `Store`) and the
listener set. `mu` only orders the listener operations and is implicit here. -/
structure EtcdClient (C L : Type) where
  compatSection : String
  client : Option C
  listeners : ListenerSet L

/-- What the record does to clients and listeners. -/
inductive Effect (C L : Type) where
  /-- `client.Close()`. -/
  | close (client : C)
  /-- `listener.EtcdClientCreated(c)`, announcing the client handle `client`. -/
  | created (listener : L) (client : C)
  deriving DecidableEq, Repr

namespace EtcdClient

variable {C L E : Type}

/-- `getEtcdClient`: the handle in the slot, `nil` before the first `Store`. -/
def getEtcdClient (c : EtcdClient C L) : Option C := c.client

/-- `IsConfigured`. -/
def isConfigured (c : EtcdClient C L) : Bool := c.getEtcdClient.isSome

/-- `Close`: closes the current client, if there is one, and returns its error. The slot keeps
the closed handle. -/
def close (closeClient : C → Option E) (c : EtcdClient C L) : Option E × List (Effect C L) :=
  match c.getEtcdClient with
  | some client => (closeClient client, [.close client])
  | none => (none, [])

/-- `notifyListeners`, run by the `load` that installed `client`: every registered listener is
told once. -/
def notifyListeners (c : EtcdClient C L) (client : C) : List (Effect C L) :=
  c.listeners.toList.map (Effect.created · client)

section Listeners

variable [DecidableEq L]

/-- `AddListener`: register `l`, and if a client is already there, start a goroutine that
tells `l` about it. -/
def addListener (l : L) (c : EtcdClient C L) : EtcdClient C L × List (Effect C L) :=
  ({ c with listeners := c.listeners.insert l },
    match c.getEtcdClient with
    | some client => [.created l client]
    | none => [])

/-- `RemoveListener`. -/
def removeListener (l : L) (c : EtcdClient C L) : EtcdClient C L :=
  { c with listeners := c.listeners.erase l }

@[simp]
theorem addListener_client (l : L) (c : EtcdClient C L) : (c.addListener l).1.client = c.client :=
  rfl

end Listeners

/-- The last steps of a successful `load` (lines 143-150 of `etcd_client.go`): close the
previous client, store the new one in the slot, notify the listeners. -/
def replaceClient (c : EtcdClient C L) (client : C) : EtcdClient C L × List (Effect C L) :=
  ({ c with client := some client },
    (match c.getEtcdClient with
      | some prev => [Effect.close prev]
      | none => []) ++ c.notifyListeners client)

@[simp]
theorem count_notifyListeners [DecidableEq C] [DecidableEq L] (c : EtcdClient C L)
    (client client' : C) (l : L) :
    (c.notifyListeners client).count (.created l client') =
      if l ∈ c.listeners.toList ∧ client = client' then 1 else 0 := by
  by_cases hc : client = client'
  · subst hc
    rw [notifyListeners, List.count_map_of_injective _ (Effect.created · client)
      (fun _ _ h => by injection h), ListenerSet.count_toList]
    simp
  · rw [if_neg (fun h => hc h.2), List.count_eq_zero]
    simp [notifyListeners, hc]

@[simp]
theorem close_not_mem_notifyListeners (c : EtcdClient C L) (client prev : C) :
    Effect.close prev ∉ c.notifyListeners client := by
  simp [notifyListeners]

@[simp]
theorem close_not_mem_addListener [DecidableEq L] (c : EtcdClient C L) (l : L) (prev : C) :
    Effect.close prev ∉ (c.addListener l).2 := by
  unfold addListener
  cases c.getEtcdClient <;> simp

@[simp]
theorem count_close_notifyListeners [DecidableEq C] [DecidableEq L] (c : EtcdClient C L)
    (client prev : C) : (c.notifyListeners client).count (.close prev) = 0 :=
  List.count_eq_zero.mpr (close_not_mem_notifyListeners c client prev)

/-- `replaceClient` closes the previous client, once, and no other. -/
theorem count_close_replaceClient [DecidableEq C] [DecidableEq L] (c : EtcdClient C L)
    (client prev : C) :
    (c.replaceClient client).2.count (.close prev) = if c.client = some prev then 1 else 0 := by
  rw [replaceClient, List.count_append, count_close_notifyListeners]
  cases h : c.client with
  | none => simp [getEtcdClient, h]
  | some p => by_cases hp : p = prev <;> simp [getEtcdClient, h, hp, List.count_singleton']

/-- `replaceClient` tells every registered listener once about the new client, and nothing
else. -/
theorem count_created_replaceClient [DecidableEq C] [DecidableEq L] (c : EtcdClient C L)
    (client client' : C) (l : L) :
    (c.replaceClient client).2.count (.created l client') =
      if l ∈ c.listeners.toList ∧ client = client' then 1 else 0 := by
  rw [replaceClient, List.count_append, count_notifyListeners]
  cases c.getEtcdClient <;> simp [List.count_singleton']

end EtcdClient

end SpreedSignaling
