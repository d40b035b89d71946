import Mathlib.Data.List.Basic

/-!
# `EtcdClient.Watch`

`Watch(ctx, key, watcher)` opens a leader-required watch on `key`, calls `EtcdWatchCreated`,
then relays the responses of the watch channel: a Put event becomes `EtcdKeyUpdated(key, value)`,
a Delete event `EtcdKeyDeleted(key)`, any other type is logged and dropped. The first response
whose `Err()` is set ends `Watch` with that error; a channel that closes ends it with `nil`.

The channel is modelled by the finite list of responses it delivers before it closes. The
key and value types are abstract: `string(ev.Kv.Key)` keeps the bytes of the key, so the model
uses one key type `K` for the watched key, the event keys and the callback arguments. An event
type is the protobuf enum value `ev.Type`.

`watch_eq_relayed` states what `Watch` does in the terms of its contract: the callbacks are
`EtcdWatchCreated(key)` and then the relayed events of the responses before the first error,
in order, and the result is the first error.
-/

namespace SpreedSignaling

/-- `mvccpb.PUT`, which `clientv3.EventTypePut` names. -/
def eventTypePut : Int := 0

/-- `mvccpb.DELETE`, which `clientv3.EventTypeDelete` names. -/
def eventTypeDelete : Int := 1

/-- `mvccpb.KeyValue`, the fields `Watch` reads. -/
structure KeyValue (K V : Type) where
  key : K
  value : V

/-- `clientv3.Event`: its type and key-value pair. -/
structure Event (K V : Type) where
  type : Int
  kv : KeyValue K V

/-- `clientv3.WatchResponse`: the result of `Err()` and the `Events`. -/
structure WatchResponse (E K V : Type) where
  err : Option E
  events : List (Event K V)

/-- The calls `Watch` makes on its `EtcdClientWatcher`. -/
inductive WatchCallback (K V : Type) where
  /-- `EtcdWatchCreated(c, key)`. -/
  | watchCreated (key : K)
  /-- `EtcdKeyUpdated(c, key, value)`. -/
  | keyUpdated (key : K) (value : V)
  /-- `EtcdKeyDeleted(c, key)`. -/
  | keyDeleted (key : K)
  deriving DecidableEq, Repr

variable {E K V : Type}

/-! ### The loops of `Watch` -/

/-- The `switch ev.Type` of `Watch`: the callback for one event. -/
def dispatch (ev : Event K V) : List (WatchCallback K V) :=
  if ev.type = eventTypePut then [.keyUpdated ev.kv.key ev.kv.value]
  else if ev.type = eventTypeDelete then [.keyDeleted ev.kv.key]
  else []

/-- The loop over the channel, given the callbacks made so far: the callbacks made in the end
and the error returned. -/
def watchLoop (callbacks : List (WatchCallback K V)) :
    List (WatchResponse E K V) → List (WatchCallback K V) × Option E
  | [] => (callbacks, none)
  | response :: rest =>
    match response.err with
    | some err => (callbacks, some err)
    | none => watchLoop (response.events.foldl (fun cbs ev => cbs ++ dispatch ev) callbacks) rest

/-- `Watch` on a channel that delivers `responses` and closes. -/
def watch (key : K) (responses : List (WatchResponse E K V)) :
    List (WatchCallback K V) × Option E :=
  watchLoop [.watchCreated key] responses

/-! ### The contract of `Watch` -/

/-- The callback the contract of `Watch` prescribes for an event: an update with key and value
for a Put, a deletion with the key for a Delete, nothing for another type. -/
def relayEvent (ev : Event K V) : Option (WatchCallback K V) :=
  if ev.type = eventTypePut then some (.keyUpdated ev.kv.key ev.kv.value)
  else if ev.type = eventTypeDelete then some (.keyDeleted ev.kv.key)
  else none

/-- The relayed events: those of the responses before the first error, in order. -/
def relayed (responses : List (WatchResponse E K V)) : List (WatchCallback K V) :=
  ((responses.takeWhile (·.err.isNone)).flatMap (·.events)).filterMap relayEvent

/-- The error of the first response that has one. -/
def firstError (responses : List (WatchResponse E K V)) : Option E :=
  (responses.find? (·.err.isSome)).bind (·.err)

theorem dispatch_eq (ev : Event K V) : dispatch ev = (relayEvent ev).toList := by
  unfold dispatch relayEvent
  split_ifs <;> rfl

theorem foldl_dispatch (evs : List (Event K V)) (callbacks : List (WatchCallback K V)) :
    evs.foldl (fun cbs ev => cbs ++ dispatch ev) callbacks =
      callbacks ++ evs.filterMap relayEvent := by
  induction evs generalizing callbacks with
  | nil => simp
  | cons ev evs ih =>
    rw [List.foldl_cons, ih, dispatch_eq, List.filterMap_cons]
    cases relayEvent ev <;> simp

theorem watchLoop_eq (callbacks : List (WatchCallback K V))
    (responses : List (WatchResponse E K V)) :
    watchLoop callbacks responses = (callbacks ++ relayed responses, firstError responses) := by
  induction responses generalizing callbacks with
  | nil => simp [watchLoop, relayed, firstError]
  | cons response rest ih =>
    cases h : response.err with
    | some err => simp [watchLoop, relayed, firstError, h]
    | none =>
      simp only [watchLoop, h, ih, foldl_dispatch, List.append_assoc]
      simp [relayed, firstError, h, List.filterMap_append]

/-- **`Watch` relays the stream.** On a channel that delivers `responses` and closes, `Watch`
calls `EtcdWatchCreated(key)` once, then relays the events of the responses before the first
one with an error, in order, a Put as an update with its key and value, a Delete as a deletion
with its key, and drops the others; it returns the first error, or `nil`. -/
theorem watch_eq_relayed (key : K) (responses : List (WatchResponse E K V)) :
    watch key responses = (.watchCreated key :: relayed responses, firstError responses) := by
  rw [watch, watchLoop_eq, List.singleton_append]

end SpreedSignaling
