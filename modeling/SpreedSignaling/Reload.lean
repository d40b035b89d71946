import SpreedSignaling.Load

/-!
# Successive loads

A process loads its configuration in `NewEtcdClient` and again at every reload, each time with
the configuration snapshot of that moment and with whatever discovery, the TLS configuration
and `clientv3.New` give then. `EtcdClient.loads` runs `load` call after call on one record, with
failures anywhere, and `loads_spec` states what the whole sequence does.

`builtClient` is the client a `load` builds: the one `clientv3.New` returns when the endpoint
list is resolved and not empty and the TLS setting is made. `load_replace` says that a `load`
replaces the client with it when there is one and changes nothing otherwise, whatever error it
returns. A `load` reads the record only through its compatibility section, so each `load` of a
sequence builds the client it would build on the first record.
-/

namespace SpreedSignaling

/-- The client an effect closes. -/
def Effect.closedClient {C L : Type} : Effect C L → Option C
  | .close client => some client
  | .created _ _ => none

/-- The listener an effect notifies and the client it announces. -/
def Effect.notification {C L : Type} : Effect C L → Option (L × C)
  | .close _ => none
  | .created listener client => some (listener, client)

namespace EtcdClient

variable {E C L T : Type}

/-- The client a `load` builds and installs, if any: `clientv3.New` succeeds on the resolved
endpoint list, when it is not empty, with the TLS setting, when it is made. -/
def builtClient (env : Env E C T) (c : EtcdClient C L) (config : ConfigFile)
    (ignoreErrors : Bool) : Option C :=
  match c.resolveEndpoints env config ignoreErrors with
  | .error _ => none
  | .ok endpoints =>
    if endpoints.length = 0 then none
    else
      match c.clientTLS env config ignoreErrors with
      | .error _ => none
      | .ok tls => (env.new { endpoints := endpoints, dialTimeout := second, tls := tls }).toOption

/-- A `load` installs the client it builds, as `replaceClient` does, or changes nothing. -/
theorem load_replace (env : Env E C T) (config : ConfigFile) (ignoreErrors : Bool)
    (c : EtcdClient C L) :
    (c.load env config ignoreErrors).2 =
      match c.builtClient env config ignoreErrors with
      | some client => c.replaceClient client
      | none => (c, []) := by
  unfold load builtClient
  cases c.resolveEndpoints env config ignoreErrors with
  | error => rfl
  | ok endpoints =>
    by_cases hl : endpoints.length = 0
    · simp [hl]
    cases c.clientTLS env config ignoreErrors with
    | error => simp [hl]
    | ok tls =>
      cases hn : env.new { endpoints := endpoints, dialTimeout := second, tls := tls } <;>
        simp [hl, hn, Except.toOption]

/-- A `load` builds the same client on a record whose client was replaced. -/
@[simp]
theorem builtClient_replaceClient (env : Env E C T) (config : ConfigFile) (ignoreErrors : Bool)
    (c : EtcdClient C L) (client : C) :
    (c.replaceClient client).1.builtClient env config ignoreErrors =
      c.builtClient env config ignoreErrors :=
  rfl

/-! ### A sequence of loads -/

/-- One call of `load`: the environment it meets, the configuration snapshot and the policy. -/
structure LoadCall (E C T : Type) where
  env : Env E C T
  config : ConfigFile
  ignoreErrors : Bool

/-- `load` with each of `calls` in turn: the record after them and what they did. -/
def loads (c : EtcdClient C L) : List (LoadCall E C T) → EtcdClient C L × List (Effect C L)
  | [] => (c, [])
  | call :: calls =>
    let r := (c.load call.env call.config call.ignoreErrors).2
    let r' := r.1.loads calls
    (r'.1, r.2 ++ r'.2)

/-- The clients that `calls` build, in order. -/
def builtClients (c : EtcdClient C L) (calls : List (LoadCall E C T)) : List C :=
  calls.filterMap fun call => c.builtClient call.env call.config call.ignoreErrors

@[simp]
theorem builtClients_replaceClient (c : EtcdClient C L) (client : C)
    (calls : List (LoadCall E C T)) :
    (c.replaceClient client).1.builtClients calls = c.builtClients calls :=
  rfl

theorem filterMap_closedClient_replaceClient (c : EtcdClient C L) (client : C) :
    (c.replaceClient client).2.filterMap Effect.closedClient = c.client.toList := by
  cases h : c.client <;>
    simp [replaceClient, getEtcdClient, notifyListeners, h, Effect.closedClient,
      List.filterMap_map, Function.comp_def]

theorem filterMap_notification_replaceClient (c : EtcdClient C L) (client : C) :
    (c.replaceClient client).2.filterMap Effect.notification =
      c.listeners.toList.map (·, client) := by
  cases h : c.client <;>
    simp only [replaceClient, getEtcdClient, notifyListeners, h, List.filterMap_append,
      List.filterMap_map] <;>
    exact congrFun (List.filterMap_eq_map _) _

/-- **Successive loads.** After `load` has been called with each of `calls` in turn, failures
included, the slot holds the last client one of them built, or the first record's client when
none did; the clients replaced along the way, the first record's one included, are closed in
the order they were replaced, each once; and every registered listener is told of every built
client, in the order they were built. -/
theorem loads_spec (c : EtcdClient C L) (calls : List (LoadCall E C T)) :
    let built := c.builtClients calls
    let r := c.loads calls
    r.1 = { c with client := (c.client.toList ++ built).getLast? } ∧
    r.2.filterMap Effect.closedClient = (c.client.toList ++ built).dropLast ∧
    r.2.filterMap Effect.notification =
      built.flatMap fun client => c.listeners.toList.map (·, client) := by
  induction calls generalizing c with
  | nil =>
    obtain ⟨compatSection, _ | client, listeners⟩ := c <;> simp [loads, builtClients]
  | cons call calls ih =>
    simp only [loads, load_replace]
    cases hb : c.builtClient call.env call.config call.ignoreErrors with
    | none =>
      have hbuilt : c.builtClients (call :: calls) = c.builtClients calls := by
        simp [builtClients, hb]
      simpa [hbuilt] using ih c
    | some client =>
      have hbuilt : c.builtClients (call :: calls) = client :: c.builtClients calls := by
        simp [builtClients, hb]
      obtain ⟨h1, h2, h3⟩ := ih (c.replaceClient client).1
      simp only [builtClients_replaceClient] at h1 h2 h3
      refine ⟨?_, ?_, ?_⟩
      · rw [h1, hbuilt, List.getLast?_append_cons]
        rfl
      · rw [List.filterMap_append, h2, filterMap_closedClient_replaceClient, hbuilt,
          List.dropLast_append_cons]
        rfl
      · rw [List.filterMap_append, h3, filterMap_notification_replaceClient, hbuilt,
          List.flatMap_cons]
        rfl

end EtcdClient

end SpreedSignaling
