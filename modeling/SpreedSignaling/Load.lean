import SpreedSignaling.GoStrings
import SpreedSignaling.Client

/-!
# `EtcdClient.load`

`load(config, ignoreErrors)` reads a configuration snapshot and, when it resolves a non-empty
endpoint list and builds a client from it, replaces the client in the slot. It is split here
along the source's own blocks:

* `getConfigStringWithFallback` reads an option from section `etcd`, falling back to the
  compatibility section when the value is empty;
* `resolveEndpoints` is lines 82-98: the `endpoints` option split on commas, each field trimmed
  and the empty ones skipped (`appendEndpoints`), or else SRV discovery through `discoverysrv`
  and `discoveryservice`;
* `clientTLS` is lines 114-131: a `transport.TLSInfo` when `clientkey`, `clientcert` and `cacert`
  are all set, turned into a TLS configuration;
* `load` builds the `clientv3.Config` (one-second dial timeout) and hands a new client to
  `EtcdClient.replaceClient`.

The three external steps, SRV discovery, `TLSInfo.ClientConfig` and `clientv3.New`, are the
fields of an `Env`: a model is run against every environment, that is every outcome of those
steps. Log lines are not modelled; errors are `LoadError`s, whose text `LoadError.error` gives.

* `resolveEndpoints_of_endpoints_option`: how an explicit `endpoints` option is parsed.
* `load_spec`: what `load` returns and does, over every configuration, environment and policy.
* `newEtcdClient_spec`: when `NewEtcdClient` fails, and the record it returns otherwise.
-/

namespace SpreedSignaling

/-! ### Inputs and external steps -/

/-- A `goconf.ConfigFile` as `load` reads it: `GetString(section, option)`, `none` for a missing
section or option, whose error `load` discards together with the `""` returned with it. -/
structure ConfigFile where
  getString : String → String → Option String

/-- `transport.TLSInfo` as `load` fills it in. -/
structure TLSInfo where
  certFile : String
  keyFile : String
  trustedCAFile : String
  deriving DecidableEq, Repr

/-- `clientv3.Config` as `load` fills it in; `dialTimeout` in nanoseconds. -/
structure Config (T : Type) where
  endpoints : List String
  dialTimeout : Nat
  tls : Option T

/-- `time.Second` in nanoseconds. -/
def second : Nat := 1000000000

/-- The external steps of `load`: `srv.GetClient(service, domain, serviceName)`, of whose result
`load` reads the `Endpoints`, `TLSInfo.ClientConfig()` and `clientv3.New(cfg)`. -/
structure Env (E C T : Type) where
  getClient : String → String → String → Except E (List String)
  clientConfig : TLSInfo → Except E T
  new : Config T → Except E C

/-- The errors `load` returns. -/
inductive LoadError (E : Type) where
  /-- `fmt.Errorf("Could not discover etcd endpoints for %s: %w", discoverySrv, err)`. -/
  | discovery (discoverySrv : String) (err : E)
  /-- `fmt.Errorf("Could not setup etcd TLS configuration: %w", err)`. -/
  | tls (err : E)
  /-- The error of `clientv3.New`, returned as it is. -/
  | client (err : E)
  deriving DecidableEq, Repr

/-- The text of a `LoadError`, given the text of the wrapped errors. -/
def LoadError.error {E : Type} (msg : E → String) : LoadError E → String
  | .discovery discoverySrv err =>
    "Could not discover etcd endpoints for " ++ discoverySrv ++ ": " ++ msg err
  | .tls err => "Could not setup etcd TLS configuration: " ++ msg err
  | .client err => msg err

namespace EtcdClient

variable {E C L T : Type}

/-! ### The blocks of `load` -/

/-- `getConfigStringWithFallback`: the option from section `etcd`, or from the compatibility
section when that value is empty and a compatibility section is set. -/
def getConfigStringWithFallback (c : EtcdClient C L) (config : ConfigFile) (option : String) :
    String :=
  let value := (config.getString "etcd" option).getD ""
  if value = "" ∧ c.compatSection ≠ "" then (config.getString c.compatSection option).getD ""
  else value

/-- The loop over the fields of the `endpoints` option: each field trimmed, appended when it is
not empty. -/
def appendEndpoints (endpoints : List String) : List String → List String
  | [] => endpoints
  | ep :: eps =>
    appendEndpoints (if trimSpace ep ≠ "" then endpoints ++ [trimSpace ep] else endpoints) eps

/-- Endpoint resolution (lines 82-98): an explicit `endpoints` list, else SRV discovery when
`discoverysrv` is set, else no endpoints. A discovery error is returned unless errors are
ignored, when it leaves the list empty. -/
def resolveEndpoints (env : Env E C T) (c : EtcdClient C L) (config : ConfigFile)
    (ignoreErrors : Bool) : Except (LoadError E) (List String) :=
  let endpointsString := c.getConfigStringWithFallback config "endpoints"
  if endpointsString ≠ "" then .ok (appendEndpoints [] (split endpointsString ','))
  else
    let discoverySrv := c.getConfigStringWithFallback config "discoverysrv"
    if discoverySrv ≠ "" then
      let discoveryService := c.getConfigStringWithFallback config "discoveryservice"
      match env.getClient "etcd-client" discoverySrv discoveryService with
      | .error err => if !ignoreErrors then .error (.discovery discoverySrv err) else .ok []
      | .ok endpoints => .ok endpoints
    else .ok []

/-- The `transport.TLSInfo` of lines 114-122, built only when `clientkey`, `clientcert` and
`cacert` are all set. -/
def tlsInfo (c : EtcdClient C L) (config : ConfigFile) : Option TLSInfo :=
  let clientKey := c.getConfigStringWithFallback config "clientkey"
  let clientCert := c.getConfigStringWithFallback config "clientcert"
  let caCert := c.getConfigStringWithFallback config "cacert"
  if clientKey ≠ "" ∧ clientCert ≠ "" ∧ caCert ≠ "" then
    some { certFile := clientCert, keyFile := clientKey, trustedCAFile := caCert }
  else none

/-- The TLS setting of the new client (lines 114-131): the configuration built from
`tlsInfo`; a failure is returned unless errors are ignored, when TLS stays off. -/
def clientTLS (env : Env E C T) (c : EtcdClient C L) (config : ConfigFile)
    (ignoreErrors : Bool) : Except (LoadError E) (Option T) :=
  match c.tlsInfo config with
  | some info =>
    match env.clientConfig info with
    | .error err => if !ignoreErrors then .error (.tls err) else .ok none
    | .ok tlsConfig => .ok (some tlsConfig)
  | none => .ok none

/-- `load`: the error it returns, the record after it and what it did to clients and
listeners. With no endpoints it returns `nil` whatever `ignoreErrors` is (lines 100-104). A
failing `clientv3.New` is returned unless errors are ignored. -/
def load (env : Env E C T) (config : ConfigFile) (ignoreErrors : Bool) (c : EtcdClient C L) :
    Option (LoadError E) × EtcdClient C L × List (Effect C L) :=
  match c.resolveEndpoints env config ignoreErrors with
  | .error err => (some err, c, [])
  | .ok endpoints =>
    if endpoints.length = 0 then (none, c, [])
    else
      match c.clientTLS env config ignoreErrors with
      | .error err => (some err, c, [])
      | .ok tls =>
        match env.new { endpoints := endpoints, dialTimeout := second, tls := tls } with
        | .error err => (if !ignoreErrors then some (.client err) else none, c, [])
        | .ok client =>
          let (c', effects) := c.replaceClient client
          (none, c', effects)

/-! ### Endpoint parsing -/

/-- The endpoint loop keeps, in order, the trimmed fields that are not empty. -/
theorem appendEndpoints_eq (endpoints eps : List String) :
    appendEndpoints endpoints eps = endpoints ++ (eps.map trimSpace).filter (· ≠ "") := by
  induction eps generalizing endpoints with
  | nil => simp [appendEndpoints]
  | cons ep eps ih =>
    by_cases h : trimSpace ep = "" <;> simp [appendEndpoints, ih, h, List.filter_cons]

/-- **Endpoint parsing.** For a non-empty `endpoints` option `s`, whatever the environment,
`load` resolves the trimmed non-empty fields of `s` in order, so SRV discovery plays no part.
Each endpoint is non-empty, neither starts nor ends with a space and has no comma; a field with a
non-space rune is never dropped; and there is no endpoint exactly when `s` is made of commas and
spaces. -/
theorem resolveEndpoints_of_endpoints_option (env : Env E C T) (c : EtcdClient C L)
    (config : ConfigFile) (ignoreErrors : Bool) {s : String}
    (hs : c.getConfigStringWithFallback config "endpoints" = s) (hne : s ≠ "") :
    let eps := ((split s ',').map trimSpace).filter (· ≠ "")
    c.resolveEndpoints env config ignoreErrors = .ok eps ∧
    (∀ ep ∈ eps, ep ≠ "" ∧ (∀ r, ep.data.head? = some r → isSpace r = false) ∧
      (∀ r, ep.data.getLast? = some r → isSpace r = false) ∧ ',' ∉ ep.data) ∧
    (∀ f ∈ split s ',', (∃ r ∈ f.data, isSpace r = false) → trimSpace f ∈ eps) ∧
    (eps = [] ↔ ∀ r ∈ s.data, r = ',' ∨ isSpace r) := by
  intro eps
  refine ⟨by simp [resolveEndpoints, hs, hne, appendEndpoints_eq, eps], ?_, ?_, ?_⟩
  · simp only [eps, List.mem_filter, List.mem_map, decide_eq_true_eq]
    rintro _ ⟨⟨f, hf, rfl⟩, hne⟩
    exact ⟨hne, fun _ => head_trimSpace, fun _ => getLast_trimSpace,
      fun hc => sep_not_mem_of_mem_split hf ((trimSpace_contiguous f).subset hc)⟩
  · rintro f hf ⟨r, hr, hsp⟩
    simp only [eps, List.mem_filter, List.mem_map, decide_eq_true_eq, ne_eq,
      trimSpace_eq_empty_iff]
    exact ⟨⟨f, hf, rfl⟩, fun h => by simp [h r hr] at hsp⟩
  · simp only [eps, List.filter_eq_nil_iff, List.mem_map, decide_eq_true_eq, not_not,
      forall_exists_index, and_imp, forall_apply_eq_imp_iff₂, trimSpace_eq_empty_iff]
    exact forall_mem_split_iff s ',' (fun r => isSpace r = true)

/-- The option `" a, ,b"` resolves to `["a", "b"]`, with discovery failing. -/
theorem endpoints_option_resolves_sample :
    (⟨"", none, .empty⟩ : EtcdClient Unit Unit).resolveEndpoints
        (⟨fun _ _ _ => .error (), fun _ => .error (), fun _ => .error ()⟩ : Env Unit Unit Unit)
        ⟨fun _ _ => some " a, ,b"⟩ false = .ok ["a", "b"] :=
  (resolveEndpoints_of_endpoints_option _ _ _ false (s := " a, ,b") (by decide) (by decide)).1.trans
    (congrArg Except.ok (by decide))

/-! ### What a `load` does

`load` consults discovery, then the TLS configuration, then `clientv3.New`. `DiscoveryFails` and
`TLSFails` name the failures of the first two, `resolvedEndpoints` and `tlsSetting` the endpoint
list and the TLS setting they give when they succeed. -/

/-- Discovery is consulted, no `endpoints` option but a `discoverysrv` one, and fails. -/
def DiscoveryFails (env : Env E C T) (c : EtcdClient C L) (config : ConfigFile) : Prop :=
  c.getConfigStringWithFallback config "endpoints" = "" ∧
    c.getConfigStringWithFallback config "discoverysrv" ≠ "" ∧
    ∃ err, env.getClient "etcd-client" (c.getConfigStringWithFallback config "discoverysrv")
      (c.getConfigStringWithFallback config "discoveryservice") = .error err

/-- The key/cert/CA triple is complete and its TLS configuration fails. -/
def TLSFails (env : Env E C T) (c : EtcdClient C L) (config : ConfigFile) : Prop :=
  ∃ info err, c.tlsInfo config = some info ∧ env.clientConfig info = .error err

/-- The endpoint list `load` resolves; none when discovery fails. -/
def resolvedEndpoints (env : Env E C T) (c : EtcdClient C L) (config : ConfigFile)
    (ignoreErrors : Bool) : List String :=
  match c.resolveEndpoints env config ignoreErrors with
  | .ok endpoints => endpoints
  | .error _ => []

/-- The TLS setting `load` gives the new client; none when the TLS step fails. -/
def tlsSetting (env : Env E C T) (c : EtcdClient C L) (config : ConfigFile)
    (ignoreErrors : Bool) : Option T :=
  match c.clientTLS env config ignoreErrors with
  | .ok tls => tls
  | .error _ => none

theorem resolveEndpoints_error {env : Env E C T} {c : EtcdClient C L} {config : ConfigFile}
    {ignoreErrors : Bool} {err : LoadError E}
    (h : c.resolveEndpoints env config ignoreErrors = .error err) :
    ignoreErrors = false ∧ c.DiscoveryFails env config := by
  simp only [resolveEndpoints] at h
  split at h
  · cases h
  · rename_i h1
    split at h
    · rename_i h2
      split at h
      · rename_i e he
        cases ignoreErrors
        · exact ⟨rfl, not_not.mp h1, h2, e, he⟩
        · cases h
      · cases h
    · cases h

theorem resolveEndpoints_of_discoveryFails {env : Env E C T} {c : EtcdClient C L}
    {config : ConfigFile} (h : c.DiscoveryFails env config) :
    ∃ err, c.resolveEndpoints env config false = .error err := by
  obtain ⟨h1, h2, err, h3⟩ := h
  exact ⟨.discovery (c.getConfigStringWithFallback config "discoverysrv") err,
    by simp [resolveEndpoints, h1, h2, h3]⟩

theorem clientTLS_error {env : Env E C T} {c : EtcdClient C L} {config : ConfigFile}
    {ignoreErrors : Bool} {err : LoadError E}
    (h : c.clientTLS env config ignoreErrors = .error err) :
    ignoreErrors = false ∧ c.TLSFails env config := by
  simp only [clientTLS] at h
  split at h
  · rename_i info hinfo
    split at h
    · rename_i e he
      cases ignoreErrors
      · exact ⟨rfl, info, e, hinfo, he⟩
      · cases h
    · cases h
  · cases h

theorem clientTLS_of_TLSFails {env : Env E C T} {c : EtcdClient C L} {config : ConfigFile}
    (h : c.TLSFails env config) : ∃ err, c.clientTLS env config false = .error err := by
  obtain ⟨info, err, h1, h2⟩ := h
  exact ⟨.tls err, by simp [clientTLS, h1, h2]⟩

theorem tlsInfo_eq_some_iff (c : EtcdClient C L) (config : ConfigFile) (info : TLSInfo) :
    let clientKey := c.getConfigStringWithFallback config "clientkey"
    let clientCert := c.getConfigStringWithFallback config "clientcert"
    let caCert := c.getConfigStringWithFallback config "cacert"
    c.tlsInfo config = some info ↔
      clientKey ≠ "" ∧ clientCert ≠ "" ∧ caCert ≠ "" ∧
        info = ⟨clientCert, clientKey, caCert⟩ := by
  simp only [tlsInfo]
  split_ifs with h
  · simp [h, eq_comm]
  · exact ⟨fun h' => (by cases h'), fun ⟨hk, hc, ha, _⟩ => absurd ⟨hk, hc, ha⟩ h⟩

/-- The TLS setting is on exactly when `clientkey`, `clientcert` and `cacert` are all set and
their TLS configuration builds. -/
theorem tlsSetting_isSome_iff (env : Env E C T) (c : EtcdClient C L) (config : ConfigFile)
    (ignoreErrors : Bool) :
    let clientKey := c.getConfigStringWithFallback config "clientkey"
    let clientCert := c.getConfigStringWithFallback config "clientcert"
    let caCert := c.getConfigStringWithFallback config "cacert"
    (c.tlsSetting env config ignoreErrors).isSome ↔
      clientKey ≠ "" ∧ clientCert ≠ "" ∧ caCert ≠ "" ∧
      ∃ t, env.clientConfig ⟨clientCert, clientKey, caCert⟩ = .ok t := by
  have hset : (c.tlsSetting env config ignoreErrors).isSome ↔
      ∃ info t, c.tlsInfo config = some info ∧ env.clientConfig info = .ok t := by
    simp only [tlsSetting, clientTLS]
    rcases hi : c.tlsInfo config with _ | info
    · simp
    · rcases hc : env.clientConfig info with e | t <;> cases ignoreErrors <;> simp [hc]
  simp only [hset, tlsInfo_eq_some_iff]
  constructor
  · rintro ⟨_, t, ⟨hk, hc, ha, rfl⟩, ht⟩
    exact ⟨hk, hc, ha, t, ht⟩
  · rintro ⟨hk, hc, ha, t, ht⟩
    exact ⟨_, t, ⟨hk, hc, ha, rfl⟩, ht⟩

/-! ### The outcome of a `load` -/

section Outcome

variable {env : Env E C T} {config : ConfigFile} {ignoreErrors : Bool} {c : EtcdClient C L}

theorem load_of_resolve_error {err : LoadError E}
    (h : c.resolveEndpoints env config ignoreErrors = .error err) :
    c.load env config ignoreErrors = (some err, c, []) := by
  simp [load, h]

theorem load_of_resolve_nil (h : c.resolveEndpoints env config ignoreErrors = .ok []) :
    c.load env config ignoreErrors = (none, c, []) := by
  simp [load, h]

theorem load_of_clientTLS_error {endpoints : List String} {err : LoadError E}
    (h : c.resolveEndpoints env config ignoreErrors = .ok endpoints) (hne : endpoints ≠ [])
    (ht : c.clientTLS env config ignoreErrors = .error err) :
    c.load env config ignoreErrors = (some err, c, []) := by
  simp [load, h, hne, ht]

theorem load_of_new {endpoints : List String} {tls : Option T}
    (h : c.resolveEndpoints env config ignoreErrors = .ok endpoints) (hne : endpoints ≠ [])
    (ht : c.clientTLS env config ignoreErrors = .ok tls) :
    c.load env config ignoreErrors =
      match env.new ⟨endpoints, second, tls⟩ with
      | .error err => (if !ignoreErrors then some (.client err) else none, c, [])
      | .ok client => (none, c.replaceClient client) := by
  simp only [load, h, List.length_eq_zero, hne, if_false, ht]

end Outcome

/-- Parts 1 to 4 of `load_spec`, by the outcome of each block of `load`; a built client
replaces the old one as `replaceClient` does. -/
private theorem load_outcome [DecidableEq C] [DecidableEq L] (env : Env E C T)
    (config : ConfigFile) (ignoreErrors : Bool) (c : EtcdClient C L) :
    let r := c.load env config ignoreErrors
    let endpoints := c.resolvedEndpoints env config ignoreErrors
    let cfg : Config T := ⟨endpoints, second, c.tlsSetting env config ignoreErrors⟩
    (r.1.isSome → ignoreErrors = false) ∧
    (ignoreErrors = false → (r.1.isSome ↔ c.DiscoveryFails env config ∨
      endpoints ≠ [] ∧ (c.TLSFails env config ∨ ∃ err, env.new cfg = .error err))) ∧
    (r.1.isSome ∨ endpoints = [] ∨ (∃ err, env.new cfg = .error err) → r.2 = (c, [])) ∧
    (∀ client, r.1 = none → endpoints ≠ [] → env.new cfg = .ok client →
      r.2 = c.replaceClient client) := by
  simp only
  rcases hr : c.resolveEndpoints env config ignoreErrors with err | eps
  · -- discovery failed, with errors not ignored
    obtain ⟨rfl, hd⟩ := resolveEndpoints_error hr
    have he : c.resolvedEndpoints env config false = [] := by simp [resolvedEndpoints, hr]
    rw [load_of_resolve_error hr, he]
    simp [hd]
  have hres : c.resolvedEndpoints env config ignoreErrors = eps := by
    simp [resolvedEndpoints, hr]
  have hnd : ignoreErrors = false → ¬ c.DiscoveryFails env config := by
    rintro rfl hd
    obtain ⟨_, h⟩ := resolveEndpoints_of_discoveryFails hd
    rw [hr] at h
    cases h
  rw [hres]
  rcases eq_or_ne eps [] with rfl | hne
  · -- no endpoints
    rw [load_of_resolve_nil hr]
    simpa using hnd
  rcases ht : c.clientTLS env config ignoreErrors with err | tls
  · -- the TLS configuration failed, with errors not ignored
    obtain ⟨rfl, htf⟩ := clientTLS_error ht
    rw [load_of_clientTLS_error hr hne ht]
    simp [hne, htf]
  have hnt : ignoreErrors = false → ¬ c.TLSFails env config := by
    rintro rfl htf
    obtain ⟨_, h⟩ := clientTLS_of_TLSFails htf
    rw [ht] at h
    cases h
  have hset : c.tlsSetting env config ignoreErrors = tls := by simp [tlsSetting, ht]
  rw [hset, load_of_new hr hne ht]
  rcases hn : env.new ⟨eps, second, tls⟩ with err | client
  · -- no client was built
    cases ignoreErrors <;> simp [hne, hn]
  · -- a new client replaces the old one
    refine ⟨by simp, fun hig => by simp [hnd hig, hnt hig], by simp [hne], ?_⟩
    rintro _ - - ⟨⟩
    rfl

/-- **Atomicity and outcome of `load`.** Over every configuration, every outcome of the
external steps and both policies:
1. only a `load` that does not ignore errors returns one;
2. such a `load` returns one exactly when discovery is consulted and fails, or, for a non-empty
   endpoint list, the TLS configuration of a complete triple or the client construction fails;
3. after an error, with no endpoints or with no client built, the record is unchanged and no
   client is closed and no listener notified;
4. otherwise the client built from the resolved endpoints is stored, the previous one (if
   any) is closed once, and every registered listener is notified once;
5. the new client has TLS exactly when `clientkey`, `clientcert` and `cacert` are all set
   and their TLS configuration builds. -/
theorem load_spec [DecidableEq C] [DecidableEq L] (env : Env E C T) (config : ConfigFile)
    (ignoreErrors : Bool) (c : EtcdClient C L) :
    let r := c.load env config ignoreErrors
    let endpoints := c.resolvedEndpoints env config ignoreErrors
    let cfg : Config T := ⟨endpoints, second, c.tlsSetting env config ignoreErrors⟩
    let clientKey := c.getConfigStringWithFallback config "clientkey"
    let clientCert := c.getConfigStringWithFallback config "clientcert"
    let caCert := c.getConfigStringWithFallback config "cacert"
    (r.1.isSome → ignoreErrors = false) ∧
    (ignoreErrors = false → (r.1.isSome ↔ c.DiscoveryFails env config ∨
      endpoints ≠ [] ∧ (c.TLSFails env config ∨ ∃ err, env.new cfg = .error err))) ∧
    (r.1.isSome ∨ endpoints = [] ∨ (∃ err, env.new cfg = .error err) → r.2 = (c, [])) ∧
    (∀ client, r.1 = none → endpoints ≠ [] → env.new cfg = .ok client →
      r.2.1 = { c with client := some client } ∧
      (∀ prev, r.2.2.count (.close prev) = if c.client = some prev then 1 else 0) ∧
      (∀ l client', r.2.2.count (.created l client') =
        if l ∈ c.listeners.toList ∧ client = client' then 1 else 0)) ∧
    ((c.tlsSetting env config ignoreErrors).isSome ↔ clientKey ≠ "" ∧ clientCert ≠ "" ∧
      caCert ≠ "" ∧ ∃ t, env.clientConfig ⟨clientCert, clientKey, caCert⟩ = .ok t) := by
  obtain ⟨h1, h2, h3, h4⟩ := load_outcome env config ignoreErrors c
  refine ⟨h1, h2, h3, fun client hr hne hn => ?_, tlsSetting_isSome_iff env c config ignoreErrors⟩
  rw [h4 client hr hne hn]
  exact ⟨rfl, count_close_replaceClient c client,
    fun l client' => count_created_replaceClient c client client' l⟩

end EtcdClient

/-- `NewEtcdClient`: a record with no client and no listener, loaded with errors not ignored. -/
def newEtcdClient {E C L T : Type} (env : Env E C T) (config : ConfigFile)
    (compatSection : String) :
    Except (LoadError E) (EtcdClient C L × List (Effect C L)) :=
  let result : EtcdClient C L := ⟨compatSection, none, .empty⟩
  match result.load env config false with
  | (some err, _, _) => .error err
  | (none, c, effects) => .ok (c, effects)

section NewEtcdClient

variable {E C L T : Type} (env : Env E C T) (config : ConfigFile) (compatSection : String)

/-- `NewEtcdClient` fails exactly when its `load` returns an error. -/
theorem newEtcdClient_error_iff :
    (∃ err, newEtcdClient (L := L) env config compatSection = .error err) ↔
      ((⟨compatSection, none, .empty⟩ : EtcdClient C L).load env config false).1.isSome := by
  unfold newEtcdClient
  rcases h : (⟨compatSection, none, .empty⟩ : EtcdClient C L).load env config false with
    ⟨_ | err, c, effects⟩ <;> simp [h]

/-- `NewEtcdClient` returns the record and effects of a `load` that returns no error. -/
theorem newEtcdClient_ok_iff (c : EtcdClient C L) (effects : List (Effect C L)) :
    newEtcdClient env config compatSection = .ok (c, effects) ↔
      (⟨compatSection, none, .empty⟩ : EtcdClient C L).load env config false =
        (none, c, effects) := by
  unfold newEtcdClient
  rcases h : (⟨compatSection, none, .empty⟩ : EtcdClient C L).load env config false with
    ⟨_ | err, c, effects⟩ <;> simp [h]

/-- **`NewEtcdClient`.** `NewEtcdClient` fails exactly when discovery is consulted and fails,
or, for a non-empty endpoint list, the TLS configuration of a complete triple or the client
construction fails. Otherwise it closes nothing and notifies nobody, and its record holds the
client built from the resolved endpoints, or no client when none are resolved: coordination is
then off, `IsConfigured` is false. -/
theorem newEtcdClient_spec [DecidableEq C] [DecidableEq L] :
    let c : EtcdClient C L := ⟨compatSection, none, .empty⟩
    let endpoints := c.resolvedEndpoints env config false
    let cfg : Config T := ⟨endpoints, second, c.tlsSetting env config false⟩
    ((∃ err, newEtcdClient (L := L) env config compatSection = .error err) ↔
      c.DiscoveryFails env config ∨
        endpoints ≠ [] ∧ (c.TLSFails env config ∨ ∃ err, env.new cfg = .error err)) ∧
    ∀ (c' : EtcdClient C L) effects, newEtcdClient env config compatSection = .ok (c', effects) →
      c' = { c with client := if endpoints = [] then none else (env.new cfg).toOption } ∧
      effects = [] ∧ (c'.isConfigured ↔ endpoints ≠ []) := by
  intro c endpoints cfg
  obtain ⟨-, herr, hkeep, hnew⟩ := EtcdClient.load_outcome env config false c
  refine ⟨(newEtcdClient_error_iff env config compatSection).trans (herr rfl), ?_⟩
  intro c' effects hok
  have hr : c.load env config false = (none, c', effects) :=
    (newEtcdClient_ok_iff env config compatSection c' effects).mp hok
  rcases eq_or_ne endpoints [] with hne | hne
  · -- no endpoints: the record is unchanged
    have h := hkeep (.inr (.inl hne))
    simp only [hr, Prod.mk.injEq] at h
    obtain ⟨rfl, rfl⟩ := h
    simp [hne, EtcdClient.isConfigured, EtcdClient.getEtcdClient, c]
  rcases hn : env.new cfg with err | client
  · -- the construction failed, so `load` returned its error
    have := (herr rfl).mpr (.inr ⟨hne, .inr ⟨err, hn⟩⟩)
    simp [hr] at this
  · -- a new client, and a fresh record has nothing to close and nobody to notify
    have h2 := hnew client (by rw [hr]) hne hn
    rw [hr] at h2
    cases h2
    simp [hne, EtcdClient.replaceClient, EtcdClient.getEtcdClient, EtcdClient.notifyListeners,
      EtcdClient.isConfigured, ListenerSet.empty, Except.toOption, c]

end NewEtcdClient

/-! ### The `endpoints` format -/

/-- An endpoint as `load` resolves one from an `endpoints` option: not empty, without a comma,
and neither starting nor ending with a space. -/
def IsEndpoint (ep : String) : Prop :=
  ep ≠ "" ∧ ',' ∉ ep.data ∧ ep.data.head?.all (!isSpace ·) ∧
    ep.data.getLast?.all (!isSpace ·)

instance (ep : String) : Decidable (IsEndpoint ep) :=
  inferInstanceAs (Decidable (ep ≠ "" ∧ ',' ∉ ep.data ∧ ep.data.head?.all (!isSpace ·) ∧
    ep.data.getLast?.all (!isSpace ·)))

/-- The endpoint loop gives back a comma-joined list of endpoints. -/
theorem appendEndpoints_intercalate {eps : List String} (hne : eps ≠ [])
    (heps : ∀ ep ∈ eps, IsEndpoint ep) :
    EtcdClient.appendEndpoints [] (split (String.intercalate "," eps) ',') = eps := by
  have hsplit : split (String.intercalate "," eps) ',' = eps :=
    split_intercalate hne fun ep hep => (heps ep hep).2.1
  have htrim : eps.map trimSpace = eps :=
    (List.map_congr_left fun ep hep =>
      trimSpace_eq_self (heps ep hep).2.2.1 (heps ep hep).2.2.2).trans (List.map_id eps)
  rw [EtcdClient.appendEndpoints_eq, hsplit, htrim, List.nil_append, List.filter_eq_self]
  exact fun ep hep => by simpa using (heps ep hep).1

/-- **The `endpoints` format round-trips.** For a non-empty list of endpoints, each non-empty,
without a comma and without white space at either end, an `endpoints` option that joins them
with commas, as `strings.Join(endpoints, ",")` does, makes `load` resolve exactly that list,
whatever the environment and the policy. -/
theorem resolveEndpoints_intercalate {E C L T : Type} (env : Env E C T) (c : EtcdClient C L)
    (config : ConfigFile) (ignoreErrors : Bool) {eps : List String} (hne : eps ≠ [])
    (heps : ∀ ep ∈ eps, IsEndpoint ep)
    (hs : c.getConfigStringWithFallback config "endpoints" = String.intercalate "," eps) :
    c.resolveEndpoints env config ignoreErrors = .ok eps := by
  have hround := appendEndpoints_intercalate hne heps
  -- the empty option has no endpoint, so the join is not empty
  have hjoin : String.intercalate "," eps ≠ "" := fun h => by
    rw [h, show EtcdClient.appendEndpoints [] (split "" ',') = [] by decide] at hround
    exact hne hround.symm
  simp [EtcdClient.resolveEndpoints, hs, hjoin, hround]

/-- Two endpoints joined with a comma resolve to themselves. -/
theorem resolveEndpoints_intercalate_sample :
    (⟨"", none, .empty⟩ : EtcdClient Unit Unit).resolveEndpoints
        (⟨fun _ _ _ => .error (), fun _ => .error (), fun _ => .error ()⟩ : Env Unit Unit Unit)
        ⟨fun _ _ => some "10.0.0.1:2379,10.0.0.2:2379"⟩ false =
      .ok ["10.0.0.1:2379", "10.0.0.2:2379"] :=
  resolveEndpoints_intercalate _ _ _ false (by decide) (by decide) (by decide)

end SpreedSignaling
