import Mathlib
import ProxmoxIaas.WebSocket.Model

/-!
# Routing of Updates

`websocket_endpoint` registers a connection under one key, chosen from the first of its
parameters that is given in a fixed order; `_handle_redis_message` broadcasts an update to the
key of its resource. Tunnels, peers and tenants have keys of their own kind, but a VM and a
network have the bare number as their key, so that the two share their connections, and a
parameter that comes later in the order is not looked at.

## Main results

- `mem_recipients_iff`: which connections receive an update.
- `routed_iff`: exactly when an update about a resource reaches the connections that were opened
  for it and, outside the global channel, no others.
-/

namespace ProxmoxIaas.WebSocket

open ActiveConnections

/-- The parameters of `/ws`. -/
structure Query where
  networkId : Option ℤ := none
  tenantId : Option ℤ := none
  vmId : Option ℤ := none
  wireguardTunnelId : Option ℤ := none
  wireguardPeerId : Option ℤ := none
  deriving DecidableEq

/-- An identifier as it stands in an f-string. -/
def idText : Option ℤ → String
  | some id => toString id
  | none => "None"

/-- The key `f"{kind}:{id}"`. -/
def resourceKey (kind : String) (id : Option ℤ) : Key := .str (kind ++ ":" ++ idText id)

/-- The key of a connection: the parameters are looked at in this order. -/
def Query.key (q : Query) : Option Key :=
  if q.wireguardTunnelId.isSome then some (resourceKey "wireguard" q.wireguardTunnelId)
  else if q.wireguardPeerId.isSome then some (resourceKey "wireguard-peer" q.wireguardPeerId)
  else if q.tenantId.isSome then some (resourceKey "tenant" q.tenantId)
  else if q.vmId.isSome then q.vmId.map .int
  else if q.networkId.isSome then q.networkId.map .int
  else none

/-- A connection for a VM and a tenant is closed if the VM is not the tenant's. -/
def Query.accepted (vmOfTenant : ℤ → ℤ → Bool) (q : Query) : Bool :=
  match q.vmId, q.tenantId with
  | some vmId, some tenantId => vmOfTenant vmId tenantId
  | some _, none | none, some _ | none, none => true

/-- `websocket_endpoint`, up to its loop. -/
def websocketEndpoint (vmOfTenant : ℤ → ℤ → Bool) (m : ActiveConnections) (websocket : Socket)
    (q : Query) : ActiveConnections :=
  if q.accepted vmOfTenant then connect m websocket q.key else m

/-- The manager after connections have been opened, which are numbered in this order. -/
def openAll (vmOfTenant : ℤ → ℤ → Bool) (queries : List Query) : ActiveConnections :=
  queries.zipIdx.foldl (fun m q => websocketEndpoint vmOfTenant m q.2 q.1) ∅

/-- The fields of a published message that decide where it goes. -/
structure Update where
  type : String
  resourceType : String
  resourceId : Option ℤ

/-- `_handle_redis_message`: the keys of its broadcasts, in order. -/
def handleRedisMessage (data : Update) : List (Option Key) :=
  if (data.type = "log" ∨ data.type = "step_update") ∧ data.resourceId.isSome then
    if data.resourceType = "tenant" then [some (resourceKey "tenant" data.resourceId)]
    else if data.resourceType = "network-create" then [data.resourceId.map .int]
    else if data.resourceType = "vm" then [data.resourceId.map .int]
    else if data.resourceType = "wireguard" then
      [some (resourceKey "wireguard" data.resourceId), none]
    else if data.resourceType = "wireguard_peer" then
      [some (resourceKey "wireguard-peer" data.resourceId), none]
    else [data.resourceId.map .int]
  else if data.type = "status_change" then
    if data.resourceType = "tenant" then [some (resourceKey "tenant" data.resourceId)]
    else if data.resourceType = "firewall" then [some (resourceKey "tenant" data.resourceId)]
    else if data.resourceType = "wireguard_tunnel" then
      [some (resourceKey "wireguard" data.resourceId), none]
    else if data.resourceType = "wireguard_peer" then
      [some (resourceKey "wireguard-peer" data.resourceId), none]
    else [none]
  else [none]

/-- The connections to which a message is sent, when none comes or goes meanwhile. -/
def recipients (m : ActiveConnections) (data : Update) : List Socket :=
  (handleRedisMessage data).flatMap fun key => registered m (connKey key)

/-- The types of resources about which logs and steps are published. -/
inductive ResourceType
  | tenant
  | networkCreate
  | vm
  | wireguard
  | wireguardPeer
  deriving DecidableEq

/-- `resource_type`. -/
def ResourceType.name : ResourceType → String
  | .tenant => "tenant"
  | .networkCreate => "network-create"
  | .vm => "vm"
  | .wireguard => "wireguard"
  | .wireguardPeer => "wireguard_peer"

/-- Logs and step updates. -/
inductive Progress
  | log
  | stepUpdate
  deriving DecidableEq

/-- `type`. -/
def Progress.name : Progress → String
  | .log => "log"
  | .stepUpdate => "step_update"

/-- A published log or step update about a resource. -/
def progressUpdate (type : Progress) (resource : ResourceType) (id : ℤ) : Update :=
  ⟨type.name, resource.name, some id⟩

/-- The parameter with which a connection is opened for a resource. -/
def Query.param (q : Query) : ResourceType → Option ℤ
  | .tenant => q.tenantId
  | .networkCreate => q.networkId
  | .vm => q.vmId
  | .wireguard => q.wireguardTunnelId
  | .wireguardPeer => q.wireguardPeerId

/-- An update about a resource reaches every connection that was opened for it, and outside the
global channel no other. -/
structure Routed (vmOfTenant : ℤ → ℤ → Bool) (queries : List Query) (type : Progress)
    (resource : ResourceType) (id : ℤ) : Prop where
  reaches : ∀ c q, queries[c]? = some q → q.accepted vmOfTenant = true →
    q.param resource = some id →
    c ∈ recipients (openAll vmOfTenant queries) (progressUpdate type resource id)
  separate : ∀ c q, queries[c]? = some q → q.accepted vmOfTenant = true →
    c ∈ recipients (openAll vmOfTenant queries) (progressUpdate type resource id) →
    connKey q.key = .str "global" ∨ q.param resource = some id

/-- Another parameter of the connection decides its key. -/
def Query.outranked (q : Query) (id : ℤ) : ResourceType → Bool
  | .wireguard => false
  | .wireguardPeer => q.wireguardTunnelId.isSome
  | .tenant => q.wireguardTunnelId.isSome || q.wireguardPeerId.isSome
  | .vm => q.wireguardTunnelId.isSome || q.wireguardPeerId.isSome || q.tenantId.isSome
  | .networkCreate =>
    q.wireguardTunnelId.isSome || q.wireguardPeerId.isSome || q.tenantId.isSome ||
      q.vmId.any (· ≠ id)

/-- The key of the connection is the number, but of a resource of the other type with bare
numbers. -/
def Query.sameNumber (q : Query) (id : ℤ) : ResourceType → Bool
  | .wireguard | .wireguardPeer | .tenant => false
  | .vm =>
    q.wireguardTunnelId.isNone && q.wireguardPeerId.isNone && q.tenantId.isNone &&
      q.vmId.isNone && q.networkId == some id
  | .networkCreate =>
    q.wireguardTunnelId.isNone && q.wireguardPeerId.isNone && q.tenantId.isNone &&
      q.vmId == some id && q.networkId != some id

/-! ### Keys -/

/-- Keys of a kind are equal for equal kinds and identifiers only. -/
theorem resourceKey_inj {kind kind' : String} {id id' : ℤ} (h : ':' ∉ kind.toList)
    (h' : ':' ∉ kind'.toList) :
    resourceKey kind (some id) = resourceKey kind' (some id') ↔ kind = kind' ∧ id = id' := by
  constructor
  · intro heq
    have hlist : kind.toList ++ ':' :: (toString id).toList =
        kind'.toList ++ ':' :: (toString id').toList := by
      simpa [resourceKey, idText] using congrArg String.toList (Key.str.inj heq)
    -- the kinds end at the first colon
    have hkinds : kind.toList = kind'.toList := by
      have htake := congrArg (List.takeWhile (· ≠ ':')) hlist
      rwa [List.takeWhile_append_of_pos fun c hc => by simpa using ne_of_mem_of_not_mem hc h,
        List.takeWhile_append_of_pos fun c hc => by simpa using ne_of_mem_of_not_mem hc h',
        List.takeWhile_cons_of_neg (by simp), List.takeWhile_cons_of_neg (by simp),
        List.append_nil, List.append_nil] at htake
    rw [hkinds] at hlist
    have hids := (List.cons.inj (List.append_cancel_left hlist)).2
    exact ⟨String.toList_inj.mp hkinds, Int.repr_inj.mp (String.toList_inj.mp hids)⟩
  · rintro ⟨rfl, rfl⟩
    rfl

theorem resourceKey_ne_global (kind : String) (id : Option ℤ) :
    resourceKey kind id ≠ .str "global" := by
  intro h
  have hmem : ':' ∈ ("global" : String).toList := by
    rw [← Key.str.inj h]
    simp
  exact absurd hmem (by decide)

theorem resourceKey_ne_int (kind : String) (id : Option ℤ) (n : ℤ) :
    resourceKey kind id ≠ .int n := nofun

theorem int_ne_resourceKey (kind : String) (id : Option ℤ) (n : ℤ) :
    Key.int n ≠ resourceKey kind id := nofun

/-- What decides the key of a connection, in the order in which the parameters are looked at. -/
theorem Query.key_cases (q : Query) :
    (∃ id, q.wireguardTunnelId = some id ∧ connKey q.key = resourceKey "wireguard" (some id)) ∨
    (q.wireguardTunnelId = none ∧ ∃ id, q.wireguardPeerId = some id ∧
      connKey q.key = resourceKey "wireguard-peer" (some id)) ∨
    (q.wireguardTunnelId = none ∧ q.wireguardPeerId = none ∧ ∃ id, q.tenantId = some id ∧
      connKey q.key = resourceKey "tenant" (some id)) ∨
    (q.wireguardTunnelId = none ∧ q.wireguardPeerId = none ∧ q.tenantId = none ∧
      ∃ id, q.vmId = some id ∧ connKey q.key = .int id) ∨
    (q.wireguardTunnelId = none ∧ q.wireguardPeerId = none ∧ q.tenantId = none ∧ q.vmId = none ∧
      ∃ id, q.networkId = some id ∧ connKey q.key = .int id) ∨
    (q = ⟨none, none, none, none, none⟩ ∧ connKey q.key = .str "global") := by
  obtain ⟨network, tenant, vm, tunnel, peer⟩ := q
  cases tunnel with
  | some id => exact .inl ⟨id, rfl, rfl⟩
  | none =>
    cases peer with
    | some id => exact .inr (.inl ⟨rfl, id, rfl, rfl⟩)
    | none =>
      cases tenant with
      | some id => exact .inr (.inr (.inl ⟨rfl, rfl, id, rfl, rfl⟩))
      | none =>
        cases vm with
        | some id => exact .inr (.inr (.inr (.inl ⟨rfl, rfl, rfl, id, rfl, rfl⟩)))
        | none =>
          cases network with
          | some id => exact .inr (.inr (.inr (.inr (.inl ⟨rfl, rfl, rfl, rfl, id, rfl, rfl⟩))))
          | none => exact .inr (.inr (.inr (.inr (.inr ⟨rfl, rfl⟩))))

/-! ### Recipients -/

theorem mem_registered_websocketEndpoint (vmOfTenant : ℤ → ℤ → Bool) (m : ActiveConnections)
    (websocket c : Socket) (q : Query) (k : Key) :
    c ∈ registered (websocketEndpoint vmOfTenant m websocket q) k ↔
      c ∈ registered m k ∨
        (c = websocket ∧ q.accepted vmOfTenant = true ∧ connKey q.key = k) := by
  unfold websocketEndpoint
  by_cases haccepted : q.accepted vmOfTenant
  · rw [if_pos haccepted, registered_connect]
    by_cases hk : k = connKey q.key
    · simp [hk, haccepted]
    · simp [hk, Ne.symm hk]
  · simp [haccepted]

theorem mem_registered_foldl (vmOfTenant : ℤ → ℤ → Bool) (queries : List (Query × Socket))
    (m : ActiveConnections) (c : Socket) (k : Key) :
    c ∈ registered (queries.foldl (fun m q => websocketEndpoint vmOfTenant m q.2 q.1) m) k ↔
      c ∈ registered m k ∨
        ∃ q, (q, c) ∈ queries ∧ q.accepted vmOfTenant = true ∧ connKey q.key = k := by
  induction queries generalizing m with
  | nil => simp
  | cons p queries ih =>
    obtain ⟨q, websocket⟩ := p
    rw [List.foldl_cons, ih, mem_registered_websocketEndpoint, or_assoc]
    refine or_congr_right ?_
    constructor
    · rintro (⟨rfl, hq⟩ | ⟨q', hmem, hq'⟩)
      · exact ⟨q, List.mem_cons_self, hq⟩
      · exact ⟨q', List.mem_cons_of_mem _ hmem, hq'⟩
    · rintro ⟨q', hmem, hq'⟩
      rcases List.mem_cons.mp hmem with heq | hmem
      · cases heq
        exact .inl ⟨rfl, hq'⟩
      · exact .inr ⟨q', hmem, hq'⟩

/-- The recipients of a message are the accepted connections with the key of one of its
broadcasts. -/
theorem mem_recipients_iff {vmOfTenant : ℤ → ℤ → Bool} {queries : List Query} {data : Update}
    {c : Socket} {q : Query} (hq : queries[c]? = some q)
    (haccepted : q.accepted vmOfTenant = true) :
    c ∈ recipients (openAll vmOfTenant queries) data ↔
      ∃ key ∈ handleRedisMessage data, connKey q.key = connKey key := by
  simp only [recipients, List.mem_flatMap, openAll, mem_registered_foldl]
  refine exists_congr fun key => and_congr_right fun _ => ?_
  constructor
  · rintro (hc | ⟨q', hq', -, hkey⟩)
    · simp [registered] at hc
    · rw [List.mem_zipIdx_iff_getElem?.mp hq'] at hq
      cases hq
      exact hkey
  · exact fun hkey => .inr ⟨q, List.mem_zipIdx_iff_getElem?.mpr hq, haccepted, hkey⟩

/-- The keys of the broadcasts of an update. -/
theorem handleRedisMessage_progressUpdate (type : Progress) (resource : ResourceType) (id : ℤ) :
    handleRedisMessage (progressUpdate type resource id) =
      match resource with
      | .tenant => [some (resourceKey "tenant" (some id))]
      | .networkCreate => [some (.int id)]
      | .vm => [some (.int id)]
      | .wireguard => [some (resourceKey "wireguard" (some id)), none]
      | .wireguardPeer => [some (resourceKey "wireguard-peer" (some id)), none] := by
  cases type <;> cases resource <;> rfl

section Connection

variable (q : Query) (type : Progress) (resource : ResourceType) (id : ℤ)

/-- A connection that was opened for the resource receives the update, unless another parameter
decides its key. -/
theorem reaches_iff :
    (q.param resource = some id →
      ∃ key ∈ handleRedisMessage (progressUpdate type resource id),
        connKey q.key = connKey key) ↔
      (q.param resource = some id → q.outranked id resource = false) := by
  rw [handleRedisMessage_progressUpdate]
  refine imp_congr_right fun hparam => ?_
  rcases q.key_cases with ⟨n, h, hkey⟩ | ⟨h, n, h', hkey⟩ | ⟨h, h', n, h'', hkey⟩ |
    ⟨h, h', h'', n, hn, hkey⟩ | ⟨h, h', h'', hvm, n, hn, hkey⟩ | ⟨rfl, hkey⟩ <;> cases resource <;>
    simp_all [Query.param, Query.outranked, connKey, resourceKey_inj, resourceKey_ne_global,
      resourceKey_ne_int]

/-- A connection that receives the update is on the global channel or was opened for the resource,
unless its key is the same number of the other type. -/
theorem separate_iff :
    ((∃ key ∈ handleRedisMessage (progressUpdate type resource id),
        connKey q.key = connKey key) →
      connKey q.key = .str "global" ∨ q.param resource = some id) ↔
      q.sameNumber id resource = false := by
  rw [handleRedisMessage_progressUpdate]
  rcases q.key_cases with ⟨n, h, hkey⟩ | ⟨h, n, h', hkey⟩ | ⟨h, h', n, h'', hkey⟩ |
    ⟨h, h', h'', n, hn, hkey⟩ | ⟨h, h', h'', hvm, n, hn, hkey⟩ | ⟨rfl, hkey⟩
  case inr.inr.inr.inr.inr =>
    -- the global channel has the number of no resource
    exact ⟨fun _ => by cases resource <;> rfl, fun _ _ => .inl hkey⟩
  all_goals
    cases resource <;>
      simp_all [Query.param, Query.sameNumber, connKey, resourceKey_inj, resourceKey_ne_global,
        resourceKey_ne_int, int_ne_resourceKey]

end Connection

/-- Updates about a resource are routed exactly when no accepted connection for it has its key
decided by another parameter, and none has the number of the resource as the key of the other
type. -/
theorem routed_iff (vmOfTenant : ℤ → ℤ → Bool) (queries : List Query) (type : Progress)
    (resource : ResourceType) (id : ℤ) :
    Routed vmOfTenant queries type resource id ↔
      ∀ q ∈ queries, q.accepted vmOfTenant = true →
        (q.param resource = some id → q.outranked id resource = false) ∧
          q.sameNumber id resource = false := by
  constructor
  · intro h q hmem haccepted
    obtain ⟨c, hq⟩ := List.mem_iff_getElem?.mp hmem
    have hreaches := h.reaches c q hq haccepted
    have hseparate := h.separate c q hq haccepted
    rw [mem_recipients_iff hq haccepted] at hreaches hseparate
    exact ⟨(reaches_iff q type resource id).mp hreaches,
      (separate_iff q type resource id).mp hseparate⟩
  · intro h
    refine ⟨fun c q hq haccepted => ?_, fun c q hq haccepted => ?_⟩
    · rw [mem_recipients_iff hq haccepted]
      exact (reaches_iff q type resource id).mpr (h q (List.mem_of_getElem? hq) haccepted).1
    · rw [mem_recipients_iff hq haccepted]
      exact (separate_iff q type resource id).mpr (h q (List.mem_of_getElem? hq) haccepted).2

/-- A connection for the VM 5 receives the log of the network 5. -/
theorem not_routed : ¬ ∀ vmOfTenant queries type resource id,
    Routed vmOfTenant queries type resource id := by
  intro h
  have hseparate := (h (fun _ _ => true) [{ vmId := some 5 }] .log .networkCreate 5).separate 0
    { vmId := some 5 } rfl rfl
  exact absurd (hseparate (by decide)) (by decide)

end ProxmoxIaas.WebSocket
