import ProxmoxIaas.Firewall.Pull

/-!
# Lookups on OPNsense

A search on OPNsense answers one page of rows. The provider asks for the first page, of a fixed
size, and takes what is not on it for absent: the synchronisation then deletes the row of a rule
that is still on OPNsense.

## Main results

- `exhaustive_iff`: the lookups find everything exactly when everything is on the first pages.
- `get?_pulledDb_of_unlisted`: the synchronisation deletes the row of a rule that is not listed.
- `not_exhaustive`: the last one of 1001 rules is not listed.
-/

namespace ProxmoxIaas

/-- A server as `search_server` answers it. -/
structure WgServerRow where
  /-- The uuid of the server. -/
  uuid : String
  /-- Its device, such as `wg0`. -/
  interface : Option String
  deriving DecidableEq, Repr

/-- A client as `search_client` answers it. -/
structure WgClientRow where
  /-- The uuid of the client. -/
  uuid : String
  /-- Its public key. -/
  pubkey : String
  deriving DecidableEq, Repr

/-- The exceptions of the lookups. -/
inductive ProviderError where
  | runtimeError (message : String)
  | nameError (message : String)
  deriving DecidableEq, Repr

/-- The answer of `add_client_builder`. -/
inductive SaveAnswer where
  /-- The client was saved. -/
  | saved
  /-- It was rejected. -/
  | rejected (message : String)
  deriving DecidableEq, Repr

/-- What the lookups search on an OPNsense VM. -/
structure OpnsenseObjects where
  /-- The firewall rules. -/
  rules : Opnsense
  /-- The WireGuard servers. -/
  servers : List WgServerRow
  /-- The WireGuard clients. -/
  clients : List WgClientRow

/-- `get_wg_device_name`: one page of at most 50 servers. -/
def getWgDeviceName (servers : List WgServerRow) (serverUuid : String) :
    Except ProviderError String :=
  match (servers.take 50).findSome? fun row =>
    if row.uuid = serverUuid then truthyText row.interface else none with
  | some device => .ok device
  | none => .error <| .runtimeError <|
      "WireGuard server " ++ serverUuid ++ " not found in search_server response"

/-- `add_wg_client` after the answer of `add_client_builder`: the clients are searched for the public
key of the new one, on one page of at most 100. The message of the exception refers to a name that
is not defined. -/
def addWgClient (answer : SaveAnswer) (clients : List WgClientRow) (pubkey : String) :
    Except ProviderError String :=
  match answer with
  | .rejected message => .error (.runtimeError message)
  | .saved =>
    match (clients.take 100).find? fun row => row.pubkey = pubkey with
    | some row => .ok row.uuid
    | none => .error (.nameError "name 'clients' is not defined")

/-- The lookups find everything that is there. -/
structure ExhaustiveLookups (vm : OpnsenseObjects) : Prop where
  /-- Every rule is listed. -/
  rules : ∀ uuid payload, Table.get? vm.rules uuid = some payload →
    (uuid, payload) ∈ vm.rules.listRules
  /-- The device of every server is found. -/
  servers : ∀ server ∈ vm.servers, ∃ device, getWgDeviceName vm.servers server.uuid = .ok device
  /-- A client that was saved is found. -/
  clients : ∀ client ∈ vm.clients, ∃ uuid, addWgClient .saved vm.clients client.pubkey = .ok uuid
  /-- The synchronisation keeps the rows of rules that are still on OPNsense. -/
  kept : ∀ (db : FirewallDb) tenantId id rule, db.rules.get? id = some rule →
    (Table.get? vm.rules rule.uuid).isSome = true →
    ((pulledDb db tenantId vm.rules.listRules).rules.get? id).isSome = true

/-- Everything is on the first page of its search. -/
structure OnFirstPages (vm : OpnsenseObjects) : Prop where
  /-- There are at most 1000 rules. -/
  rules : vm.rules.entries.length ≤ 1000
  /-- Among the first 50 servers there is one with the uuid of every server, and it has a device. -/
  servers : ∀ server ∈ vm.servers, ∃ row ∈ vm.servers.take 50, row.uuid = server.uuid ∧
    truthyText row.interface ≠ none
  /-- Among the first 100 clients there is one with the public key of every client. -/
  clients : ∀ client ∈ vm.clients, ∃ row ∈ vm.clients.take 100, row.pubkey = client.pubkey

/-- A server is found if it is on the first page with a device. -/
theorem getWgDeviceName_isOk_iff {servers : List WgServerRow} {serverUuid : String} :
    (∃ device, getWgDeviceName servers serverUuid = .ok device) ↔
      ∃ row ∈ servers.take 50, row.uuid = serverUuid ∧ truthyText row.interface ≠ none := by
  have hsearch : ((servers.take 50).findSome? fun row =>
      if row.uuid = serverUuid then truthyText row.interface else none).isSome = true ↔
      ∃ row ∈ servers.take 50, row.uuid = serverUuid ∧ truthyText row.interface ≠ none := by
    rw [List.findSome?_isSome_iff]
    refine exists_congr fun row => and_congr_right fun _ => ?_
    by_cases huuid : row.uuid = serverUuid
    · rw [if_pos huuid, Option.isSome_iff_ne_none]
      exact ⟨fun h => ⟨huuid, h⟩, And.right⟩
    · rw [if_neg huuid]
      exact ⟨nofun, fun h => absurd h.1 huuid⟩
  rw [← hsearch]
  unfold getWgDeviceName
  cases (servers.take 50).findSome? fun row =>
      if row.uuid = serverUuid then truthyText row.interface else none with
  | none => exact ⟨nofun, nofun⟩
  | some device => exact ⟨fun _ => rfl, fun _ => ⟨device, rfl⟩⟩

/-- A client that was saved is found if its public key is on the first page. -/
theorem addWgClient_isOk_iff {clients : List WgClientRow} {pubkey : String} :
    (∃ uuid, addWgClient .saved clients pubkey = .ok uuid) ↔
      ∃ row ∈ clients.take 100, row.pubkey = pubkey := by
  unfold addWgClient
  cases hfind : (clients.take 100).find? fun row => row.pubkey = pubkey with
  | none =>
    refine ⟨nofun, fun ⟨row, hmem, hkey⟩ => ?_⟩
    have hne := List.find?_eq_none.mp hfind row hmem
    exact absurd hkey (by simpa using hne)
  | some row =>
    exact ⟨fun _ => ⟨row, List.mem_of_find?_eq_some hfind, by simpa using List.find?_some hfind⟩,
      fun _ => ⟨row.uuid, rfl⟩⟩

variable {opnsense : Opnsense} {uuid : String}

/-- Every rule is listed if there are at most 1000. -/
theorem mem_listRules_of_le (h : opnsense.entries.length ≤ 1000) {payload : Payload}
    (hget : Table.get? opnsense uuid = some payload) : (uuid, payload) ∈ opnsense.listRules := by
  unfold Opnsense.listRules
  rw [List.take_of_length_le h]
  exact List.mem_map.mpr ⟨_, Table.get?_eq_some_iff.mp hget, rfl⟩

/-- If every rule is listed, there are at most 1000. -/
theorem length_le_of_listed (h : ∀ uuid payload, Table.get? opnsense uuid = some payload →
    (uuid, payload) ∈ opnsense.listRules) : opnsense.entries.length ≤ 1000 := by
  have hsubset : opnsense.entries ⊆ opnsense.entries.take 1000 := by
    intro row hmem
    obtain ⟨row', hmem', heq⟩ := List.mem_map.mp (h row.1 row.2 (Table.get?_eq_some_iff.mpr hmem))
    obtain ⟨hkey, hvalue⟩ := Prod.mk.inj heq
    rwa [← Sigma.ext hkey (heq_of_eq hvalue)]
  have hlength := (List.subperm_of_subset opnsense.nodupKeys.nodup hsubset).length_le
  rw [List.length_take] at hlength
  exact hlength.trans (Nat.min_le_left _ _)

variable {db : FirewallDb} {tenantId id : ℕ} {rule : OPNsenseFirewallRule}
  {listed : List (String × Payload)}

/-- The synchronisation keeps the rows whose rules are listed. -/
theorem isSome_pulledDb_of_listed (hget : db.rules.get? id = some rule)
    (hlisted : (List.lookup rule.uuid listed).isSome = true) :
    ((pulledDb db tenantId listed).rules.get? id).isSome = true := by
  unfold pulledDb
  cases hbefore : beforeError db tenantId [] listed with
  | some before =>
    -- A run that raises has deleted nothing.
    obtain ⟨db', seen, hraises, hpulled⟩ := pullRules_of_error hbefore
    rw [hraises]
    exact Option.isSome_iff_exists.mpr ⟨_, hpulled.known id rule hget⟩
  | none =>
    obtain ⟨visited, seen, progress, hruns, hpulled, hleft⟩ := pullRules_of_none hbefore
    rw [hruns]
    show (progress.db.rules.get? id).isSome = true
    rw [hleft, hpulled.known id rule hget, hget, Option.filter_some]
    simp only [Option.any_some, isSwept, Option.isNone_eq_false_iff.mpr hlisted, Bool.false_and,
      Bool.and_false, Bool.not_false, if_true, Option.isSome_some]

/-- A synchronisation that does not raise deletes the row of a synced rule that is not listed, if
its entry fits into the audit log. -/
theorem get?_pulledDb_of_unlisted (hruns : beforeError db tenantId [] listed = none)
    (hget : db.rules.get? id = some rule) (htenant : rule.tenantId = tenantId)
    (hsynced : rule.applyStatus = .synced) (haudit : auditable rule.content = true)
    (hunlisted : List.lookup rule.uuid listed = none) :
    (pulledDb db tenantId listed).rules.get? id = none := by
  obtain ⟨visited, seen, progress, hruns, hpulled, hleft⟩ := pullRules_of_none hruns
  -- The visits leave the row: no listed rule has its uuid.
  have hkept : rule.pullAll db.tenants listed = rule := by
    rcases rule.pullAll_cases db.tenants listed with hsame | ⟨payload, _, hmem, -⟩
    · exact hsame
    · have hlisted := isSome_lookup_of_listed hmem
      rw [hunlisted] at hlisted
      cases hlisted
  unfold pulledDb
  rw [hruns]
  show progress.db.rules.get? id = none
  rw [hleft, hpulled.known id rule hget, if_pos htenant, hkept, hget, Option.filter_some]
  simp [htenant, isSwept, hunlisted, hsynced, haudit]

/-- The lookups find everything exactly when everything is on the first pages. -/
theorem exhaustive_iff (vm : OpnsenseObjects) : ExhaustiveLookups vm ↔ OnFirstPages vm := by
  constructor
  · intro h
    exact {
      rules := length_le_of_listed h.rules
      servers := fun server hmem => getWgDeviceName_isOk_iff.mp (h.servers server hmem)
      clients := fun client hmem => addWgClient_isOk_iff.mp (h.clients client hmem) }
  · intro h
    refine {
      rules := fun uuid payload hget => mem_listRules_of_le h.rules hget
      servers := fun server hmem => getWgDeviceName_isOk_iff.mpr (h.servers server hmem)
      clients := fun client hmem => addWgClient_isOk_iff.mpr (h.clients client hmem)
      kept := fun db tenantId id rule hget hthere => ?_ }
    obtain ⟨payload, hpayload⟩ := Option.isSome_iff_exists.mp hthere
    exact isSome_pulledDb_of_listed hget
      (isSome_lookup_of_listed (mem_listRules_of_le h.rules hpayload))

/-- Different numbers are printed differently. -/
private theorem toString_injective {m n : ℤ} (h : toString m = toString n) : m = n := by
  have hread := Text.int?_toString m
  rw [h, Text.int?_toString] at hread
  exact (Option.some.inj hread).symm

/-- Some number of rules on OPNsense. -/
def numberedRules (n : ℕ) : Opnsense :=
  ⟨(List.range n).map fun k : ℕ => ⟨toString (k : ℤ), []⟩, by
    rw [List.NodupKeys, List.keys, List.map_map]
    refine List.Nodup.map (fun k l h => ?_) List.nodup_range
    exact Int.ofNat_inj.mp (toString_injective h)⟩

/-- Their number. -/
theorem length_numberedRules (n : ℕ) : (numberedRules n).entries.length = n :=
  (List.length_map _).trans List.length_range

/-- The last one of 1001 rules is not listed. -/
theorem not_exhaustive : ¬ ∀ vm, ExhaustiveLookups vm := by
  intro h
  have hlength := length_le_of_listed (h ⟨numberedRules 1001, [], []⟩).rules
  rw [length_numberedRules] at hlength
  exact absurd hlength (by decide)

end ProxmoxIaas
