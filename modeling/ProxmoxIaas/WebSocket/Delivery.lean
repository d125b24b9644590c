import ProxmoxIaas.Foundation.LiveIteration
import ProxmoxIaas.Foundation.Machine
import ProxmoxIaas.WebSocket.Model

/-!
# Delivery of a Broadcast

`broadcast` walks over the list that is registered under its key and waits at every send; the
endpoints connect and disconnect meanwhile. The machine follows one broadcast at a time: whatever
else calls `disconnect`, an endpoint or the end of another broadcast, is an event of its own.
The list object that the loop walks over is the one under the key until `disconnect` deletes the
key; from then on the loop has an empty list, also when the key is registered anew.

## Main results

- `delivered_of_reachable`: in every run in which no visited connection disconnects while a
  connection from before the broadcast has still to be visited, every broadcast that has ended
  has delivered.
-/

namespace ProxmoxIaas.WebSocket

open ActiveConnections

/-- A broadcast, at an await or ended. -/
structure Broadcast where
  key : Option Key
  /-- The key has been deleted, and the loop walks over a list of its own. -/
  detached : Bool
  /-- The index of the connection after the current one. -/
  index : ℕ
  /-- The connection to which the message is being sent. -/
  connection : Option Socket
  /-- The connections whose send has raised. -/
  disconnected : List Socket
  /-- The connections that have received the message. -/
  received : List Socket
  /-- The connections that were registered before. -/
  before : List Socket

/-- The manager and a broadcast. -/
structure State where
  manager : ActiveConnections
  broadcast : Option Broadcast
  /-- The sockets so far, each with the key under which it was registered. -/
  opened : List (Socket × Key)
  /-- The sockets that have been disconnected, other than by the broadcast. -/
  closed : List Socket
  /-- The sockets that a broadcast has disconnected. -/
  evicted : List Socket

/-- What can happen at an await. -/
inductive Event
  /-- A socket is accepted and registered. -/
  | connect (key : Option Key)
  /-- `disconnect` is called for a socket. -/
  | disconnect (websocket : Socket) (key : Option Key)
  /-- A broadcast starts. -/
  | start (key : Option Key)
  /-- The send returns, or raises. -/
  | resume (raises : Bool)

/-- The list that the loop of a broadcast walks over. -/
def Broadcast.targets (b : Broadcast) (m : ActiveConnections) : List Socket :=
  if b.detached then [] else registered m (connKey b.key)

/-- The broadcast loop goes on to the next connection, and after the last one disconnects those
that have failed. -/
def proceed (s : State) (b : Broadcast) : State :=
  match (b.targets s.manager)[b.index]? with
  | some connection =>
    { s with broadcast := some { b with index := b.index + 1, connection := some connection } }
  | none =>
    { s with
      manager := b.disconnected.foldl (fun m c => disconnect m c b.key) s.manager
      broadcast := some { b with connection := none }
      evicted := s.evicted ++ b.disconnected }

/-- The machine's step. -/
def step (s : State) : Event → State
  | .connect key =>
    let websocket := s.opened.length
    { s with
      manager := connect s.manager websocket key
      opened := s.opened ++ [(websocket, connKey key)] }
  | .disconnect websocket key =>
    let manager := disconnect s.manager websocket key
    { s with
      manager := manager
      broadcast := s.broadcast.map fun b =>
        { b with detached := b.detached || (manager.get? (connKey b.key)).isNone }
      closed := s.closed ++ [websocket] }
  | .start key =>
    if s.broadcast.any (·.connection.isSome) then s
    else proceed s
      { key := key
        detached := false
        index := 0
        connection := none
        disconnected := []
        received := []
        before := registered s.manager (connKey key) }
  | .resume raises =>
    match s.broadcast with
    | none => s
    | some b =>
      match b.connection with
      | none => s
      | some connection =>
        if raises then proceed s { b with disconnected := b.disconnected ++ [connection] }
        else proceed s { b with received := b.received ++ [connection] }

/-- The connection manager. -/
def machine : Machine State Event where
  init s := s.manager = ∅ ∧ s.broadcast = none ∧ s.opened = [] ∧ s.closed = [] ∧ s.evicted = []
  step := step

/-- What a broadcast that has ended has done: the connections from before that have neither
disconnected nor failed have the message exactly once, the failed ones are not registered, and
every other connection is. -/
structure Delivered (s : State) (b : Broadcast) : Prop where
  once : ∀ c ∈ b.before, c ∉ s.closed → c ∉ b.disconnected → b.received.count c = 1
  failed : ∀ c ∈ b.disconnected, ∀ key, c ∉ registered s.manager key
  kept : ∀ c key, (c, key) ∈ s.opened → c ∉ s.closed → c ∉ s.evicted →
    c ∈ registered s.manager key

/-- Every broadcast that has ended has delivered. -/
def AllDelivered (s : State) : Prop :=
  ∀ b, s.broadcast = some b → b.connection = none → Delivered s b

/-- The loop has not visited the socket, or has visited all connections from before. -/
def Broadcast.skipsNone (b : Broadcast) (m : ActiveConnections) (websocket : Socket) : Bool :=
  b.connection.isNone || websocket ∉ (b.targets m).take b.index ||
    ((b.targets m).drop b.index).all (· ∉ b.before)

/-- No visited connection disconnects while one from before the broadcast has still to be
visited. -/
def skipsNone (s : State) : Event → Bool
  | .disconnect websocket key =>
    s.broadcast.all fun b => connKey key ≠ connKey b.key || b.skipsNone s.manager websocket
  | .connect _ | .start _ | .resume _ => true

/-- What a run keeps of the registrations. -/
structure Registered (s : State) : Prop where
  numbered : ∀ c key, (c, key) ∈ s.opened → c < s.opened.length
  one_key : ∀ c key key', (c, key) ∈ s.opened → (c, key') ∈ s.opened → key = key'
  opened : ∀ c key, c ∈ registered s.manager key → (c, key) ∈ s.opened
  nodup : ∀ key, (registered s.manager key).Nodup
  kept : ∀ c key, (c, key) ∈ s.opened → c ∉ s.closed → c ∉ s.evicted →
    c ∈ registered s.manager key
  gone : ∀ c ∈ s.evicted, ∀ key, c ∉ registered s.manager key
  evicted : ∀ c ∈ s.evicted, c < s.opened.length

/-- The connections that the loop has visited. -/
def Broadcast.visited (b : Broadcast) : List Socket :=
  b.received ++ b.disconnected ++ b.connection.toList

/-- What a broadcast keeps: it visits no connection twice, and every connection from before that
stays is visited or still ahead. -/
structure Walks (s : State) (b : Broadcast) : Prop where
  nodup : (b.visited ++ (b.targets s.manager).drop b.index).Nodup
  opened : ∀ c ∈ b.visited, (c, connKey b.key) ∈ s.opened
  cover : ∀ c ∈ b.before, c ∉ s.closed →
    c ∈ b.visited ∨ c ∈ (b.targets s.manager).drop b.index
  before : ∀ c ∈ b.before, c < s.opened.length

/-- What an ended broadcast keeps. -/
structure Ended (s : State) (b : Broadcast) : Prop where
  nodup : (b.received ++ b.disconnected).Nodup
  cover : ∀ c ∈ b.before, c ∉ s.closed → c ∈ b.received ∨ c ∈ b.disconnected
  evicted : ∀ c ∈ b.disconnected, c ∈ s.evicted

/-- The invariant of the runs that skip no connection. -/
structure Inv (s : State) : Prop where
  registered : Registered s
  walks : ∀ b, s.broadcast = some b → b.connection.isSome → Walks s b
  ended : ∀ b, s.broadcast = some b → b.connection = none → Ended s b

/-! ### The registrations -/

theorem Registered.connect {s : State} (h : Registered s) (key : Option Key) :
    Registered (step s (.connect key)) := by
  have hfresh : ∀ k, s.opened.length ∉ registered s.manager k := fun k hmem =>
    absurd (h.numbered _ _ (h.opened _ _ hmem)) (lt_irrefl _)
  constructor
  case numbered =>
    intro c k hc
    simp only [step, List.mem_append, List.mem_singleton, Prod.mk.injEq, List.length_append,
      List.length_singleton] at hc ⊢
    rcases hc with hc | ⟨rfl, -⟩
    · exact (h.numbered c k hc).trans (Nat.lt_succ_self _)
    · exact Nat.lt_succ_self _
  case one_key =>
    intro c k k' hc hc'
    simp only [step, List.mem_append, List.mem_singleton, Prod.mk.injEq] at hc hc'
    rcases hc with hc | ⟨rfl, rfl⟩ <;> rcases hc' with hc' | ⟨hlength, rfl⟩
    · exact h.one_key c k k' hc hc'
    · exact absurd (h.numbered _ _ hc) (hlength ▸ lt_irrefl _)
    · exact absurd (h.numbered _ _ hc') (lt_irrefl _)
    · rfl
  case opened =>
    intro c k hc
    simp only [step, registered_connect] at hc ⊢
    split at hc
    case isTrue hk =>
      rcases List.mem_append.mp hc with hc | hc
      · exact List.mem_append_left _ (h.opened c k hc)
      · rw [List.mem_singleton.mp hc, hk]
        exact List.mem_append_right _ (List.mem_singleton.mpr rfl)
    case isFalse => exact List.mem_append_left _ (h.opened c k hc)
  case nodup =>
    intro k
    simp only [step, registered_connect]
    split
    case isTrue => exact List.nodup_append.mpr ⟨h.nodup k, List.nodup_singleton _, fun a ha b hb => by
      rw [List.mem_singleton.mp hb]
      exact fun heq => hfresh k (heq ▸ ha)⟩
    case isFalse => exact h.nodup k
  case kept =>
    intro c k hc hclosed hevicted
    simp only [step, List.mem_append, List.mem_singleton, Prod.mk.injEq, registered_connect] at hc ⊢
    rcases hc with hc | ⟨rfl, rfl⟩
    · have hkept := h.kept c k hc hclosed hevicted
      split
      case isTrue => exact List.mem_append_left _ hkept
      case isFalse => exact hkept
    · simp
  case gone =>
    intro c hc k
    have hgone := h.gone c hc k
    simp only [step, registered_connect]
    split
    case isTrue =>
      -- the new socket has a number of its own
      have hne : c ≠ s.opened.length := (h.evicted c hc).ne
      simpa [hne] using hgone
    case isFalse => exact hgone
  case evicted =>
    intro c hc
    simpa [step] using (h.evicted c hc).trans (Nat.lt_succ_self _)

theorem Registered.disconnect {s : State} (h : Registered s) (websocket : Socket)
    (key : Option Key) : Registered (step s (.disconnect websocket key)) := by
  have hsub : ∀ k c, c ∈ registered (ActiveConnections.disconnect s.manager websocket key) k →
      c ∈ registered s.manager k := by
    intro k c hc
    rw [registered_disconnect] at hc
    split at hc
    case isTrue => exact List.mem_of_mem_erase hc
    case isFalse => exact hc
  constructor
  case numbered => exact h.numbered
  case one_key => exact h.one_key
  case opened => exact fun c k hc => h.opened c k (hsub k c hc)
  case nodup =>
    intro k
    simp only [step, registered_disconnect]
    split
    case isTrue => exact (h.nodup k).erase _
    case isFalse => exact h.nodup k
  case kept =>
    intro c k hc hclosed hevicted
    simp only [step, List.mem_append, List.mem_singleton, not_or] at hclosed
    have hkept := h.kept c k hc hclosed.1 hevicted
    simp only [step, registered_disconnect]
    split
    case isTrue => exact (List.mem_erase_of_ne hclosed.2).mpr hkept
    case isFalse => exact hkept
  case gone => exact fun c hc k hmem => h.gone c hc k (hsub k c hmem)
  case evicted => exact h.evicted

/-- The end of a broadcast disconnects the sockets that have failed and no others. -/
theorem Registered.proceed {s : State} {b : Broadcast} (h : Registered s)
    (hfailed : ∀ c ∈ b.disconnected, (c, connKey b.key) ∈ s.opened) :
    Registered (proceed s b) := by
  unfold WebSocket.proceed
  split
  case h_1 => exact ⟨h.numbered, h.one_key, h.opened, h.nodup, h.kept, h.gone, h.evicted⟩
  case h_2 =>
    have hmem : ∀ k c, c ∈ registered (b.disconnected.foldl
        (fun m c => ActiveConnections.disconnect m c b.key) s.manager) k ↔
        c ∈ registered s.manager k ∧ (k = connKey b.key → c ∉ b.disconnected) := by
      intro k c
      rw [registered_foldl_disconnect]
      by_cases hk : k = connKey b.key
      · simp [hk, (h.nodup _).mem_sdiff_iff]
      · simp [hk]
    constructor
    case numbered => exact h.numbered
    case one_key => exact h.one_key
    case opened => exact fun c k hc => h.opened c k ((hmem k c).mp hc).1
    case nodup =>
      intro k
      show (registered (b.disconnected.foldl _ s.manager) k).Nodup
      rw [registered_foldl_disconnect]
      split
      case isTrue => exact (h.nodup k).diff
      case isFalse => exact h.nodup k
    case kept =>
      intro c k hc hclosed hevicted
      simp only [List.mem_append, not_or] at hevicted
      exact (hmem k c).mpr ⟨h.kept c k hc hclosed hevicted.1, fun _ => hevicted.2⟩
    case gone =>
      intro c hc k hmemk
      obtain ⟨hregistered, hnot⟩ := (hmem k c).mp hmemk
      rcases List.mem_append.mp hc with hc | hc
      · exact h.gone c hc k hregistered
      · -- a socket is registered under its own key only
        exact hnot (h.one_key c _ _ (h.opened c k hregistered) (hfailed c hc)) hc
    case evicted =>
      intro c hc
      rcases List.mem_append.mp hc with hc | hc
      · exact h.evicted c hc
      · exact h.numbered c _ (hfailed c hc)

/-! ### The walk of a broadcast -/

theorem registered_of_mem_targets {b : Broadcast} {m : ActiveConnections} {c : Socket}
    (h : c ∈ b.targets m) : c ∈ registered m (connKey b.key) := by
  unfold Broadcast.targets at h
  split at h
  case isTrue => cases h
  case isFalse => exact h

/-- What the next entry, or the end of the loop, makes of a broadcast that has just seen a send
end. -/
theorem inv_proceed {s : State} {b : Broadcast} (hregistered : Registered s)
    (h : Walks s { b with connection := none }) : Inv (proceed s b) := by
  have hvisited : Broadcast.visited { b with connection := none } = b.received ++ b.disconnected :=
    List.append_nil _
  have htargets : Broadcast.targets { b with connection := none } = b.targets := rfl
  have hnodup := h.nodup
  have hopened := h.opened
  have hcover := h.cover
  rw [hvisited, htargets] at hnodup hcover
  rw [hvisited] at hopened
  dsimp only at hnodup hcover hopened
  have hfailed : ∀ c ∈ b.disconnected, (c, connKey b.key) ∈ s.opened := fun c hc =>
    hopened c (List.mem_append_right _ hc)
  have hnext := hregistered.proceed hfailed
  unfold proceed at hnext ⊢
  split at hnext
  case h_1 connection hget =>
    -- the next entry is taken out of what lies ahead
    have hdrop : (b.targets s.manager).drop b.index =
        connection :: (b.targets s.manager).drop (b.index + 1) := by
      obtain ⟨hlt, rfl⟩ := List.getElem?_eq_some_iff.mp hget
      exact List.drop_eq_getElem_cons hlt
    rw [hdrop] at hnodup hcover
    refine ⟨hnext, fun b' hb' _ => ?_, fun b' hb' hended => ?_⟩
    case refine_2 =>
      cases hb'
      cases hended
    cases hb'
    constructor
    case nodup =>
      show (b.received ++ b.disconnected ++ [connection] ++
        (b.targets s.manager).drop (b.index + 1)).Nodup
      rwa [List.append_assoc]
    case opened =>
      intro c hc
      rcases List.mem_append.mp hc with hc | hc
      · exact hopened c hc
      · rw [Option.toList_some, List.mem_singleton] at hc
        subst hc
        exact hregistered.opened _ _ (registered_of_mem_targets (List.mem_of_getElem? hget))
    case cover =>
      intro c hc hclosed
      rcases hcover c hc hclosed with hc | hc
      · exact .inl (List.mem_append_left _ hc)
      · rcases List.mem_cons.mp hc with rfl | hc
        · exact .inl (List.mem_append_right _ (List.mem_singleton.mpr rfl))
        · exact .inr hc
    case before => exact h.before
  case h_2 hget =>
    -- nothing lies ahead, and the loop is over
    have hdrop : (b.targets s.manager).drop b.index = [] :=
      List.drop_eq_nil_of_le (List.getElem?_eq_none_iff.mp hget)
    rw [hdrop, List.append_nil] at hnodup
    rw [hdrop] at hcover
    refine ⟨hnext, fun b' hb' hrunning => ?_, fun b' hb' _ => ?_⟩
    · cases hb'
      cases hrunning
    cases hb'
    refine ⟨hnodup, fun c hc hclosed => ?_, fun c hc => List.mem_append_right _ hc⟩
    rcases hcover c hc hclosed with hc | hc
    · exact List.mem_append.mp hc
    · cases hc

theorem Inv.start {s : State} (h : Inv s) (key : Option Key) : Inv (step s (.start key)) := by
  show Inv (if _ then _ else _)
  split
  case isTrue => exact h
  case isFalse =>
    refine inv_proceed h.registered ⟨?_, ?_, fun c hc _ => .inr hc, ?_⟩
    · exact h.registered.nodup (connKey key)
    · simp [Broadcast.visited]
    · exact fun c hc => h.registered.numbered c _ (h.registered.opened c _ hc)

theorem Inv.resume {s : State} (h : Inv s) (raises : Bool) : Inv (step s (.resume raises)) := by
  cases hbroadcast : s.broadcast with
  | none => simpa only [step, hbroadcast] using h
  | some b =>
    cases hconnection : b.connection with
    | none => simpa only [step, hbroadcast, hconnection] using h
    | some connection =>
      have hwalks := h.walks b hbroadcast (by simp [hconnection])
      have hvisited : b.visited = b.received ++ b.disconnected ++ [connection] := by
        rw [Broadcast.visited, hconnection, Option.toList_some]
      simp only [step, hbroadcast, hconnection]
      -- the current connection joins those that failed or those that received
      split
      case isTrue =>
        have hperm : Broadcast.visited { b with
            disconnected := b.disconnected ++ [connection], connection := none } = b.visited := by
          simp [Broadcast.visited, hconnection]
        refine inv_proceed h.registered ⟨?_, ?_, ?_, hwalks.before⟩
        · rw [hperm]
          exact hwalks.nodup
        · rw [hperm]
          exact hwalks.opened
        · rw [hperm]
          exact hwalks.cover
      case isFalse =>
        have hperm : (Broadcast.visited { b with
            received := b.received ++ [connection], connection := none }).Perm b.visited := by
          rw [hvisited]
          simpa [Broadcast.visited] using
            (List.perm_append_singleton connection b.disconnected).symm.append_left b.received
        refine inv_proceed h.registered ⟨?_, ?_, ?_, hwalks.before⟩
        · exact ((hperm.append_right _).nodup_iff).mpr hwalks.nodup
        · exact fun c hc => hwalks.opened c (hperm.mem_iff.mp hc)
        · exact fun c hc hclosed => (hwalks.cover c hc hclosed).imp_left hperm.mem_iff.mpr

/-- A new connection is appended to the list of the loop, or is not in it. -/
theorem targets_connect (b : Broadcast) (m : ActiveConnections) (websocket : Socket)
    (key : Option Key) :
    b.targets (connect m websocket key) = b.targets m ∨
      b.targets (connect m websocket key) = b.targets m ++ [websocket] := by
  unfold Broadcast.targets
  rw [registered_connect]
  split
  case isTrue => exact .inl rfl
  case isFalse =>
    split
    case isTrue => exact .inr rfl
    case isFalse => exact .inl rfl

theorem Inv.connect {s : State} (h : Inv s) (key : Option Key) : Inv (step s (.connect key)) := by
  refine ⟨h.registered.connect key, fun b hb hrunning => ?_, fun b hb hended => ?_⟩
  · have hwalks := h.walks b hb hrunning
    have hfresh : ∀ c ∈ b.visited ++ (b.targets s.manager).drop b.index,
        c ≠ s.opened.length := by
      intro c hc
      refine (h.registered.numbered c (connKey b.key) ?_).ne
      rcases List.mem_append.mp hc with hc | hc
      · exact hwalks.opened c hc
      · exact h.registered.opened c _ (registered_of_mem_targets (List.mem_of_mem_drop hc))
    constructor
    case nodup =>
      show (b.visited ++ (b.targets (ActiveConnections.connect s.manager _ key)).drop
        b.index).Nodup
      rcases targets_connect b s.manager s.opened.length key with htargets | htargets
      · rw [htargets]
        exact hwalks.nodup
      · rw [htargets]
        have hsub := (List.Sublist.refl b.visited).append
          (LiveIteration.drop_append_sublist (b.targets s.manager) b.index s.opened.length)
        refine List.Nodup.sublist hsub ?_
        rw [← List.append_assoc]
        refine List.nodup_append.mpr ⟨hwalks.nodup, List.nodup_singleton _, fun c hc c' hc' => ?_⟩
        rw [List.mem_singleton.mp hc']
        exact hfresh c hc
    case opened => exact fun c hc => List.mem_append_left _ (hwalks.opened c hc)
    case cover =>
      intro c hc hclosed
      refine (hwalks.cover c hc hclosed).imp_right fun hahead => ?_
      show c ∈ (b.targets (ActiveConnections.connect s.manager _ key)).drop b.index
      rcases targets_connect b s.manager s.opened.length key with htargets | htargets
      · rwa [htargets]
      · rw [htargets]
        exact LiveIteration.mem_drop_append _ hahead
    case before =>
      intro c hc
      simpa [step] using (hwalks.before c hc).trans (Nat.lt_succ_self _)
  · have hdone := h.ended b hb hended
    exact ⟨hdone.nodup, hdone.cover, hdone.evicted⟩

/-- A call of `disconnect` takes the socket out of the list of the loop, if it is for its key; a
loop whose key is deleted is left with an empty list. -/
theorem targets_disconnect (b : Broadcast) (m : ActiveConnections) (websocket : Socket)
    (key : Option Key) :
    Broadcast.targets { b with
        detached := b.detached || ((disconnect m websocket key).get? (connKey b.key)).isNone }
        (disconnect m websocket key) =
      if connKey key = connKey b.key then (b.targets m).erase websocket else b.targets m := by
  have hregistered := registered_disconnect m websocket key (connKey b.key)
  have hnone : ((disconnect m websocket key).get? (connKey b.key)).isNone = true →
      registered (disconnect m websocket key) (connKey b.key) = [] := by
    intro h
    rw [registered, Option.isNone_iff_eq_none.mp h, Option.getD_none]
  by_cases hdetached : b.detached
  · simp [Broadcast.targets, hdetached]
  · by_cases hdeleted : ((disconnect m websocket key).get? (connKey b.key)).isNone
    · rw [hnone hdeleted] at hregistered
      simp only [Broadcast.targets, hdetached, hdeleted, Bool.or_true, if_true,
        Bool.false_eq_true, if_false]
      rw [hregistered]
      by_cases hkey : connKey key = connKey b.key
      · rw [if_pos hkey, if_pos hkey.symm]
      · rw [if_neg hkey, if_neg (Ne.symm hkey)]
    · simp only [Broadcast.targets, hdetached, hdeleted, Bool.or_self, Bool.false_eq_true, if_false,
        hregistered, eq_comm]

theorem Inv.disconnect {s : State} (h : Inv s) {websocket : Socket} {key : Option Key}
    (hok : skipsNone s (.disconnect websocket key) = true) :
    Inv (step s (.disconnect websocket key)) := by
  refine ⟨h.registered.disconnect websocket key, fun b' hb' hrunning => ?_,
    fun b' hb' hended => ?_⟩
  · obtain ⟨b, hb, rfl⟩ := Option.map_eq_some_iff.mp hb'
    have hwalks := h.walks b hb hrunning
    have hguard : connKey key ≠ connKey b.key ∨ b.skipsNone s.manager websocket = true := by
      simpa [skipsNone, hb] using hok
    have htargets := targets_disconnect b s.manager websocket key
    constructor
    case nodup =>
      show (b.visited ++ (Broadcast.targets _ (ActiveConnections.disconnect s.manager websocket
        key)).drop b.index).Nodup
      -- a removal from the list that is walked shifts what lies ahead
      rw [htargets]
      split
      case isTrue =>
        exact List.Nodup.sublist ((List.Sublist.refl _).append
          (LiveIteration.drop_erase_sublist _ _ _)) hwalks.nodup
      case isFalse => exact hwalks.nodup
    case opened => exact hwalks.opened
    case cover =>
      intro c hc hclosed
      simp only [step, List.mem_append, List.mem_singleton, not_or] at hclosed
      refine (hwalks.cover c hc hclosed.1).imp_right fun hahead => ?_
      show c ∈ (Broadcast.targets _ (ActiveConnections.disconnect s.manager websocket
        key)).drop b.index
      rw [htargets]
      split
      case isTrue hkey =>
        -- a removal of a visited entry skips no connection from before the broadcast
        have hskips := hguard.resolve_left (not_not.mpr hkey)
        simp only [Broadcast.skipsNone, Option.isNone_iff_eq_none, Bool.or_eq_true,
          decide_eq_true_eq, List.all_eq_true] at hskips
        rcases hskips with (hnone | hunvisited) | hlate
        · rw [show b.connection = none from hnone] at hrunning
          cases hrunning
        · exact LiveIteration.mem_drop_erase hunvisited hclosed.2 hahead
        · exact absurd hc (hlate c hahead)
      case isFalse => exact hahead
    case before => exact hwalks.before
  · obtain ⟨b, hb, rfl⟩ := Option.map_eq_some_iff.mp hb'
    have hdone := h.ended b hb hended
    refine ⟨hdone.nodup, fun c hc hclosed => hdone.cover c hc fun hmem => ?_, hdone.evicted⟩
    exact hclosed (List.mem_append_left _ hmem)

theorem inv_init {s : State} (h : machine.init s) : Inv s := by
  obtain ⟨hmanager, hbroadcast, hopened, -, hevicted⟩ := h
  have hempty : ∀ key, registered s.manager key = [] := fun key => by
    rw [hmanager, registered, Table.get?_empty, Option.getD_none]
  refine ⟨⟨?_, ?_, ?_, ?_, ?_, ?_, ?_⟩, ?_, ?_⟩ <;> simp [hempty, hbroadcast, hopened, hevicted]

theorem inv_of_reachable {s : State} (h : machine.Reachable (skipsNone · ·) s) : Inv s := by
  refine h.invariant Inv (fun s hs => inv_init hs) fun s e hs hok => ?_
  cases e with
  | connect key => exact hs.connect key
  | disconnect websocket key => exact hs.disconnect hok
  | start key => exact hs.start key
  | resume raises => exact hs.resume raises

/-- In every run in which no visited connection disconnects while one from before has still to be
visited, every broadcast that has ended has delivered. -/
theorem delivered_of_reachable {s : State}
    (h : machine.Reachable (fun s e => skipsNone s e = true) s) : AllDelivered s := by
  intro b hb hended
  have hinv := inv_of_reachable h
  have hdone := hinv.ended b hb hended
  refine ⟨fun c hc hclosed hfailed => ?_, fun c hc => hinv.registered.gone c (hdone.evicted c hc),
    hinv.registered.kept⟩
  have hreceived : c ∈ b.received := (hdone.cover c hc hclosed).resolve_right hfailed
  exact List.count_eq_one_of_mem (List.nodup_append.mp hdone.nodup).1 hreceived

/-- A manager without connections. -/
def smallState : State := ⟨∅, none, [], [], []⟩

/-- Three connections of which one fails and another disconnects before it is visited. -/
theorem delivered_small : AllDelivered (machine.run smallState
    [.connect none, .connect none, .connect none, .start none, .disconnect 1 none, .resume true,
      .connect none, .resume false, .resume false]) := by
  have hinit : machine.init smallState := ⟨rfl, rfl, rfl, rfl, rfl⟩
  exact delivered_of_reachable ((Machine.Reachable.start hinit).run (by decide +kernel))

/-- The first of three connections disconnects while the message is being sent to it; the loop
skips the second. -/
theorem not_allDelivered : ¬ ∀ s, machine.Reachable Machine.anyStep s → AllDelivered s := by
  intro h
  have hinit : machine.init smallState := ⟨rfl, rfl, rfl, rfl, rfl⟩
  have hrun := h _ (Machine.reachable_run hinit
    [.connect none, .connect none, .connect none, .start none, .disconnect 0 none, .resume false,
      .resume false])
  have hskipped : ∃ b, (machine.run smallState
      [.connect none, .connect none, .connect none, .start none, .disconnect 0 none, .resume false,
        .resume false]).broadcast = some b ∧ b.connection = none ∧ 1 ∈ b.before ∧
      b.disconnected = [] ∧ b.received.count 1 ≠ 1 :=
    ⟨_, rfl, by decide +kernel, by decide +kernel, by decide +kernel, by decide +kernel⟩
  obtain ⟨b, hb, hended, hbefore, hfailed, hcount⟩ := hskipped
  have hclosed : 1 ∉ (machine.run smallState
      [.connect none, .connect none, .connect none, .start none, .disconnect 0 none, .resume false,
        .resume false]).closed := by decide +kernel
  exact hcount ((hrun b hb hended).once 1 hbefore hclosed (by simp [hfailed]))

end ProxmoxIaas.WebSocket
