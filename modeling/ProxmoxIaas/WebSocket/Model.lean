import ProxmoxIaas.Foundation.Table
import Mathlib.Data.List.Perm.Basic

/-!
# The Connection Manager

`ConnectionManager` registers the sockets of the WebSocket endpoint in lists, under keys that
are integers or texts. Sockets are numbered in the order in which they are registered; each is
an object of its own, and two of them are never equal.
-/

namespace ProxmoxIaas.WebSocket

/-- The keys of `active_connections`: `int | str`. -/
inductive Key
  | int (id : ℤ)
  | str (text : String)
  deriving DecidableEq

/-- A socket. -/
abbrev Socket := ℕ

/-- `key if key is not None else "global"`. -/
def connKey (key : Option Key) : Key := key.getD (.str "global")

/-- `active_connections`. -/
abbrev ActiveConnections := Table Key (List Socket)

namespace ActiveConnections

/-- The sockets registered under a key. -/
def registered (m : ActiveConnections) (key : Key) : List Socket := (m.get? key).getD []

/-- `connect`, after the socket has been accepted. -/
def connect (m : ActiveConnections) (websocket : Socket) (key : Option Key) : ActiveConnections :=
  m.insert (connKey key) (registered m (connKey key) ++ [websocket])

/-- `disconnect`: a key without sockets is deleted. -/
def disconnect (m : ActiveConnections) (websocket : Socket) (key : Option Key) :
    ActiveConnections :=
  match m.get? (connKey key) with
  | none => m
  | some sockets =>
    let sockets := sockets.erase websocket
    if sockets = [] then m.erase (connKey key) else m.insert (connKey key) sockets

@[simp]
theorem registered_connect (m : ActiveConnections) (websocket : Socket) (key : Option Key)
    (k : Key) : registered (connect m websocket key) k =
      if k = connKey key then registered m k ++ [websocket] else registered m k := by
  unfold connect registered
  rw [Table.get?_insert]
  by_cases h : k = connKey key
  · simp [h]
  · simp [h]

@[simp]
theorem registered_disconnect (m : ActiveConnections) (websocket : Socket) (key : Option Key)
    (k : Key) : registered (disconnect m websocket key) k =
      if k = connKey key then (registered m k).erase websocket else registered m k := by
  unfold disconnect
  cases hkey : m.get? (connKey key) with
  | none =>
    by_cases h : k = connKey key
    · simp [registered, h, hkey]
    · simp [h]
  | some sockets =>
    dsimp only
    by_cases h : k = connKey key
    · subst h
      split
      case isTrue hempty => simp [registered, hkey, hempty]
      case isFalse => simp [registered, hkey]
    · split
      case isTrue => simp [registered, h]
      case isFalse => simp [registered, h]

/-- The sockets that fail are disconnected one after the other. -/
theorem registered_foldl_disconnect (m : ActiveConnections) (sockets : List Socket)
    (key : Option Key) (k : Key) :
    registered (sockets.foldl (fun m c => disconnect m c key) m) k =
      if k = connKey key then (registered m k).diff sockets else registered m k := by
  induction sockets generalizing m with
  | nil => simp
  | cons c sockets ih =>
    rw [List.foldl_cons, ih, registered_disconnect]
    by_cases h : k = connKey key
    · simp [h, List.diff_cons]
    · simp [h]

end ActiveConnections

end ProxmoxIaas.WebSocket
