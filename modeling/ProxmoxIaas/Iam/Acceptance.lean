import ProxmoxIaas.Foundation.Machine
import ProxmoxIaas.Iam.Model

/-!
# Acceptance of an Invitation

Requests that accept one invitation, interleaved at the granularity of their queries and commits.
A request loads the invitation, looks for a user with the invited address, checks that the user
has no role in the tenant or that the chosen name is free, and commits what it grants together
with the mark that the invitation is used. Without a role in the invitation the grant is made by
`assign_viewer_role`, which commits on its own, and the mark follows in a second commit.

Constraints of the database are checked when a commit writes its rows.

## Main results

- `exactlyOnce_of_reachable`: the invitation is accepted at most once, and its mark goes with the
  membership, as long as no request is lost between two commits and the role of a viewer exists.
-/

namespace ProxmoxIaas.Acceptance

/-- How far a request has come. -/
inductive Phase where
  /-- The invitation was loaded and has not expired. -/
  | checked
  /-- A user has the invited address. -/
  | found (userId : ℕ)
  /-- No user has the invited address. -/
  | unknown
  /-- The user has no role in the tenant. -/
  | joining (userId : ℕ)
  /-- The name of the new user is free. -/
  | creating (username : String)
  /-- `assign_viewer_role` has committed the membership. -/
  | granted
  deriving DecidableEq, Repr

/-- An open request. -/
structure Request where
  /-- The name that a new user asks for. -/
  username : Option String
  /-- The time at which the request looked at the invitation. -/
  now : ℕ
  /-- The invitation. -/
  invitationId : ℕ
  /-- The invitation as the session has loaded it. -/
  invitation : Invitation
  /-- How far the request has come. -/
  phase : Phase
  deriving DecidableEq, Repr

/-- The committed database, the open requests, and those that have succeeded. -/
structure State where
  /-- The committed database. -/
  db : IamDb
  /-- The open requests. -/
  requests : Table ℕ Request
  /-- The requests that have committed the mark. -/
  accepted : List Request

/-- No request was made yet. -/
def State.initial (db : IamDb) : State := { db, requests := ∅, accepted := [] }

/-- The request ends. -/
def State.finish (s : State) (call : ℕ) : State := { s with requests := s.requests.erase call }

/-- The request goes on. -/
def State.proceed (s : State) (call : ℕ) (request : Request) (phase : Phase) : State :=
  { s with requests := s.requests.insert call { request with phase } }

/-- Insert a user. Names and addresses are unique. -/
def createUser (db : IamDb) (username : String) (invitation : Invitation) :
    Except ApiError (ℕ × IamDb) := do
  Except.require integrityError (db.users.first? (fun _ user =>
    user.username = username ∨ user.email = invitation.email) = none)
  return (db.users.next, { db with
    users := db.users.add
      { username
        email := invitation.email
        isActive := true
        tenantId := some invitation.tenantId } })

/-- Insert a role assignment. A user has a role in a tenant at most once. -/
def insertUserRole (db : IamDb) (userId tenantId roleId : ℕ) (grantedBy : Option ℕ) :
    Except ApiError IamDb := do
  Except.require integrityError (db.userRoles.first? (fun _ userRole =>
    userRole.userId = userId ∧ userRole.tenantId = some tenantId ∧ userRole.roleId = roleId) =
      none)
  addUserRole db userId tenantId roleId grantedBy

/-- The user that is granted access, and the database in which it exists. A request that is not
ready to grant has none. -/
def Request.account? (db : IamDb) (request : Request) : Option (Except ApiError (ℕ × IamDb)) :=
  match request.phase with
  | .joining userId => some (.ok (userId, db))
  | .creating username => some (createUser db username request.invitation)
  | _ => none

/-- Commit what the invitation grants, and whether the mark is part of the commit. -/
def commitGrant (db : IamDb) (request : Request) (userId : ℕ) : Except ApiError (IamDb × Bool) :=
  let tenantId := request.invitation.tenantId
  match truthy request.invitation.roleId with
  | some roleId => do
    let db ← insertUserRole db userId tenantId roleId request.invitation.invitedBy
    return (useInvitation db request.invitationId, true)
  | none =>
    match defaultRole db "viewer" with
    -- Without the role `assign_viewer_role` only logs an error.
    | none => return (useInvitation db request.invitationId, true)
    | some (roleId, _) => do
      let db ← insertUserRole db userId tenantId roleId none
      return (db, false)

/-- The steps of the requests. Requests are named by a number of the caller's choice. -/
inductive Event where
  /-- A request loads the invitation and checks that it has not expired. -/
  | load (call : ℕ) (username : Option String) (now : ℕ)
  /-- The request looks for a user with the invited address. -/
  | findUser (call : ℕ)
  /-- The request looks for a role of the user in the tenant, or for a user with the name. -/
  | checkAccess (call : ℕ)
  /-- The request commits what it grants. -/
  | grant (call : ℕ)
  /-- The request commits the mark after `assign_viewer_role`. -/
  | markUsed (call : ℕ)
  /-- The request is lost. -/
  | fail (call : ℕ)
  deriving DecidableEq, Repr

/-- Load the invitation. -/
def load (token : String) (s : State) (call : ℕ) (username : Option String) (now : ℕ) : State :=
  match s.requests.get? call, openInvitation? s.db token with
  | none, some (invitationId, invitation) =>
    if now ≤ invitation.expiresAt then
      { s with
        requests := s.requests.insert call
          { username, now, invitationId, invitation, phase := .checked } }
    else s
  | _, _ => s

/-- Look for a user with the invited address. -/
def findUser (s : State) (call : ℕ) (request : Request) : State :=
  if request.phase = .checked then
    match s.db.users.first? fun _ user => user.email = request.invitation.email with
    | some (userId, _) => s.proceed call request (.found userId)
    | none => s.proceed call request .unknown
  else s

/-- Look for a role of the user in the tenant, or for a user with the name. -/
def checkAccess (s : State) (call : ℕ) (request : Request) : State :=
  match request.phase with
  | .found userId =>
    match s.db.userRoles.first? fun _ userRole => userRole.userId = userId ∧
        userRole.tenantId = some request.invitation.tenantId with
    | some _ => s.finish call
    | none => s.proceed call request (.joining userId)
  | .unknown =>
    match truthyText request.username with
    | none => s.finish call
    | some username =>
      match s.db.users.first? fun _ user => user.username = username with
      | some _ => s.finish call
      | none => s.proceed call request (.creating username)
  | _ => s

/-- Commit what the request grants. A violated constraint ends it. -/
def grant (s : State) (call : ℕ) (request : Request) : State :=
  match request.account? s.db with
  | none => s
  | some account =>
    match account >>= fun (userId, db) => commitGrant db request userId with
    | .error _ => s.finish call
    | .ok (db, true) => { s.finish call with db, accepted := s.accepted ++ [request] }
    | .ok (db, false) => { s.proceed call request .granted with db }

/-- Commit the mark. -/
def markUsed (s : State) (call : ℕ) (request : Request) : State :=
  if request.phase = .granted then
    { s.finish call with
      db := useInvitation s.db request.invitationId
      accepted := s.accepted ++ [request] }
  else s

/-- The state after a step of the requests with a token. -/
def step (token : String) (s : State) : Event → State
  | .load call username now => load token s call username now
  | .findUser call => (s.requests.get? call).elim s (findUser s call)
  | .checkAccess call => (s.requests.get? call).elim s (checkAccess s call)
  | .grant call => (s.requests.get? call).elim s (grant s call)
  | .markUsed call => (s.requests.get? call).elim s (markUsed s call)
  | .fail call => s.finish call

/-- The requests that accept an invitation, started on a given database. -/
def machine (start : IamDb) (token : String) : Machine State Event where
  init s := s = State.initial start
  step := step token

/-- The membership that an invitation grants: a role assignment in its tenant, of a user with the
invited address, that was not there at the start. -/
def Member (start db : IamDb) (invitation : Invitation) : Prop :=
  ∃ id userRole user, db.userRoles.get? id = some userRole ∧ start.userRoles.get? id = none ∧
    userRole.tenantId = some invitation.tenantId ∧
    db.users.get? userRole.userId = some user ∧ user.email = invitation.email

/-- The invitation was open at the start and is marked as used. -/
def Used (db : IamDb) (invitationId : ℕ) (invitation : Invitation) : Prop :=
  invitation.isUsed = false ∧
    ∃ stored, db.invitations.get? invitationId = some stored ∧ stored.isUsed = true

/-- The invitation is accepted exactly once or not at all. -/
structure ExactlyOnce (start : IamDb) (invitationId : ℕ) (invitation : Invitation) (s : State) :
    Prop where
  /-- At most one request has succeeded. -/
  once : s.accepted.length ≤ 1
  /-- A request that succeeded found the invitation open and not expired. -/
  valid : ∀ request ∈ s.accepted, request.invitationId = invitationId ∧
    invitation.isUsed = false ∧ request.now ≤ invitation.expiresAt
  /-- The membership is committed exactly if the mark is, unless a request is between the two. -/
  together : (∀ call request, s.requests.get? call = some request → request.phase ≠ .granted) →
    (Member start s.db invitation ↔ Used s.db invitationId invitation)

/-- The constraints of the schema that acceptance relies on. -/
structure Schema (db : IamDb) : Prop where
  /-- Tokens are unique. -/
  token : ∀ i j a b, db.invitations.get? i = some a → db.invitations.get? j = some b →
    a.token = b.token → i = j
  /-- Addresses are unique. -/
  email : ∀ i j a b, db.users.get? i = some a → db.users.get? j = some b →
    a.email = b.email → i = j

/-- The condition on a step: a grant without a role in the invitation finds the role of a viewer,
and no request is lost after `assign_viewer_role` has committed. -/
def keepsTogether (s : State) : Event → Bool
  | .grant call => (s.requests.get? call).all fun request =>
      (truthy request.invitation.roleId).isSome || (defaultRole s.db "viewer").isSome
  | .fail call => (s.requests.get? call).all fun request => request.phase != .granted
  | _ => true

/-- The role that an invitation grants. -/
def grantedRole (db : IamDb) (invitation : Invitation) : Option ℕ :=
  (truthy invitation.roleId).or ((defaultRole db "viewer").map (·.1))

/-- The user that a request has found has the invited address. -/
def Request.Known (db : IamDb) (request : Request) : Prop :=
  ∀ userId, request.phase = .found userId ∨ request.phase = .joining userId →
    ∃ user, db.users.get? userId = some user ∧ user.email = request.invitation.email

/-- The request has loaded the invitation, open and not expired. -/
structure Request.Opened (invitationId : ℕ) (invitation : Invitation) (request : Request) :
    Prop where
  /-- The id of the invitation. -/
  id : request.invitationId = invitationId
  /-- The invitation. -/
  loaded : request.invitation = invitation
  /-- It was not used. -/
  unused : invitation.isUsed = false
  /-- It had not expired. -/
  inTime : request.now ≤ invitation.expiresAt

/-- A request has committed the membership. -/
def Won (s : State) : Prop :=
  s.accepted ≠ [] ∨ ∃ call request, s.requests.get? call = some request ∧ request.phase = .granted

/-- The role assignment that the invitation grants was inserted. -/
def Joined (start db : IamDb) (invitation : Invitation) : Prop :=
  ∃ id userRole user, db.userRoles.get? id = some userRole ∧ start.userRoles.get? id = none ∧
    userRole.tenantId = some invitation.tenantId ∧
    grantedRole start invitation = some userRole.roleId ∧
    db.users.get? userRole.userId = some user ∧ user.email = invitation.email

/-- The rows of the invitations after the mark was committed or before. -/
def marked (invitationId : ℕ) (accepted : List Request) (id : ℕ) (invitation : Invitation) :
    Invitation :=
  if id = invitationId ∧ accepted ≠ [] then { invitation with isUsed := true } else invitation

/-- What holds after every step that meets the condition. -/
structure Inv (start : IamDb) (invitationId : ℕ) (invitation : Invitation) (s : State) : Prop where
  /-- Roles do not change. -/
  roles : s.db.roles = start.roles
  /-- Addresses are unique. -/
  emails : ∀ i j a b, s.db.users.get? i = some a → s.db.users.get? j = some b →
    a.email = b.email → i = j
  /-- Only the accepted invitation has changed. -/
  invitations : ∀ i, s.db.invitations.get? i =
    (start.invitations.get? i).map (marked invitationId s.accepted i)
  /-- Every open request has loaded the invitation. -/
  opened : ∀ call request, s.requests.get? call = some request →
    request.Opened invitationId invitation ∧ request.Known s.db
  /-- So has every request that succeeded. -/
  accepted : ∀ request ∈ s.accepted, request.Opened invitationId invitation
  /-- At most one request has succeeded. -/
  once : s.accepted.length ≤ 1
  /-- At most one request has committed the membership. -/
  winner : ∀ call request, s.requests.get? call = some request → request.phase = .granted →
    s.accepted = [] ∧ ∀ call' request', s.requests.get? call' = some request' →
      request'.phase = .granted → call' = call
  /-- The membership of the request that has committed it. -/
  joined : Won s → Joined start s.db invitation
  /-- Without such a request no role assignment was inserted. -/
  unjoined : ¬ Won s → s.db.userRoles = start.userRoles

variable {start : IamDb} {invitationId : ℕ} {invitation : Invitation} {s : State} {call : ℕ}
  {request : Request}

/-- The requests that are open after one has ended. -/
theorem get?_finish {call' : ℕ} {request' : Request}
    (h : (s.finish call).requests.get? call' = some request') :
    call' ≠ call ∧ s.requests.get? call' = some request' := by
  rw [State.finish] at h
  obtain ⟨hcall, h⟩ := Table.get?_erase_eq_some.mp h
  exact ⟨hcall, h⟩

namespace Inv

/-- The invariant holds at the start. -/
theorem initial (hschema : Schema start) :
    Inv start invitationId invitation (State.initial start) where
  roles := rfl
  emails := hschema.email
  invitations i := by
    show start.invitations.get? i = _
    rw [show marked invitationId (State.initial start).accepted i = id from
      funext fun _ => if_neg fun h => h.2 rfl, Option.map_id, id]
  opened _ _ h := nomatch h
  accepted _ h := nomatch h
  once := Nat.zero_le 1
  winner _ _ h := nomatch h
  joined hwon := by
    rcases hwon with h | ⟨_, _, h, -⟩
    · exact absurd rfl h
    · cases h
  unjoined _ := rfl

/-- The invariant depends on the requests through those that have committed the membership. -/
theorem of_requests (h : Inv start invitationId invitation s) {requests : Table ℕ Request}
    (hnew : ∀ call request, requests.get? call = some request →
      s.requests.get? call = some request ∨
        request.Opened invitationId invitation ∧ request.Known s.db ∧ request.phase ≠ .granted)
    (hkept : ∀ call request, s.requests.get? call = some request → request.phase = .granted →
      requests.get? call = some request) :
    Inv start invitationId invitation { s with requests } := by
  have hgranted : ∀ call request, requests.get? call = some request →
      request.phase = .granted → s.requests.get? call = some request := by
    intro call request hget hphase
    rcases hnew call request hget with hold | ⟨-, -, hopen⟩
    · exact hold
    · exact absurd hphase hopen
  have hwon : Won { s with requests } ↔ Won s := by
    refine or_congr Iff.rfl ⟨?_, ?_⟩
    · rintro ⟨call, request, hget, hphase⟩
      exact ⟨call, request, hgranted call request hget hphase, hphase⟩
    · rintro ⟨call, request, hget, hphase⟩
      exact ⟨call, request, hkept call request hget hphase, hphase⟩
  refine { h with opened := ?_, winner := ?_, joined := ?_, unjoined := ?_ }
  · intro call request hget
    rcases hnew call request hget with hold | ⟨hopened, hknown, -⟩
    · exact h.opened call request hold
    · exact ⟨hopened, hknown⟩
  · intro call request hget hphase
    obtain ⟨hnone, honly⟩ := h.winner call request (hgranted call request hget hphase) hphase
    exact ⟨hnone, fun call' request' hget' hphase' =>
      honly call' request' (hgranted call' request' hget' hphase') hphase'⟩
  · exact fun hw => h.joined (hwon.mp hw)
  · exact fun hw => h.unjoined fun hw' => hw (hwon.mpr hw')

/-- A request that has not committed the membership may end. -/
theorem finish (h : Inv start invitationId invitation s)
    (hphase : ∀ request, s.requests.get? call = some request → request.phase ≠ .granted) :
    Inv start invitationId invitation (s.finish call) := by
  refine h.of_requests (fun call' request' hget => Or.inl (get?_finish hget).2) ?_
  · intro call' request' hget hgranted
    rw [Table.get?_erase, if_neg, hget]
    rintro rfl
    exact hphase request' hget hgranted

/-- A request that has not committed the membership may go on. -/
theorem proceed (h : Inv start invitationId invitation s)
    (hget : s.requests.get? call = some request) (hphase : request.phase ≠ .granted)
    {phase : Phase} (hnext : phase ≠ .granted)
    (hknown : { request with phase }.Known s.db) :
    Inv start invitationId invitation (s.proceed call request phase) := by
  obtain ⟨hopened, -⟩ := h.opened call request hget
  refine h.of_requests ?_ ?_
  · intro call' request' hget'
    rcases Table.get?_insert_eq_some.mp hget' with ⟨-, rfl⟩ | ⟨-, hget'⟩
    · exact Or.inr ⟨⟨hopened.id, hopened.loaded, hopened.unused, hopened.inTime⟩, hknown, hnext⟩
    · exact Or.inl hget'
  · intro call' request' hget' hgranted
    rw [Table.get?_insert, if_neg, hget']
    rintro rfl
    rw [hget] at hget'
    cases hget'
    exact hphase hgranted

/-- A request that has just loaded the invitation may be opened. -/
theorem load (h : Inv start invitationId invitation s) (hschema : Schema start)
    (hstart : start.invitations.get? invitationId = some invitation) (username : Option String)
    (now : ℕ) :
    Inv start invitationId invitation
      (Acceptance.load invitation.token s call username now) := by
  unfold Acceptance.load
  split
  case h_2 => exact h
  case h_1 loadedId loaded hnone hopen =>
    split
    case isFalse => exact h
    case isTrue hinTime =>
      obtain ⟨hget, hcond⟩ := Serial.first?_eq_some hopen
      have hfound : loaded.token = invitation.token ∧ loaded.isUsed = false :=
        of_decide_eq_true hcond
      obtain ⟨htoken, hunused⟩ := hfound
      rw [h.invitations, Option.map_eq_some_iff] at hget
      obtain ⟨before, hbefore, hmarked⟩ :
        ∃ before, start.invitations.get? loadedId = some before ∧
          marked invitationId s.accepted loadedId before = loaded := hget
      -- The mark does not change the token, which determines the invitation.
      have hid : loadedId = invitationId := by
        refine hschema.token _ _ _ _ hbefore hstart (Eq.trans ?_ htoken)
        rw [← hmarked, marked]
        split <;> rfl
      subst hid
      cases hbefore.symm.trans hstart
      have hloaded : loaded = invitation := by
        rw [← hmarked, marked, if_neg]
        rintro hcond
        rw [← hmarked, marked, if_pos hcond] at hunused
        cases hunused
      subst hloaded
      refine h.of_requests ?_ ?_
      · intro call' request' hget'
        rcases Table.get?_insert_eq_some.mp hget' with ⟨-, rfl⟩ | ⟨-, hget'⟩
        · refine Or.inr ⟨⟨rfl, rfl, hunused, hinTime⟩, ?_, nofun⟩
          rintro userId (hphase | hphase)
          all_goals cases hphase
        · exact Or.inl hget'
      · intro call' request' hget' hgranted
        rw [Table.get?_insert, if_neg, hget']
        rintro rfl
        rw [hnone] at hget'
        cases hget'

/-- The search for a user with the invited address. -/
theorem findUser (h : Inv start invitationId invitation s)
    (hget : s.requests.get? call = some request) :
    Inv start invitationId invitation (Acceptance.findUser s call request) := by
  unfold Acceptance.findUser
  split
  case isFalse => exact h
  case isTrue hphase =>
    have hnot : request.phase ≠ .granted := by
      rw [hphase]
      exact nofun
    split
    case h_1 userId user hfound =>
      obtain ⟨hstored, hemail⟩ := Serial.first?_eq_some hfound
      refine h.proceed hget hnot nofun ?_
      rintro _ (hp | hp)
      · cases hp
        exact ⟨user, hstored, of_decide_eq_true hemail⟩
      · cases hp
    case h_2 =>
      refine h.proceed hget hnot nofun ?_
      rintro _ (hp | hp)
      all_goals cases hp

/-- The check of the access that the user has, or of the name of a new one. -/
theorem checkAccess (h : Inv start invitationId invitation s)
    (hget : s.requests.get? call = some request) :
    Inv start invitationId invitation (Acceptance.checkAccess s call request) := by
  obtain ⟨-, hknown⟩ := h.opened call request hget
  have hfinish : request.phase ≠ .granted →
      Inv start invitationId invitation (s.finish call) := by
    intro hphase
    refine h.finish fun request' hget' => ?_
    cases hget.symm.trans hget'
    exact hphase
  unfold Acceptance.checkAccess
  split
  case h_1 userId hphase =>
    have hnot : request.phase ≠ .granted := by
      rw [hphase]
      exact nofun
    split
    case h_1 => exact hfinish hnot
    case h_2 =>
      refine h.proceed hget hnot nofun ?_
      rintro _ (hp | hp)
      · cases hp
      · cases hp
        exact hknown userId (Or.inl hphase)
  case h_2 hphase =>
    have hnot : request.phase ≠ .granted := by
      rw [hphase]
      exact nofun
    split
    case h_1 => exact hfinish hnot
    case h_2 =>
      split
      case h_1 => exact hfinish hnot
      case h_2 =>
        refine h.proceed hget hnot nofun ?_
        rintro _ (hp | hp)
        all_goals cases hp
  case h_3 => exact h

end Inv

/-- The user that a request grants access to, in a database that differs at most by the user. -/
structure Account (db db' : IamDb) (invitation : Invitation) (userId : ℕ) : Prop where
  /-- Nothing but users changed. -/
  same : ∃ users, db' = { db with users }
  /-- No user was lost. -/
  kept : ∀ i a, db.users.get? i = some a → db'.users.get? i = some a
  /-- Addresses are unique. -/
  emails : ∀ i j a b, db'.users.get? i = some a → db'.users.get? j = some b →
    a.email = b.email → i = j
  /-- The user has the invited address. -/
  user : ∃ user, db'.users.get? userId = some user ∧ user.email = invitation.email

/-- The user of a request that is ready to grant. -/
theorem Inv.account (h : Inv start invitationId invitation s)
    (hget : s.requests.get? call = some request) {userId : ℕ} {db : IamDb}
    (haccount : request.account? s.db = some (.ok (userId, db))) :
    Account s.db db invitation userId := by
  obtain ⟨hopened, hknown⟩ := h.opened call request hget
  unfold Request.account? at haccount
  split at haccount
  -- the account exists already
  case h_1 userId' hphase =>
    cases haccount
    have huser := hknown userId (Or.inr hphase)
    rw [hopened.loaded] at huser
    exact ⟨⟨_, rfl⟩, fun _ _ => id, h.emails, huser⟩
  case h_2 username hphase =>
    have hcreated : createUser s.db username request.invitation = .ok (userId, db) :=
      Option.some.inj haccount
    simp only [createUser, Except.bind_eq_ok_iff, Except.require_eq_ok_iff,
      Except.pure_eq_ok_iff, Prod.mk.injEq] at hcreated
    obtain ⟨-, hfree, rfl, rfl⟩ := hcreated
    -- the address of the new account is not in use
    have hnoEmail : ∀ i a, s.db.users.get? i = some a → a.email ≠ request.invitation.email := by
      intro i a ha hemail
      exact of_decide_eq_false (Serial.first?_eq_none_iff.mp hfree i a ha) (Or.inr hemail)
    refine ⟨⟨_, rfl⟩, ?_, ?_, ?_⟩
    · intro i a ha
      rw [Serial.get?_add, if_neg, ha]
      rintro rfl
      rw [Serial.get?_next] at ha
      cases ha
    · intro i j a b ha hb hemail
      rw [Serial.get?_add] at ha hb
      split at ha
      case isTrue hi =>
        split at hb
        case isTrue hj => exact hi.trans hj.symm
        case isFalse =>
          cases ha
          exact absurd hemail.symm (hnoEmail j b hb)
      case isFalse =>
        split at hb
        case isTrue =>
          cases hb
          exact absurd hemail (hnoEmail i a ha)
        case isFalse => exact h.emails i j a b ha hb hemail
    · refine ⟨_, (Serial.get?_add _ _ _).trans (if_pos rfl), ?_⟩
      rw [← hopened.loaded]
  case h_3 => cases haccount

/-- A committed grant has inserted a role assignment that was not there, unless it is one of a
viewer and the role does not exist. -/
theorem commitGrant_eq_ok {db db' : IamDb} {userId : ℕ} {mark : Bool}
    (hrole : (truthy request.invitation.roleId).isSome = true ∨
      (defaultRole db "viewer").isSome = true)
    (h : commitGrant db request userId = .ok (db', mark)) :
    ∃ roleId grantedBy, grantedRole db request.invitation = some roleId ∧
      db.userRoles.first? (fun _ userRole => userRole.userId = userId ∧
        userRole.tenantId = some request.invitation.tenantId ∧ userRole.roleId = roleId) = none ∧
      db' = { db with
        userRoles := db.userRoles.add
          { userId, tenantId := some request.invitation.tenantId, roleId, grantedBy }
        invitations := if mark then (useInvitation db request.invitationId).invitations
          else db.invitations } := by
  have hinsert : ∀ {roleId grantedBy db'},
      insertUserRole db userId request.invitation.tenantId roleId grantedBy = .ok db' →
      db.userRoles.first? (fun _ userRole => userRole.userId = userId ∧
        userRole.tenantId = some request.invitation.tenantId ∧ userRole.roleId = roleId) = none ∧
      db' = { db with
        userRoles := db.userRoles.add
          { userId, tenantId := some request.invitation.tenantId, roleId, grantedBy } } := by
    intro roleId grantedBy db' hinserted
    simp only [insertUserRole, addUserRole, Except.bind_eq_ok_iff, Except.require_eq_ok_iff,
      Except.pure_eq_ok_iff] at hinserted
    obtain ⟨-, hfree, -, -, rfl⟩ := hinserted
    exact ⟨hfree, rfl⟩
  unfold commitGrant at h
  unfold grantedRole
  cases hnamed : truthy request.invitation.roleId with
  | some roleId =>
    simp only [hnamed, Except.bind_eq_ok_iff, Except.pure_eq_ok_iff, Prod.mk.injEq] at h
    obtain ⟨inserted, hinserted, rfl, rfl⟩ := h
    obtain ⟨hfree, rfl⟩ := hinsert hinserted
    exact ⟨roleId, _, rfl, hfree, rfl⟩
  | none =>
    obtain ⟨⟨roleId, role⟩, hviewer⟩ :=
      Option.isSome_iff_exists.mp (hrole.resolve_left (by rw [hnamed]; rintro ⟨⟩))
    simp only [hnamed, hviewer, Except.bind_eq_ok_iff, Except.pure_eq_ok_iff,
      Prod.mk.injEq] at h
    obtain ⟨inserted, hinserted, rfl, rfl⟩ := h
    obtain ⟨hfree, rfl⟩ := hinsert hinserted
    exact ⟨roleId, none, by rw [hviewer]; rfl, hfree, rfl⟩

namespace Inv

/-- The roles that an invitation grants do not change. -/
theorem grantedRole_eq (h : Inv start invitationId invitation s) :
    grantedRole s.db invitation = grantedRole start invitation := by
  unfold grantedRole defaultRole
  rw [h.roles]

/-- A request can grant the membership only if none has: addresses are unique, and so are role
assignments. -/
theorem not_won (h : Inv start invitationId invitation s) {userId roleId : ℕ} {db : IamDb}
    (haccount : Account s.db db invitation userId)
    (hrole : grantedRole start invitation = some roleId)
    (hfree : s.db.userRoles.first? (fun _ userRole => userRole.userId = userId ∧
      userRole.tenantId = some invitation.tenantId ∧ userRole.roleId = roleId) = none) :
    ¬ Won s := by
  intro hwon
  obtain ⟨id, userRole, user, hget, -, htenant, hgranted, huser, hemail⟩ := h.joined hwon
  obtain ⟨user', huser', hemail'⟩ := haccount.user
  have hsame : userRole.userId = userId := haccount.emails _ _ _ _ (haccount.kept _ _ huser) huser'
    (hemail.trans hemail'.symm)
  refine of_decide_eq_false (Serial.first?_eq_none_iff.mp hfree id userRole hget) ?_
  exact ⟨hsame, htenant, Option.some.inj (hgranted.symm.trans hrole)⟩

/-- Without a request that has committed the membership none is accepted or granted. -/
theorem phase_of_not_won (hwon : ¬ Won s) :
    s.accepted = [] ∧
      ∀ call request, s.requests.get? call = some request → request.phase ≠ .granted :=
  ⟨not_not.mp fun h => hwon (Or.inl h), fun call request hget hphase =>
    hwon (Or.inr ⟨call, request, hget, hphase⟩)⟩

end Inv

/-- What a committed grant has done. -/
structure Committed (start : IamDb) (invitationId : ℕ) (invitation : Invitation) (db db' : IamDb)
    (mark : Bool) : Prop where
  /-- Roles do not change. -/
  roles : db'.roles = db.roles
  /-- No user was lost. -/
  kept : ∀ i a, db.users.get? i = some a → db'.users.get? i = some a
  /-- Addresses are unique. -/
  emails : ∀ i j a b, db'.users.get? i = some a → db'.users.get? j = some b →
    a.email = b.email → i = j
  /-- The mark is set if it is part of the commit. -/
  invitations : db'.invitations =
    if mark then (useInvitation db invitationId).invitations else db.invitations
  /-- The role assignment was inserted. -/
  joined : Joined start db' invitation

namespace Inv

/-- A grant that is committed is the first one, and inserts the role assignment. -/
theorem committed (h : Inv start invitationId invitation s)
    (hget : s.requests.get? call = some request)
    (hrole : (truthy request.invitation.roleId).isSome = true ∨
      (defaultRole s.db "viewer").isSome = true)
    {userId : ℕ} {db db' : IamDb} {mark : Bool}
    (haccount : request.account? s.db = some (.ok (userId, db)))
    (hcommit : commitGrant db request userId = .ok (db', mark)) :
    ¬ Won s ∧ Committed start invitationId invitation s.db db' mark := by
  obtain ⟨hopened, -⟩ := h.opened call request hget
  have hacc := h.account hget haccount
  obtain ⟨⟨users, rfl⟩, hkept, hemails, user, huser, hemail⟩ := hacc
  -- The user that was inserted does not change which roles there are.
  have hrole' : (truthy request.invitation.roleId).isSome = true ∨
      (defaultRole { s.db with users } "viewer").isSome = true := hrole
  obtain ⟨roleId, grantedBy, hgranted, hfree, rfl⟩ := commitGrant_eq_ok hrole' hcommit
  rw [hopened.loaded] at hgranted hfree
  have hgranted' : grantedRole start invitation = some roleId :=
    h.grantedRole_eq.symm.trans hgranted
  have hwon := h.not_won (h.account hget haccount) hgranted' hfree
  refine ⟨hwon, rfl, hkept, hemails, ?_, ?_⟩
  · rw [← hopened.id]
    rfl
  · -- The new row has a key that no row had at the start.
    refine ⟨s.db.userRoles.next, _, user, (Serial.get?_add _ _ _).trans (if_pos rfl), ?_, ?_,
      hgranted', huser, hemail⟩
    · rw [h.unjoined hwon, Serial.get?_next]
    · rw [← hopened.loaded]

/-- The mark of the first request that succeeds. -/
theorem get?_useInvitation (h : Inv start invitationId invitation s) (hnone : s.accepted = [])
    (request : Request) (i : ℕ) :
    (useInvitation s.db invitationId).invitations.get? i =
      (start.invitations.get? i).map (marked invitationId [request] i) := by
  rw [useInvitation, Serial.get?_modify, h.invitations, hnone]
  cases start.invitations.get? i with
  | none => split <;> rfl
  | some before =>
    by_cases hi : i = invitationId
    · simp [marked, hi]
    · simp [marked, hi]

/-- The grant of a request. -/
theorem grant (h : Inv start invitationId invitation s)
    (hget : s.requests.get? call = some request)
    (hrole : (truthy request.invitation.roleId).isSome = true ∨
      (defaultRole s.db "viewer").isSome = true) :
    Inv start invitationId invitation (Acceptance.grant s call request) := by
  obtain ⟨hopened, hknown⟩ := h.opened call request hget
  unfold Acceptance.grant
  cases haccount : request.account? s.db with
  | none => exact h
  | some account =>
    have hphase : request.phase ≠ .granted := by
      intro hgranted
      rw [Request.account?, hgranted] at haccount
      cases haccount
    simp only
    split
    case h_1 =>
      refine h.finish fun request' hget' => ?_
      cases hget.symm.trans hget'
      exact hphase
    case h_2 db' hgrant =>
      obtain ⟨⟨userId, db⟩, rfl, hcommit⟩ := Except.bind_eq_ok_iff.mp hgrant
      obtain ⟨hwon, hdone⟩ := h.committed hget hrole haccount hcommit
      obtain ⟨hnone, hopen⟩ := phase_of_not_won hwon
      rw [hnone, List.nil_append]
      exact {
        roles := hdone.roles.trans h.roles
        emails := hdone.emails
        invitations := by
          intro i
          show db'.invitations.get? i = _
          rw [hdone.invitations, if_pos rfl]
          exact h.get?_useInvitation hnone request i
        opened := by
          intro call' request' hget'
          obtain ⟨hopened', hknown'⟩ := h.opened call' request' (get?_finish hget').2
          refine ⟨hopened', fun userId' hp => ?_⟩
          obtain ⟨user, huser, hemail⟩ := hknown' userId' hp
          exact ⟨user, hdone.kept _ _ huser, hemail⟩
        accepted := by
          intro request' hmem
          rw [List.mem_singleton] at hmem
          subst hmem
          exact hopened
        once := Nat.le_refl 1
        winner := fun call' request' hget' hphase' =>
          absurd hphase' (hopen call' request' (get?_finish hget').2)
        joined := fun _ => hdone.joined
        unjoined := fun hw => absurd (Or.inl (List.cons_ne_nil _ _)) hw }
    case h_3 db' hgrant =>
      obtain ⟨⟨userId, db⟩, rfl, hcommit⟩ := Except.bind_eq_ok_iff.mp hgrant
      obtain ⟨hwon, hdone⟩ := h.committed hget hrole haccount hcommit
      obtain ⟨hnone, hopen⟩ := phase_of_not_won hwon
      -- The request that has just granted is the only one in that phase.
      have hrequests : ∀ call' request',
          (s.proceed call request .granted).requests.get? call' = some request' →
          call' = call ∧ request' = { request with phase := .granted } ∨
            call' ≠ call ∧ s.requests.get? call' = some request' := by
        intro call' request' hget'
        rw [State.proceed, Table.get?_insert] at hget'
        split at hget'
        case isTrue hcall => exact Or.inl ⟨hcall, (Option.some.inj hget').symm⟩
        case isFalse hcall => exact Or.inr ⟨hcall, hget'⟩
      have hself : (s.proceed call request .granted).requests.get? call =
          some { request with phase := .granted } :=
        (Table.get?_insert _ _ _ _).trans (if_pos rfl)
      exact {
        roles := hdone.roles.trans h.roles
        emails := hdone.emails
        invitations := by
          intro i
          show db'.invitations.get? i = _
          rw [hdone.invitations]
          exact h.invitations i
        opened := by
          intro call' request' hget'
          rcases hrequests call' request' hget' with ⟨-, rfl⟩ | ⟨-, hget'⟩
          · refine ⟨⟨hopened.id, hopened.loaded, hopened.unused, hopened.inTime⟩, ?_⟩
            rintro userId' (hp | hp)
            all_goals cases hp
          · obtain ⟨hopened', hknown'⟩ := h.opened call' request' hget'
            refine ⟨hopened', fun userId' hp => ?_⟩
            obtain ⟨user, huser, hemail⟩ := hknown' userId' hp
            exact ⟨user, hdone.kept _ _ huser, hemail⟩
        accepted := h.accepted
        once := h.once
        winner := by
          have honly : ∀ call' request',
              (s.proceed call request .granted).requests.get? call' = some request' →
              request'.phase = .granted → call' = call := by
            intro call' request' hget' hphase'
            rcases hrequests call' request' hget' with ⟨hcall, -⟩ | ⟨-, hget'⟩
            · exact hcall
            · exact absurd hphase' (hopen call' request' hget')
          intro call' request' hget' hphase'
          refine ⟨hnone, fun call'' request'' hget'' hphase'' => ?_⟩
          exact (honly call'' request'' hget'' hphase'').trans
            (honly call' request' hget' hphase').symm
        joined := fun _ => hdone.joined
        unjoined := fun hw => absurd (Or.inr ⟨call, _, hself, rfl⟩) hw }

/-- The second commit of a request whose grant was committed before. -/
theorem markUsed (h : Inv start invitationId invitation s)
    (hget : s.requests.get? call = some request) :
    Inv start invitationId invitation (Acceptance.markUsed s call request) := by
  obtain ⟨hopened, hknown⟩ := h.opened call request hget
  unfold Acceptance.markUsed
  split
  case isFalse => exact h
  case isTrue hphase =>
    obtain ⟨hnone, honly⟩ := h.winner call request hget hphase
    rw [hnone, List.nil_append]
    exact {
      roles := h.roles
      emails := h.emails
      invitations := by
        intro i
        show (useInvitation s.db request.invitationId).invitations.get? i = _
        rw [hopened.id]
        exact h.get?_useInvitation hnone request i
      opened := fun call' request' hget' =>
        h.opened call' request' (get?_finish hget').2
      accepted := by
        intro request' hmem
        rw [List.mem_singleton] at hmem
        subst hmem
        exact hopened
      once := Nat.le_refl 1
      winner := by
        intro call' request' hget' hphase'
        obtain ⟨hcall, hold⟩ := get?_finish hget'
        exact absurd (honly call' request' hold hphase') hcall
      joined := fun _ => h.joined (Or.inr ⟨call, request, hget, hphase⟩)
      unjoined := fun hw => absurd (Or.inl (List.cons_ne_nil _ _)) hw }

/-- Every step that meets the condition keeps the invariant. -/
theorem step (h : Inv start invitationId invitation s) (hschema : Schema start)
    (hstart : start.invitations.get? invitationId = some invitation) {e : Event}
    (hok : keepsTogether s e = true) :
    Inv start invitationId invitation (Acceptance.step invitation.token s e) := by
  cases e with
  | load call username now => exact h.load hschema hstart username now
  | findUser call =>
    show Inv _ _ _ ((s.requests.get? call).elim s _)
    cases hget : s.requests.get? call with
    | none => exact h
    | some request => exact h.findUser hget
  | checkAccess call =>
    show Inv _ _ _ ((s.requests.get? call).elim s _)
    cases hget : s.requests.get? call with
    | none => exact h
    | some request => exact h.checkAccess hget
  | grant call =>
    show Inv _ _ _ ((s.requests.get? call).elim s _)
    cases hget : s.requests.get? call with
    | none => exact h
    | some request =>
      refine h.grant hget ?_
      simpa [keepsTogether, hget] using hok
  | markUsed call =>
    show Inv _ _ _ ((s.requests.get? call).elim s _)
    cases hget : s.requests.get? call with
    | none => exact h
    | some request => exact h.markUsed hget
  | fail call =>
    refine h.finish fun request hget => ?_
    simpa [keepsTogether, hget] using hok

/-- What the invariant says about the acceptance of the invitation. -/
theorem exactlyOnce (h : Inv start invitationId invitation s)
    (hstart : start.invitations.get? invitationId = some invitation) :
    ExactlyOnce start invitationId invitation s where
  once := h.once
  valid request hmem :=
    have hopened := h.accepted request hmem
    ⟨hopened.id, hopened.unused, hopened.inTime⟩
  together hsettled := by
    have hstored := h.invitations invitationId
    rw [hstart, Option.map_some] at hstored
    by_cases haccepted : s.accepted = []
    · -- Nothing was committed: there is no new role assignment and no new mark.
      have hwon : ¬ Won s := by
        rintro (hne | ⟨call, request, hget, hphase⟩)
        · exact hne haccepted
        · exact hsettled call request hget hphase
      refine iff_of_false ?_ ?_
      · rintro ⟨id, userRole, user, hget, hnew, -⟩
        rw [h.unjoined hwon, hnew] at hget
        cases hget
      · rintro ⟨hunused, stored, hget, hused⟩
        rw [hstored] at hget
        cases hget
        rw [marked, if_neg fun hcond => hcond.2 haccepted, hunused] at hused
        cases hused
    · obtain ⟨request, hmem⟩ := List.exists_mem_of_ne_nil _ haccepted
      refine iff_of_true ?_ ⟨(h.accepted request hmem).unused, _, hstored, ?_⟩
      · obtain ⟨id, userRole, user, hget, hnew, htenant, -, huser, hemail⟩ :=
          h.joined (Or.inl haccepted)
        exact ⟨id, userRole, user, hget, hnew, htenant, huser, hemail⟩
      · rw [marked, if_pos ⟨rfl, haccepted⟩]

end Inv

/-- In every interleaving of requests that accept an invitation, the invitation is accepted at most
once, only while it is open and not expired, and its mark is committed together with the
membership, if no request is lost after `assign_viewer_role` has committed, and the role of a
viewer exists when an invitation names no role. -/
theorem exactlyOnce_of_reachable (hschema : Schema start)
    (hstart : start.invitations.get? invitationId = some invitation)
    (hreach : (machine start invitation.token).Reachable
      (fun s e => keepsTogether s e = true) s) :
    ExactlyOnce start invitationId invitation s := by
  refine (hreach.invariant (Inv start invitationId invitation) ?_ ?_).exactlyOnce hstart
  · rintro s rfl
    exact Inv.initial hschema
  · intro s e h hok
    exact h.step hschema hstart hok

/-- A tenant with an operator role and an open invitation. -/
def acme (viewer : List Role) (users : Serial User) (roleId : Option ℕ) : IamDb where
  tenants := Serial.empty.add { name := "Acme", slug := "acme" }
  users
  permissions := Serial.empty
  roles := (viewer.foldl Serial.add Serial.empty).add
    { name := "operator", description := none, tenantId := some 1, isPreset := false,
      isSystem := false, permissions := ∅ }
  userRoles := Serial.empty
  invitations := Serial.empty.add
    { email := "carol@acme.example", tenantId := 1, roleId, token := "token", invitedBy := none,
      isUsed := false, expiresAt := 7 }

/-- The invitation. -/
def carolInvited (roleId : Option ℕ) : Invitation where
  email := "carol@acme.example"
  tenantId := 1
  roleId
  token := "token"
  invitedBy := none
  isUsed := false
  expiresAt := 7

/-- Two requests that look at everything before either of them grants. -/
def twoRequests : List Event :=
  [.load 0 (some "carol") 3, .load 1 (some "carol") 3, .findUser 0, .findUser 1,
    .checkAccess 0, .checkAccess 1, .grant 0, .grant 1]

/-- Of two requests of a new user only one succeeds. -/
theorem exactlyOnce_twoRequests :
    ExactlyOnce (acme [] Serial.empty (some 1)) 1 (carolInvited (some 1))
      ((machine (acme [] Serial.empty (some 1)) "token").run
        (State.initial (acme [] Serial.empty (some 1))) twoRequests) := by
  have hrespects : (machine (acme [] Serial.empty (some 1)) "token").Respects
      (fun s e => keepsTogether s e = true) (State.initial (acme [] Serial.empty (some 1)))
      twoRequests := by decide +kernel
  have hschema : Schema (acme [] Serial.empty (some 1)) := by
    constructor
    · intro i j a b ha hb _
      simp only [acme, Serial.get?_add, Serial.get?_empty, Option.ite_none_right_eq_some] at ha hb
      exact ha.1.trans hb.1.symm
    · intro i j a b ha
      cases ha
  exact exactlyOnce_of_reachable hschema rfl (.run (.start rfl) hrespects)

/-- The role of a viewer. -/
def viewerRole : Role where
  name := "viewer"
  description := none
  tenantId := none
  isPreset := true
  isSystem := false
  permissions := ∅

/-- The user that is invited. -/
def carol : User where
  username := "carol"
  email := "carol@acme.example"
  isActive := true
  tenantId := none

/-- A request that is lost after `assign_viewer_role` has committed leaves the membership without
the mark; without the role of a viewer two requests of a registered user succeed. -/
theorem not_exactlyOnce :
    ¬ ExactlyOnce (acme [viewerRole] (Serial.empty.add carol) none) 1 (carolInvited none)
      ((machine (acme [viewerRole] (Serial.empty.add carol) none) "token").run
        (State.initial (acme [viewerRole] (Serial.empty.add carol) none))
        [.load 0 none 3, .findUser 0, .checkAccess 0, .grant 0, .fail 0]) ∧
    ¬ ExactlyOnce (acme [] (Serial.empty.add carol) none) 1 (carolInvited none)
      ((machine (acme [] (Serial.empty.add carol) none) "token").run
        (State.initial (acme [] (Serial.empty.add carol) none)) twoRequests) := by
  refine ⟨fun h => ?_, fun h => absurd h.once (by decide +kernel)⟩
  obtain ⟨-, stored, hget, hused⟩ := (h.together fun call request hget => nomatch hget).mp
    ⟨1, ⟨1, some 1, 1, none⟩, carol, by decide +kernel, by decide +kernel, rfl, by decide +kernel,
      rfl⟩
  exact absurd hused (by
    rw [show stored = carolInvited none from Option.some.inj (hget.symm.trans rfl)]
    decide)

end ProxmoxIaas.Acceptance
