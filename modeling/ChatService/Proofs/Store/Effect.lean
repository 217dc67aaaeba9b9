import ChatService.Store.Basic

/-!
# What the store operations do

One statement for each operation says all that it does: when it is refused, what it
answers, and which tables it changes. Sessions are described for stores in which the
sessions and the connections of the accounts agree.
-/

namespace ChatService

/-- The account when its session has ended. -/
def User.offline (u : User) (now : Instant) : User :=
  { u with isOnline := false, connection := none, lastSeen := now }

/-- The account when it is logged in on a connection. -/
def User.onlineOn (u : User) (now : Instant) (connection : String) : User :=
  { u with isOnline := true, connection := some connection, lastSeen := now }

/-- The account as it was registered, without any session. -/
def User.registered (u : User) : User :=
  { u with isOnline := false, connection := none, lastSeen := u.createdAt }

@[simp] theorem User.onlineOn_id (u : User) (now : Instant) (connection : String) :
    (u.onlineOn now connection).id = u.id := rfl

/-- What stays of an account forever. -/
theorem User.eq_of_registered {u v : User} (same : u.registered = v.registered) :
    u.id = v.id ∧ u.username = v.username ∧ u.email = v.email ∧ u.password = v.password ∧
      u.createdAt = v.createdAt := by
  simp only [registered, User.mk.injEq] at same
  exact ⟨same.1, same.2.1, same.2.2.1, same.2.2.2.1, same.2.2.2.2.2.2.1⟩

namespace Store

variable {s s' : Store} {now : Instant} {connection : String}

/-- Only accounts and sessions differ. -/
def OnlySessions (s s' : Store) : Prop := s' = { s with users := s'.users, sessions := s'.sessions }

theorem OnlySessions.refl (s : Store) : OnlySessions s s := rfl

theorem OnlySessions.hasher_eq (only : OnlySessions s s') : s'.hasher = s.hasher := by rw [only]

theorem OnlySessions.trans {s s' s'' : Store} (first : OnlySessions s s') (second : OnlySessions s' s'') :
    OnlySessions s s'' := by
  unfold OnlySessions at *
  rw [second, first]

/-! ## Look-ups -/

theorem user?_eq_some_iff {name : Option Text} {u : User} :
    s.user? name = some u ↔
      ∃ username id, name = some username ∧ s.byUsername.find? username = some id ∧ s.users.find? id = some u := by
  cases name with
  | none => simp [user?]
  | some username =>
    cases found : s.byUsername.find? username with
    | none => simp [user?, found]
    | some id => simp [user?, found]

theorem session?_eq_some_iff {u : User} :
    s.session? connection = some u ↔
      ∃ id, s.sessions.find? connection = some id ∧ s.users.find? id = some u := by
  cases found : s.sessions.find? connection with
  | none => simp [session?, found]
  | some id => simp [session?, found]

/-- The names that are shown are those of the accounts that are online. -/
theorem mem_online_iff {name : Text} :
    name ∈ s.online ↔ ∃ id u, s.users.find? id = some u ∧ u.isOnline = true ∧ u.username = name := by
  simp only [online, List.mem_mergeSort, List.mem_map, List.mem_filter, Table.mem_values_iff]
  constructor
  · rintro ⟨u, ⟨⟨id, found⟩, online⟩, named⟩
    exact ⟨id, u, found, online, named⟩
  · rintro ⟨id, u, found, online, named⟩
    exact ⟨u, ⟨⟨id, found⟩, online⟩, named⟩

/-! ## Accounts -/

/-- A registration that succeeds adds one offline account under a new identity, with its two index entries. -/
theorem register_ok {username email password : Option Text} {u : User}
    (ok : s.register now username email password = .ok (u, s')) :
    u.id = s.nextId ∧ u.username = Text.strip (username.getD "") ∧
      u.email = Text.strip (email.getD "") ∧
      s.hasher.Made (password.getD "") u.password ∧
      u.isOnline = false ∧ u.connection = none ∧ u.createdAt = now ∧ u.lastSeen = now ∧
      registrationFault? u.username u.email (password.getD "") = none ∧
      s.byUsername.find? u.username = none ∧ s.byEmail.find? (Text.lowered u.email) = none ∧
      s' = { s.draw with
        users := s.users.insert u.id u
        byUsername := s.byUsername.insert u.username u.id
        byEmail := s.byEmail.insert (Text.lowered u.email) u.id } := by
  unfold register at ok
  simp only at ok
  split at ok
  · cases ok
  · next fine =>
    split at ok
    · cases ok
    · next digest digested =>
      split at ok
      · cases ok
      · next freeName =>
        split at ok
        · cases ok
        · next freeEmail =>
          cases ok
          simp only [Table.contains, Bool.not_eq_true, Option.isSome_eq_false_iff, Option.isNone_iff_eq_none]
            at freeName freeEmail
          exact ⟨rfl, rfl, rfl, ⟨_, digest, digested, rfl⟩, rfl, rfl, rfl, rfl, fine, freeName, freeEmail, rfl⟩

/-! ## Sessions -/

theorem disconnect_unbound (unbound : s.sessions.find? connection = none) :
    s.disconnect now connection = (none, s) := by
  simp only [disconnect, unbound]

theorem disconnect_bound {id : Id} {u : User} (bound : s.sessions.find? connection = some id)
    (found : s.users.find? id = some u) :
    s.disconnect now connection =
      (some (u.offline now),
        { s with sessions := s.sessions.erase connection, users := s.users.insert id (u.offline now) }) := by
  simp only [disconnect, bound, found, User.offline]

theorem onlySessions_disconnect (s : Store) (now : Instant) (connection : String) :
    OnlySessions s (s.disconnect now connection).2 := by
  unfold disconnect
  split
  · exact .refl s
  · simp only
    split <;> rfl

theorem onlySessions_release (s : Store) (u : User) (connection : String) :
    OnlySessions s (s.release u connection) := by
  unfold release
  split
  · split <;> rfl
  · rfl

/-- A login succeeds for the account with the name and the password. It ends the session of another account
on the connection and the account's session elsewhere, and binds the two. -/
theorem login_ok {username password : Option Text} {u' : User}
    (ok : s.login now username password connection = .ok (u', s')) :
    ∃ u, s.user? username = some u ∧ s.hasher.verify (password.getD "") u.password = true ∧
      u' = u.onlineOn now connection ∧
      s' = ((s.vacate now connection u.id).release u connection |>.bind now connection u).2 := by
  unfold login at ok
  split at ok
  · cases ok
  · next u found =>
    split at ok
    · cases ok
    · next verified =>
      cases ok
      exact ⟨u, found, by simpa using verified, rfl, rfl⟩

theorem onlySessions_vacate (s : Store) (now : Instant) (connection : String) (id : Id) :
    OnlySessions s (s.vacate now connection id) := by
  unfold vacate
  split
  · split
    · exact .refl s
    · exact onlySessions_disconnect s now connection
  · exact .refl s

theorem onlySessions_login {username password : Option Text} {u : User}
    (ok : s.login now username password connection = .ok (u, s')) : OnlySessions s s' := by
  obtain ⟨v, -, -, -, rfl⟩ := login_ok ok
  exact ((onlySessions_vacate s now connection v.id).trans (onlySessions_release _ v connection)).trans rfl

/-! ## Messages and contacts -/

/-- A private message that is accepted goes to the account with the name, which is not the sender, and is
the last one kept. -/
theorem sendPrivate_ok {sender : Id} {recipient text : Option Text} {m : PrivateMessage}
    (ok : s.sendPrivate now sender recipient text = .ok (m, s')) :
    textFault? (text.getD "") = none ∧ recipient.bind s.byUsername.find? = some m.recipient ∧
      m.recipient ≠ sender ∧ m.id = s.nextId ∧ m.sender = sender ∧ m.text = text.getD "" ∧
      m.timestamp = now ∧ m.isRead = false ∧
      s' = { s.draw with privateMessages := s.privateMessages ++ [m] } := by
  unfold sendPrivate at ok
  simp only at ok
  split at ok
  · cases ok
  · next fine =>
    split at ok
    · cases ok
    · next id found =>
      split at ok
      · cases ok
      · next other =>
        cases ok
        exact ⟨fine, found, other, rfl, rfl, rfl, rfl, rfl, rfl⟩

/-- A contact is added once; adding it again changes nothing. -/
theorem addContact_ok {owner : Id} {target : Option Text} {new : Bool}
    (ok : s.addContact now owner target = .ok (new, s')) :
    ∃ id, target.bind s.byUsername.find? = some id ∧ id ≠ owner ∧
      ((new = false ∧ s' = s ∧ ∃ c ∈ s.contacts, c.owner = owner ∧ c.target = id) ∨
        (new = true ∧ (∀ c ∈ s.contacts, ¬(c.owner = owner ∧ c.target = id)) ∧
          s' = { s.draw with contacts := s.contacts ++ [⟨s.nextId, owner, id, optionalText target, now⟩] })) := by
  unfold addContact at ok
  split at ok
  · cases ok
  · next id found =>
    split at ok
    · cases ok
    · next other =>
      refine ⟨id, found, other, ?_⟩
      split at ok
      · next listed =>
        cases ok
        exact .inl ⟨rfl, rfl, by simpa using listed⟩
      · next unlisted =>
        cases ok
        exact .inr ⟨rfl, by simpa using unlisted, rfl⟩

end Store

end ChatService
