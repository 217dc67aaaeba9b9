import ChatService.Proofs.Store.Accounts

/-!
# Other passwords

The same store with another hasher and other hashes. Every operation commutes with such an
exchange: only a login reads a hash, and only a registration writes one.
-/

namespace ChatService

/-- Another hasher, and another hash for each account. -/
structure Sealing where
  hasher : Hasher
  hash (id : Id) : String

/-- The account with another hash of its password. -/
def User.reseal (sealing : Sealing) (u : User) : User := { u with password := sealing.hash u.id }

namespace Store

/-- The same store with the hasher and the hash of every account exchanged. -/
def reseal (s : Store) (sealing : Sealing) : Store :=
  { s with hasher := sealing.hasher, users := s.users.map fun _ => User.reseal sealing }

variable {s : Store} {sealing sealing' : Sealing} {now : Instant} {connection : String}

/-! ## Look-ups -/

@[simp] theorem users_reseal : (s.reseal sealing).users = s.users.map fun _ => User.reseal sealing := rfl

@[simp] theorem sessions_reseal : (s.reseal sealing).sessions = s.sessions := rfl

@[simp] theorem byUsername_reseal : (s.reseal sealing).byUsername = s.byUsername := rfl

@[simp] theorem user?_reseal (username : Option Text) :
    (s.reseal sealing).user? username = (s.user? username).map (User.reseal sealing) := by
  cases username with
  | none => rfl
  | some name =>
    cases bound : s.byUsername.find? name with
    | none => simp [user?, bound]
    | some id => simp [user?, bound]

@[simp] theorem session?_reseal (connection : String) :
    (s.reseal sealing).session? connection = (s.session? connection).map (User.reseal sealing) := by
  cases bound : s.sessions.find? connection with
  | none => simp [session?, bound]
  | some id => simp [session?, bound]

@[simp] theorem online_reseal : (s.reseal sealing).online = s.online := by
  simp only [online, users_reseal, Table.values_map, List.filter_map, List.map_map]
  rfl

@[simp] theorem contactsOf_reseal (owner : Id) : (s.reseal sealing).contactsOf owner = s.contactsOf owner := by
  simp only [contactsOf, users_reseal, Table.find?_map, Option.map_map]
  rfl

/-- Only the hashes of the accounts that there are matter. -/
theorem reseal_congr (linked : Linked s) (hashers : sealing.hasher = sealing'.hasher)
    (same : ∀ id u, s.users.find? id = some u → sealing.hash id = sealing'.hash id) :
    s.reseal sealing = s.reseal sealing' := by
  have users : (s.users.map fun _ => User.reseal sealing) = s.users.map fun _ => User.reseal sealing' := by
    apply Table.map_congr
    intro id u found
    simp only [User.reseal, linked.keyed found, same id u found]
  simp only [reseal, users, hashers]

/-! ## Accounts and sessions -/

/-- Registering with another password, on the same side of the shortest length, when both have bytes. -/
theorem register_reseal {username email password password' : Option Text}
    (sides : (password.getD "").length < minPasswordLength ↔ (password'.getD "").length < minPasswordLength)
    (encodable : Acceptable username email password → Encodable password ∧ Encodable password')
    (sealed : ∀ digest, Password.digest? (password'.getD "") = .ok digest →
      sealing.hash s.nextId = sealing.hasher.hash s.drawn digest) :
    (s.reseal sealing).register now username email password' =
      (s.register now username email password).map fun r => (r.1.reseal sealing, r.2.reseal sealing) := by
  have lengths (username email : Text) :
      registrationFault? username email (password'.getD "") =
        registrationFault? username email (password.getD "") := by
    simp only [registrationFault?, sides]
  have emails : (s.reseal sealing).byEmail = s.byEmail := rfl
  have next : (s.reseal sealing).nextId = s.nextId := rfl
  simp only [register, lengths, emails, next, byUsername_reseal]
  split
  · rfl
  · next fine =>
    obtain ⟨⟨digest, digested⟩, digest', digested'⟩ := encodable (registrationFault?_eq_none_iff.1 fine)
    simp only [digested, digested']
    split
    · rfl
    · split
      · rfl
      · simp only [Except.map, reseal, draw, Table.map_insert, User.reseal, sealed digest' digested']

theorem disconnect_reseal :
    (s.reseal sealing).disconnect now connection =
      ((s.disconnect now connection).1.map (User.reseal sealing),
        (s.disconnect now connection).2.reseal sealing) := by
  cases bound : s.sessions.find? connection with
  | none =>
    have bound' : (s.reseal sealing).sessions.find? connection = none := bound
    rw [disconnect_unbound bound, disconnect_unbound bound']
    rfl
  | some id =>
    have bound' : (s.reseal sealing).sessions.find? connection = some id := bound
    cases found : s.users.find? id with
    | none =>
      have found' : (s.reseal sealing).users.find? id = none := by simp [found]
      simp only [disconnect, bound, found, bound', found']
      rfl
    | some u =>
      have found' : (s.reseal sealing).users.find? id = some (u.reseal sealing) := by simp [found]
      rw [disconnect_bound bound found, disconnect_bound bound' found']
      simp only [reseal, Option.map_some, Table.map_insert, User.offline, User.reseal]

theorem vacate_reseal {id : Id} :
    (s.reseal sealing).vacate now connection id = (s.vacate now connection id).reseal sealing := by
  simp only [vacate, disconnect_reseal, sessions_reseal]
  split
  · split <;> rfl
  · rfl

theorem release_reseal {u : User} :
    (s.reseal sealing).release (u.reseal sealing) connection = (s.release u connection).reseal sealing := by
  simp only [release, User.reseal]
  split
  · split <;> rfl
  · rfl

theorem bind_reseal {u : User} :
    (s.reseal sealing).bind now connection (u.reseal sealing) =
      ((s.bind now connection u).1.reseal sealing, (s.bind now connection u).2.reseal sealing) := by
  simp only [bind, reseal, Table.map_insert, User.reseal]

/-- Logging in with another password, which verifies where the first one does. -/
theorem login_reseal {username password password' : Option Text}
    (agrees : ∀ u, s.user? username = some u →
      sealing.hasher.verify (password'.getD "") (sealing.hash u.id) = s.hasher.verify (password.getD "") u.password) :
    (s.reseal sealing).login now username password' connection =
      (s.login now username password connection).map fun r => (r.1.reseal sealing, r.2.reseal sealing) := by
  simp only [login, user?_reseal]
  cases named : s.user? username with
  | none => rfl
  | some u =>
    have same : (s.reseal sealing).hasher.verify (password'.getD "") (u.reseal sealing).password =
        s.hasher.verify (password.getD "") u.password := agrees u named
    simp only [Option.map_some, same]
    split
    · rfl
    · simp only [Except.map]
      rw [show (u.reseal sealing).id = u.id from rfl, vacate_reseal, release_reseal, bind_reseal]

/-! ## Messages and contacts -/

theorem sendPrivate_reseal {sender : Id} {recipient text : Option Text} :
    (s.reseal sealing).sendPrivate now sender recipient text =
      (s.sendPrivate now sender recipient text).map fun r => (r.1, r.2.reseal sealing) := by
  simp only [sendPrivate, byUsername_reseal]
  split
  · rfl
  · split
    · rfl
    · split <;> rfl

theorem addContact_reseal {owner : Id} {target : Option Text} :
    (s.reseal sealing).addContact now owner target =
      (s.addContact now owner target).map fun r => (r.1, r.2.reseal sealing) := by
  have contacts : (s.reseal sealing).contacts = s.contacts := rfl
  simp only [addContact, byUsername_reseal, contacts]
  split
  · rfl
  · split
    · rfl
    · split <;> rfl

end Store

end ChatService
