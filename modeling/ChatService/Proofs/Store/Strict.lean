import ChatService.Proofs.Store.Consistency
import ChatService.Proofs.Store.Conversation

/-!
# Look-ups that can fail

The operations of the store once more, where each look-up under an identity raises a
failure if there is no such account. In a linked store every look-up finds its account,
so none of them raises anything but the faults of the store, and they do the same.
-/

namespace ChatService

/-- What can be raised in the middle of an operation. -/
inductive Raised
  | refused (refusal : Refusal)
  /-- A look-up under an identity that nothing has. -/
  | unknownId (id : Id)
  /-- Anything else, with its text. -/
  | other (message : Text)

namespace Raised

def message : Raised → Text
  | refused refusal => refusal.message
  | unknownId id => "'" ++ id.text ++ "'"
  | other message => message

/-- What comes of an operation when its refusal is raised. -/
def lift {α : Type} (result : Except Refusal α) : Except Raised α := result.mapError .refused

def ofRegisterFault : RegisterFault → Raised
  | .refused refusal => refused refusal
  | .unencodable fault => other fault.message

end Raised

/-- The value under an identity, which has to be there. -/
def Table.get {α : Type} (t : Table Id α) (id : Id) : Except Raised α :=
  match t.find? id with
  | some a => .ok a
  | none => .error (.unknownId id)

theorem Table.get_of_find? {α : Type} {t : Table Id α} {id : Id} {a : α} (found : t.find? id = some a) :
    t.get id = .ok a := by
  rw [get, found]

namespace Store

variable {s : Store}

/-! ## The operations -/

namespace Strict

def session? (s : Store) (connection : String) : Except Raised (Option User) :=
  match s.sessions.find? connection with
  | none => .ok none
  | some id => some <$> s.users.get id

def user? (s : Store) (username : Option Text) : Except Raised (Option User) :=
  match username.bind s.byUsername.find? with
  | none => .ok none
  | some id => some <$> s.users.get id

def disconnect (s : Store) (now : Instant) (connection : String) : Except Raised (Option User × Store) :=
  match s.sessions.find? connection with
  | none => .ok (none, s)
  | some id => do
    let user ← s.users.get id
    let user := { user with isOnline := false, connection := none, lastSeen := now }
    return (some user, { s with sessions := s.sessions.erase connection, users := s.users.insert id user })

def vacate (s : Store) (now : Instant) (connection : String) (id : Id) : Except Raised Store :=
  match s.sessions.find? connection with
  | none => .ok s
  | some previous => if previous = id then .ok s else (·.2) <$> disconnect s now connection

/-- The account is looked up twice: for its password, and again after another account has left the connection. -/
def login (s : Store) (now : Instant) (username password : Option Text) (connection : String) :
    Except Raised (User × Store) :=
  match username.bind s.byUsername.find? with
  | none => .error (.refused .badCredentials)
  | some id => do
    let known ← s.users.get id
    if !s.hasher.verify (password.getD "") known.password then .error (.refused .badCredentials)
    else
      let s ← vacate s now connection id
      let user ← s.users.get id
      return (s.release user connection).bind now connection user

def contactsOf (s : Store) (owner : Id) : Except Raised (List ContactStatus) :=
  (s.contacts.filter (·.owner = owner)).mapM fun c => do
    let u ← s.users.get c.target
    return ⟨u.username, u.isOnline, u.lastSeen⟩

end Strict

theorem session?_eq_bind (s : Store) (connection : String) :
    s.session? connection = (s.sessions.find? connection).bind s.users.find? := rfl

theorem user?_eq_bind (s : Store) (username : Option Text) :
    s.user? username = (username.bind s.byUsername.find?).bind s.users.find? := by
  cases username <;> rfl

/-! ## What is looked up is there -/

/-- Whatever is looked up under an identity is there: the accounts of sessions, of usernames and of contacts, and
the parties of a conversation, which are the two whose conversation it is. -/
structure Resolves (s : Store) : Prop where
  session {connection : String} {id : Id} : s.sessions.find? connection = some id → ∃ u, s.users.find? id = some u
  username {username : Text} {id : Id} : s.byUsername.find? username = some id → ∃ u, s.users.find? id = some u
  contact : ∀ c ∈ s.contacts, ∃ u, s.users.find? c.target = some u
  parties : ∀ a b, ∀ m ∈ s.privateHistory a b, (m.sender = a ∨ m.sender = b) ∧ (m.recipient = a ∨ m.recipient = b)

theorem between_party {a b : Id} {m : PrivateMessage} (mine : between a b m = true) :
    (m.sender = a ∨ m.sender = b) ∧ (m.recipient = a ∨ m.recipient = b) := by
  simp only [between, decide_eq_true_eq] at mine
  rcases mine.1 with ⟨sender, recipient⟩ | ⟨sender, recipient⟩
  · exact ⟨.inl sender, .inr recipient⟩
  · exact ⟨.inr sender, .inl recipient⟩

theorem Linked.resolves (linked : Linked s) : Resolves s where
  session := linked.bound
  username listed := by
    obtain ⟨u, found, -⟩ := (linked.byUsername _ _).1 listed
    exact ⟨u, found⟩
  contact c member := (linked.contacts c member).2.2
  parties _ _ _ shown := between_party (mem_of_mem_privateHistory shown).2

section

variable (linked : Linked s)

include linked

theorem strict_session? (connection : String) : Strict.session? s connection = .ok (s.session? connection) := by
  rw [Strict.session?, session?_eq_bind]
  cases bound : s.sessions.find? connection with
  | none => rfl
  | some id =>
    obtain ⟨u, found⟩ := linked.bound bound
    simp only [Table.get_of_find? found, Option.bind_some, found]
    rfl

theorem strict_user? (username : Option Text) : Strict.user? s username = .ok (s.user? username) := by
  rw [Strict.user?, user?_eq_bind]
  cases listed : username.bind s.byUsername.find? with
  | none => rfl
  | some id =>
    obtain ⟨u, found⟩ := exists_of_bind_byUsername linked listed
    simp only [Table.get_of_find? found, Option.bind_some, found]
    rfl

theorem strict_disconnect (now : Instant) (connection : String) :
    Strict.disconnect s now connection = .ok (s.disconnect now connection) := by
  unfold Strict.disconnect
  split
  · next unbound => rw [disconnect_unbound unbound]
  · next id bound =>
    obtain ⟨u, found⟩ := linked.bound bound
    rw [Table.get_of_find? found, disconnect_bound bound found]
    rfl

theorem strict_vacate (now : Instant) (connection : String) (id : Id) :
    Strict.vacate s now connection id = .ok (s.vacate now connection id) := by
  cases bound : s.sessions.find? connection with
  | none => simp only [Strict.vacate, vacate, bound]
  | some previous =>
    simp only [Strict.vacate, vacate, bound, strict_disconnect linked]
    split <;> rfl

/-- The account that logs in is still there when another one has left the connection. -/
theorem strict_login (now : Instant) (username password : Option Text) (connection : String) :
    Strict.login s now username password connection = Raised.lift (s.login now username password connection) := by
  rw [Strict.login, login, user?_eq_bind]
  cases listed : username.bind s.byUsername.find? with
  | none => rfl
  | some id =>
    obtain ⟨u, found⟩ := exists_of_bind_byUsername linked listed
    cases linked.keyed found
    have still : (s.vacate now connection u.id).users.find? u.id = some u := by
      rw [find?_vacate linked, if_neg fun both => both.2 rfl, found]
    simp only [Option.bind_some, found, Table.get_of_find? found, strict_vacate linked]
    simp only [Bind.bind, Except.bind, Table.get_of_find? still]
    split <;> rfl

theorem strict_contactsOf (owner : Id) : Strict.contactsOf s owner = .ok (s.contactsOf owner) := by
  have known : ∀ c ∈ s.contacts.filter (·.owner = owner), ∃ u, s.users.find? c.target = some u :=
    fun c member => (linked.contacts c (List.mem_of_mem_filter member)).2.2
  rw [Strict.contactsOf, contactsOf]
  generalize s.contacts.filter (·.owner = owner) = rows at known
  induction rows with
  | nil => rfl
  | cons c rest ih =>
    obtain ⟨u, found⟩ := known c List.mem_cons_self
    rw [List.mapM_cons, ih fun c member => known c (List.mem_cons_of_mem _ member), Table.get_of_find? found,
      List.filterMap_cons, found]
    rfl

end

end Store

end ChatService
