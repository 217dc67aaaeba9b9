import ChatService.Proofs.Store.Effect
import ChatService.Proofs.Store.Run

/-!
# Consistency of the store

Accounts, sessions and the two indexes say the same thing in several places. `Linked`
holds whatever is asked: everything that is named exists. `Consistent` adds that sessions
are exactly the connections that the accounts are on, which needs connections with names
that are not empty.
-/

namespace ChatService

/-! ## Identities -/

private def hexValue (c : Char) : Nat := if c.isDigit then c.toNat - 48 else c.toNat - 87

private def hexNumber (start : Nat) (digits : List Char) : Nat :=
  digits.foldl (fun n c => 16 * n + hexValue c) start

private theorem hexValue_digitChar : ∀ d < 16, hexValue (Nat.digitChar d) = d := by decide

private theorem hexNumber_zeros (k : Nat) : hexNumber 0 (List.replicate k '0') = 0 := by
  induction k with
  | zero => rfl
  | succ k ih => simpa [hexNumber, List.replicate_succ, hexValue] using ih

private theorem hexNumber_toDigits (n : Nat) : hexNumber 0 (Nat.toDigits 16 n) = n := by
  induction n using Nat.strongRecOn with
  | _ n ih =>
    rw [Nat.toDigits_eq_if (by omega)]
    split
    · next small => simpa [hexNumber] using hexValue_digitChar n small
    · next large =>
      have shorter := ih (n / 16) (by omega)
      have last := hexValue_digitChar (n % 16) (by omega)
      simp only [hexNumber, List.foldl_append, List.foldl_cons, List.foldl_nil] at shorter ⊢
      rw [shorter, last]
      omega

/-- Different numbers give different identities. -/
theorem Id.ofNumber_injective {m n : Nat} (equal : Id.ofNumber m = Id.ofNumber n) : m = n := by
  have digits : List.replicate (32 - (Nat.toDigits 16 m).length) '0' ++ Nat.toDigits 16 m =
      List.replicate (32 - (Nat.toDigits 16 n).length) '0' ++ Nat.toDigits 16 n :=
    String.ofList_injective (congrArg Id.text equal)
  have number (k n : Nat) : hexNumber 0 (List.replicate k '0' ++ Nat.toDigits 16 n) = n := by
    have zeros := hexNumber_zeros k
    have value := hexNumber_toDigits n
    simp only [hexNumber, List.foldl_append] at zeros value ⊢
    rw [zeros, value]
  rw [← number _ m, digits, number]

namespace Store

variable {s s' : Store} {now : Instant} {connection : String}

/-! ## The invariant -/

/-- Whether an identity was drawn. -/
def Drawn (s : Store) (id : Id) : Prop := ∃ n < s.drawn, id = Id.ofNumber (n + 1)

/-- An index maps the key of each account to its identity, and nothing else. -/
def Indexes (users : Table Id User) (key : User → Text) (index : Table Text Id) : Prop :=
  ∀ (k : Text) (id : Id), index.find? k = some id ↔ ∃ u, users.find? id = some u ∧ key u = k

/-- Emails are compared in lower case. -/
def emailKey (u : User) : Text := Text.lowered u.email

/-- The indexes list exactly the accounts; contacts and private messages lead to two different ones. -/
structure RecordsLinked (s : Store) : Prop where
  keyed {id : Id} {u : User} : s.users.find? id = some u → u.id = id
  drawn {id : Id} {u : User} : s.users.find? id = some u → s.Drawn id
  byUsername : Indexes s.users User.username s.byUsername
  byEmail : Indexes s.users emailKey s.byEmail
  contacts : ∀ c ∈ s.contacts, c.owner ≠ c.target ∧
    (∃ u, s.users.find? c.owner = some u) ∧ ∃ u, s.users.find? c.target = some u
  privateMessages : ∀ m ∈ s.privateMessages, m.sender ≠ m.recipient ∧
    (∃ u, s.users.find? m.sender = some u) ∧ ∃ u, s.users.find? m.recipient = some u

/-- Sessions lead to accounts, and the connection that an account is on leads to it. -/
structure Linked (s : Store) : Prop extends RecordsLinked s where
  bound {connection : String} {id : Id} : s.sessions.find? connection = some id →
    ∃ u, s.users.find? id = some u
  anchored {connection : String} {id : Id} {u : User} : s.users.find? id = some u →
    u.connection = some connection → s.sessions.find? connection = some id
  online_iff {id : Id} {u : User} : s.users.find? id = some u → (u.isOnline = true ↔ u.connection.isSome = true)

/-- The sessions are exactly the connections that the accounts are on. -/
structure Consistent (s : Store) : Prop extends Linked s where
  connected {connection : String} {id : Id} {u : User} : s.sessions.find? connection = some id →
    s.users.find? id = some u → u.connection = some connection
  named {id : Id} {u : User} : s.users.find? id = some u → u.connection ≠ some ""

theorem Consistent.session_iff (consistent : Consistent s) (connection : String) (id : Id) :
    s.sessions.find? connection = some id ↔
      ∃ u, s.users.find? id = some u ∧ u.connection = some connection := by
  constructor
  · intro session
    obtain ⟨u, found⟩ := consistent.bound session
    exact ⟨u, found, consistent.connected session found⟩
  · rintro ⟨u, found, on⟩
    exact consistent.anchored found on

/-- The session of a connection leads to an account that exists exactly when the account is on it. -/
theorem Consistent.bound_iff (consistent : Consistent s) {id : Id} {u : User} (found : s.users.find? id = some u)
    (connection : String) : s.sessions.find? connection = some id ↔ u.connection = some connection := by
  rw [consistent.session_iff, found]
  simp

/-- The same accounts, apart from their sessions. -/
def SameAccounts (s s' : Store) : Prop :=
  ∀ id, (s'.users.find? id).map User.registered = (s.users.find? id).map User.registered

theorem SameAccounts.symm (same : SameAccounts s s') : SameAccounts s' s := fun id => (same id).symm

theorem SameAccounts.find (same : SameAccounts s s') {id : Id} {u : User} (found : s.users.find? id = some u) :
    ∃ u', s'.users.find? id = some u' ∧ u'.registered = u.registered := by
  have equal := same id
  rw [found, Option.map_some] at equal
  obtain ⟨u', found', registered⟩ := Option.map_eq_some_iff.1 equal
  exact ⟨u', found', registered⟩

theorem consistent_empty (hasher : Hasher) (maxHistory : Nat) (maxPrivateHistory : Int) :
    Consistent (.empty hasher maxHistory maxPrivateHistory) where
  keyed := by simp [empty]
  drawn := by simp [empty]
  byUsername := by simp [Indexes, empty]
  byEmail := by simp [Indexes, empty]
  contacts := by simp [empty]
  privateMessages := by simp [empty]
  bound := by simp [empty]
  anchored := by simp [empty]
  online_iff := by simp [empty]
  connected := by simp [empty]
  named := by simp [empty]

/-- No two keys lead to one account. -/
theorem Indexes.injective {users : Table Id User} {key : User → Text} {index : Table Text Id}
    (indexes : Indexes users key index) {k k' : Text} {id : Id} (listed : index.find? k = some id)
    (listed' : index.find? k' = some id) : k = k' := by
  obtain ⟨u, found, rfl⟩ := (indexes k id).1 listed
  obtain ⟨u', found', rfl⟩ := (indexes k' id).1 listed'
  rw [found, Option.some.injEq] at found'
  rw [found']

/-- No two accounts have one key. -/
theorem Indexes.unique {users : Table Id User} {key : User → Text} {index : Table Text Id}
    (indexes : Indexes users key index) {id id' : Id} {u u' : User} (found : users.find? id = some u)
    (found' : users.find? id' = some u') (same : key u = key u') : id = id' := by
  have listed := (indexes (key u) id).2 ⟨u, found, rfl⟩
  have listed' := (indexes (key u) id').2 ⟨u', found', same.symm⟩
  rw [listed, Option.some.injEq] at listed'
  exact listed'

theorem Indexes.of_sameAccounts {key : User → Text} {index : Table Text Id}
    (steady : ∀ u v : User, u.registered = v.registered → key u = key v) (same : SameAccounts s s')
    (indexes : Indexes s.users key index) : Indexes s'.users key index := by
  intro k id
  rw [indexes]
  constructor
  · rintro ⟨u, found, rfl⟩
    obtain ⟨u', found', registered⟩ := same.find found
    exact ⟨u', found', steady u' u registered⟩
  · rintro ⟨u', found', rfl⟩
    obtain ⟨u, found, registered⟩ := same.symm.find found'
    exact ⟨u, found, steady u u' registered⟩

/-- A new account with a new key gets one entry. -/
theorem Indexes.insert {users : Table Id User} {key : User → Text} {index : Table Text Id} {u : User}
    (indexes : Indexes users key index) (fresh : users.find? u.id = none) (free : index.find? (key u) = none) :
    Indexes (users.insert u.id u) key (index.insert (key u) u.id) := by
  intro k id
  simp only [Table.find?_insert]
  by_cases taken : k = key u
  · subst taken
    rw [if_pos rfl, Option.some.injEq]
    constructor
    · rintro rfl
      exact ⟨u, by simp, rfl⟩
    · rintro ⟨v, found, same⟩
      split at found
      · next here => exact here.symm
      · have listed := (indexes (key u) id).2 ⟨v, found, same⟩
        rw [free] at listed
        cases listed
  · rw [if_neg taken, indexes]
    by_cases same : id = u.id
    · subst same; simp [fresh, Ne.symm taken]
    · simp [same]

/-- What is linked stays linked when only sessions change. -/
theorem RecordsLinked.of_sameAccounts (linked : RecordsLinked s) (only : OnlySessions s s')
    (same : SameAccounts s s') : RecordsLinked s' := by
  have keep {id : Id} (found : ∃ u, s.users.find? id = some u) : ∃ u, s'.users.find? id = some u := by
    obtain ⟨u, found⟩ := found
    obtain ⟨u', found', -⟩ := same.find found
    exact ⟨u', found'⟩
  refine ⟨?_, ?_, ?_, ?_, ?_, ?_⟩
  · intro id u' found'
    obtain ⟨u, found, registered⟩ := same.symm.find found'
    obtain ⟨sameId, -⟩ := User.eq_of_registered registered
    rw [← sameId, linked.keyed found]
  · intro id u' found'
    obtain ⟨u, found, -⟩ := same.symm.find found'
    rw [only]
    exact linked.drawn found
  · rw [show s'.byUsername = s.byUsername by rw [only]]
    exact linked.byUsername.of_sameAccounts (fun u v same => (User.eq_of_registered same).2.1) same
  · rw [show s'.byEmail = s.byEmail by rw [only]]
    refine linked.byEmail.of_sameAccounts (fun u v same => ?_) same
    rw [emailKey, (User.eq_of_registered same).2.2.1, emailKey]
  · intro c member
    rw [show s'.contacts = s.contacts by rw [only]] at member
    obtain ⟨other, owner, target⟩ := linked.contacts c member
    exact ⟨other, keep owner, keep target⟩
  · intro m member
    rw [show s'.privateMessages = s.privateMessages by rw [only]] at member
    obtain ⟨other, sender, recipient⟩ := linked.privateMessages m member
    exact ⟨other, keep sender, keep recipient⟩

/-! ## Ending a session -/

theorem find?_disconnect (linked : Linked s) (id : Id) :
    (s.disconnect now connection).2.users.find? id =
      if s.sessions.find? connection = some id then (s.users.find? id).map (·.offline now)
      else s.users.find? id := by
  cases bound : s.sessions.find? connection with
  | none => simp [disconnect_unbound bound]
  | some owner =>
    obtain ⟨u, found⟩ := linked.bound bound
    rw [disconnect_bound bound found, Table.find?_insert]
    by_cases same : id = owner
    · subst same; simp [found]
    · simp [same, Ne.symm same]

theorem sessions_disconnect (linked : Linked s) (c : String) :
    (s.disconnect now connection).2.sessions.find? c =
      if c = connection then none else s.sessions.find? c := by
  cases bound : s.sessions.find? connection with
  | none =>
    rw [disconnect_unbound bound]
    split
    · next same => rw [same, bound]
    · rfl
  | some owner =>
    obtain ⟨u, found⟩ := linked.bound bound
    rw [disconnect_bound bound found, Table.find?_erase]

theorem sameAccounts_disconnect (linked : Linked s) :
    SameAccounts s (s.disconnect now connection).2 := by
  intro id
  rw [find?_disconnect linked]
  split
  · cases s.users.find? id <;> rfl
  · rfl

/-- An account after a disconnect is offline, or it is unchanged and was not on the connection. -/
private theorem of_find?_disconnect (linked : Linked s) {id : Id} {u : User}
    (found : (s.disconnect now connection).2.users.find? id = some u) :
    (u.isOnline = false ∧ u.connection = none) ∨
      (s.users.find? id = some u ∧ s.sessions.find? connection ≠ some id) := by
  rw [find?_disconnect linked] at found
  split at found
  · obtain ⟨before, -, rfl⟩ := Option.map_eq_some_iff.1 found
    exact .inl ⟨rfl, rfl⟩
  · next elsewhere => exact .inr ⟨found, elsewhere⟩

theorem linked_disconnect (linked : Linked s) : Linked (s.disconnect now connection).2 := by
  have same : SameAccounts s (s.disconnect now connection).2 := sameAccounts_disconnect linked
  refine ⟨linked.toRecordsLinked.of_sameAccounts (onlySessions_disconnect s now connection) same, ?_, ?_, ?_⟩
  · intro c id session
    rw [sessions_disconnect linked] at session
    obtain ⟨-, session⟩ := Option.ite_none_left_eq_some.1 session
    obtain ⟨u, found⟩ := linked.bound session
    obtain ⟨u', found', -⟩ := same.find found
    exact ⟨u', found'⟩
  · intro c id u found on
    rcases of_find?_disconnect linked found with ⟨-, offline⟩ | ⟨found, elsewhere⟩
    · rw [offline] at on
      cases on
    · have session := linked.anchored found on
      have other : c ≠ connection := fun same => elsewhere (same ▸ session)
      rw [sessions_disconnect linked, if_neg other, session]
  · intro id u found
    rcases of_find?_disconnect linked found with ⟨offline, unbound⟩ | ⟨found, -⟩
    · simp [offline, unbound]
    · exact linked.online_iff found

theorem consistent_disconnect (consistent : Consistent s) :
    Consistent (s.disconnect now connection).2 := by
  refine ⟨linked_disconnect consistent.toLinked, ?_, ?_⟩
  · intro c id u session found
    rw [sessions_disconnect consistent.toLinked] at session
    obtain ⟨other, session⟩ := Option.ite_none_left_eq_some.1 session
    obtain ⟨v, before⟩ := consistent.bound session
    have there := consistent.connected session before
    rw [find?_disconnect consistent.toLinked] at found
    split at found
    · next here =>
      -- An account with two sessions would be on two connections.
      have there' := consistent.connected here before
      rw [there, Option.some.injEq] at there'
      exact absurd there' other
    · rw [before, Option.some.injEq] at found
      exact found ▸ there
  · intro id u found
    rcases of_find?_disconnect consistent.toLinked found with ⟨-, unbound⟩ | ⟨found, -⟩
    · simp [unbound]
    · exact consistent.named found

/-! ## Logging in -/

/-- The store after an account moved to a connection that no other account is on. -/
def move (s : Store) (now : Instant) (connection : String) (u : User) : Store :=
  ((s.release u connection).bind now connection u).2

theorem find?_move (id : Id) (u : User) :
    (s.move now connection u).users.find? id =
      if id = u.id then some (u.onlineOn now connection) else s.users.find? id := by
  have kept : (s.release u connection).users = s.users := by
    unfold release
    split
    · split <;> rfl
    · rfl
  simp only [move, bind, kept, Table.find?_insert, User.onlineOn]

theorem sessions_move (c : String) (u : User) :
    (s.move now connection u).sessions.find? c =
      if c = connection then some u.id
      else if u.connection = some c ∧ c ≠ "" then none
      else s.sessions.find? c := by
  have released (other : c ≠ connection) : (s.release u connection).sessions.find? c =
      if u.connection = some c ∧ c ≠ "" then none else s.sessions.find? c := by
    unfold release
    split
    · next old bound =>
      simp only [bound, Option.some.injEq]
      by_cases same : old = c
      · subst same
        by_cases empty : old = ""
        · simp [empty]
        · simp [empty, other, Table.find?_erase]
      · have kept : ¬(old = c ∧ c ≠ "") := fun both => same both.1
        rw [if_neg kept]
        split
        · rw [Table.find?_erase, if_neg (Ne.symm same)]
        · rfl
    · next offline => simp [offline]
  simp only [move, bind, Table.find?_insert]
  split
  · rfl
  · next other => exact released other

theorem sameAccounts_move {u : User} (found : s.users.find? u.id = some u) :
    SameAccounts s (s.move now connection u) := by
  intro id
  rw [find?_move]
  split
  · next same => rw [same, found]; rfl
  · rfl

theorem linked_move (linked : Linked s) {u : User} (found : s.users.find? u.id = some u)
    (free : s.sessions.find? connection = none ∨ s.sessions.find? connection = some u.id) :
    Linked (s.move now connection u) := by
  have same : SameAccounts s (s.move now connection u) := sameAccounts_move found
  refine ⟨linked.toRecordsLinked.of_sameAccounts ((onlySessions_release s u connection).trans rfl) same, ?_, ?_, ?_⟩
  · intro c id session
    rw [sessions_move] at session
    split at session
    · cases session
      exact ⟨u.onlineOn now connection, by rw [find?_move, if_pos rfl]⟩
    · obtain ⟨-, session⟩ := Option.ite_none_left_eq_some.1 session
      obtain ⟨v, before⟩ := linked.bound session
      obtain ⟨v', after, -⟩ := same.find before
      exact ⟨v', after⟩
  · intro c id v after on
    rw [find?_move] at after
    split at after
    · next mine =>
      cases after
      cases on
      rw [sessions_move, if_pos rfl, mine]
    · next other =>
      have session := linked.anchored after on
      have elsewhere : c ≠ connection := by
        rintro rfl
        rcases free with free | free
        · simp [free] at session
        · rw [free, Option.some.injEq] at session
          exact other session.symm
      have kept : ¬(u.connection = some c ∧ c ≠ "") := by
        rintro ⟨mine, -⟩
        rw [linked.anchored found mine, Option.some.injEq] at session
        exact other session.symm
      rw [sessions_move, if_neg elsewhere, if_neg kept, session]
  · intro id v after
    rw [find?_move] at after
    split at after
    · cases after
      simp [User.onlineOn]
    · exact linked.online_iff after

theorem consistent_move (consistent : Consistent s) {u : User} (found : s.users.find? u.id = some u)
    (named : connection ≠ "")
    (free : s.sessions.find? connection = none ∨ s.sessions.find? connection = some u.id) :
    Consistent (s.move now connection u) := by
  refine ⟨linked_move consistent.toLinked found free, ?_, ?_⟩
  · intro c id v session after
    rw [sessions_move] at session
    rw [find?_move] at after
    split at session
    · next here =>
      cases session
      rw [if_pos rfl] at after
      cases after
      rw [here]
      rfl
    · obtain ⟨kept, session⟩ := Option.ite_none_left_eq_some.1 session
      split at after
      · next mine =>
        -- The old session of the account was taken away.
        have on := consistent.connected (mine ▸ session) found
        have empty : c = "" := by simpa [on] using kept
        exact absurd (empty ▸ on) (consistent.named found)
      · exact consistent.connected session after
  · intro id v after
    rw [find?_move] at after
    split at after
    · cases after
      simpa [User.onlineOn] using named
    · exact consistent.named after

theorem find?_vacate (linked : Linked s) (id owner : Id) :
    (s.vacate now connection owner).users.find? id =
      if s.sessions.find? connection = some id ∧ id ≠ owner then (s.users.find? id).map (·.offline now)
      else s.users.find? id := by
  unfold vacate
  split
  · next previous bound =>
    split
    · next same =>
      subst same
      rw [if_neg]
      rintro ⟨mine, other⟩
      rw [bound, Option.some.injEq] at mine
      exact other mine.symm
    · next other =>
      rw [find?_disconnect linked, bound]
      by_cases mine : previous = id
      · subst mine
        simp [other]
      · simp [mine]
  · next unbound => simp [unbound]

theorem sessions_vacate (linked : Linked s) (c : String) (owner : Id) :
    (s.vacate now connection owner).sessions.find? c =
      if c = connection ∧ s.sessions.find? connection ≠ some owner then none else s.sessions.find? c := by
  unfold vacate
  split
  · next previous bound =>
    split
    · next same => rw [if_neg (fun both => both.2 (same ▸ bound))]
    · next other =>
      rw [sessions_disconnect linked]
      have differs : s.sessions.find? connection ≠ some owner := by simpa [bound] using other
      simp only [differs, ne_eq, not_false_eq_true, and_true]
  · next unbound =>
    split
    · next here => rw [here.1, unbound]
    · rfl

theorem linked_vacate (linked : Linked s) (owner : Id) : Linked (s.vacate now connection owner) := by
  unfold vacate
  split
  · split
    · exact linked
    · exact linked_disconnect linked
  · exact linked

theorem consistent_vacate (consistent : Consistent s) (owner : Id) :
    Consistent (s.vacate now connection owner) := by
  unfold vacate
  split
  · split
    · exact consistent
    · exact consistent_disconnect consistent
  · exact consistent

/-- After clearing the connection, the account is as before and the connection is its own or nobody's. -/
private theorem cleared (linked : Linked s) (now : Instant) (connection : String) {u : User}
    (found : s.users.find? u.id = some u) :
    (s.vacate now connection u.id).users.find? u.id = some u ∧
      ((s.vacate now connection u.id).sessions.find? connection = none ∨
        (s.vacate now connection u.id).sessions.find? connection = some u.id) := by
  rw [find?_vacate linked, if_neg (fun both => both.2 rfl), sessions_vacate linked]
  refine ⟨found, ?_⟩
  by_cases mine : s.sessions.find? connection = some u.id
  · exact .inr (by simp [mine])
  · exact .inl (by simp [mine])

/-- All that a successful login does to the accounts. -/
theorem login_users (linked : Linked s) {username password : Option Text} {u' : User}
    (ok : s.login now username password connection = .ok (u', s')) :
    ∃ u, s.user? username = some u ∧ s.users.find? u.id = some u ∧
      s.hasher.verify (password.getD "") u.password = true ∧ u' = u.onlineOn now connection ∧
      s' = (s.vacate now connection u.id).move now connection u ∧
      ∀ id, s'.users.find? id =
        if id = u.id then some u'
        else if s.sessions.find? connection = some id then (s.users.find? id).map (·.offline now)
        else s.users.find? id := by
  obtain ⟨u, known, verified, rfl, rfl⟩ := login_ok ok
  obtain ⟨name, id, -, -, found⟩ := user?_eq_some_iff.1 known
  have keyed := linked.keyed found
  subst keyed
  refine ⟨u, known, found, verified, rfl, rfl, fun id => ?_⟩
  have moved : ((s.vacate now connection u.id).move now connection u).users.find? id = _ := find?_move id u
  simp only [move] at moved
  rw [moved, find?_vacate linked]
  by_cases mine : id = u.id
  · simp [mine]
  · simp [mine]

/-- A login ends the other session of the account and gives it the connection. -/
theorem login_sessions (consistent : Consistent s) {username password : Option Text} {u : User}
    (ok : s.login now username password connection = .ok (u, s')) (c : String) :
    s'.sessions.find? c =
      if c = connection then some u.id
      else if s.sessions.find? c = some u.id then none
      else s.sessions.find? c := by
  obtain ⟨v, -, found, -, rfl, rfl, -⟩ := login_users consistent.toLinked ok
  have on : (v.connection = some c ∧ c ≠ "") ↔ s.sessions.find? c = some v.id := by
    rw [consistent.session_iff]
    constructor
    · rintro ⟨on, -⟩
      exact ⟨v, found, on⟩
    · rintro ⟨w, found', on⟩
      rw [found, Option.some.injEq] at found'
      subst found'
      exact ⟨on, fun empty => consistent.named found (empty ▸ on)⟩
  rw [sessions_move, sessions_vacate consistent.toLinked]
  by_cases here : c = connection
  · simp [here, User.onlineOn]
  · by_cases mine : s.sessions.find? c = some v.id
    · simp [here, on, mine, User.onlineOn]
    · simp [here, on, mine, User.onlineOn]

theorem sameAccounts_login (linked : Linked s) {username password : Option Text} {u' : User}
    (ok : s.login now username password connection = .ok (u', s')) : SameAccounts s s' := by
  obtain ⟨u, -, found, -, rfl, -, users⟩ := login_users linked ok
  intro id
  rw [users]
  split
  · next same => rw [same, found]; rfl
  · split
    · cases s.users.find? id <;> rfl
    · rfl

theorem linked_login (linked : Linked s) {username password : Option Text} {u : User}
    (ok : s.login now username password connection = .ok (u, s')) : Linked s' := by
  obtain ⟨v, -, found, -, -, rfl, -⟩ := login_users linked ok
  obtain ⟨still, free⟩ := cleared linked now connection found
  exact linked_move (linked_vacate linked v.id) still free

theorem consistent_login (consistent : Consistent s) {username password : Option Text} {u : User}
    (named : connection ≠ "") (ok : s.login now username password connection = .ok (u, s')) :
    Consistent s' := by
  obtain ⟨v, -, found, -, -, rfl, -⟩ := login_users consistent.toLinked ok
  obtain ⟨still, free⟩ := cleared consistent.toLinked now connection found
  exact consistent_move (consistent_vacate consistent v.id) still named free

/-! ## New records -/

/-- The next identity is a new one. -/
theorem not_drawn_nextId (s : Store) : ¬ s.Drawn s.nextId := by
  rintro ⟨n, earlier, equal⟩
  have number := Id.ofNumber_injective equal
  omega

/-- The next identity belongs to no account. -/
theorem find?_nextId (linked : Linked s) : s.users.find? s.nextId = none := by
  cases found : s.users.find? s.nextId with
  | none => rfl
  | some u => exact absurd (linked.drawn found) (not_drawn_nextId s)

theorem Drawn.draw {id : Id} (drawn : s.Drawn id) : s.draw.Drawn id := by
  obtain ⟨n, earlier, equal⟩ := drawn
  exact ⟨n, Nat.lt_succ_of_lt earlier, equal⟩

theorem Drawn.of_onlySessions {id : Id} (only : OnlySessions s s') (drawn : s.Drawn id) : s'.Drawn id := by
  rw [only]
  exact drawn

theorem drawn_nextId (s : Store) : s.draw.Drawn s.nextId := ⟨s.drawn, Nat.lt_succ_self _, rfl⟩

theorem linked_draw (linked : Linked s) : Linked s.draw :=
  { linked with drawn := fun found => (linked.drawn found).draw }

/-- An account after a registration is the new one or an old one. -/
private theorem of_find?_insert {users : Table Id User} {u v : User} {id : Id}
    (found : (users.insert u.id u).find? id = some v) :
    (id = u.id ∧ v = u) ∨ (id ≠ u.id ∧ users.find? id = some v) := by
  rw [Table.find?_insert] at found
  split at found
  · next same => exact .inl ⟨same, (Option.some.inj found).symm⟩
  · next other => exact .inr ⟨other, found⟩

theorem linked_register (linked : Linked s) {username email password : Option Text} {u : User}
    (ok : s.register now username email password = .ok (u, s')) : Linked s' := by
  obtain ⟨new, -, -, -, offline, unbound, -, -, -, freeName, freeEmail, rfl⟩ := register_ok ok
  have fresh : s.users.find? u.id = none := new ▸ find?_nextId linked
  have kept {id : Id} (found : ∃ v, s.users.find? id = some v) :
      ∃ v, (s.users.insert u.id u).find? id = some v := by
    obtain ⟨v, found⟩ := found
    refine ⟨v, ?_⟩
    rw [Table.find?_insert, if_neg (fun same => by simp [same, fresh] at found), found]
  refine ⟨⟨?_, ?_, ?_, ?_, ?_, ?_⟩, ?_, ?_, ?_⟩
  · intro id v found
    rcases of_find?_insert found with ⟨rfl, rfl⟩ | ⟨-, old⟩
    · rfl
    · exact linked.keyed old
  · intro id v found
    rcases of_find?_insert found with ⟨rfl, -⟩ | ⟨-, old⟩
    · rw [new]; exact drawn_nextId s
    · exact (linked.drawn old).draw
  · exact linked.byUsername.insert fresh freeName
  · exact linked.byEmail.insert fresh freeEmail
  · intro c member
    obtain ⟨other, owner, target⟩ := linked.contacts c member
    exact ⟨other, kept owner, kept target⟩
  · intro m member
    obtain ⟨other, sender, recipient⟩ := linked.privateMessages m member
    exact ⟨other, kept sender, kept recipient⟩
  · intro c id session
    exact kept (linked.bound session)
  · intro c id v found on
    rcases of_find?_insert found with ⟨-, rfl⟩ | ⟨-, old⟩
    · rw [unbound] at on
      cases on
    · exact linked.anchored old on
  · intro id v found
    rcases of_find?_insert found with ⟨-, rfl⟩ | ⟨-, old⟩
    · simp [offline, unbound]
    · exact linked.online_iff old

theorem consistent_register (consistent : Consistent s) {username email password : Option Text} {u : User}
    (ok : s.register now username email password = .ok (u, s')) : Consistent s' := by
  refine ⟨linked_register consistent.toLinked ok, ?_, ?_⟩
  all_goals
    obtain ⟨new, -, -, -, -, unbound, -, -, -, -, -, rfl⟩ := register_ok ok
  · intro c id v session found
    rcases of_find?_insert found with ⟨rfl, -⟩ | ⟨-, old⟩
    · obtain ⟨w, known⟩ := consistent.bound session
      rw [new, find?_nextId consistent.toLinked] at known
      cases known
    · exact consistent.connected session old
  · intro id v found
    rcases of_find?_insert found with ⟨-, rfl⟩ | ⟨-, old⟩
    · simp [unbound]
    · exact consistent.named old

theorem linked_post (linked : Linked s) (username text : Text) : Linked (s.post now username text).2 :=
  { linked with }

theorem consistent_post (consistent : Consistent s) (username text : Text) :
    Consistent (s.post now username text).2 :=
  { consistent with }

/-- A name in the index leads to an account. -/
theorem exists_of_bind_byUsername (linked : Linked s) {name : Option Text} {id : Id}
    (known : name.bind s.byUsername.find? = some id) : ∃ u, s.users.find? id = some u := by
  obtain ⟨username, -, listed⟩ := Option.bind_eq_some_iff.1 known
  obtain ⟨u, found, -⟩ := (linked.byUsername username id).1 listed
  exact ⟨u, found⟩

theorem linked_sendPrivate (linked : Linked s) {sender : Id} {recipient text : Option Text}
    {m : PrivateMessage} (known : ∃ u, s.users.find? sender = some u)
    (ok : s.sendPrivate now sender recipient text = .ok (m, s')) : Linked s' := by
  obtain ⟨-, listed, other, -, rfl, -, -, -, rfl⟩ := sendPrivate_ok ok
  refine { linked_draw linked with privateMessages := ?_ }
  intro m' member
  rcases List.mem_append.1 member with old | new
  · exact linked.privateMessages m' old
  · rw [List.mem_singleton] at new
    subst new
    exact ⟨other.symm, known, exists_of_bind_byUsername linked listed⟩

theorem consistent_sendPrivate (consistent : Consistent s) {sender : Id} {recipient text : Option Text}
    {m : PrivateMessage} (known : ∃ u, s.users.find? sender = some u)
    (ok : s.sendPrivate now sender recipient text = .ok (m, s')) : Consistent s' := by
  have linked := linked_sendPrivate consistent.toLinked known ok
  obtain ⟨-, -, -, -, -, -, -, -, rfl⟩ := sendPrivate_ok ok
  exact ⟨linked, consistent.connected, consistent.named⟩

theorem linked_addContact (linked : Linked s) {owner : Id} {target : Option Text} {new : Bool}
    (known : ∃ u, s.users.find? owner = some u)
    (ok : s.addContact now owner target = .ok (new, s')) : Linked s' := by
  obtain ⟨id, listed, other, ⟨-, rfl, -⟩ | ⟨-, -, rfl⟩⟩ := addContact_ok ok
  · exact linked
  · refine { linked_draw linked with contacts := ?_ }
    intro c member
    rcases List.mem_append.1 member with old | new
    · exact linked.contacts c old
    · rw [List.mem_singleton] at new
      subst new
      exact ⟨other.symm, known, exists_of_bind_byUsername linked listed⟩

theorem consistent_addContact (consistent : Consistent s) {owner : Id} {target : Option Text} {new : Bool}
    (known : ∃ u, s.users.find? owner = some u)
    (ok : s.addContact now owner target = .ok (new, s')) : Consistent s' := by
  have linked := linked_addContact consistent.toLinked known ok
  obtain ⟨_, -, -, ⟨-, rfl, -⟩ | ⟨-, -, rfl⟩⟩ := addContact_ok ok
  · exact consistent
  · exact ⟨linked, consistent.connected, consistent.named⟩

end Store

end ChatService
