import ChatService.Proofs.Store.Sessions

/-!
# Accounts as a function of the history

The accounts of a store are those that the successful registrations of its log made, each as it
was registered apart from its session. So the log alone says which registrations are refused and
why, which credentials a login accepts, and which account it gives.
-/

namespace ChatService

namespace Store

open Text (strip lowered)

variable {start s s' : Store} {now : Instant} {log : List Event}

/-! ## Reading the log -/

/-- A successful registration with these arguments, and the account that it made. -/
def Event.Creates (e : Event) (username email password : Option Text) (u : User) : Prop :=
  e.operation = .register username email password ∧ e.answer = .user u

/-- The account of a successful registration with this username and a password of the same digest. -/
def Accredited (log : List Event) (username password : Option Text) (u : User) : Prop :=
  ∃ e ∈ log, ∃ username' email' password', e.Creates username' email' password' u ∧
    username = some (strip (username'.getD "")) ∧
    Password.SameDigest (password'.getD "") (password.getD "")

/-- A successful registration had the same username, or the same email without regard to case. -/
def Taken (log : List Event) (username email : Option Text) : Prop :=
  ∃ e ∈ log, ∃ username' email' password' u, e.Creates username' email' password' u ∧
    (strip (username'.getD "") = strip (username.getD "") ∨
      lowered (strip (email'.getD "")) = lowered (strip (email.getD "")))

/-- What the arguments of a registration must be like, whoever has registered before. -/
def Acceptable (username email password : Option Text) : Prop :=
  3 ≤ (strip (username.getD "")).length ∧ 6 ≤ (password.getD "").length ∧
    CodePoint.char '@' ∈ strip (email.getD "")

/-- A password that has bytes, and so a digest. -/
def Encodable (password : Option Text) : Prop := ∃ digest, Password.digest? (password.getD "") = .ok digest

/-- An event of a run answers what the store of that moment answers. -/
theorem Run.answer {before after : List Event} {e : Event} (run : Run start (before ++ e :: after) s) :
    ∃ between, Run start before between ∧ (between.perform e.time e.operation).1 = e.answer := by
  have begun : before ++ [e] <+: before ++ e :: after := ⟨after, by simp⟩
  obtain ⟨_, reached⟩ := run.through begun
  obtain ⟨between, earlier, -, performed⟩ := reached.last
  exact ⟨between, earlier, by rw [performed]⟩

theorem register_of_perform {username email password : Option Text} {u : User}
    (answered : (s.perform now (.register username email password)).1 = .user u) :
    ∃ s', s.register now username email password = .ok (u, s') := by
  cases result : s.register now username email password with
  | error refusal => simp [perform, settle, result] at answered
  | ok value =>
    simp only [perform, settle, result, Answer.user.injEq] at answered
    exact ⟨value.2, by rw [← answered]⟩

/-- The account that a registration makes is what its arguments say, white space left out. -/
theorem Run.of_creates (run : Run start log s) {e : Event} (member : e ∈ log)
    {username email password : Option Text} {u : User} (created : e.Creates username email password u) :
    u.username = strip (username.getD "") ∧ u.email = strip (email.getD "") ∧
      start.hasher.Made (password.getD "") u.password := by
  obtain ⟨before, after, rfl⟩ := List.append_of_mem member
  obtain ⟨between, earlier, answered⟩ := run.answer
  rw [created.1, created.2] at answered
  obtain ⟨_, ok⟩ := register_of_perform answered
  obtain ⟨-, named, mailed, made, -⟩ := register_ok ok
  exact ⟨named, mailed, earlier.hasher_eq ▸ made⟩

/-! ## The accounts of a run -/

/-- An account after an operation was there before, or the operation is the registration that made it. -/
theorem perform_accounts (linked : Linked s) (operation : Operation) {id : Id} {u : User}
    (found : (s.perform now operation).2.users.find? id = some u) :
    (∃ v, s.users.find? id = some v ∧ v.registered = u.registered) ∨
      ∃ username email password,
        Event.Creates ⟨now, operation, (s.perform now operation).1⟩ username email password u := by
  rcases perform_sessions s now operation with
    ⟨_, _, _, _, s', -, ok, performed⟩ | ⟨_, -, performed⟩ |
    ⟨username, email, password, v, s', rfl, ok, performed⟩ | ⟨-, users, -⟩
  · rw [performed] at found
    exact .inl ((sameAccounts_login linked ok).symm.find found)
  · rw [performed] at found
    exact .inl ((sameAccounts_disconnect linked).symm.find found)
  · obtain ⟨-, -, -, -, -, -, -, -, -, -, -, rfl⟩ := register_ok ok
    rw [performed] at found ⊢
    simp only [Table.find?_insert] at found
    split at found
    · cases found
      exact .inr ⟨username, email, password, rfl, rfl⟩
    · exact .inl ⟨u, found, rfl⟩
  · rw [users] at found
    exact .inl ⟨u, found, rfl⟩

section

variable {hasher : Hasher} {maxHistory : Nat} {maxPrivateHistory : Int}

/-- Every account was made by a registration of the log, and only its session differs since. -/
theorem Run.created (run : Run (.empty hasher maxHistory maxPrivateHistory) log s) {id : Id} {u : User}
    (found : s.users.find? id = some u) :
    ∃ e ∈ log, ∃ username email password v,
      e.Creates username email password v ∧ v.registered = u.registered := by
  induction run generalizing u with
  | nothing => simp [empty] at found
  | @step log s s' now operation answer earlier permitted performed ih =>
    have linked := (earlier.linked (consistent_empty hasher maxHistory maxPrivateHistory).toLinked).1
    have answered : (s.perform now operation).1 = answer := by rw [performed]
    have reached : (s.perform now operation).2 = s' := by rw [performed]
    subst answered reached
    rcases perform_accounts linked operation found with ⟨v, before, same⟩ | ⟨username, email, password, created⟩
    · obtain ⟨e, member, username, email, password, w, created, same'⟩ := ih before
      exact ⟨e, List.mem_append_left _ member, username, email, password, w, created, same'.trans same⟩
    · exact ⟨_, List.mem_append_right _ (List.mem_singleton_self _), username, email, password, u, created, rfl⟩

/-- The account that a registration made is still there. -/
theorem Run.keeps (run : Run (.empty hasher maxHistory maxPrivateHistory) log s) {e : Event} (member : e ∈ log)
    {username email password : Option Text} {u : User} (created : e.Creates username email password u) :
    ∃ v, s.users.find? u.id = some v ∧ v.registered = u.registered :=
  (run.linked (consistent_empty hasher maxHistory maxPrivateHistory).toLinked).2 u ⟨e, member, created.2⟩

/-- An index has exactly the keys of the accounts that were registered. -/
theorem Run.indexed (run : Run (.empty hasher maxHistory maxPrivateHistory) log s) {key : User → Text}
    (steady : ∀ u v : User, u.registered = v.registered → key u = key v) {index : Table Text Id}
    (indexes : Indexes s.users key index) {k : Text} :
    index.find? k ≠ none ↔
      ∃ e ∈ log, ∃ username email password u, e.Creates username email password u ∧ key u = k := by
  constructor
  · intro known
    obtain ⟨id, listed⟩ := Option.ne_none_iff_exists'.1 known
    obtain ⟨u, found, rfl⟩ := (indexes k id).1 listed
    obtain ⟨e, member, username, email, password, v, created, same⟩ := run.created found
    exact ⟨e, member, username, email, password, v, created, steady v u same⟩
  · rintro ⟨e, member, username, email, password, u, created, rfl⟩
    obtain ⟨v, found, same⟩ := run.keeps member created
    rw [(indexes (key u) u.id).2 ⟨v, found, steady v u same⟩]
    simp

/-! ## Logging in -/

/-- The account that the log has for a username and a password is let in. -/
theorem Run.login_of_accredited (exact : hasher.Exact) (run : Run (.empty hasher maxHistory maxPrivateHistory) log s)
    {username password : Option Text} {u : User} (accredited : Accredited log username password u)
    (now : Instant) (connection : String) :
    ∃ v s', s.login now username password connection = .ok (v, s') ∧ v.registered = u.registered := by
  obtain ⟨e, member, username', email, password', created, rfl, same⟩ := accredited
  obtain ⟨named, -, made⟩ := run.of_creates member created
  obtain ⟨v, found, registered⟩ := run.keeps member created
  obtain ⟨-, name, -, secret, -⟩ := User.eq_of_registered registered
  have linked := (run.linked (consistent_empty hasher maxHistory maxPrivateHistory).toLinked).1
  have listed : s.byUsername.find? (strip (username'.getD "")) = some u.id :=
    (linked.byUsername _ _).2 ⟨v, found, name.trans named⟩
  have known : s.user? (some (strip (username'.getD ""))) = some v :=
    user?_eq_some_iff.2 ⟨_, _, rfl, listed, found⟩
  have verified : s.hasher.verify (password.getD "") v.password = true := by
    rw [secret, run.hasher_eq]
    exact (exact.verify_iff made _).2 same
  exact ⟨v.onlineOn now connection, _, by simp only [login, known, verified]; rfl, registered⟩

/-- Who is let in has an account that the log has for the username and the password. -/
theorem Run.accredited_of_login (exact : hasher.Exact) (run : Run (.empty hasher maxHistory maxPrivateHistory) log s)
    {username password : Option Text} {connection : String} {v : User}
    (ok : s.login now username password connection = .ok (v, s')) : ∃ u, Accredited log username password u := by
  have linked := (run.linked (consistent_empty hasher maxHistory maxPrivateHistory).toLinked).1
  obtain ⟨w, known, verified, -⟩ := login_ok ok
  obtain ⟨name, id, rfl, listed, found⟩ := user?_eq_some_iff.1 known
  obtain ⟨w', found', rfl⟩ := (linked.byUsername name id).1 listed
  rw [found, Option.some.injEq] at found'
  subst found'
  obtain ⟨e, member, username, email, password', u, created, registered⟩ := run.created found
  obtain ⟨named, -, made⟩ := run.of_creates member created
  obtain ⟨-, name, -, secret, -⟩ := User.eq_of_registered registered
  refine ⟨u, e, member, username, email, password', created, by rw [← name, named], ?_⟩
  rw [← secret, run.hasher_eq] at verified
  exact (exact.verify_iff made _).1 verified

theorem login_refused {username password : Option Text} {connection : String}
    (refused : ¬ ∃ u s', s.login now username password connection = .ok (u, s')) :
    s.login now username password connection = .error .badCredentials := by
  cases result : s.login now username password connection with
  | ok value => exact absurd ⟨value.1, value.2, result⟩ refused
  | error refusal =>
    unfold login at result
    split at result
    · exact result.symm
    · split at result
      · exact result.symm
      · cases result

/-- After every run from an empty store whose hasher keeps its promise: a login succeeds exactly when the log
has a successful registration of the username with a password of the same digest. It gives the account of that
registration, and is refused for bad credentials otherwise. In every later store of the run the account has the
same identity, username, email, password and time of creation. -/
theorem login_accepts_registered (exact : hasher.Exact)
    (run : Run (.empty hasher maxHistory maxPrivateHistory) log s) :
    (∀ now username password connection,
      (∃ u s', s.login now username password connection = .ok (u, s')) ↔ ∃ u, Accredited log username password u) ∧
    (∀ now username password connection u s', s.login now username password connection = .ok (u, s') →
      ∀ v, Accredited log username password v →
        u.id = v.id ∧ u.username = v.username ∧ u.email = v.email ∧ u.createdAt = v.createdAt) ∧
    (∀ now username password connection, (¬ ∃ u, Accredited log username password u) →
      ∃ refusal, s.login now username password connection = .error refusal ∧ refusal.kind = .auth) ∧
    ∀ later s', log <+: later → Run (.empty hasher maxHistory maxPrivateHistory) later s' →
      ∀ id u, s.users.find? id = some u → ∃ u', s'.users.find? id = some u' ∧
        u'.id = u.id ∧ u'.username = u.username ∧ u'.email = u.email ∧ u'.password = u.password ∧
          u'.createdAt = u.createdAt := by
  have accepted (now : Instant) (username password : Option Text) (connection : String) :
      (∃ u s', s.login now username password connection = .ok (u, s')) ↔
        ∃ u, Accredited log username password u := by
    constructor
    · rintro ⟨u, s', ok⟩
      exact run.accredited_of_login exact ok
    · rintro ⟨u, accredited⟩
      obtain ⟨v, s', ok, -⟩ := run.login_of_accredited exact accredited now connection
      exact ⟨v, s', ok⟩
  refine ⟨accepted, ?_, ?_, ?_⟩
  · intro now username password connection u s' ok v accredited
    obtain ⟨u', s'', ok', registered⟩ := run.login_of_accredited exact accredited now connection
    rw [ok] at ok'
    cases ok'
    obtain ⟨id, name, email, -, created⟩ := User.eq_of_registered registered
    exact ⟨id, name, email, created⟩
  · intro now username password connection unknown
    exact ⟨.badCredentials, login_refused (mt (accepted now username password connection).1 unknown), rfl⟩
  · intro later s' longer run' id u found
    obtain ⟨e, member, username, email, password, v, created, same⟩ := run.created found
    obtain ⟨u', found', same'⟩ := run'.keeps (longer.subset member) created
    have linked := (run.linked (consistent_empty hasher maxHistory maxPrivateHistory).toLinked).1
    have own : v.id = id := by rw [(User.eq_of_registered same).1, linked.keyed found]
    exact ⟨u', own ▸ found', User.eq_of_registered (same'.trans same)⟩

private def annOfSpaces : User :=
  ⟨Id.ofNumber 1, "ann", "a@x", Hasher.plain.hash 0 (Password.digest "secret"), false, none, ⟨1⟩, ⟨1⟩⟩

theorem login_accepts_registered_of_spaces : ∃ log s, Run (.empty .plain 5 5) log s ∧ log.length = 2 ∧
    ∃ u s', s.login ⟨9⟩ (some "ann") (some "secret") "c" = .ok (u, s') ∧ u.email = "a@x" ∧ u.createdAt = ⟨1⟩ := by
  have run : Run (.empty .plain 5 5) [] (.empty .plain 5 5) := .nothing
  have run := run.extend ⟨1⟩ (.register (some " ann") (some "a@x ") (some "secret")) trivial
  have run := run.extend ⟨2⟩ (.login (some "ann") (some "secret") "d") trivial
  obtain ⟨log, s, run, two, e, member, created⟩ : ∃ log s, Run (.empty .plain 5 5) log s ∧ log.length = 2 ∧
      ∃ e ∈ log, e.Creates (some " ann") (some "a@x ") (some "secret") annOfSpaces :=
    ⟨_, _, run, rfl, _, List.mem_cons_self .., rfl, by decide +kernel⟩
  have accredited : Accredited log (some "ann") (some "secret") annOfSpaces :=
    ⟨e, member, _, _, _, created, by decide +kernel, _, rfl, rfl⟩
  obtain ⟨accepted, same, -⟩ := login_accepts_registered Hasher.plain_exact run
  obtain ⟨u, s', ok⟩ := (accepted ⟨9⟩ (some "ann") (some "secret") "c").2 ⟨_, accredited⟩
  obtain ⟨-, -, email, at_⟩ := same _ _ _ _ _ _ ok _ accredited
  exact ⟨log, s, run, two, u, s', ok, email, at_⟩

/-! ## Registering -/

theorem registrationFault?_eq_none_iff {username email password : Option Text} :
    registrationFault? (strip (username.getD "")) (strip (email.getD "")) (password.getD "") = none ↔
      Acceptable username email password := by
  unfold registrationFault? Acceptable
  simp only [minUsernameLength, minPasswordLength, List.contains_eq_mem]
  grind

/-- Data that is not acceptable is invalid. -/
theorem kind_of_registrationFault? {username email password : Text} {refusal : Refusal}
    (fault : registrationFault? username email password = some refusal) : refusal.kind = .validation := by
  unfold registrationFault? at fault
  split at fault
  · cases fault; rfl
  · split at fault
    · cases fault; rfl
    · split at fault
      · cases fault; rfl
      · cases fault

/-- What a registration answers, by its arguments and the two indexes. -/
theorem register_answers (s : Store) (now : Instant) (username email password : Option Text) :
    (¬ Acceptable username email password →
      ∃ refusal, s.register now username email password = .error (.refused refusal) ∧ refusal.kind = .validation) ∧
    (Acceptable username email password → ∀ fault, Password.digest? (password.getD "") = .error fault →
      s.register now username email password = .error (.unencodable fault)) ∧
    (Acceptable username email password → Encodable password →
      (s.byUsername.find? (strip (username.getD "")) ≠ none ∨
        s.byEmail.find? (lowered (strip (email.getD ""))) ≠ none) →
      ∃ refusal, s.register now username email password = .error (.refused refusal) ∧ refusal.kind = .conflict) ∧
    (Acceptable username email password → Encodable password →
      s.byUsername.find? (strip (username.getD "")) = none →
      s.byEmail.find? (lowered (strip (email.getD ""))) = none →
      ∃ u s', s.register now username email password = .ok (u, s')) := by
  refine ⟨fun invalid => ?_, fun valid fault unencodable => ?_, ?_, ?_⟩
  · obtain ⟨refusal, fault⟩ := Option.ne_none_iff_exists'.1 (mt registrationFault?_eq_none_iff.1 invalid)
    exact ⟨refusal, by simp only [register, fault], kind_of_registrationFault? fault⟩
  · have fine := registrationFault?_eq_none_iff.2 valid
    simp only [register, fine, unencodable]
  · rintro valid ⟨digest, encoded⟩ known
    have fine := registrationFault?_eq_none_iff.2 valid
    rw [← Option.isSome_iff_ne_none, ← Option.isSome_iff_ne_none] at known
    simp only [register, fine, encoded]
    by_cases taken : s.byUsername.contains (strip (username.getD "")) = true
    · exact ⟨_, if_pos taken, rfl⟩
    · rw [if_neg taken]
      exact ⟨_, if_pos (known.resolve_left taken), rfl⟩
  · rintro valid ⟨digest, encoded⟩ newName newEmail
    have fine := registrationFault?_eq_none_iff.2 valid
    simp only [register, fine, encoded, Table.contains, newName, newEmail]
    exact ⟨_, _, rfl⟩

/-- Exactly a password without bytes makes an acceptable registration fail in an error that is no refusal. -/
theorem register_unencodable_iff {username email password : Option Text}
    {fault : EncodeFault} : s.register now username email password = .error (.unencodable fault) ↔
      Acceptable username email password ∧ Password.digest? (password.getD "") = .error fault := by
  obtain ⟨invalid, raised, conflict, accepted⟩ := register_answers s now username email password
  constructor
  · intro result
    have unrefused (refusal : Refusal) : s.register now username email password ≠ .error (.refused refusal) := by
      rw [result]
      nofun
    have fit : Acceptable username email password := Classical.byContradiction fun unfit => by
      obtain ⟨refusal, refused, -⟩ := invalid unfit
      exact unrefused refusal refused
    refine ⟨fit, ?_⟩
    cases digested : Password.digest? (password.getD "") with
    | error fault' =>
      have same := raised fit fault' digested
      rw [result] at same
      cases same
      rfl
    | ok digest =>
      by_cases known : s.byUsername.find? (strip (username.getD "")) ≠ none ∨
          s.byEmail.find? (lowered (strip (email.getD ""))) ≠ none
      · obtain ⟨refusal, refused, -⟩ := conflict fit ⟨digest, digested⟩ known
        exact absurd refused (unrefused refusal)
      · simp only [not_or, ne_eq, Classical.not_not] at known
        obtain ⟨u, s', ok⟩ := accepted fit ⟨digest, digested⟩ known.1 known.2
        rw [result] at ok
        cases ok
  · rintro ⟨fit, unencodable⟩
    exact raised fit fault unencodable

/-- The indexes know what was registered. -/
theorem Run.taken_iff (run : Run (.empty hasher maxHistory maxPrivateHistory) log s) {username email : Option Text} :
    Taken log username email ↔
      s.byUsername.find? (strip (username.getD "")) ≠ none ∨
        s.byEmail.find? (lowered (strip (email.getD ""))) ≠ none := by
  have linked := (run.linked (consistent_empty hasher maxHistory maxPrivateHistory).toLinked).1
  rw [run.indexed (fun u v same => (User.eq_of_registered same).2.1) linked.byUsername,
    run.indexed (fun u v same => by rw [emailKey, (User.eq_of_registered same).2.2.1, emailKey]) linked.byEmail]
  constructor
  · rintro ⟨e, member, username', email', password', u, created, same⟩
    obtain ⟨named, mailed, -⟩ := run.of_creates member created
    rcases same with name | email
    · exact .inl ⟨e, member, username', email', password', u, created, named.trans name⟩
    · exact .inr ⟨e, member, username', email', password', u, created, by rw [emailKey, mailed, email]⟩
  · rintro (⟨e, member, username', email', password', u, created, name⟩ |
      ⟨e, member, username', email', password', u, created, email⟩)
    · obtain ⟨named, -⟩ := run.of_creates member created
      exact ⟨e, member, username', email', password', u, created, .inl (named ▸ name)⟩
    · obtain ⟨-, mailed, -⟩ := run.of_creates member created
      exact ⟨e, member, username', email', password', u, created, .inr (by rw [← mailed]; exact email)⟩

/-- The outcome of each registration of a run. -/
theorem Run.registration (run : Run (.empty hasher maxHistory maxPrivateHistory) log s) {before after : List Event}
    {e : Event} (split : log = before ++ e :: after) {username email password : Option Text}
    (asked : e.operation = .register username email password) :
    ((∃ u, e.answer = .user u) ↔
      Acceptable username email password ∧ Encodable password ∧ ¬ Taken before username email) ∧
    (¬ Acceptable username email password → ∃ refusal, e.answer = .refused refusal ∧ refusal.kind = .validation) ∧
    (Acceptable username email password → Encodable password → Taken before username email →
      ∃ refusal, e.answer = .refused refusal ∧ refusal.kind = .conflict) ∧
    (Acceptable username email password → ∀ fault, Password.digest? (password.getD "") = .error fault →
      e.answer = .unencodable fault) := by
  obtain ⟨between, earlier, answered⟩ := (split ▸ run).answer
  rw [asked] at answered
  obtain ⟨invalid, raised, conflict, accepted⟩ := register_answers between e.time username email password
  rw [← earlier.taken_iff] at conflict
  have refuse {kind : FailureKind} (refused : ∃ refusal,
      between.register e.time username email password = .error (.refused refusal) ∧ refusal.kind = kind) :
      ∃ refusal, e.answer = .refused refusal ∧ refusal.kind = kind := by
    obtain ⟨refusal, result, sort⟩ := refused
    exact ⟨refusal, by rw [← answered, perform, result]; rfl, sort⟩
  have fail (fit : Acceptable username email password) (fault : EncodeFault)
      (unencodable : Password.digest? (password.getD "") = .error fault) : e.answer = .unencodable fault := by
    rw [← answered, perform, raised fit fault unencodable]
    rfl
  have made {kind : FailureKind} (ok : ∃ u, e.answer = .user u)
      (refused : ∃ refusal, e.answer = .refused refusal ∧ refusal.kind = kind) : False := by
    obtain ⟨u, ok⟩ := ok
    obtain ⟨refusal, refused, -⟩ := refused
    rw [ok] at refused
    cases refused
  refine ⟨⟨fun ok => ?_, ?_⟩, fun unfit => refuse (invalid unfit),
    fun fit encodable taken => refuse (conflict fit encodable taken), fail⟩
  · by_cases fit : Acceptable username email password
    · have encodable : Encodable password := by
        cases digested : Password.digest? (password.getD "") with
        | ok digest => exact ⟨digest, digested⟩
        | error fault =>
          obtain ⟨u, ok⟩ := ok
          rw [fail fit fault digested] at ok
          cases ok
      exact ⟨fit, encodable, fun taken => made ok (refuse (conflict fit encodable taken))⟩
    · exact (made ok (refuse (invalid fit))).elim
  · rintro ⟨fit, encodable, new⟩
    rw [earlier.taken_iff, not_or, ne_eq, Classical.not_not, ne_eq, Classical.not_not] at new
    obtain ⟨u, s', ok⟩ := accepted fit encodable new.1 new.2
    exact ⟨u, by rw [← answered, perform, ok]; rfl⟩

/-- What is true of each event and the ones before it is true of any two events of a log. -/
private theorem pairwise_of_split {R : Event → Event → Prop}
    (earlier : ∀ before e after, log = before ++ e :: after → ∀ e' ∈ before, R e' e) : log.Pairwise R := by
  rw [List.pairwise_iff_getElem]
  intro i j hi hj less
  refine earlier (log.take j) log[j] (log.drop (j + 1)) ?_ log[i] (List.mem_take_iff_getElem.2 ⟨i, by omega, rfl⟩)
  rw [← List.drop_eq_getElem_cons hj, List.take_append_drop]

/-- In every run from an empty store, the outcome of a registration depends on its arguments and on the
registrations before it alone. Arguments that are not acceptable are invalid. Otherwise, a password with bytes
makes it succeed exactly when no earlier successful registration took the username or the email, which is a
conflict; and a password without bytes makes it fail in an error that is no refusal, whoever registered before. So
no two successful registrations of a run have the same username, or the same email without regard to case. -/
theorem registrations_follow_log (run : Run (.empty hasher maxHistory maxPrivateHistory) log s) :
    (∀ before e after username email password, log = before ++ e :: after →
      e.operation = .register username email password →
        ((∃ u, e.answer = .user u) ↔
          Acceptable username email password ∧ Encodable password ∧ ¬ Taken before username email) ∧
        (¬ Acceptable username email password →
          ∃ refusal, e.answer = .refused refusal ∧ refusal.kind = .validation) ∧
        (Acceptable username email password → Encodable password → Taken before username email →
          ∃ refusal, e.answer = .refused refusal ∧ refusal.kind = .conflict) ∧
        (Acceptable username email password → ∀ fault, Password.digest? (password.getD "") = .error fault →
          e.answer = .unencodable fault)) ∧
    log.Pairwise fun e e' => ∀ username email password u username' email' password' u',
      e.Creates username email password u → e'.Creates username' email' password' u' →
        strip (username.getD "") ≠ strip (username'.getD "") ∧
          lowered (strip (email.getD "")) ≠ lowered (strip (email'.getD "")) := by
  refine ⟨fun before e after username email password split asked => run.registration split asked, ?_⟩
  apply pairwise_of_split
  intro before e' after split e member username email password u username' email' password' u' created created'
  obtain ⟨outcome, -⟩ := run.registration split created'.1
  obtain ⟨-, -, new⟩ := outcome.1 ⟨u', created'.2⟩
  constructor
  · intro same
    exact new ⟨e, member, username, email, password, u, created, .inl same⟩
  · intro same
    exact new ⟨e, member, username, email, password, u, created, .inr same⟩

theorem registrations_follow_log_of_taken_email : ∃ log s, Run (.empty .plain 5 5) log s ∧
    ∃ e ∈ log, e.operation = .register (some "bob") (some " A@X") (some "secret") ∧
      ∃ refusal, e.answer = .refused refusal ∧ refusal.kind = .conflict := by
  have run : Run (.empty .plain 5 5) [] (.empty .plain 5 5) := .nothing
  have run := run.extend ⟨1⟩ (.register (some "ann") (some "a@x") (some "secret")) trivial
  have run := run.extend ⟨2⟩ (.register (some "bob") (some " A@X") (some "secret")) trivial
  have acceptable : Acceptable (some "bob") (some " A@X") (some "secret") := by
    unfold Acceptable
    decide +kernel
  obtain ⟨outcomes, -⟩ := registrations_follow_log run
  obtain ⟨-, -, conflict, -⟩ := outcomes _ _ [] (some "bob") (some " A@X") (some "secret") rfl rfl
  refine ⟨_, _, run, _, List.mem_cons_of_mem _ (List.mem_cons_self ..), rfl,
    conflict acceptable ⟨_, Password.digest?_ofString "secret"⟩ ?_⟩
  exact ⟨_, List.mem_cons_self .., some "ann", some "a@x", some "secret",
    ⟨Id.ofNumber 1, "ann", "a@x", Hasher.plain.hash 0 (Password.digest "secret"), false, none, ⟨1⟩, ⟨1⟩⟩,
    ⟨rfl, by decide +kernel⟩, .inr (by decide +kernel)⟩

/-- A half of a UTF-16 pair in an acceptable password: nobody registered before, and yet the registration
neither succeeds nor is refused. -/
theorem half_password_raised : ∃ password, Acceptable (some "ann") (some "a@x") password ∧
    ¬ Taken [] (some "ann") (some "a@x") ∧
    let answer := ((empty .plain 5 5).perform ⟨1⟩ (.register (some "ann") (some "a@x") password)).1
    (∀ u, answer ≠ .user u) ∧ ∀ refusal, answer ≠ .refused refusal := by
  refine ⟨some (.half 0 :: Text.ofString "aaaaaa"), ?_, ?_, ?_⟩
  · unfold Acceptable
    decide +kernel
  · rintro ⟨e, member, -⟩
    cases member
  · have raised : ((empty .plain 5 5).perform ⟨1⟩
        (.register (some "ann") (some "a@x") (some (.half 0 :: Text.ofString "aaaaaa")))).1 =
          .unencodable ⟨0, .half 0, 0⟩ := by decide +kernel
    simp only [raised]
    exact ⟨fun u => Answer.noConfusion, fun refusal => Answer.noConfusion⟩

end

end Store

end ChatService
