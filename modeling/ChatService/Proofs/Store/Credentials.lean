import ChatService.Proofs.Store.Accounts

/-!
# The credentials of a registration

A registration strips the username; a login looks it up as it is given. So the username as it was
registered logs in forever, and the text that was typed does only if it was stripped already. The password
is taken as it is in both places.
-/

namespace ChatService

namespace Store

open Text (strip Trimmed)

variable {s s' : Store} {now : Instant} {log : List Event}

/-! ## Logging in as somebody -/

/-- A login with these credentials succeeds, and the connection has a session of the account. -/
def LogsInAs (s : Store) (now : Instant) (username password : Text) (connection : String)
    (id : Id) : Prop :=
  ∃ u s', s.login now (some username) (some password) connection = .ok (u, s') ∧ u.id = id ∧ u.isOnline = true ∧
    s'.session? connection = some u

/-- Who logs in has the session of the connection. -/
theorem session?_of_login (linked : Linked s) {username password : Option Text} {connection : String} {u : User}
    (ok : s.login now username password connection = .ok (u, s')) :
    u.isOnline = true ∧ s'.session? connection = some u := by
  obtain ⟨v, -, -, -, rfl, moved, users⟩ := login_users linked ok
  refine ⟨rfl, session?_eq_some_iff.2 ⟨v.id, ?_, ?_⟩⟩
  · rw [moved, sessions_move, if_pos rfl]
  · rw [users, if_pos rfl]

section

variable {hasher : Hasher} {maxHistory : Nat} {maxPrivateHistory : Int}

/-- The account that a log has for some credentials logs in with them on every connection. -/
theorem Run.logsInAs (exact : hasher.Exact) (run : Run (.empty hasher maxHistory maxPrivateHistory) log s)
    {username password : Text} {u : User} (accredited : Accredited log (some username) (some password) u)
    (now : Instant) (connection : String) :
    s.LogsInAs now username password connection u.id := by
  have linked := (run.linked (consistent_empty hasher maxHistory maxPrivateHistory).toLinked).1
  obtain ⟨v, s', ok, registered⟩ := run.login_of_accredited exact accredited now connection
  obtain ⟨same, -⟩ := User.eq_of_registered registered
  exact ⟨v, s', ok, same, session?_of_login linked ok⟩

/-- No account has a name with white space at its ends. -/
theorem Run.refuses_untrimmed (exact : hasher.Exact) (run : Run (.empty hasher maxHistory maxPrivateHistory) log s)
    {username : Text} (untrimmed : ¬ Trimmed username) (now : Instant) (password : Option Text) (connection : String) :
    s.login now (some username) password connection = .error .badCredentials := by
  refine login_refused ?_
  rintro ⟨u, s', ok⟩
  obtain ⟨_, _, _, username', _, _, _, named, -⟩ := run.accredited_of_login exact ok
  rw [Option.some.injEq] at named
  -- Every name in the store was stripped once, and stripping it again would leave it.
  refine untrimmed (Text.strip_eq_self_iff.1 ?_)
  rw [named, Text.strip_strip]

/-- What a registration leads to, if the hasher keeps its promise. After every run with a registration that
succeeded, and on every connection, the stripped username and the password log in as the account that it made.
The username as it was typed does so when no white space stands at its ends; otherwise it is refused for bad
credentials, whoever else has registered. -/
theorem registered_credentials_log_in (exact : hasher.Exact)
    (run : Run (.empty hasher maxHistory maxPrivateHistory) log s) {e : Event} (member : e ∈ log)
    {username email password : Text} {u : User}
    (created : e.Creates (some username) (some email) (some password) u) (now : Instant) (connection : String) :
    s.LogsInAs now (strip username) password connection u.id ∧
    (Trimmed username → s.LogsInAs now username password connection u.id) ∧
    (¬ Trimmed username →
      s.login now (some username) (some password) connection = .error .badCredentials) := by
  obtain ⟨-, -, _, digest, digested, -⟩ := run.of_creates member created
  have accredited : Accredited log (some (strip username)) (some password) u :=
    ⟨e, member, _, _, _, created, rfl, digest, digested, digested⟩
  have loggedIn := run.logsInAs exact accredited now connection
  refine ⟨loggedIn, fun trimmed => ?_, fun untrimmed => run.refuses_untrimmed exact untrimmed now _ connection⟩
  rwa [Text.strip_eq_self_iff.2 trimmed] at loggedIn

/-- A username that was typed with a space in front logs in without it, also in place of another account. -/
theorem registered_credentials_log_in_of_space : ∃ log s, Run (.empty .plain 5 5) log s ∧ log.length = 3 ∧
    s.LogsInAs ⟨9⟩ "ann" "secret" "c" (Id.ofNumber 1) ∧ s.LogsInAs ⟨9⟩ "bob" "secret" "c" (Id.ofNumber 2) ∧
    s.login ⟨9⟩ (some " ann") (some "secret") "c" = .error .badCredentials := by
  have run : Run (.empty .plain 5 5) [] (.empty .plain 5 5) := .nothing
  have run := run.extend ⟨1⟩ (.register (some " ann") (some "a@x") (some "secret")) trivial
  have run := run.extend ⟨2⟩ (.register (some "bob") (some "b@x") (some "secret")) trivial
  have run := run.extend ⟨3⟩ (.login (some "bob") (some "secret") "c") trivial
  let secret := Password.digest "secret"
  let ann : User := ⟨Id.ofNumber 1, "ann", "a@x", Hasher.plain.hash 0 secret, false, none, ⟨1⟩, ⟨1⟩⟩
  let bob : User := ⟨Id.ofNumber 2, "bob", "b@x", Hasher.plain.hash 1 secret, false, none, ⟨2⟩, ⟨2⟩⟩
  obtain ⟨stripped, -, typed⟩ := registered_credentials_log_in Hasher.plain_exact run (List.mem_cons_self ..)
    (show Event.Creates _ (some " ann") (some "a@x") (some "secret") ann from ⟨rfl, by decide +kernel⟩) ⟨9⟩ "c"
  obtain ⟨-, same, -⟩ := registered_credentials_log_in Hasher.plain_exact run
    (List.mem_cons_of_mem _ (List.mem_cons_self ..))
    (show Event.Creates _ (some "bob") (some "b@x") (some "secret") bob from ⟨rfl, by decide +kernel⟩) ⟨9⟩ "c"
  rw [show strip (Text.ofString " ann") = "ann" by decide +kernel] at stripped
  exact ⟨_, _, run, rfl, stripped, same (by decide +kernel), typed (by decide +kernel)⟩

/-- The username and the password that were registered a moment ago are refused. -/
theorem padded_name_refused :
    let registered := (Store.empty .plain 5 5).perform ⟨1⟩ (.register (some " ann ") (some "a@x") (some "secret"))
    registered.1 =
        .user ⟨Id.ofNumber 1, "ann", "a@x", Hasher.plain.hash 0 (Password.digest "secret"), false, none, ⟨1⟩, ⟨1⟩⟩ ∧
      (registered.2.perform ⟨2⟩ (.login (some " ann ") (some "secret") "c")).1 = .refused .badCredentials := by
  decide +kernel

end

end Store

end ChatService
