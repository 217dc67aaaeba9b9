import ChatService.Store.Basic

/-!
# Runs of the store

A run is a finite sequence of operations on one store, each at its own time. Its log
keeps what was asked and what was answered, refusals included. Who sends a message or
adds a contact is an account that the store handed out earlier in the same run.
-/

namespace ChatService

namespace Store

/-- What can be asked of the store. -/
inductive Operation
  | register (username email password : Option Text)
  | login (username password : Option Text) (connection : String)
  | logout (connection : String)
  | disconnect (connection : String)
  | session (connection : String)
  | user (username : Option Text)
  | online
  | post (username text : Text)
  | history
  | sendPrivate (sender : User) (recipient text : Option Text)
  | privateHistory (a b : Id)
  | addContact (owner : User) (target : Option Text)
  | contacts (owner : Id)
deriving DecidableEq

/-- What the store answers. -/
inductive Answer
  | refused (refusal : Refusal)
  /-- The password of a registration has no bytes. -/
  | unencodable (fault : EncodeFault)
  | user (user : User)
  /-- There is no such account, or no session. -/
  | nobody
  | names (usernames : List Text)
  | message (m : Message)
  | messages (l : List Message)
  | privateMessage (m : PrivateMessage)
  | privateMessages (l : List PrivateMessage)
  | added (new : Bool)
  | contacts (l : List ContactStatus)
deriving DecidableEq

/-- The answer to a look-up of an account. -/
def Answer.ofUser? : Option User → Answer
  | some u => .user u
  | none => .nobody

/-- The answer to a registration that makes no account. -/
def Answer.ofRegisterFault : RegisterFault → Answer
  | .refused refusal => .refused refusal
  | .unencodable fault => .unencodable fault

@[simp] theorem Answer.ofRegisterFault_ne_user (fault : RegisterFault) (u : User) : ofRegisterFault fault ≠ .user u := by
  cases fault <;> simp [ofRegisterFault]

/-- The answer to an operation that can fail, and the store after it. A failure leaves the store. -/
def settle {ε α : Type} (s : Store) (failure : ε → Answer) (answer : α → Answer) : Except ε (α × Store) → Answer × Store
  | .error fault => (failure fault, s)
  | .ok (value, s') => (answer value, s')

/-- Carries out an operation. -/
def perform (s : Store) (now : Instant) : Operation → Answer × Store
  | .register username email password => s.settle .ofRegisterFault .user (s.register now username email password)
  | .login username password connection => s.settle .refused .user (s.login now username password connection)
  | .logout connection => ((Answer.ofUser? (s.logout now connection).1), (s.logout now connection).2)
  | .disconnect connection =>
    ((Answer.ofUser? (s.disconnect now connection).1), (s.disconnect now connection).2)
  | .session connection => (.ofUser? (s.session? connection), s)
  | .user username => (.ofUser? (s.user? username), s)
  | .online => (.names s.online, s)
  | .post username text => (.message (s.post now username text).1, (s.post now username text).2)
  | .history => (.messages s.history, s)
  | .sendPrivate sender recipient text =>
    s.settle .refused .privateMessage (s.sendPrivate now sender.id recipient text)
  | .privateHistory a b => (.privateMessages (s.privateHistory a b), s)
  | .addContact owner target => s.settle .refused .added (s.addContact now owner.id target)
  | .contacts owner => (.contacts (s.contactsOf owner), s)

/-- One step of a run: when it was, what was asked, and what was answered. -/
structure Event where
  time : Instant
  operation : Operation
  answer : Answer
deriving DecidableEq

/-- Whether the store handed out an account. -/
def HandedOut (log : List Event) (u : User) : Prop := ∃ e ∈ log, e.answer = .user u

instance (log : List Event) (u : User) : Decidable (HandedOut log u) :=
  inferInstanceAs (Decidable (∃ e ∈ log, e.answer = .user u))

/-- What callers promise: who acts is an account that the store handed out. -/
def Permitted (log : List Event) : Operation → Prop
  | .sendPrivate account _ _ | .addContact account _ => HandedOut log account
  | _ => True

instance (log : List Event) : (operation : Operation) → Decidable (Permitted log operation)
  | .sendPrivate account _ _ | .addContact account _ => inferInstanceAs (Decidable (HandedOut log account))
  | .register _ _ _ | .login _ _ _ | .logout _ | .disconnect _ | .session _ | .user _ | .online | .post _ _
  | .history | .privateHistory _ _ | .contacts _ => inferInstanceAs (Decidable True)

/-- The connection that an operation is about. -/
def Operation.connection? : Operation → Option String
  | .login _ _ connection | .logout connection | .disconnect connection | .session connection => some connection
  | _ => none

/-- No connection of a log has the empty name. -/
def Named (log : List Event) : Prop := ∀ e ∈ log, e.operation.connection? ≠ some ""

instance (log : List Event) : Decidable (Named log) :=
  inferInstanceAs (Decidable (∀ e ∈ log, e.operation.connection? ≠ some ""))

/-- A run from one store to another with its log, oldest event first. -/
inductive Run (start : Store) : List Event → Store → Prop
  | nothing : Run start [] start
  | step {log : List Event} {s s' : Store} {now : Instant} {operation : Operation} {answer : Answer}
      (earlier : Run start log s) (permitted : Permitted log operation)
      (performed : s.perform now operation = (answer, s')) :
      Run start (log ++ [⟨now, operation, answer⟩]) s'

/-- A run goes on with any permitted operation. -/
theorem Run.extend {start s : Store} {log : List Event} (run : Run start log s) (now : Instant)
    (operation : Operation) (permitted : Permitted log operation) :
    Run start (log ++ [⟨now, operation, (s.perform now operation).1⟩]) (s.perform now operation).2 :=
  .step run permitted rfl

/-- What no step breaks holds after every run. -/
theorem Run.induct {start : Store} {motive : List Event → Store → Prop} (initial : motive [] start)
    (preserved : ∀ (log : List Event) (s : Store) (now : Instant) (operation : Operation),
      motive log s → Permitted log operation →
      motive (log ++ [⟨now, operation, (s.perform now operation).1⟩]) (s.perform now operation).2)
    {log : List Event} {s : Store} (run : Run start log s) : motive log s := by
  induction run with
  | nothing => exact initial
  | @step log s s' now operation answer _ permitted performed ih =>
    have kept := preserved log s now operation ih permitted
    rwa [performed] at kept

/-- The last step of a run. -/
theorem Run.last {start s : Store} {log : List Event} {e : Event} (run : Run start (log ++ [e]) s) :
    ∃ before, Run start log before ∧ Permitted log e.operation ∧
      before.perform e.time e.operation = (e.answer, s) := by
  generalize whole : log ++ [e] = all at run
  cases run with
  | nothing => simp at whole
  | @step log' before s now operation answer earlier permitted performed =>
    obtain ⟨rfl, same⟩ := List.append_inj' whole rfl
    cases same
    exact ⟨before, earlier, permitted, performed⟩

/-- A run passes through a store for each beginning of its log. -/
theorem Run.through {start s : Store} {log before : List Event} (run : Run start log s) (begun : before <+: log) :
    ∃ between, Run start before between := by
  induction run with
  | nothing =>
    rw [List.prefix_nil.1 begun]
    exact ⟨start, .nothing⟩
  | step earlier permitted performed ih =>
    rcases List.prefix_concat_iff.1 begun with rfl | shorter
    · exact ⟨_, earlier.step permitted performed⟩
    · exact ih shorter

end Store

end ChatService
