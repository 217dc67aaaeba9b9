import ChatService.Proofs.Hub.Conduct

/-!
# Commands in a step of the hub

A command is the only thing that changes the state of the commands and that asks foreign
services. It ends in one reply to its caller, whether it succeeds or fails.
-/

namespace ChatService

/-! ## What is asked -/

namespace Effect

/-- The addresses that are asked, in order. -/
def asked (effects : List Effect) : List String :=
  effects.filterMap fun
    | .fetched address => some address
    | _ => none

@[simp] theorem asked_nil : asked [] = [] := rfl

@[simp] theorem asked_append (l l' : List Effect) : asked (l ++ l') = asked l ++ asked l' := List.filterMap_append

@[simp] theorem asked_fetched (address : String) (l : List Effect) :
    asked (fetched address :: l) = address :: asked l := rfl

@[simp] theorem asked_map_fetched (addresses : List String) : asked (addresses.map fetched) = addresses := by
  induction addresses with
  | nil => rfl
  | cons address rest ih => rw [List.map_cons, asked_fetched, ih]

@[simp] theorem asked_log (line : LogLine) (l : List Effect) : asked (log line :: l) = asked l := rfl

@[simp] theorem asked_caller (connection : String) (r : Reply) (l : List Effect) :
    asked (caller connection r :: l) = asked l := rfl

@[simp] theorem asked_all (r : Reply) (l : List Effect) : asked (all r :: l) = asked l := rfl

end Effect

open Effect (asked sent)

/-! ## How a command ends -/

namespace BuiltIn

/-- A text that calls a command: it begins with the marker, and its first word is one of those that the command
has, in any case. -/
structure Calls (command : BuiltIn) (text : Text) : Prop where
  isCommand : dispatcher.isCommand text = true
  word : ∃ first arguments, Text.words text = first :: arguments ∧
    ∃ entry ∈ all, entry.1 = command ∧ ∃ word ∈ entry.2, Text.lowered first = Dispatcher.defaultMarker ++ word

theorem Calls.select {command : BuiltIn} {text : Text} (calls : Calls command text) :
    ∃ token arguments, dispatcher.select text = .handler token command arguments := by
  obtain ⟨first, arguments, words, entry, listed, rfl, word, mine, named⟩ := calls.word
  have registered : ∀ entry ∈ all, ∀ word ∈ entry.2,
      dispatcher.handlers.find? (Dispatcher.defaultMarker ++ word) = some entry.1 := by decide +kernel
  have found := registered entry listed word mine
  exact ⟨Text.lowered first, arguments, by simp only [Dispatcher.select, words, named, found]⟩

/-- The reply that a command ends in. -/
def Ending.reply (ending : Ending) : Text :=
  match ending.1 with
  | .ok reply => reply
  | .error message => "❌ Error: " ++ message

/-- A command that is found runs, and its reply is given; it asks for what the command asks for. -/
theorem dispatch_of_select {text token : Text} {command : BuiltIn} {arguments : List Text}
    (selected : dispatcher.select text = .handler token command arguments) (store : Store) (caller : Caller)
    (who : Text) (s : State) :
    let ending := run store caller command arguments s
    ∃ effects, dispatcher.dispatch Effect.log (run store caller) who text s = (Ending.reply ending, ending.2.1, effects) ∧
      asked effects = asked ending.2.2 := by
  intro ending
  rcases performed : run store caller command arguments s with ⟨reply, s', effects⟩
  rw [show ending = (reply, s', effects) from performed]
  simp only [Dispatcher.dispatch, selected, performed]
  cases reply with
  | ok reply => exact ⟨_, rfl, Effect.asked_log ..⟩
  | error message => exact ⟨_, rfl, by simp⟩

/-- The weather command asks what a look-up for the named city asks, and leaves the kept rates alone. -/
theorem runWeather_asks (arguments : List Text) (s : State) :
    (runWeather arguments s).2.1.cache = s.cache ∧
      asked (runWeather arguments s).2.2 = (Weather.fetch (namedCity arguments) s.surroundings.answers).asked := by
  simp only [runWeather]
  split
  · exact ⟨rfl, Effect.asked_map_fetched _⟩
  · split
    · exact ⟨rfl, by simp⟩
    · exact ⟨rfl, Effect.asked_map_fetched _⟩

end BuiltIn

/-! ## Steps of the hub -/

namespace Hub

@[simp] theorem asked_chatLog_append (l : ChatLog) (now : Instant) (record : Instant → Text) :
    asked (l.append now record).2 = [] := by
  unfold ChatLog.append
  split
  · rfl
  · split <;> rfl

@[simp] theorem asked_deliver (store : Store) (connection : String) (recipient : Text) (d : Delivery) :
    asked (deliver store connection recipient d) = [] := by
  unfold deliver
  split
  · rfl
  · split
    · split <;> rfl
    · rfl

/-- The step is a text that calls a command, with these arguments. -/
def Step.Runs (step : Step) (command : BuiltIn) (arguments : List Text) : Prop :=
  ∃ text token, step.operation = .message text ∧ BuiltIn.dispatcher.isCommand (text.getD "") = true ∧
    BuiltIn.dispatcher.select (text.getD "") = .handler token command arguments

/-- A step that is no command keeps the state of the commands and asks for nothing; a command runs at the time of
the step. -/
theorem perform_commands (hub : Hub) (step : Step) {P : BuiltIn.State → List String → Prop}
    (unchanged : P hub.commands [])
    (ran : ∀ user command arguments, step.Runs command arguments →
      P (BuiltIn.run hub.store ⟨user, step.time⟩ command arguments hub.commands).2.1
        (asked (BuiltIn.run hub.store ⟨user, step.time⟩ command arguments hub.commands).2.2)) :
    P (hub.perform step).hub.commands (asked (hub.perform step).effects) := by
  obtain ⟨now, connection, operation⟩ := step
  cases operation with
  | connect | heartbeat | getHistory => exact unchanged
  | disconnect =>
    simp only [perform, Done.of, Hub.disconnect]
    split <;> exact unchanged
  | logout =>
    simp only [perform, Done.of, Hub.logout]
    split <;> exact unchanged
  | register username email password =>
    simp only [perform, Done.of, Hub.register]
    split <;> exact unchanged
  | login username password =>
    simp only [perform, Done.of, Hub.login]
    split <;> exact unchanged
  | sendPrivate recipient text =>
    simp only [perform, Done.of, Hub.sendPrivate]
    split
    · exact unchanged
    · split
      · exact unchanged
      · simpa using unchanged
  | getPrivateHistory username =>
    simp only [perform, Done.of, Hub.getPrivateHistory]
    split
    · exact unchanged
    · split <;> exact unchanged
  | addContact username =>
    simp only [perform, Done.of, Hub.addContact]
    split
    · exact unchanged
    · split
      · exact unchanged
      · next added _ _ => cases added <;> exact unchanged
  | getContacts =>
    simp only [perform, Done.of, Hub.getContacts]
    split <;> exact unchanged
  | message text =>
    simp only [perform, Done.of, Hub.message]
    split
    · next called =>
      simp only [command]
      cases selected : BuiltIn.dispatcher.select (text.getD "") with
      | nothing => simpa [Dispatcher.dispatch, selected] using unchanged
      | unknown token => simpa [Dispatcher.dispatch, selected] using unchanged
      | handler token handler arguments =>
        obtain ⟨effects, performed, same⟩ := BuiltIn.dispatch_of_select selected hub.store
          ⟨hub.store.session? connection, now⟩ (((hub.store.session? connection).map (·.username)).getD
            Dispatcher.anonymous) hub.commands
        simpa [performed, same] using
          ran (hub.store.session? connection) handler arguments ⟨text, token, rfl, called, selected⟩
    · split
      · exact unchanged
      · split
        · exact unchanged
        · simpa using unchanged

/-- A text that is a command is answered to its caller and to nobody else. A command that is found runs for the
account that is logged in there, and the reply is how it ends. -/
theorem perform_command {text : Text} (isCommand : BuiltIn.dispatcher.isCommand text = true) (hub : Hub)
    (now : Instant) (connection : String) :
    let effects := (hub.perform ⟨now, connection, .message (some text)⟩).effects
    ∃ reply, sent effects = [.caller connection (.system reply now)] ∧
      ∀ token command arguments, BuiltIn.dispatcher.select text = .handler token command arguments →
        let ending := BuiltIn.run hub.store ⟨hub.store.session? connection, now⟩ command arguments hub.commands
        reply = BuiltIn.Ending.reply ending ∧ asked effects = asked ending.2.2 := by
  have quiet := BuiltIn.sent_dispatch hub.store ⟨hub.store.session? connection, now⟩
    (((hub.store.session? connection).map (·.username)).getD Dispatcher.anonymous) text hub.commands
  simp only [perform, Done.of, message, Option.getD_some, isCommand, if_true, Hub.command]
  refine ⟨_, by rw [Effect.sent_append, quiet]; rfl, fun token handler arguments selected => ?_⟩
  obtain ⟨effects, performed, same⟩ := BuiltIn.dispatch_of_select selected hub.store
    ⟨hub.store.session? connection, now⟩ (((hub.store.session? connection).map (·.username)).getD
      Dispatcher.anonymous) hub.commands
  rw [performed]
  exact ⟨rfl, by rw [Effect.asked_append, same, Effect.asked_caller, Effect.asked_nil, List.append_nil]⟩

end Hub

end ChatService
