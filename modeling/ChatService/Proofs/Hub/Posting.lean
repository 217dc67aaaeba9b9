import ChatService.Proofs.Hub.Conduct
import ChatService.Proofs.Store.Conversation

/-!
# Posted messages

A message that the hub accepts goes to the end of the broadcast history and, in the same
step, to every connection. No other step changes the history, and nothing else is sent as
a chat message. So the history of a run is what was accepted in it, up to the bound.
-/

namespace ChatService

/-! ## Who leaves the history alone -/

namespace Store

variable {s s' : Store}

theorem OnlySessions.history (only : OnlySessions s s') :
    s'.history = s.history ∧ s'.maxHistory = s.maxHistory := by
  rw [only]
  exact ⟨rfl, rfl⟩

theorem Recorded.history (recorded : s.Recorded s') : s'.history = s.history ∧ s'.maxHistory = s.maxHistory := by
  cases recorded with
  | nothing => exact ⟨rfl, rfl⟩
  | account ok =>
    obtain ⟨-, -, -, -, -, -, -, -, -, -, -, rfl⟩ := register_ok ok
    exact ⟨rfl, rfl⟩
  | privateMessage ok =>
    obtain ⟨-, -, -, -, -, -, -, -, rfl⟩ := sendPrivate_ok ok
    exact ⟨rfl, rfl⟩
  | contact ok =>
    obtain ⟨_, -, -, ⟨-, rfl, -⟩ | ⟨-, -, rfl⟩⟩ := addContact_ok ok
    · exact ⟨rfl, rfl⟩
    · exact ⟨rfl, rfl⟩

end Store

/-! ## Texts that are accepted -/

theorem Store.textFault?_eq_none_iff {text : Text} :
    textFault? text = none ↔ text.any (!Text.isBlank ·) = true ∧ text.length ≤ 1000 := by
  by_cases blank : Text.allBlank text
  · have inkless : ¬ text.any (!Text.isBlank ·) = true := by simpa [Text.allBlank] using blank
    simp [textFault?, blank, inkless]
  · have ink : text.any (!Text.isBlank ·) = true := by simpa [Text.allBlank] using blank
    by_cases large : 1000 < text.length
    · simp [textFault?, blank, maxMessageLength, large]
    · have short : text.length ≤ 1000 := Nat.not_lt.1 large
      simp [textFault?, blank, maxMessageLength, large, ink, short]

/-- A text is a command when it begins with the marker. -/
theorem BuiltIn.isCommand_iff {text : Text} :
    dispatcher.isCommand text = true ↔ Dispatcher.defaultMarker <+: text := by
  have marker : dispatcher.marker = Dispatcher.defaultMarker := rfl
  simp only [Dispatcher.isCommand, marker, Bool.and_eq_true, decide_eq_true_eq, List.isPrefixOf_iff_prefix]
  refine ⟨And.right, fun begins => ⟨?_, begins⟩⟩
  rintro rfl
  simp [Dispatcher.defaultMarker] at begins

/-! ## Who hears of it -/

/-- The message in a chat reply. -/
def Reply.chat? : Reply → Option Message
  | chat m => some m
  | _ => none

theorem Reply.chat?_of_personal {r : Reply} (personal : r.isPersonal = true) : r.chat? = none := by
  cases r with
  | chat m => cases personal
  | _ => rfl

namespace Effect

/-- What an effect carries to a connection. -/
def replyTo? (connection : String) : Effect → Option Reply
  | caller c r | .to c r => if c = connection then some r else none
  | all r => some r
  | log _ | fetched _ | raised _ _ => none

theorem replyTo?_of_silent {connection : String} {e : Effect} (silent : e.reply? = none) :
    e.replyTo? connection = none := by
  cases e with
  | log | fetched | raised => rfl
  | caller | «to» | all => cases silent

/-- The messages that an effect carries to a connection. -/
def chatTo? (connection : String) (e : Effect) : Option Message := (e.replyTo? connection).bind Reply.chat?

theorem chatTo?_of_silent {connection : String} {e : Effect} (silent : e.reply? = none) :
    e.chatTo? connection = none := by
  rw [chatTo?, replyTo?_of_silent silent, Option.bind_none]

/-- A reply to one connection brings it a message only if it holds one. -/
theorem filterMap_chatTo?_caller (connection other : String) {r : Reply} (none : r.chat? = none) (rest : List Effect) :
    (caller other r :: rest).filterMap (chatTo? connection) = rest.filterMap (chatTo? connection) := by
  have unheard : (caller other r).chatTo? connection = Option.none := by
    by_cases here : other = connection
    · simp [chatTo?, replyTo?, here, none]
    · simp [chatTo?, replyTo?, here]
  rw [List.filterMap_cons, unheard]

/-- Whether an effect carries a chat message. -/
def carriesChat (e : Effect) : Bool := (e.reply?.bind Reply.chat?).isSome

end Effect

open Effect (sent)

namespace Hub

variable {hub : Hub}

/-- A step keeps what it posts at the end of the history and sends it to everybody. -/
theorem spreads (linked : hub.store.Linked) (step : Step) (full : hub.store.history.length ≤ hub.store.maxHistory) :
    let done := hub.perform step
    done.hub.store.maxHistory = hub.store.maxHistory ∧
    done.hub.store.history =
      Store.lastItems hub.store.maxHistory (hub.store.history ++ (hub.posted? step).toList) ∧
    ∀ connection, done.effects.filterMap (Effect.chatTo? connection) = (hub.posted? step).toList := by
  intro done
  have conduct := conduct linked step
  unfold Conducted at conduct
  have sends (connection : String) :=
    Effect.filterMap_sent (fun _ => @Effect.chatTo?_of_silent connection _) done.effects
  simp only [← sends, done]
  have same : hub.store.history = Store.lastItems hub.store.maxHistory (hub.store.history ++ []) := by
    rw [List.append_nil, Store.lastItems_of_le full]
  generalize hub.posted? step = posted, (hub.perform step).hub = hub',
    sent (hub.perform step).effects = effects at conduct ⊢
  cases conduct with
  | refused => exact ⟨rfl, same, fun connection => Effect.filterMap_chatTo?_caller connection _ rfl []⟩
  | @answered _ reply _ _ _ recorded personal delivered =>
    obtain ⟨history, bound⟩ := recorded.history
    have quiet := Reply.chat?_of_personal personal
    refine ⟨bound, history.trans same, fun connection => ?_⟩
    rw [Effect.filterMap_chatTo?_caller connection _ quiet]
    rcases delivered with rfl | ⟨other, rfl⟩
    · rfl
    · exact Effect.filterMap_chatTo?_caller connection other quiet []
  | silent => exact ⟨rfl, same, fun connection => rfl⟩
  | posted _ _ kept =>
    obtain ⟨rfl, store⟩ := Prod.mk.inj kept
    rw [← store]
    exact ⟨rfl, rfl, fun connection => rfl⟩
  | loggedIn _ _ ok =>
    obtain ⟨history, bound⟩ := (Store.onlySessions_login ok).history
    exact ⟨bound, history.trans same, fun connection => Effect.filterMap_chatTo?_caller connection _ rfl _⟩
  | left _ _ ended acknowledged =>
    obtain ⟨history, bound⟩ := (Store.onlySessions_disconnect hub.store step.time step.connection).history
    rw [← ended] at history bound
    refine ⟨bound, history.trans same, fun connection => ?_⟩
    rcases acknowledged with rfl | rfl
    · rfl
    · exact Effect.filterMap_chatTo?_caller connection _ rfl _

/-! ## Accepted messages -/

/-- The message of a step that is accepted: its text does not begin with the marker of commands, holds a
character that is not white space, and has at most 1000 characters; and its connection has a session, whose
account is the author. -/
def accepted? (hub : Hub) (step : Step) : Option Message :=
  match step.operation, hub.store.session? step.connection with
  | .message (some text), some u =>
    if ¬ Dispatcher.defaultMarker <+: text ∧ text.any (!Text.isBlank ·) ∧
        text.length ≤ 1000 then
      some ⟨u.username, text, step.time⟩
    else none
  | _, _ => none

/-- The message of a turn that is accepted. -/
def Turn.accepted? (turn : Turn) : Option Message := turn.hub.accepted? turn.step

theorem posted?_eq_accepted? (hub : Hub) (step : Step) : hub.posted? step = hub.accepted? step := by
  obtain ⟨now, connection, operation⟩ := step
  cases operation with
  | message text =>
    simp only [posted?, accepted?, Hub.message]
    cases text with
    | none => cases hub.store.session? connection <;> rfl
    | some text =>
      by_cases called : BuiltIn.dispatcher.isCommand text
      · have begins := BuiltIn.isCommand_iff.1 called
        cases hub.store.session? connection <;> simp [called, begins, command]
      · have plain := mt BuiltIn.isCommand_iff.2 called
        cases hub.store.session? connection with
        | none => simp [called, refuse]
        | some u =>
          cases checked : Store.textFault? text with
          | none =>
            obtain ⟨ink, short⟩ := Store.textFault?_eq_none_iff.1 checked
            simp [called, checked, plain, ink, short, Store.post]
          | some refusal =>
            have faulty : ¬(text.any (!Text.isBlank ·) = true ∧ text.length ≤ 1000) :=
              fun fine => by simp [Store.textFault?_eq_none_iff.2 fine] at checked
            have unaccepted : ¬(¬ Dispatcher.defaultMarker <+: text ∧
                text.any (!Text.isBlank ·) = true ∧ text.length ≤ 1000) := fun all => faulty all.2
            simp only [Option.getD_some, called, checked, if_neg unaccepted]
            rfl
  | _ => rfl

/-- After a run the history holds the last messages of those it had and those that were accepted since. -/
theorem history_advance (linked : hub.store.Linked) (full : hub.store.history.length ≤ hub.store.maxHistory)
    (steps : List Step) :
    (hub.advance steps).store.maxHistory = hub.store.maxHistory ∧
      (hub.advance steps).store.history =
        Store.lastItems hub.store.maxHistory (hub.store.history ++ (hub.turns steps).filterMap Turn.accepted?) := by
  induction steps generalizing hub with
  | nil =>
    simp only [turns, List.filterMap_nil, List.append_nil, Store.lastItems_of_le full]
    exact ⟨rfl, rfl⟩
  | cons step rest ih =>
    obtain ⟨bound, history, -⟩ := spreads linked step full
    rw [posted?_eq_accepted?] at history
    have full' : (hub.perform step).hub.store.history.length ≤ (hub.perform step).hub.store.maxHistory := by
      rw [history, bound]
      exact Store.length_lastItems_le _ _
    obtain ⟨bound', history'⟩ := ih (linked_perform linked step) full'
    refine ⟨bound'.trans bound, ?_⟩
    have first : (hub.turns (step :: rest)).filterMap Turn.accepted? =
        (hub.accepted? step).toList ++ ((hub.perform step).hub.turns rest).filterMap Turn.accepted? := by
      rw [turns, List.filterMap_cons]
      cases accepted : hub.accepted? step <;> simp [Turn.accepted?, accepted]
    calc ((hub.perform step).hub.advance rest).store.history
      _ = Store.lastItems hub.store.maxHistory ((hub.perform step).hub.store.history ++
            ((hub.perform step).hub.turns rest).filterMap Turn.accepted?) := by rw [history', bound]
      _ = _ := by rw [history, Store.lastItems_lastItems_append, first, List.append_assoc]

/-- The only chat message that a step sends is the accepted one, once and to everybody. -/
theorem chats_perform (linked : hub.store.Linked) (step : Step) :
    (hub.perform step).effects.filter Effect.carriesChat = ((hub.accepted? step).map fun m => .all (.chat m)).toList := by
  have conduct := conduct linked step
  have shown : (hub.perform step).effects.filter Effect.carriesChat =
      (sent (hub.perform step).effects).filter Effect.carriesChat := by
    rw [sent, List.filter_filter]
    apply List.filter_congr
    intro e _
    cases reply : e.reply? <;> simp [Effect.carriesChat, reply]
  rw [shown, ← posted?_eq_accepted?]
  unfold Conducted at conduct
  generalize hub.posted? step = posted, (hub.perform step).hub = hub',
    sent (hub.perform step).effects = effects at conduct ⊢
  cases conduct with
  | refused | silent | posted | loggedIn => rfl
  | @answered _ reply _ _ _ _ personal delivered =>
    have quiet := Reply.chat?_of_personal personal
    rcases delivered with rfl | ⟨other, rfl⟩ <;> simp [Effect.carriesChat, quiet]
  | left _ _ _ acknowledged => rcases acknowledged with rfl | rfl <;> rfl

/-- The history is the last accepted messages. After every run of a fresh hub it holds the last messages that
were accepted, as many as the bound allows, in the order of their steps. Each step sends the message that it
accepts as a chat message, once and to everybody; a step that accepts none sends no chat message and leaves the
history as it was. -/
theorem history_is_last_accepted (hasher : Hasher) (maxHistory : Nat) (maxPrivateHistory : Int) (cache : Rates.Cache)
    (surroundings : BuiltIn.Surroundings) (chatLog : ChatLog) (steps : List Step) :
    let start := create (.empty hasher maxHistory maxPrivateHistory) cache surroundings chatLog
    (start.advance steps).store.history =
      Store.lastItems maxHistory ((start.turns steps).filterMap Turn.accepted?) ∧
    ∀ turn ∈ start.turns steps,
      turn.done.effects.filter Effect.carriesChat = (turn.accepted?.map fun m => .all (.chat m)).toList ∧
      (turn.accepted? = none → turn.done.hub.store.history = turn.hub.store.history) := by
  intro start
  have fresh : start.store.Linked := (Store.consistent_empty hasher maxHistory maxPrivateHistory).toLinked
  have history (steps : List Step) := (history_advance fresh (Nat.zero_le maxHistory) steps)
  refine ⟨(history steps).2, fun turn member => ?_⟩
  obtain ⟨earlier, met⟩ := exists_advance_of_mem_turns member
  have linked : turn.hub.store.Linked := met ▸ linked_advance fresh earlier
  refine ⟨chats_perform linked turn.step, fun unaccepted => ?_⟩
  have full : turn.hub.store.history.length ≤ turn.hub.store.maxHistory := by
    rw [met, (history earlier).1, (history earlier).2]
    exact Store.length_lastItems_le _ _
  obtain ⟨-, kept, -⟩ := spreads linked turn.step full
  have nothing : turn.hub.posted? turn.step = none := (posted?_eq_accepted? ..).trans unaccepted
  rw [Turn.done, kept, nothing, Option.toList_none, List.append_nil, Store.lastItems_of_le full]

/-- Two accounts write from one connection, one after the other, and a stranger from another connection. -/
def exchange : List Step :=
  [⟨⟨1⟩, "c", .register (some "alice") (some "a@x") (some "secret")⟩,
   ⟨⟨2⟩, "c", .register (some "robert") (some "r@x") (some "secret")⟩,
   ⟨⟨3⟩, "c", .login (some "alice") (some "secret")⟩, ⟨⟨4⟩, "c", .message (some "one")⟩,
   ⟨⟨5⟩, "c", .message (some " two ")⟩, ⟨⟨6⟩, "c", .login (some "robert") (some "secret")⟩,
   ⟨⟨7⟩, "c", .message (some "three")⟩, ⟨⟨8⟩, "d", .message (some "four")⟩]

/-- The author of a message is who is logged in where it comes from, the bound drops the oldest message, and the
stranger is not heard. -/
theorem history_is_last_accepted_of_exchange :
    let start := create (.empty .plain 2 10) (.empty 60 Instant.uptime) ⟨[], []⟩ .default
    (start.advance exchange).store.history = [⟨"alice", " two ", ⟨5⟩⟩, ⟨"robert", "three", ⟨7⟩⟩] ∧
    ∃ turn ∈ start.turns exchange, turn.step.connection = "d" ∧ turn.accepted? = none ∧
      turn.done.effects.filter Effect.carriesChat = [] ∧
      turn.done.hub.store.history = turn.hub.store.history := by
  intro start
  obtain ⟨history, each⟩ := history_is_last_accepted .plain 2 10 (.empty 60 Instant.uptime) ⟨[], []⟩ .default exchange
  have last : Store.lastItems 2 ((start.turns exchange).filterMap Turn.accepted?) =
      [⟨"alice", " two ", ⟨5⟩⟩, ⟨"robert", "three", ⟨7⟩⟩] := by decide +kernel
  let turn : Turn := ⟨start.advance (exchange.take 7), ⟨⟨8⟩, "d", .message (some "four")⟩⟩
  have member : turn ∈ start.turns exchange := by
    simp only [exchange, turns, List.mem_cons]
    iterate 7 right
    exact .inl rfl
  have unaccepted : turn.accepted? = none := by decide +kernel
  obtain ⟨chats, kept⟩ := each turn member
  rw [unaccepted] at chats
  refine ⟨?_, turn, member, ?_, unaccepted, ?_, ?_⟩
  · rw [history, last]
  · rfl
  · simpa using chats
  · exact kept unaccepted

end Hub

end ChatService
