import ChatService.Proofs.Hub.Posting
import ChatService.Proofs.Server.Sessions
import Mathlib.Data.List.Infix

/-!
# Replicas

A client knows the broadcast history from the history that it was sent on connecting and
from the chat messages that it was sent since. The messages of a run are the reference: the
store keeps their last ones, and every client that can be reached has been sent the last
ones of a first part and then all of the rest.
-/

namespace ChatService

namespace Server

open Store (lastItems)

variable {s s' start : Server} {messages : List Message} {events seen : List ServerEvent} {connection : String}

/-! ## What a connection receives -/

/-- The replies that were written to a connection, in order. -/
def received (connection : String) (events : List ServerEvent) : List Reply :=
  events.filterMap fun
    | .sent c r => if c = connection then some r else none
    | _ => none

/-- The reports that a write to a connection failed. -/
def failures (connection : String) : List ServerEvent :=
  [.logged (.error ("Failed to send to connection_id=" ++ connection ++ ": broken")),
   .logged (.error ("Failed to broadcast to connection_id=" ++ connection ++ ": broken"))]

/-- Whether a connection is open and writing to it works. -/
def works (clients : Table String Connection) (connection : String) : Bool :=
  (clients.find? connection).any (!·.broken)

@[simp] theorem received_append (events events' : List ServerEvent) :
    received connection (events ++ events') = received connection events ++ received connection events' :=
  List.filterMap_append

@[simp] theorem received_logged (line : LogLine) (events : List ServerEvent) :
    received connection (.logged line :: events) = received connection events := rfl

@[simp] theorem received_sent (c : String) (r : Reply) (events : List ServerEvent) :
    received connection (.sent c r :: events) =
      (if c = connection then [r] else []) ++ received connection events := by
  by_cases here : c = connection
  · simp [received, here]
  · simp [received, here]

theorem received_sendTo (clients : Table String Connection) (c : String) (r : Reply) :
    received connection (sendTo clients c r).2 = if c = connection ∧ works clients connection then [r] else [] := by
  by_cases here : c = connection
  · subst here
    cases found : clients.find? c with
    | none => simp [sendTo, works, found, received]
    | some client => cases broken : client.broken <;> simp [sendTo, works, found, broken, received]
  · simp only [here, false_and, if_false]
    cases found : clients.find? c with
    | none => simp [sendTo, found, received]
    | some client => cases broken : client.broken <;> simp [sendTo, found, broken, here, received]

/-- What becomes of a broadcast at one connection. -/
def written (r : Reply) (entry : String × Connection) : ServerEvent :=
  if entry.2.broken then .logged (.error ("Failed to broadcast to connection_id=" ++ entry.1 ++ ": broken"))
  else .sent entry.1 r

theorem broadcast_eq (clients : Table String Connection) (r : Reply) :
    broadcast clients r =
      .logged (.debug ("[BROADCAST] type=" ++ r.typeName ++ " to " ++ toString clients.keys.length ++ " clients")) ::
        clients.entries.map (written r) := rfl

theorem received_entries {entries : List (String × Connection)} (distinct : (entries.map (·.1)).Nodup) (r : Reply) :
    received connection (entries.map (written r)) =
      if (Table.findIn connection entries).any (!·.broken) then [r] else [] := by
  induction entries with
  | nil => rfl
  | cons entry rest ih =>
    obtain ⟨c, client⟩ := entry
    obtain ⟨fresh, distinct⟩ := List.nodup_cons.1 distinct
    rw [List.map_cons, Table.findIn]
    by_cases here : c = connection
    · have absent : Table.findIn connection rest = none := by
        rw [Option.eq_none_iff_forall_ne_some]
        intro other found
        exact fresh (List.mem_map.2 ⟨_, (Table.findIn_eq_some_iff distinct).1 found, here.symm⟩)
      cases broken : client.broken <;> simp [written, here, broken, ih distinct, absent]
    · cases broken : client.broken <;> simp [written, here, broken, ih distinct]

theorem received_broadcast (clients : Table String Connection) (r : Reply) :
    received connection (broadcast clients r) = if works clients connection then [r] else [] :=
  received_entries clients.distinct r

/-- A connection receives what is meant for it, if writing to it works. -/
theorem received_performAll (clients : Table String Connection) (effects : List Effect) :
    received connection (performAll clients effects) =
      if works clients connection then effects.filterMap (Effect.replyTo? connection) else [] := by
  induction effects with
  | nil => simp [performAll, received]
  | cons e rest ih =>
    have first : received connection (perform clients e) =
        if works clients connection then (e.replyTo? connection).toList else [] := by
      cases e with
      | caller c r | «to» c r =>
        rw [perform, received_sendTo]
        by_cases here : c = connection <;> simp [Effect.replyTo?, here]
      | all r => exact received_broadcast clients r
      | log | fetched | raised => simp [perform, received, Effect.replyTo?]
    rw [performAll, List.flatMap_cons, received_append, first, ← performAll, ih]
    split
    · cases reply : e.replyTo? connection <;> simp [reply]
    · rfl

/-- When a write fails, it is reported. -/
theorem replyTo?_of_unreported {clients : Table String Connection} {client : Connection}
    (isOpen : clients.find? connection = some client) (broken : client.broken = true) {effects : List Effect}
    (quiet : ∀ e ∈ failures connection, e ∉ performAll clients effects) :
    effects.filterMap (Effect.replyTo? connection) = [] := by
  rw [List.filterMap_eq_nil_iff]
  intro e member
  have unreported (report : ServerEvent) (fails : report ∈ failures connection) : report ∉ perform clients e :=
    fun reported => quiet report fails (List.mem_flatMap.2 ⟨e, member, reported⟩)
  cases e with
  | caller c r | «to» c r =>
    refine if_neg fun here => ?_
    subst here
    exact unreported _ (List.mem_cons_self ..) (by simp [perform, sendTo, isOpen, broken])
  | all r =>
    have entry : (connection, client) ∈ clients.entries := Table.mem_entries_iff.2 isOpen
    refine absurd ?_ (unreported _ (List.mem_cons_of_mem _ (List.mem_cons_self ..)))
    refine List.mem_cons_of_mem _ (List.mem_map.2 ⟨_, entry, ?_⟩)
    simp [broken]
  | log | fetched | raised => rfl

/-- Where no write has failed, everything that was meant for the connection has arrived. -/
theorem received_of_intact {clients : Table String Connection} {client : Connection}
    (isOpen : clients.find? connection = some client) {effects : List Effect}
    (intact : client.broken = false ∨ ∀ e ∈ failures connection, e ∉ events ++ performAll clients effects) :
    received connection (events ++ performAll clients effects) =
      received connection events ++ effects.filterMap (Effect.replyTo? connection) := by
  rw [received_append, received_performAll]
  split
  · rfl
  · next fails =>
    have broken : client.broken = true := by simpa [works, isOpen] using fails
    rcases intact with fine | quiet
    · rw [fine] at broken
      cases broken
    · have unreported (e : ServerEvent) (report : e ∈ failures connection) : e ∉ performAll clients effects :=
        fun member => quiet e report (List.mem_append_right _ member)
      rw [replyTo?_of_unreported isOpen broken unreported]

/-! ## Strangers -/

theorem Move.received_of_closed (move : Move s messages events s') (closed : s.clients.find? connection = none)
    (closed' : s'.clients.find? connection = none) : received connection events = [] := by
  have fails {clients : Table String Connection} (closed : clients.find? connection = none) :
      ¬ works clients connection = true := by simp [works, closed]
  cases move with
  | note | change => rfl
  | complain => rw [received_sendTo, if_neg fun both => fails closed both.2]
  | perform => rw [received_performAll, if_neg (fails closed)]
  | accept | close => rw [received_performAll, if_neg (fails closed')]

/-- Nothing was ever sent to an identity that was not drawn. -/
theorem received_of_not_drawn (identified : Identified start) (path : Path start messages events s)
    (new : ¬ s.Known connection) : received connection events = [] := by
  have closed {s : Server} (identified : Identified s) (new : ¬ s.Known connection) :
      s.clients.find? connection = none :=
    Option.eq_none_iff_forall_ne_some.2 fun client isOpen => new (identified.drawn isOpen)
  induction path with
  | nothing => rfl
  | move earlier last ih =>
    have newBefore := fun known => new (Known.move known last)
    have identifiedBefore := identified.path earlier
    rw [received_append, ih newBefore,
      last.received_of_closed (closed identifiedBefore newBefore) (closed (identifiedBefore.move last) new)]
    rfl

/-! ## The invariant -/

/-- A client was sent the last of the first messages, and then all the others. -/
def Follows (bound : Nat) (messages : List Message) (replies : List Reply) : Prop :=
  ∃ before since rest, messages = before ++ since ∧ replies = .history (lastItems bound before) :: rest ∧
    rest.filterMap Reply.chat? = since

/-- No write to an open connection has failed. A connection that is broken stays broken, so where writing
works it has never failed. -/
def Intact (s : Server) (events : List ServerEvent) (connection : String) : Prop :=
  ∃ client, s.clients.find? connection = some client ∧
    (client.broken = false ∨ ∀ e ∈ failures connection, e ∉ events)

structure Replicated (bound : Nat) (messages : List Message) (events : List ServerEvent) (s : Server) : Prop where
  bounded : s.hub.store.maxHistory = bound
  history : s.hub.store.history = lastItems bound messages
  follows {connection : String} : Intact s events connection → Follows bound messages (received connection events)

variable {bound : Nat}

theorem Follows.append {replies more : List Reply} (follows : Follows bound messages replies) {posted : List Message}
    (chats : more.filterMap Reply.chat? = posted) : Follows bound (messages ++ posted) (replies ++ more) := by
  obtain ⟨before, since, rest, rfl, rfl, rfl⟩ := follows
  refine ⟨before, rest.filterMap Reply.chat? ++ posted, rest ++ more, ?_, rfl, ?_⟩
  · rw [List.append_assoc]
  · rw [List.filterMap_append, chats]

/-- What a client is sent of a step brings it the message of the step. -/
theorem Replicated.follows_append (replicated : Replicated bound messages events s)
    {clients : Table String Connection} {effects : List Effect} {posted : List Message} {old client : Connection}
    (wasOpen : s.clients.find? connection = some old) (isOpen : clients.find? connection = some client)
    (still : old.broken = true → client.broken = true)
    (intact : client.broken = false ∨ ∀ e ∈ failures connection, e ∉ events ++ performAll clients effects)
    (chats : effects.filterMap (Effect.chatTo? connection) = posted) :
    Follows bound (messages ++ posted) (received connection (events ++ performAll clients effects)) := by
  have before : Intact s events connection := by
    refine ⟨old, wasOpen, intact.imp (fun fine => ?_) fun quiet e fails member => ?_⟩
    · by_contra broken
      rw [still (by simpa using broken)] at fine
      cases fine
    · exact quiet e fails (List.mem_append_left _ member)
  rw [received_of_intact isOpen intact]
  refine (replicated.follows before).append ?_
  rw [List.filterMap_filterMap]
  exact chats

/-- The clients that are there before and after a step are sent what it posts. -/
theorem Replicated.append (replicated : Replicated bound messages events s) (clients : Table String Connection)
    (effects : List Effect) {posted : List Message} (bounded : s'.hub.store.maxHistory = bound)
    (history : s'.hub.store.history = lastItems bound (s.hub.store.history ++ posted))
    (stays : ∀ connection client, s'.clients.find? connection = some client →
      clients.find? connection = some client ∧
        ∃ old, s.clients.find? connection = some old ∧ (old.broken = true → client.broken = true))
    (chats : ∀ connection, effects.filterMap (Effect.chatTo? connection) = posted) :
    Replicated bound (messages ++ posted) (events ++ performAll clients effects) s' where
  bounded := bounded
  history := by rw [history, replicated.history, Store.lastItems_lastItems_append]
  follows := by
    rintro connection ⟨client, isOpen, intact⟩
    obtain ⟨told, old, wasOpen, still⟩ := stays connection client isOpen
    exact replicated.follows_append wasOpen told still intact (chats connection)

theorem Replicated.full (replicated : Replicated bound messages events s) : s.hub.store.history.length ≤ bound := by
  rw [replicated.history]
  exact Store.length_lastItems_le bound messages

theorem Replicated.unposted (replicated : Replicated bound messages events s) :
    s.hub.store.history = lastItems bound (s.hub.store.history ++ []) := by
  rw [List.append_nil, Store.lastItems_of_le replicated.full]

/-- A client that connects is sent the history as it is; the other clients are not concerned. -/
theorem Replicated.accept (replicated : Replicated bound messages events s)
    (unknown : received s.hub.store.nextId.text events = []) (broken : Bool) :
    let clients := s.clients.insert s.hub.store.nextId.text ⟨[], broken, false⟩
    Replicated bound (messages ++ [])
      (events ++ performAll clients [.caller s.hub.store.nextId.text (.history s.hub.store.history)])
      { s with hub := { s.hub with store := s.hub.store.draw }, clients } := by
  intro clients
  refine ⟨replicated.bounded, by rw [List.append_nil]; exact replicated.history, ?_⟩
  rintro connection ⟨client, isOpen, intact⟩
  by_cases here : connection = s.hub.store.nextId.text
  · subst here
    rw [received_of_intact isOpen intact, unknown]
    refine ⟨messages, [], [], rfl, ?_, rfl⟩
    simp [Effect.replyTo?, replicated.history]
  · have wasOpen : s.clients.find? connection = some client := by
      simpa only [clients, Table.find?_insert, if_neg here] using isOpen
    exact replicated.follows_append wasOpen isOpen id intact (Effect.filterMap_chatTo?_caller connection _ rfl [])

/-- In every move but one, the clients that are open afterwards were open before, and are sent what is posted. -/
theorem Replicated.move (replicated : Replicated bound messages events s) (identified : Identified s)
    (unknown : received s.hub.store.nextId.text events = []) {more : List Message} (move : Move s more seen s') :
    Replicated bound (messages ++ more) (events ++ seen) s' := by
  have same (connection : String) (client : Connection) (isOpen : s.clients.find? connection = some client) :
      s.clients.find? connection = some client ∧
        ∃ old, s.clients.find? connection = some old ∧ (old.broken = true → client.broken = true) :=
    ⟨isOpen, client, isOpen, id⟩
  have step (step : Hub.Step) := Hub.spreads identified.consistent.toLinked step (replicated.bounded ▸ replicated.full)
  rw [replicated.bounded] at step
  cases move with
  | note line =>
    exact replicated.append s.clients [.log line] replicated.bounded replicated.unposted same fun _ => rfl
  | complain place message =>
    have complained := replicated.append s.clients [.caller place (.error message Envelope.plainErrorCode)]
      replicated.bounded replicated.unposted same fun connection => Effect.filterMap_chatTo?_caller connection place rfl []
    simpa [performAll, perform] using complained
  | perform request isOpen =>
    obtain ⟨bounded, history, chats⟩ := step request
    exact replicated.append s.clients _ bounded history same chats
  | @change place client isOpen client' still =>
    have stays (connection : String) (found : Connection)
        (now : (s.clients.insert place client').find? connection = some found) :
        ∃ old, s.clients.find? connection = some old ∧ (old.broken = true → found.broken = true) := by
      rw [Table.find?_insert] at now
      split at now
      · next here =>
        cases now
        exact ⟨client, here ▸ isOpen, still⟩
      · exact ⟨found, now, id⟩
    exact replicated.append (s.clients.insert place client') [] replicated.bounded replicated.unposted
      (fun connection found now => ⟨now, stays connection found now⟩) fun _ => rfl
  | accept broken => exact replicated.accept unknown broken
  | @close now place client isOpen =>
    obtain ⟨bounded, history, chats⟩ := step ⟨now, place, .disconnect⟩
    refine replicated.append (s.clients.erase place) _ bounded history (fun connection found stays => ⟨stays, ?_⟩) chats
    exact ⟨found, Table.find?_of_find?_erase stays, id⟩

theorem replicated_create (hasher : Hasher) (maxHistory : Nat) (maxPrivateHistory : Int) (cache : Rates.Cache)
    (surroundings : BuiltIn.Surroundings) (chatLog : ChatLog) (limit : Nat) :
    Replicated maxHistory [] []
      (create (.create (.empty hasher maxHistory maxPrivateHistory) cache surroundings chatLog) limit) where
  bounded := rfl
  history := List.drop_nil.symm
  follows := by
    rintro connection ⟨client, isOpen, -⟩
    cases isOpen

theorem Replicated.path (identified : Identified start) (fresh : Replicated bound [] [] start)
    (path : Path start messages events s) : Replicated bound messages events s := by
  induction path with
  | nothing => exact fresh
  | @move _ _ _ _ s _ earlier last ih =>
    have unknown := received_of_not_drawn identified earlier (not_known_nextId _)
    exact ih.move (identified.path earlier) unknown last

/-! ## What clients see -/

/-- A message as it is shown in a history. -/
def entry (m : Message) : Json := .obj m.fields

/-- The messages in a history payload. -/
def listed (payload : Json) : List Json :=
  match payload.field? "messages" with
  | some (.arr items) => items
  | _ => []

/-- A chat payload without its type. -/
def chatFields? : Json → Option Json
  | .obj fields =>
    match Json.lookup "type" fields with
    | some (.str "chat") => some (.obj (fields.filter (·.1 ≠ "type")))
    | _ => none
  | _ => none

/-- The payloads that a connection received, in order. -/
def payloads (connection : String) (events : List ServerEvent) : List Json :=
  (received connection events).map Reply.toJson

theorem listed_history (l : List Message) : listed (Reply.history l).toJson = l.map entry := rfl

theorem chatFields?_toJson (r : Reply) : chatFields? r.toJson = r.chat?.map entry := by
  cases r with
  | chat m => rfl
  | _ => rfl

theorem filterMap_chatFields? (replies : List Reply) :
    (replies.map Reply.toJson).filterMap chatFields? = (replies.filterMap Reply.chat?).map entry := by
  rw [List.filterMap_map, List.map_filterMap]
  exact List.filterMap_congr fun r _ => chatFields?_toJson r

/-- Every replica agrees with the store. After every run of a fresh server, each client to which no write has
failed has received a history payload first. The messages in it, and then those of the chat payloads that came
later, end in what the store has as its history. The payloads that came later are those of all messages that
were posted since the first payload, each once and in the order of posting; so of any two clients the later
one has seen the last chat payloads of the other, in the same order. -/
theorem replicas_agree_with_store {hasher : Hasher} {maxHistory : Nat} {maxPrivateHistory : Int} {cache : Rates.Cache}
    {surroundings : BuiltIn.Surroundings} {chatLog : ChatLog} {limit : Nat}
    (run : Run (create (.create (.empty hasher maxHistory maxPrivateHistory) cache surroundings chatLog) limit)
      messages events s) :
    (∀ connection, Intact s events connection →
      ∃ first rest before since, payloads connection events = first :: rest ∧
        first.field? "type" = some (.str "history") ∧
        lastItems maxHistory (listed first ++ rest.filterMap chatFields?) = s.hub.store.history.map entry ∧
        messages = before ++ since ∧ listed first = (lastItems maxHistory before).map entry ∧
        rest.filterMap chatFields? = since.map entry) ∧
    ∀ connection other, Intact s events connection → Intact s events other →
      (payloads connection events).filterMap chatFields? <:+ (payloads other events).filterMap chatFields? ∨
      (payloads other events).filterMap chatFields? <:+ (payloads connection events).filterMap chatFields? := by
  have fresh := replicated_create hasher maxHistory maxPrivateHistory cache surroundings chatLog limit
  have replicated := fresh.path (identified_create ..) run.path
  constructor
  · intro connection intact
    obtain ⟨before, since, rest, all, replies, chats⟩ := replicated.follows intact
    have later : (rest.map Reply.toJson).filterMap chatFields? = since.map entry := by
      rw [filterMap_chatFields?, chats]
    refine ⟨_, rest.map Reply.toJson, before, since, by rw [payloads, replies, List.map_cons], rfl, ?_, all, rfl, later⟩
    rw [later, listed_history, ← List.map_append, ← Store.map_lastItems, Store.lastItems_lastItems_append, ← all,
      replicated.history]
  · intro connection other intact intact'
    have suffix {connection : String} (intact : Intact s events connection) :
        (payloads connection events).filterMap chatFields? <:+ messages.map entry := by
      obtain ⟨before, since, rest, all, replies, chats⟩ := replicated.follows intact
      have seen : (received connection events).filterMap Reply.chat? = since := by rw [replies, ← chats]; rfl
      rw [payloads, filterMap_chatFields?, seen, all, List.map_append]
      exact List.suffix_append _ _
    exact List.suffix_or_suffix_of_suffix (suffix intact) (suffix intact')

/-- The first client posts two messages, and a third one connects between them. -/
def talk : List (Instant × Incident) :=
  visit ++
    [(⟨5⟩, .occur (Id.ofNumber 1).text (.bytes (Request.chat "one").line)), (⟨6⟩, .accept "late" false),
     (⟨7⟩, .occur (Id.ofNumber 1).text (.bytes (Request.chat "two").line))]

theorem replicas_agree_with_store_of_late_client :
    let start := create (.create (.empty .plain 1 5) (.empty 60 Instant.uptime) ⟨[], []⟩ .default) defaultLimit
    ∃ messages events, Run start messages events (start.advance talk) ∧
      ∃ first rest, payloads (Id.ofNumber 4).text events = first :: rest ∧
        lastItems 1 (listed first ++ rest.filterMap chatFields?) = [entry ⟨"alice", "two", ⟨7⟩⟩] := by
  intro start
  obtain ⟨messages, events, run⟩ := exists_run start talk
  have after : (start.advance talk).hub.store.history = [⟨"alice", "two", ⟨7⟩⟩] ∧
      (start.advance talk).clients.find? (Id.ofNumber 4).text = some ⟨[], false, false⟩ := by decide +kernel
  obtain ⟨agrees, -⟩ := replicas_agree_with_store run
  obtain ⟨first, rest, -, -, all, -, shown, -⟩ := agrees (Id.ofNumber 4).text ⟨_, after.2, .inl rfl⟩
  rw [after.1] at shown
  exact ⟨messages, events, run, first, rest, all, shown⟩

end Server

end ChatService
