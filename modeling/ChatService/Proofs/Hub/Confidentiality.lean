import ChatService.Proofs.Hub.Run
import Mathlib.Data.List.Forall2

/-!
# The confidentiality of private messages

Two runs of the hub that differ only in the texts of private messages. The hubs of the two
runs are twins: equal apart from those texts. A step that is alike on both sides keeps them
twins, and what it does differs at most in replies to the parties of a message that differs.
-/

namespace ChatService

namespace Store

/-- The same store with other private messages. -/
def withPrivate (s : Store) (messages : List PrivateMessage) : Store := { s with privateMessages := messages }

variable {s : Store} {now : Instant} {messages : List PrivateMessage}

/-! ## Other operations -/

@[simp] theorem hasher_withPrivate : (s.withPrivate messages).hasher = s.hasher := rfl

@[simp] theorem users_withPrivate : (s.withPrivate messages).users = s.users := rfl

@[simp] theorem sessions_withPrivate : (s.withPrivate messages).sessions = s.sessions := rfl

@[simp] theorem privateMessages_withPrivate : (s.withPrivate messages).privateMessages = messages := rfl

@[simp] theorem user?_withPrivate : (s.withPrivate messages).user? = s.user? := rfl

@[simp] theorem session?_withPrivate : (s.withPrivate messages).session? = s.session? := rfl

theorem register_withPrivate {username email password : Option Text} :
    (s.withPrivate messages).register now username email password =
      (s.register now username email password).map fun r => (r.1, r.2.withPrivate messages) := by
  have usernames : (s.withPrivate messages).byUsername = s.byUsername := rfl
  have emails : (s.withPrivate messages).byEmail = s.byEmail := rfl
  simp only [register, usernames, emails]
  split
  · rfl
  · split
    · rfl
    · split
      · rfl
      · split <;> rfl

theorem disconnect_withPrivate {connection : String} :
    (s.withPrivate messages).disconnect now connection =
      ((s.disconnect now connection).1, (s.disconnect now connection).2.withPrivate messages) := by
  simp only [disconnect, sessions_withPrivate, users_withPrivate]
  cases s.sessions.find? connection with
  | none => rfl
  | some id =>
    simp only
    cases s.users.find? id <;> rfl

theorem vacate_withPrivate {connection : String} {id : Id} :
    (s.withPrivate messages).vacate now connection id = (s.vacate now connection id).withPrivate messages := by
  simp only [vacate, disconnect_withPrivate, sessions_withPrivate]
  split
  · split <;> rfl
  · rfl

theorem release_withPrivate {user : User} {connection : String} :
    (s.withPrivate messages).release user connection = (s.release user connection).withPrivate messages := by
  simp only [release]
  split
  · split <;> rfl
  · rfl

theorem login_withPrivate {username password : Option Text} {connection : String} :
    (s.withPrivate messages).login now username password connection =
      (s.login now username password connection).map fun r => (r.1, r.2.withPrivate messages) := by
  simp only [login, hasher_withPrivate, user?_withPrivate, vacate_withPrivate, release_withPrivate]
  split
  · rfl
  · split <;> rfl

theorem addContact_withPrivate {owner : Id} {target : Option Text} :
    (s.withPrivate messages).addContact now owner target =
      (s.addContact now owner target).map fun r => (r.1, r.2.withPrivate messages) := by
  have usernames : (s.withPrivate messages).byUsername = s.byUsername := rfl
  have contacts : (s.withPrivate messages).contacts = s.contacts := rfl
  simp only [addContact, usernames, contacts]
  cases target.bind s.byUsername.find? with
  | none => rfl
  | some id =>
    simp only
    split
    · rfl
    · split <;> rfl

end Store

namespace Hub

/-- The same hub with other private messages. -/
def withPrivate (hub : Hub) (messages : List PrivateMessage) : Hub :=
  { hub with store := hub.store.withPrivate messages }

/-- Whether an operation sends or reads private messages. -/
def Operation.isPrivate : Operation → Bool
  | .sendPrivate .. | .getPrivateHistory .. => true
  | _ => false

variable {hub : Hub} {messages : List PrivateMessage}

@[simp] theorem store_withPrivate : (hub.withPrivate messages).store = hub.store.withPrivate messages := rfl

theorem perform_withPrivate {step : Step} (other : step.operation.isPrivate = false) :
    (hub.withPrivate messages).perform step =
      ⟨(hub.perform step).hub.withPrivate messages, (hub.perform step).effects⟩ := by
  obtain ⟨now, connection, operation⟩ := step
  cases operation with
  | connect | heartbeat | getHistory => rfl
  | disconnect =>
    simp only [perform, Hub.disconnect, store_withPrivate, Store.disconnect_withPrivate]
    rcases hub.store.disconnect now connection with ⟨_ | user, store⟩ <;> rfl
  | logout =>
    simp only [perform, Hub.logout, Store.logout, store_withPrivate, Store.disconnect_withPrivate]
    rcases hub.store.disconnect now connection with ⟨_ | user, store⟩ <;> rfl
  | message text =>
    simp only [perform, Hub.message, store_withPrivate, Store.session?_withPrivate]
    split
    · rfl
    · cases hub.store.session? connection with
      | none => rfl
      | some user => cases Store.textFault? (text.getD "") <;> rfl
  | register username email password =>
    simp only [perform, Hub.register, store_withPrivate, Store.register_withPrivate]
    rcases hub.store.register now username email password with (refusal | fault) | ⟨user, store⟩ <;> rfl
  | login username password =>
    simp only [perform, Hub.login, store_withPrivate, Store.login_withPrivate]
    rcases hub.store.login now username password connection with refusal | ⟨user, store⟩ <;> rfl
  | addContact username =>
    simp only [perform, Hub.addContact, store_withPrivate, Store.session?_withPrivate,
      Store.addContact_withPrivate]
    cases hub.store.session? connection with
    | none => rfl
    | some owner =>
      simp only
      rcases hub.store.addContact now owner.id username with refusal | ⟨added, store⟩ <;> rfl
  | getContacts =>
    simp only [perform, Hub.getContacts, store_withPrivate, Store.session?_withPrivate]
    cases hub.store.session? connection <;> rfl
  | sendPrivate | getPrivateHistory => simp [Operation.isPrivate] at other

/-! ## Pairs of messages -/

/-- Two private messages that differ at most in their texts. -/
def SameEnvelope (m m' : PrivateMessage) : Prop := m' = { m with text := m'.text }

/-- Two hubs that differ at most in the texts of their private messages, which are the pairs. -/
structure Twins (pairs : List (PrivateMessage × PrivateMessage)) (hub hub' : Hub) : Prop where
  linked : hub.store.Linked
  first : hub.store.privateMessages = pairs.map (·.1)
  second : hub' = hub.withPrivate (pairs.map (·.2))
  envelopes : ∀ p ∈ pairs, SameEnvelope p.1 p.2

theorem between_of_sameEnvelope {m m' : PrivateMessage} (same : SameEnvelope m m') (a b : Id) :
    Store.between a b m' = Store.between a b m := by
  rw [same]
  rfl

theorem timestamp_of_sameEnvelope {m m' : PrivateMessage} (same : SameEnvelope m m') :
    m'.timestamp = m.timestamp := by
  rw [same]

theorem party_of_between {a b : Id} {m : PrivateMessage} (between : Store.between a b m = true) :
    m.sender = a ∨ m.recipient = a := by
  simp only [Store.between, decide_eq_true_eq] at between
  rcases between.1 with ⟨sent, -⟩ | ⟨-, received⟩
  · exact .inl sent
  · exact .inr received

theorem window_map {α β : Type} (f : α → β) (bound : Int) (l : List α) :
    Store.window bound (l.map f) = (Store.window bound l).map f := by
  simp only [Store.window, Store.lastItems]
  split <;> simp

theorem mem_of_mem_window {α : Type} {bound : Int} {l : List α} {x : α} (shown : x ∈ Store.window bound l) :
    x ∈ l := by
  simp only [Store.window, Store.lastItems] at shown
  split at shown
  · exact List.mem_of_mem_drop shown
  · exact List.mem_of_mem_drop shown

/-- The same places of a conversation are shown on both sides. -/
theorem privateHistory_pairs {s : Store} {pairs : List (PrivateMessage × PrivateMessage)}
    (first : s.privateMessages = pairs.map (·.1)) (envelopes : ∀ p ∈ pairs, SameEnvelope p.1 p.2) (a b : Id) :
    ∃ shown : List (PrivateMessage × PrivateMessage),
      (∀ p ∈ shown, p ∈ pairs ∧ Store.between a b p.1 = true) ∧
        s.privateHistory a b = shown.map (·.1) ∧
        (s.withPrivate (pairs.map (·.2))).privateHistory a b = shown.map (·.2) := by
  let earlier (p q : PrivateMessage × PrivateMessage) : Bool :=
    decide (p.1.timestamp.micros ≤ q.1.timestamp.micros)
  let talk := pairs.filter fun p => Store.between a b p.1
  have talk_sub : ∀ p ∈ talk, SameEnvelope p.1 p.2 := fun p mem => envelopes p (List.mem_filter.1 mem).1
  refine ⟨Store.window s.maxPrivateHistory (talk.mergeSort earlier), ?_, ?_, ?_⟩
  · intro p shown
    have mem : p ∈ talk := List.mem_mergeSort.1 (mem_of_mem_window shown)
    exact List.mem_filter.1 mem
  -- The order is that of the first messages; the second ones are of the same moments.
  · rw [Store.privateHistory, Store.conversation, first, List.filter_map, ← window_map, List.map_mergeSort]
    · rfl
    · intro p _ q _
      rfl
  · have kept : (pairs.map (·.2)).filter (Store.between a b) = talk.map (·.2) := by
      rw [List.filter_map]
      congr 1
      apply List.filter_congr
      intro p mem
      exact between_of_sameEnvelope (envelopes p mem) a b
    rw [Store.privateHistory, Store.conversation, Store.privateMessages_withPrivate, kept, ← window_map,
      List.map_mergeSort]
    · rfl
    · intro p memp q memq
      simp only [earlier, timestamp_of_sameEnvelope (talk_sub p memp), timestamp_of_sameEnvelope (talk_sub q memq)]

/-! ## Two runs -/

/-- Two steps that differ at most in the text of a private message: as many characters on both sides,
not all of them white space. -/
inductive Step.Alike : Step → Step → Prop
  | same (step : Step) : Alike step step
  | resent {now : Instant} {connection : String} {recipient : Option Text} {text text' : Text}
      (length : text.length = text'.length) (ink : Text.allBlank text = false)
      (ink' : Text.allBlank text' = false) :
      Alike ⟨now, connection, .sendPrivate recipient (some text)⟩
        ⟨now, connection, .sendPrivate recipient (some text')⟩

/-- The session of a connection has sent or received a private message with different texts after the
two turns. -/
def Turn.Involves (turn turn' : Turn) (connection : String) : Prop :=
  ∃ u, turn.hub.store.session? connection = some u ∧
    ∃ p ∈ turn.done.hub.store.privateMessages.zip turn'.done.hub.store.privateMessages,
      p.1.text ≠ p.2.text ∧ (p.1.sender = u.id ∨ p.1.recipient = u.id)

/-- Two effects that are equal, or that go to one connection which may see the difference. -/
inductive Shielded (involved : String → Prop) : Effect → Effect → Prop
  | same (effect : Effect) : Shielded involved effect effect
  | caller {connection : String} (reply reply' : Reply) (party : involved connection) :
      Shielded involved (.caller connection reply) (.caller connection reply')
  | to {connection : String} (reply reply' : Reply) (party : involved connection) :
      Shielded involved (.to connection reply) (.to connection reply')

/-- Two turns that nobody can tell apart who is not involved in a message with different texts. -/
structure Turn.Indistinct (turn turn' : Turn) : Prop where
  sessions : ∀ connection, turn'.hub.store.session? connection = turn.hub.store.session? connection
  effects : List.Forall₂ (Shielded (turn.Involves turn')) turn.done.effects turn'.done.effects
  chatLog : turn'.done.hub.chatLog = turn.done.hub.chatLog

theorem Twins.zip {pairs : List (PrivateMessage × PrivateMessage)} {hub hub' : Hub}
    (twins : Twins pairs hub hub') : hub.store.privateMessages.zip hub'.store.privateMessages = pairs := by
  rw [twins.first, twins.second, store_withPrivate, Store.privateMessages_withPrivate, List.zip_map']
  simp

/-- The parties of a pair with different texts are involved. -/
theorem Twins.involves {pairs : List (PrivateMessage × PrivateMessage)} {turn turn' : Turn}
    (twins : Twins pairs turn.done.hub turn'.done.hub) {connection : String} {u : User}
    (session : turn.hub.store.session? connection = some u) {p : PrivateMessage × PrivateMessage} (mem : p ∈ pairs)
    (differ : p.1.text ≠ p.2.text) (party : p.1.sender = u.id ∨ p.1.recipient = u.id) :
    turn.Involves turn' connection := by
  refine ⟨u, session, p, ?_, differ, party⟩
  rwa [twins.zip]

theorem shielded_refl {involved : String → Prop} (effects : List Effect) :
    List.Forall₂ (Shielded involved) effects effects :=
  List.forall₂_same.2 fun effect _ => .same effect

/-- Twins that both store a message, in one envelope, are twins with one more pair. -/
theorem Twins.sent {pairs : List (PrivateMessage × PrivateMessage)} {hub hub' : Hub} (twins : Twins pairs hub hub')
    {m m' : PrivateMessage} (envelope : SameEnvelope m m') {store : Store} (linked : store.Linked)
    (kept : store.privateMessages = hub.store.privateMessages ++ [m]) (chatLog : ChatLog) :
    Twins (pairs ++ [(m, m')]) { hub with store, chatLog }
      { hub' with store := store.withPrivate (pairs.map (·.2) ++ [m']), chatLog } := by
  obtain ⟨-, first, rfl, envelopes⟩ := twins
  refine ⟨linked, ?_, ?_, ?_⟩
  · simp only [kept, first, List.map_append, List.map_cons, List.map_nil]
  · simp only [List.map_append, List.map_cons, List.map_nil]
    rfl
  · intro p mem
    rcases List.mem_append.1 mem with old | new
    · exact envelopes p old
    · rwa [List.mem_singleton.1 new]

theorem textFault?_eq {text text' : Text} (length : text.length = text'.length)
    (ink : Text.allBlank text = false) (ink' : Text.allBlank text' = false) :
    Store.textFault? text' = Store.textFault? text := by
  simp [Store.textFault?, ink, ink', length]

/-- Where a text is accepted, so is any other text without a fault, as a message in the same envelope. -/
theorem sendPrivate_withPrivate {s : Store} {now : Instant} {sender : Id} {recipient text text' : Option Text}
    {messages : List PrivateMessage}
    (fault : Store.textFault? (text'.getD "") = Store.textFault? (text.getD "")) :
    (s.withPrivate messages).sendPrivate now sender recipient text' =
      (s.sendPrivate now sender recipient text).map fun r =>
        ({ r.1 with text := text'.getD "" },
          r.2.withPrivate (messages ++ [{ r.1 with text := text'.getD "" }])) := by
  have usernames : (s.withPrivate messages).byUsername = s.byUsername := rfl
  simp only [Store.sendPrivate, fault, usernames]
  cases Store.textFault? (text.getD "") with
  | some refusal => rfl
  | none =>
    cases recipient.bind s.byUsername.find? with
    | none => rfl
    | some id =>
      simp only
      split <;> rfl

theorem deliver_shielded {involved : String → Prop} {s : Store} {recipient : Text}
    (party : ∀ {other : String} {u : User}, s.user? (some recipient) = some u → u.connection = some other →
      involved other) (connection : String) (d d' : Delivery) :
    List.Forall₂ (Shielded involved) (deliver s connection recipient d) (deliver s connection recipient d') := by
  unfold deliver
  split
  · exact .nil
  · next u found =>
    split
    · next other on =>
      split
      · exact .cons (.to _ _ (party found on)) .nil
      · exact .nil
    · exact .nil

/-- The replies to two messages, if the caller and the recipient may see where they differ. -/
theorem replies_shielded {involved : String → Prop} {s : Store} {connection : String} {recipient : Text}
    {d d' : Delivery}
    (caller : d ≠ d' → involved connection)
    (party : d ≠ d' → ∀ {other : String} {u : User}, s.user? (some recipient) = some u → u.connection = some other →
      involved other) :
    List.Forall₂ (Shielded involved) (.caller connection (.privateMessage d) :: deliver s connection recipient d)
      (.caller connection (.privateMessage d') :: deliver s connection recipient d') := by
  by_cases same : d = d'
  · rw [same]
    exact shielded_refl _
  · exact .cons (.caller _ _ (caller same)) (deliver_shielded (party same) connection d d')

/-- The account with a name is logged in where it is online. -/
theorem session?_of_user? {s : Store} (linked : s.Linked) {recipient : Text} {other : String} {id : Id} {u : User}
    (bound : s.byUsername.find? recipient = some id) (found : s.user? (some recipient) = some u)
    (on : u.connection = some other) : u.id = id ∧ s.session? other = some u := by
  obtain ⟨username, id', same, bound', found'⟩ := Store.user?_eq_some_iff.1 found
  cases same
  cases bound.symm.trans bound'
  exact ⟨linked.keyed found', Store.session?_eq_some_iff.2 ⟨id, linked.anchored found' on, found'⟩⟩

/-- What the hub does with a private message that the store accepts. -/
theorem perform_sendPrivate_ok {hub : Hub} {now : Instant} {connection : String} {recipient text : Option Text}
    {sender : User} {m : PrivateMessage} {store : Store} (session : hub.store.session? connection = some sender)
    (ok : hub.store.sendPrivate now sender.id recipient text = .ok (m, store)) :
    let name := optionalText recipient
    let logged := hub.chatLog.append now (ChatLog.privateLine sender.username name m.text.length)
    hub.perform ⟨now, connection, .sendPrivate recipient text⟩ =
      ⟨{ hub with store, chatLog := logged.1 },
        .log (.info ("📨 PRIVATE from " ++ sender.username ++ " to " ++ name ++ " (" ++
            toString m.text.length ++ " chars)")) ::
          logged.2 ++ .caller connection (.privateMessage (delivery m sender.username name)) ::
            deliver store connection name (delivery m sender.username name)⟩ := by
  simp only [perform, Hub.sendPrivate, session, ok, Done.of]

section

variable {pairs : List (PrivateMessage × PrivateMessage)} {hub hub' : Hub}

/-- Two turns that nobody who is not involved can tell apart, and that leave twins. -/
structure Turn.Parallel (turn turn' : Turn) : Prop where
  twins : ∃ pairs, Twins pairs turn.done.hub turn'.done.hub
  indistinct : turn.Indistinct turn'

/-- Twins stay twins in a step that keeps the private messages and does the same on both sides. -/
theorem parallel_of_kept (twins : Twins pairs hub hub') {step step' : Step}
    (kept : (hub.perform step).hub.store.privateMessages = hub.store.privateMessages)
    (same : hub'.perform step' = ⟨(hub.perform step).hub.withPrivate (pairs.map (·.2)), (hub.perform step).effects⟩) :
    Turn.Parallel ⟨hub, step⟩ ⟨hub', step'⟩ := by
  obtain ⟨linked, first, second, envelopes⟩ := twins
  refine ⟨⟨pairs, linked_perform linked step, kept.trans first, ?_, envelopes⟩, ?_, ?_, ?_⟩
  · simp only [Turn.done, same]
  · intro connection
    rw [second]
    rfl
  · simp only [Turn.done, same]
    exact shielded_refl _
  · simp only [Turn.done, same]
    rfl

theorem parallel_public (twins : Twins pairs hub hub') {step : Step} (other : step.operation.isPrivate = false) :
    Turn.Parallel ⟨hub, step⟩ ⟨hub', step⟩ := by
  have kept : hub.perform step =
      ⟨(hub.perform step).hub.withPrivate hub.store.privateMessages, (hub.perform step).effects⟩ :=
    perform_withPrivate other
  apply parallel_of_kept twins
  · rw [kept]
    rfl
  · rw [twins.second]
    exact perform_withPrivate other

/-- Twins that both accept a private message stay twins, and only its parties may see a difference. -/
theorem parallel_accepted (twins : Twins pairs hub hub') {now : Instant} {connection : String}
    {recipient text text' : Option Text} (length : (text'.getD "").length = (text.getD "").length)
    (fault : Store.textFault? (text'.getD "") = Store.textFault? (text.getD "")) {sender : User} {m : PrivateMessage}
    {store : Store} (session : hub.store.session? connection = some sender)
    (ok : hub.store.sendPrivate now sender.id recipient text = .ok (m, store)) :
    let step : Step := ⟨now, connection, .sendPrivate recipient text⟩
    let step' : Step := ⟨now, connection, .sendPrivate recipient text'⟩
    Turn.Parallel ⟨hub, step⟩ ⟨hub', step'⟩ := by
  intro step step'
  obtain ⟨-, bound, -, -, fromSender, words, -, -, kept⟩ := Store.sendPrivate_ok ok
  let m' : PrivateMessage := { m with text := text'.getD "" }
  have length' : m'.text.length = m.text.length := by rw [words]; exact length
  have session' : hub'.store.session? connection = some sender := by rw [twins.second]; exact session
  have ok' : hub'.store.sendPrivate now sender.id recipient text' =
      .ok (m', store.withPrivate (pairs.map (·.2) ++ [m'])) := by
    rw [twins.second, store_withPrivate, sendPrivate_withPrivate fault, ok]
    rfl
  have done := perform_sendPrivate_ok session ok
  have done' := perform_sendPrivate_ok session' ok'
  have log : hub'.chatLog = hub.chatLog := by rw [twins.second]; rfl
  simp only [length', log] at done done'
  have linked : store.Linked := by
    have performed := linked_perform twins.linked step
    rwa [done] at performed
  have twins' : Twins (pairs ++ [(m, m')]) (hub.perform step).hub (hub'.perform step').hub := by
    have envelope : SameEnvelope m m' := rfl
    rw [done, done']
    exact twins.sent envelope linked (by rw [kept]) _
  have chatLog : (hub'.perform step').hub.chatLog = (hub.perform step).hub.chatLog := by rw [done, done']
  refine ⟨⟨_, twins'⟩, fun _ => by rw [twins.second]; rfl, ?_, chatLog⟩
  have differ {name : Text} (other : delivery m sender.username name ≠ delivery m' sender.username name) :
      m.text ≠ m'.text := by
    intro same
    apply other
    simp only [delivery, same, m']
  have parties {other : String} {u : User} (differ : m.text ≠ m'.text) (on : hub.store.session? other = some u)
      (party : m.sender = u.id ∨ m.recipient = u.id) : Turn.Involves ⟨hub, step⟩ ⟨hub', step'⟩ other :=
    twins'.involves on (List.mem_append_right _ (List.mem_singleton_self _)) differ party
  simp only [Turn.done, step, step', done, done']
  refine .cons (.same _) (List.rel_append (shielded_refl _) (replies_shielded ?_ ?_))
  · intro other
    exact parties (differ other) session (.inl fromSender)
  · intro other connection' u found on
    obtain ⟨name, rfl, bound'⟩ := Option.bind_eq_some_iff.1 bound
    have found' : hub.store.user? (some name) = some u := by rwa [kept] at found
    obtain ⟨same, recipientSession⟩ := session?_of_user? twins.linked bound' found' on
    exact parties (differ other) recipientSession (.inr same.symm)

theorem parallel_sendPrivate (twins : Twins pairs hub hub') {now : Instant} {connection : String}
    {recipient text text' : Option Text} (length : (text'.getD "").length = (text.getD "").length)
    (fault : Store.textFault? (text'.getD "") = Store.textFault? (text.getD "")) :
    let step : Step := ⟨now, connection, .sendPrivate recipient text⟩
    let step' : Step := ⟨now, connection, .sendPrivate recipient text'⟩
    Turn.Parallel ⟨hub, step⟩ ⟨hub', step'⟩ := by
  intro step step'
  cases session : hub.store.session? connection with
  | none =>
    apply parallel_of_kept twins
    · simp [perform, step, Hub.sendPrivate, session, Done.of, refuse]
    · simp [perform, step, step', twins.second, Hub.sendPrivate, session, Done.of, refuse]
  | some sender =>
    cases result : hub.store.sendPrivate now sender.id recipient text with
    | error refusal =>
      have result' : (hub.store.withPrivate (pairs.map (·.2))).sendPrivate now sender.id recipient text' =
          .error refusal := by
        rw [sendPrivate_withPrivate fault, result]
        rfl
      apply parallel_of_kept twins
      · simp [perform, step, Hub.sendPrivate, session, result, Done.of, refuse]
      · simp [perform, step, step', twins.second, Hub.sendPrivate, session, result, result', Done.of, refuse]
    | ok sent => exact parallel_accepted twins length fault session result

theorem parallel_getPrivateHistory (twins : Twins pairs hub hub') (now : Instant) (connection : String)
    (username : Option Text) :
    let step : Step := ⟨now, connection, .getPrivateHistory username⟩
    Turn.Parallel ⟨hub, step⟩ ⟨hub', step⟩ := by
  intro step
  have unchanged (h : Hub) : (h.perform step).hub = h := by
    simp only [perform, step, Hub.getPrivateHistory, Done.of]
    split
    · rfl
    · split <;> rfl
  have kept : (hub.perform step).hub.store.privateMessages = hub.store.privateMessages := by rw [unchanged]
  cases session : hub.store.session? connection with
  | none =>
    apply parallel_of_kept twins kept
    simp [perform, step, twins.second, Hub.getPrivateHistory, session, Done.of, refuse]
  | some user =>
    cases found : hub.store.user? username with
    | none =>
      apply parallel_of_kept twins kept
      simp [perform, step, twins.second, Hub.getPrivateHistory, session, found, Done.of, refuse]
    | some other =>
      obtain ⟨shown, sub, history, history'⟩ := privateHistory_pairs twins.first twins.envelopes user.id other.id
      by_cases same : ∀ p ∈ shown, p.1.text = p.2.text
      · have equal : shown.map (·.2) = shown.map (·.1) := by
          apply List.map_congr_left
          intro p mem
          rw [twins.envelopes p (sub p mem).1, ← same p mem]
        apply parallel_of_kept twins kept
        simp [perform, step, twins.second, Hub.getPrivateHistory, session, found, history, history', equal, Done.of]
      · -- Something shown differs, and the caller is a party of everything shown.
        push Not at same
        obtain ⟨p, mem, differ⟩ := same
        have twins' : Twins pairs (hub.perform step).hub (hub'.perform step).hub := by
          rw [unchanged hub, unchanged hub']
          exact twins
        have involved : Turn.Involves ⟨hub, step⟩ ⟨hub', step⟩ connection :=
          twins'.involves session (sub p mem).1 differ (party_of_between (sub p mem).2)
        refine ⟨⟨pairs, twins'⟩, fun _ => by rw [twins.second]; rfl, ?_, ?_⟩
        · simp only [Turn.done, twins.second, perform, step, Hub.getPrivateHistory, store_withPrivate,
            Store.session?_withPrivate, Store.user?_withPrivate, session, found]
          rw [twins.second] at involved
          exact .cons (.caller _ _ involved) .nil
        · simp only [Turn.done, unchanged, twins.second]
          rfl

end

/-- One step: twins that do alike things cannot be told apart, and stay twins. -/
theorem parallel_perform {pairs : List (PrivateMessage × PrivateMessage)} {hub hub' : Hub}
    (twins : Twins pairs hub hub') {step step' : Step} (alike : step.Alike step') :
    Turn.Parallel ⟨hub, step⟩ ⟨hub', step'⟩ := by
  cases alike with
  | resent length ink ink' => exact parallel_sendPrivate twins length.symm (textFault?_eq length ink ink')
  | same =>
    obtain ⟨now, connection, operation⟩ := step
    cases operation with
    | sendPrivate recipient text => exact parallel_sendPrivate twins rfl rfl
    | getPrivateHistory username => exact parallel_getPrivateHistory twins now connection username
    | _ => exact parallel_public twins rfl

/-- A whole run of twins. -/
theorem indistinct_turns {steps steps' : List Step} (alike : List.Forall₂ Step.Alike steps steps')
    {pairs : List (PrivateMessage × PrivateMessage)} {hub hub' : Hub} (twins : Twins pairs hub hub') :
    List.Forall₂ Turn.Indistinct (hub.turns steps) (hub'.turns steps') ∧
      ∃ pairs', Twins pairs' (hub.advance steps) (hub'.advance steps') := by
  induction alike generalizing pairs hub hub' with
  | nil => exact ⟨.nil, pairs, twins⟩
  | cons first _ ih =>
    obtain ⟨⟨pairs', twins'⟩, indistinct⟩ := parallel_perform twins first
    obtain ⟨rest, last⟩ := ih twins'
    exact ⟨.cons indistinct rest, last⟩

/-- Private texts stay private. In two runs of a fresh hub that differ only in texts of private messages, of
the same length and not blank, every effect is the same at its place, apart from replies to a connection
whose session has sent or received a message that differs; and so is the chat log, at every moment. -/
theorem private_texts_stay_private {steps steps' : List Step} (alike : List.Forall₂ Step.Alike steps steps')
    (hasher : Hasher) (maxHistory : Nat) (maxPrivateHistory : Int) (cache : Rates.Cache)
    (surroundings : BuiltIn.Surroundings) (chatLog : ChatLog) :
    let start := create (.empty hasher maxHistory maxPrivateHistory) cache surroundings chatLog
    List.Forall₂ Turn.Indistinct (start.turns steps) (start.turns steps') ∧
      (start.advance steps').chatLog.content? = (start.advance steps).chatLog.content? := by
  intro start
  have twins : Twins [] start start :=
    ⟨(Store.consistent_empty hasher maxHistory maxPrivateHistory).toLinked, rfl, rfl, by simp⟩
  obtain ⟨indistinct, pairs, last⟩ := indistinct_turns alike twins
  refine ⟨indistinct, ?_⟩
  rw [last.second]
  rfl

/-- Two accounts, one of which writes to the other, and then somebody who is not logged in asks for the
conversation. -/
def whisper (text : Text) : List Step :=
  [⟨⟨1⟩, "first", .register (some "alice") (some "a@x") (some "secret")⟩,
   ⟨⟨2⟩, "second", .register (some "robert") (some "r@x") (some "secret")⟩,
   ⟨⟨3⟩, "first", .login (some "alice") (some "secret")⟩,
   ⟨⟨4⟩, "second", .login (some "robert") (some "secret")⟩,
   ⟨⟨5⟩, "first", .sendPrivate (some "robert") (some text)⟩,
   ⟨⟨6⟩, "third", .getPrivateHistory (some "alice")⟩]

theorem private_texts_stay_private_of_two_answers :
    let start := create (.empty .plain 10 10) (.empty 60 Instant.uptime) ⟨[], []⟩ .default
    List.Forall₂ Step.Alike (whisper "yes") (whisper "no!") ∧
      (start.advance (whisper "yes")).store.privateMessages.map (·.text) = ["yes"] ∧
      (start.advance (whisper "no!")).store.privateMessages.map (·.text) = ["no!"] ∧
      List.Forall₂ Turn.Indistinct (start.turns (whisper "yes")) (start.turns (whisper "no!")) ∧
      (start.advance (whisper "no!")).chatLog.content? = (start.advance (whisper "yes")).chatLog.content? := by
  have alike : List.Forall₂ Step.Alike (whisper "yes") (whisper "no!") :=
    .cons (.same _) (.cons (.same _) (.cons (.same _) (.cons (.same _)
      (.cons (.resent (by decide) (by decide) (by decide)) (.cons (.same _) .nil)))))
  refine ⟨alike, ?_, ?_, private_texts_stay_private alike .plain 10 10 (.empty 60 Instant.uptime) ⟨[], []⟩ .default⟩
  · decide +kernel
  · decide +kernel

end Hub

end ChatService
