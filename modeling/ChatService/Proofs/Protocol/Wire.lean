import ChatService.Client.Session
import ChatService.Proofs.Json.ReadBack
import ChatService.Proofs.Text.Utf8
import ChatService.Server.Basic

/-!
# Lines on the wire

Whatever texts go into a message, it travels as one line: the line feed at its end is the
only one, all its bytes are ASCII, and whoever reads the line gets the message that was
written. So a text that a user chose neither ends a line early nor reaches another field.
-/

namespace ChatService

namespace Envelope

open Json (Apart Legible Readable apart_ofString)

/-- The messages that can be built from values that can be read back: texts, records, lists of records. The
number of messages in a list is one that can be read, as that of any list that fits into a memory is. -/
inductive Built : Json → Prop
  | register {username email password : Json} (username_ok : Readable username) (email_ok : Readable email)
      (password_ok : Readable password) : Built (register username email password)
  | login {username password : Json} (username_ok : Readable username) (password_ok : Readable password) :
      Built (login username password)
  | logout : Built logout
  | heartbeat (now : Instant) : Built (heartbeat now)
  | chat {text : Json} (text_ok : Readable text) : Built (chat text)
  | privateRequest {recipient text : Json} (recipient_ok : Readable recipient) (text_ok : Readable text) :
      Built (privateRequest recipient text)
  | getHistory : Built getHistory
  | getPrivateHistory {username : Json} (username_ok : Readable username) : Built (getPrivateHistory username)
  | addContact {username : Json} (username_ok : Readable username) : Built (addContact username)
  | getContacts : Built getContacts
  | error {message code : Json} (message_ok : Readable message) (code_ok : Readable code) :
      Built (error message code)
  | registerSuccess {user : Json} (user_ok : Readable user) : Built (registerSuccess user)
  | loginSuccess {user : Json} (user_ok : Readable user) : Built (loginSuccess user)
  | logoutSuccess : Built logoutSuccess
  | broadcast {message : List (Text × Json)} (message_ok : Readable (.obj message)) : Built (broadcast message)
  | system {text : Json} (text_ok : Readable text) (now : Instant) : Built (system text now)
  | history {messages : List Json} (messages_ok : Readable (.arr messages))
      (countable : Legible messages.length) : Built (history messages)
  | privateDelivery {id sender recipient text timestamp isRead : Json} (id_ok : Readable id)
      (sender_ok : Readable sender) (recipient_ok : Readable recipient) (text_ok : Readable text)
      (timestamp_ok : Readable timestamp) (isRead_ok : Readable isRead) :
      Built (privateDelivery id sender recipient text timestamp isRead)
  | privateHistory {username : Json} {messages : List Json} (username_ok : Readable username)
      (messages_ok : Readable (.arr messages)) (countable : Legible messages.length) :
      Built (privateHistory username messages)
  | contactAdded {username : Json} (username_ok : Readable username) : Built (contactAdded username)
  | contacts {entries : Json} (entries_ok : Readable entries) : Built (contacts entries)
  | onlineUsers {usernames : Json} (usernames_ok : Readable usernames) : Built (onlineUsers usernames)
  | heartbeatAck (now : Instant) : Built (heartbeatAck now)

/-- An object that can be read back and says what it is. -/
structure Typed (payload : Json) : Prop where
  readable : Readable payload
  named : ∃ type fields, payload = .obj fields ∧ Json.lookup "type" fields = some (.str type)

theorem typed_ok (type : String) {fields : List (Text × Json)}
    (distinct : (Text.ofString "type" :: fields.map Prod.fst).Nodup) (apart : ∀ f ∈ fields, Apart f.1)
    (all : ∀ f ∈ fields, Readable f.2) : Typed (typed type fields) where
  readable := .obj distinct (List.forall_mem_cons.2 ⟨apart_ofString "type", apart⟩)
    (List.forall_mem_cons.2 ⟨.str (apart_ofString type), all⟩)
  named := ⟨type, _, rfl, rfl⟩

/-- The type is added to the fields of a record, or takes the place of the one it has. -/
theorem typed_broadcast {message : List (Text × Json)} (readable : Readable (.obj message)) :
    Typed (broadcast message) := by
  cases readable with
  | obj distinct apart all =>
    exact ⟨.obj (Json.nodup_put distinct) (Json.forall_put (apart_ofString "type") apart)
      (Json.forall_put (.str (apart_ofString "chat")) all), "chat", _, rfl, Json.lookup_put_self ..⟩

theorem readable_count {messages : List Json} (countable : Legible messages.length) :
    Readable (.int messages.length) :=
  .int countable

theorem Built.typed {payload : Json} (built : Built payload) : Typed payload := by
  cases built with
  | register name mail secret => exact typed_ok _ (by simp) (by simp) (by simp [name, mail, secret])
  | login name secret => exact typed_ok _ (by simp) (by simp) (by simp [name, secret])
  | logout => exact typed_ok _ (by simp) (by simp) (by simp)
  | heartbeat now => exact typed_ok _ (by simp) (by simp) (by simp [Readable.str])
  | chat text => exact typed_ok _ (by simp) (by simp) (by simp [text])
  | privateRequest recipient text => exact typed_ok _ (by simp) (by simp) (by simp [recipient, text])
  | getHistory => exact typed_ok _ (by simp) (by simp) (by simp)
  | getPrivateHistory name => exact typed_ok _ (by simp) (by simp) (by simp [name])
  | addContact name => exact typed_ok _ (by simp) (by simp) (by simp [name])
  | getContacts => exact typed_ok _ (by simp) (by simp) (by simp)
  | error message code => exact typed_ok _ (by simp) (by simp) (by simp [message, code])
  | registerSuccess user => exact typed_ok _ (by simp) (by simp) (by simp [user])
  | loginSuccess user => exact typed_ok _ (by simp) (by simp) (by simp [user])
  | logoutSuccess => exact typed_ok _ (by simp) (by simp) (by simp)
  | broadcast message => exact typed_broadcast message
  | system text now => exact typed_ok _ (by simp) (by simp) (by simp [text, Readable.str])
  | history messages countable => exact typed_ok _ (by simp) (by simp) (by simp [messages, readable_count countable])
  | privateDelivery id sender recipient text timestamp isRead =>
    exact typed_ok _ (by simp) (by simp) (by simp [id, sender, recipient, text, timestamp, isRead])
  | privateHistory name messages countable =>
    exact typed_ok _ (by simp) (by simp) (by simp [name, messages, readable_count countable])
  | contactAdded name => exact typed_ok _ (by simp) (by simp) (by simp [name])
  | contacts entries => exact typed_ok _ (by simp) (by simp) (by simp [entries])
  | onlineUsers names => exact typed_ok _ (by simp) (by simp) (by simp [names])
  | heartbeatAck now => exact typed_ok _ (by simp) (by simp) (by simp [Readable.str])

end Envelope

/-! ## One line -/

/-- The bytes of a value on a line of its own. -/
def lineBytes (payload : Json) : List UInt8 := Text.toUtf8 (payload.wireText ++ "\n")

/-- What a line carries. It is one line of ASCII bytes; decoded, stripped and parsed it is the payload; and
the server and the client handle that payload when they read it. -/
structure Carries (line : List UInt8) (payload : Json) : Prop where
  ascii : ∀ byte ∈ line, byte.toNat < 128
  feeds : line.count lineFeed = 1
  last : line.getLast? = some lineFeed
  read : ∃ text, Text.ofUtf8? line = some text ∧ Json.read (Text.strip text.toList) = .ok payload
  /-- The server cuts the line off, whatever arrives behind it. -/
  cut : ∀ limit behind, line.dropLast.length ≤ limit → nextLine limit (line ++ behind) = .line line.dropLast behind
  server : ∃ type fields, payload = .obj fields ∧ Json.lookup "type" fields = some (.str type) ∧
    Incoming.ofLine line.dropLast = .message type fields
  /-- The client handles the payload, unless the line is longer than its reader allows. -/
  client : ∀ session : Client.Session, line.dropLast.length ≤ Client.Session.lineLimit →
    session.handleLine line = ((session.handleMessage payload).1.map .display, (session.handleMessage payload).2)

/-- What a value is on the wire, as bytes without the line feed. -/
def bodyBytes (payload : Json) : List UInt8 := Text.toUtf8 payload.wireText

section Line

variable {payload : Json}

theorem bodyBytes_eq (readable : Json.Readable payload) :
    bodyBytes payload = (Json.write .ascii payload).map fun c => UInt8.ofNat c.toNat :=
  Text.toUtf8_ascii fun c member => by
    have := Json.printable_write readable c member
    omega

theorem lineBytes_eq (readable : Json.Readable payload) : lineBytes payload = bodyBytes payload ++ [lineFeed] := by
  have ascii : ∀ c ∈ Json.write .ascii payload ++ ['\n'], c.toNat < 128 := by
    intro c member
    rcases List.mem_append.1 member with member | member
    · have := Json.printable_write readable c member
      omega
    · cases List.mem_singleton.1 member
      decide
  have whole : payload.wireText ++ "\n" = String.ofList (Json.write .ascii payload ++ ['\n']) := by
    rw [String.ofList_append]
    rfl
  rw [lineBytes, whole, Text.toUtf8_ascii ascii, List.map_append, bodyBytes_eq readable]
  rfl

theorem body_byte (readable : Json.Readable payload) {byte : UInt8} (member : byte ∈ bodyBytes payload) :
    byte.toNat < 128 ∧ byte ≠ lineFeed := by
  rw [bodyBytes_eq readable] at member
  obtain ⟨c, inside, rfl⟩ := List.mem_map.1 member
  have printable := Json.printable_write readable c inside
  have code : (UInt8.ofNat c.toNat).toNat = c.toNat := UInt8.toNat_ofNat_of_lt (Nat.lt_trans printable.2 (by decide))
  refine ⟨by omega, fun feed => ?_⟩
  rw [feed] at code
  have : lineFeed.toNat = 10 := rfl
  omega

theorem last_writeFields (fields : List (Text × Json)) : (Json.writeFields .ascii fields).getLast? = some '}' := by
  induction fields with
  | nil => rfl
  | cons field fields ih =>
    rw [Json.writeFields]
    simp [List.getLast?_append, List.getLast?_cons, ih]

/-- The text of an object begins and ends with its braces, so stripping takes only what stands around it. -/
theorem strip_write {fields : List (Text × Json)} {blanks : List Char}
    (blank : ∀ c ∈ blanks, Text.isBlank c = true) :
    Text.strip (Json.write .ascii (.obj fields) ++ blanks) = Json.write .ascii (.obj fields) := by
  have first : (Json.write .ascii (.obj fields)).head? = some '{' := by
    cases fields <;> rfl
  have last : (Json.write .ascii (.obj fields)).getLast? = some '}' := by
    cases fields with
    | nil => rfl
    | cons field fields =>
      rw [Json.write]
      simp [List.getLast?_append, List.getLast?_cons, last_writeFields]
  refine Text.strip_append ?_ ?_ ?_ blank
  · intro empty
    rw [empty] at first
    cases first
  · intro c head
    cases first.symm.trans head
    rfl
  · intro c final
    cases last.symm.trans final
    rfl

/-- A line goes up to its line feed, whatever arrives behind it. -/
theorem nextLine_feed {content : List UInt8} (whole : ∀ byte ∈ content, byte ≠ lineFeed) {limit : Nat}
    (small : content.length ≤ limit) (behind : List UInt8) :
    nextLine limit (content ++ [lineFeed] ++ behind) = .line content behind := by
  have inside : ∀ byte ∈ content, (byte != lineFeed) = true := fun byte member => by simpa using whole byte member
  obtain ⟨taken, dropped⟩ := Text.span_append (lineFeed :: behind) inside (by simp)
  rw [List.append_assoc, List.singleton_append, nextLine, taken, dropped]
  simp only [if_neg (Nat.not_lt.2 small)]

/-- A typed object that can be read back is carried by its line. -/
theorem carries_of_typed (typed : Envelope.Typed payload) : Carries (lineBytes payload) payload := by
  obtain ⟨type, fields, rfl, named⟩ := typed.named
  have body := lineBytes_eq typed.readable
  have bytes : ∀ byte ∈ bodyBytes (.obj fields), byte.toNat < 128 ∧ byte ≠ lineFeed :=
    fun _ => body_byte typed.readable
  have cutOff : (lineBytes (.obj fields)).dropLast = bodyBytes (.obj fields) := by rw [body, List.dropLast_concat]
  have decoded : Text.ofUtf8? (lineBytes (.obj fields)) = some ((Json.obj fields).wireText ++ "\n") :=
    Text.ofUtf8?_toUtf8 _
  have stripped : Text.strip ((Json.obj fields).wireText ++ "\n").toList = Json.write .ascii (.obj fields) := by
    rw [String.toList_append, Json.wireText, String.toList_ofList]
    exact strip_write (List.forall_mem_singleton.2 (by decide))
  have back := Json.read_write typed.readable
  constructor
  case ascii =>
    intro byte member
    rw [body] at member
    rcases List.mem_append.1 member with member | member
    · exact (bytes byte member).1
    · cases List.mem_singleton.1 member
      decide
  case feeds =>
    rw [body, List.count_append, List.count_eq_zero.2 fun member => (bytes lineFeed member).2 rfl]
    rfl
  case last => rw [body, List.getLast?_concat]
  case read => exact ⟨_, decoded, by rw [stripped, back]⟩
  case cut =>
    intro limit behind small
    rw [cutOff] at small ⊢
    rw [body]
    exact nextLine_feed (fun byte member => (bytes byte member).2) small behind
  case server =>
    refine ⟨type, fields, rfl, named, ?_⟩
    have alone : Text.strip (Json.obj fields).wireText.toList = Json.write .ascii (.obj fields) := by
      have bare : Text.strip (Json.write .ascii (.obj fields) ++ []) = Json.write .ascii (.obj fields) :=
        strip_write nofun
      rw [List.append_nil] at bare
      rwa [Json.wireText, String.toList_ofList]
    rw [cutOff, Incoming.ofLine, bodyBytes, Text.ofUtf8?_toUtf8]
    simp only [alone, back, named]
  case client =>
    intro session small
    have content : (lineBytes (.obj fields)).takeWhile (· != lineFeed) = bodyBytes (.obj fields) := by
      rw [body]
      refine (Text.span_append [lineFeed] (fun byte member => ?_) (by simp)).1
      simpa using (bytes byte member).2
    rw [cutOff] at small
    rw [Client.Session.handleLine, content, if_neg (Nat.not_lt.2 small), decoded]
    simp only [stripped, back]

end Line

/-! ## What is sent -/

/-- The texts that people chose in a request. -/
def Request.texts : Request → List Text
  | register username email password => [username, email, password]
  | login username password => [username, password]
  | chat text => [text]
  | privateMessage recipient text => [recipient, text]
  | getPrivateHistory username | addContact username => [username]
  | logout | heartbeat | getHistory | getContacts => []

def Message.texts (m : Message) : List Text := [m.username, m.text]

def Delivery.texts (d : Delivery) : List Text := [d.sender, d.recipient, d.text]

/-- The texts in a reply that were not chosen by the server. -/
def Reply.texts : Reply → List Text
  | error message _ => [message]
  | registerSuccess user | loginSuccess user => [user.username, user.email]
  | chat message => message.texts
  | system text _ => [text]
  | history messages => messages.flatMap Message.texts
  | privateMessage d => d.texts
  | privateHistory username messages => username :: messages.flatMap Delivery.texts
  | contactAdded username => [username]
  | contacts entries => entries.map (·.username)
  | onlineUsers usernames => usernames
  | logoutSuccess | heartbeatAck _ => []

theorem User.readable {u : User} (apart : ∀ t ∈ [u.username, u.email], Json.Apart t) :
    Json.Readable (.obj u.publicFields) := by
  refine .obj (by simp [publicFields]) (by simp [publicFields]) ?_
  simp only [List.forall_mem_cons] at apart
  simp [publicFields, Json.Readable.str, Json.Readable.bool, apart]

theorem Message.readable {m : Message} (apart : ∀ t ∈ m.texts, Json.Apart t) : Json.Readable (.obj m.fields) := by
  refine .obj (by simp [fields]) (by simp [fields]) ?_
  simp only [texts, List.forall_mem_cons] at apart
  simp [fields, Json.Readable.str, apart]

theorem ContactStatus.readable {c : ContactStatus} (apart : Json.Apart c.username) :
    Json.Readable (.obj c.fields) :=
  .obj (by simp [fields]) (by simp [fields]) (by simp [fields, Json.Readable.str, Json.Readable.bool, apart])

theorem Delivery.built {d : Delivery} (apart : ∀ t ∈ d.texts, Json.Apart t) : Envelope.Built d.toJson := by
  simp only [texts, List.forall_mem_cons] at apart
  obtain ⟨sender, recipient, text, -⟩ := apart
  exact .privateDelivery (.str (Json.apart_ofString _)) (.str sender) (.str recipient) (.str text)
    (.str (Json.apart_ofString _)) (.bool _)

/-- A request is built from texts. -/
theorem Request.built (now : Instant) {r : Request} (apart : ∀ t ∈ r.texts, Json.Apart t) :
    Envelope.Built (r.toJson now) := by
  have built (t : Text) (member : t ∈ r.texts) : Json.Readable (.str t) := .str (apart t member)
  cases r with
  | register username email password =>
    exact .register (built _ (by simp [texts])) (built _ (by simp [texts])) (built _ (by simp [texts]))
  | login username password => exact .login (built _ (by simp [texts])) (built _ (by simp [texts]))
  | logout => exact .logout
  | heartbeat => exact .heartbeat now
  | chat text => exact .chat (built _ (by simp [texts]))
  | privateMessage recipient text => exact .privateRequest (built _ (by simp [texts])) (built _ (by simp [texts]))
  | getHistory => exact .getHistory
  | getPrivateHistory username => exact .getPrivateHistory (built _ (by simp [texts]))
  | addContact username => exact .addContact (built _ (by simp [texts]))
  | getContacts => exact .getContacts

/-- The number of messages in a history can be read, as that of any history that fits into a memory can. -/
def Reply.Countable : Reply → Prop
  | .history messages => Json.Legible messages.length
  | .privateHistory _ messages => Json.Legible messages.length
  | _ => True

/-- A reply is built from texts and records. -/
theorem Reply.built {r : Reply} (apart : ∀ t ∈ r.texts, Json.Apart t) (countable : r.Countable) :
    Envelope.Built r.toJson := by
  have built (t : Text) (member : t ∈ r.texts) : Json.Readable (.str t) := .str (apart t member)
  cases r with
  | error message code => exact .error (built _ (by simp [texts])) (.str (Json.apart_ofString _))
  | registerSuccess user => exact .registerSuccess (User.readable apart)
  | loginSuccess user => exact .loginSuccess (User.readable apart)
  | logoutSuccess => exact .logoutSuccess
  | chat message => exact .broadcast (Message.readable apart)
  | system text now => exact .system (built _ (by simp [texts])) now
  | history messages =>
    refine .history (.arr ?_) (by rwa [List.length_map])
    intro v member
    obtain ⟨m, inside, rfl⟩ := List.mem_map.1 member
    exact Message.readable fun t own => apart t (List.mem_flatMap.2 ⟨m, inside, own⟩)
  | privateMessage d => exact Delivery.built apart
  | privateHistory username messages =>
    refine .privateHistory (built _ (by simp [texts])) (.arr ?_) (by rwa [List.length_map])
    intro v member
    obtain ⟨d, inside, rfl⟩ := List.mem_map.1 member
    exact (Delivery.built fun t own =>
      apart t (List.mem_cons_of_mem _ (List.mem_flatMap.2 ⟨d, inside, own⟩))).typed.readable
  | contactAdded username => exact .contactAdded (built _ (by simp [texts]))
  | contacts entries =>
    refine .contacts (.arr ?_)
    intro v member
    obtain ⟨c, inside, rfl⟩ := List.mem_map.1 member
    exact ContactStatus.readable (apart _ (List.mem_map.2 ⟨c, inside, rfl⟩))
  | onlineUsers usernames =>
    refine .onlineUsers (.arr ?_)
    intro v member
    obtain ⟨name, inside, rfl⟩ := List.mem_map.1 member
    exact built name inside
  | heartbeatAck now => exact .heartbeatAck now

namespace Envelope

/-- Whatever is built from texts, records and lists of records is carried by its line. That holds of every
reply that the server sends and of every request that the client writes to its connection, as long as no two halves
that make up a character stand together in their texts; in a string there are none. -/
theorem lines_carry_messages :
    (∀ payload, Built payload → Carries (lineBytes payload) payload) ∧
    (∀ reply : Reply, (∀ t ∈ reply.texts, Json.Apart t) → reply.Countable →
      Carries (Text.toUtf8 (Server.lineOf reply)) reply.toJson) ∧
    ∀ (session : Client.Session) (channel : Client.Channel) (now : Instant) (request : Request),
      (∀ t ∈ request.texts, Json.Apart t) → session.channel = some channel → channel.broken = false →
      ∃ line, (session.send now (some request)).2.channel = some { channel with sent := channel.sent ++ [line] } ∧
        Carries (Text.toUtf8 line) (request.toJson now) := by
  have carried : ∀ payload, Built payload → Carries (lineBytes payload) payload := fun _ built =>
    carries_of_typed built.typed
  refine ⟨carried, fun reply apart countable => carried _ (Reply.built apart countable), ?_⟩
  intro session channel now request apart connected working
  refine ⟨Client.Session.lineOf now (some request), ?_, carried _ (Request.built now apart)⟩
  rw [Client.Session.send, Client.Session.write, connected]
  simp only [working, Bool.false_eq_true, if_false]

/-- A text with quotes, backslashes, line feeds and a character above U+FFFF, on its way to the server and
in a history. -/
theorem lines_carry_messages_of_hostile_text :
    let text := Text.ofString "\"\\\n\", \"type\": \"logout😀"
    let session := { Client.Session.start "localhost" 8888 [] with channel := some ⟨false, []⟩ }
    let message : Message := ⟨"mallory", text, ⟨0⟩⟩
    (Built (chat (.str text)) ∧ Carries (lineBytes (chat (.str text))) (chat (.str text))) ∧
      ((Reply.history [message]).Countable ∧
        Carries (Text.toUtf8 (Server.lineOf (.history [message]))) (history [.obj message.fields])) ∧
      ∃ line, (session.send ⟨0⟩ (some (.chat text))).2.channel = some ⟨false, [line]⟩ ∧
        Carries (Text.toUtf8 line) (chat (.str text)) := by
  intro text session message
  have apart : Json.Apart text := Json.apart_ofString _
  have built : Built (chat (.str text)) := .chat (.str apart)
  have countable : (Reply.history [message]).Countable := Json.legible_of_lt (by decide)
  exact ⟨⟨built, lines_carry_messages.1 _ built⟩,
    ⟨countable,
      lines_carry_messages.2.1 (.history [message]) (by simp [Reply.texts, Message.texts, message, apart]) countable⟩,
    lines_carry_messages.2.2 session ⟨false, []⟩ ⟨0⟩ (.chat text) (by simp [Request.texts, apart]) rfl rfl⟩

end Envelope

end ChatService
