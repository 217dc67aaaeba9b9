import ChatService.Client.Session
import ChatService.Proofs.Server.Unusable

/-!
# Typed lines are carried out

A line that the user types becomes a request, the request an object, the object a line of
bytes, and the server turns these bytes back into one operation of the hub. The object
names that operation in so many words: by its type, with its fields as the arguments.
-/

namespace ChatService

/-! ## What an object names -/

/-- A field that holds a text. -/
def Json.text? (v : Json) (key : String) : Option Text :=
  match v.field? key with
  | some (.str text) => some text
  | _ => none

/-- The operation that an object names. All fields that belong to its type have to be there, and to hold texts. -/
def Hub.Operation.named? (v : Json) : Option Hub.Operation := do
  let type ← v.text? "type"
  match ← type.string? with
  | "register" => return .register (← v.text? "username") (← v.text? "email") (← v.text? "password")
  | "login" => return .login (← v.text? "username") (← v.text? "password")
  | "logout" => return .logout
  | "heartbeat" => return .heartbeat
  | "chat" => return .message (← v.text? "text")
  | "private_message" => return .sendPrivate (← v.text? "to") (← v.text? "text")
  | "get_history" => return .getHistory
  | "get_private_history" => return .getPrivateHistory (← v.text? "with")
  | "add_contact" => return .addContact (← v.text? "username")
  | "get_contacts" => return .getContacts
  | _ => none

theorem Request.named?_toJson (now : Instant) (request : Request) :
    Hub.Operation.named? (request.toJson now) = some (.ofRequest request) := by
  cases request <;> rfl

/-- The server finds the request in the line that carries it. -/
theorem Request.ofLine_bodyBytes (now : Instant) {request : Request} (apart : ∀ t ∈ request.texts, Json.Apart t) :
    ∃ type fields, Incoming.ofLine (bodyBytes (request.toJson now)) = .message type fields ∧
      (request.toJson now).text? "type" = some type ∧ Request.ofFields? type fields = some request := by
  have typed := (request.built now apart).typed
  obtain ⟨type, fields, object, named, held⟩ := (carries_of_typed typed).server
  rw [lineBytes_eq typed.readable, List.dropLast_concat] at held
  refine ⟨type, fields, held, ?_⟩
  cases request <;> cases object <;> cases named <;> exact ⟨rfl, rfl⟩

/-! ## The server's part -/

namespace Server

variable {s : Server} {connection : String} {client : Connection} {request : Request}

/-- A line that carries a request is carried out by the hub, and what the hub does is delivered. -/
theorem handleLine_of_request {line : List UInt8} {type : Text} {fields : List (Text × Json)}
    (message : Incoming.ofLine line = .message type fields) (asked : Request.ofFields? type fields = some request)
    (now : Instant) :
    s.handleLine now connection line =
      ({ s with hub := (s.hub.perform ⟨now, connection, .ofRequest request⟩).hub },
        .logged (.debug ("Received from connection_id=" ++ connection ++ ": " ++ type)) ::
          performAll s.clients (s.hub.perform ⟨now, connection, .ofRequest request⟩).effects) := by
  simp only [handleLine, message, asked, Hub.answer_eq_perform]

/-- A request that arrives as one line is the one thing that the server does then. -/
theorem occur_lineBytes (apart : ∀ t ∈ request.texts, Json.Apart t)
    (isOpen : s.clients.find? connection = some client) (idle : client.waiting = [])
    (sent now : Instant) (small : (bodyBytes (request.toJson sent)).length ≤ s.limit) :
    ∃ type, (request.toJson sent).text? "type" = some type ∧
      s.occur now connection (.bytes (lineBytes (request.toJson sent))) =
        ({ s with hub := (s.hub.perform ⟨now, connection, .ofRequest request⟩).hub },
          .logged (.debug ("Received from connection_id=" ++ connection ++ ": " ++ type)) ::
            performAll s.clients (s.hub.perform ⟨now, connection, .ofRequest request⟩).effects) := by
  have readable := (request.built sent apart).typed.readable
  have whole : lineFeed ∉ bodyBytes (request.toJson sent) := fun feed => (body_byte readable feed).2 rfl
  obtain ⟨type, fields, message, named, asked⟩ := Request.ofLine_bodyBytes sent apart
  rw [occur_bytes, lineBytes_eq readable, receive_line isOpen idle whole small]
  exact ⟨type, named, handleLine_of_request message asked now⟩

end Server

/-! ## The client's part -/

namespace Client

variable {line : String} {request : Request}

/-- Neither an empty line nor the line that ends the session asks for anything. -/
theorem ne_quit_of_parseInput (asked : parseInput line = some request) :
    ¬(line = "" ∨ Text.strip line.toList = ":quit".toList) := by
  have nothing : parseInput line ≠ none := by simp [asked]
  rintro (rfl | quit)
  · exact nothing (by decide)
  · exact nothing (by rw [parseInput, quit]; decide)

theorem isHalf_of_mem_join {separator : Text} {parts : List Text} (between : ∀ c ∈ separator, c.isHalf = false)
    (whole : ∀ t ∈ parts, ∀ c ∈ t, c.isHalf = false) : ∀ c ∈ Text.join separator parts, c.isHalf = false := by
  induction parts with
  | nil => simp [Text.join]
  | cons first rest ih =>
    obtain ⟨here, later⟩ := List.forall_mem_cons.1 whole
    cases rest with
    | nil => simpa [Text.join] using here
    | cons second rest =>
      have behind := ih later
      rw [Text.join] at behind ⊢
      rw [List.intercalate_cons_cons, List.forall_mem_append, List.forall_mem_append]
      exact ⟨⟨here, between⟩, behind⟩

/-- The texts of a request that was typed hold no halves. -/
theorem isHalf_of_parseInput (asked : parseInput line = some request) :
    ∀ t ∈ request.texts, ∀ c ∈ t, c.isHalf = false := by
  have whole (text : List Char) : ∀ c ∈ Text.ofChars text, c.isHalf = false := by
    rw [← Text.ofString_ofList]
    exact fun _ => Text.isHalf_of_mem_ofString
  have commands {command : String} {arguments : List Text} (given : ∀ t ∈ arguments, ∀ c ∈ t, c.isHalf = false)
      (asked : requestOf? command arguments = some request) : ∀ t ∈ request.texts, ∀ c ∈ t, c.isHalf = false := by
    unfold requestOf? at asked
    split at asked
    case h_4 recipient first others =>
      cases asked
      obtain ⟨named, texts⟩ := List.forall_mem_cons.1 given
      exact List.forall_mem_cons.2 ⟨named, List.forall_mem_singleton.2
        (isHalf_of_mem_join (fun _ => Text.isHalf_of_mem_ofString) texts)⟩
    all_goals cases asked
    all_goals first | exact given | exact List.forall_mem_nil _
  unfold parseInput at asked
  split at asked
  · cases asked
  · split at asked
    · exact commands (List.forall_mem_map.2 fun text _ => whole text) asked
    · cases asked
  · cases asked
    exact List.forall_mem_singleton.2 (whole _)

theorem apart_of_parseInput (asked : parseInput line = some request) : ∀ t ∈ request.texts, Json.Apart t := by
  intro t member
  obtain ⟨s, rfl⟩ := Text.exists_ofString_iff.2 (isHalf_of_parseInput asked t member)
  exact Json.apart_ofString s

/-- The client writes the line of the request, and nothing else, to the connection it has. -/
theorem typeLines_of_parseInput (asked : parseInput line = some request) (now : Instant) {session : Session}
    {channel : Channel} (connected : session.channel = some channel) (works : channel.broken = false) :
    Session.typeLines now [line] session =
      { session with
        channel := some { channel with sent := channel.sent ++ [(request.toJson now).wireText ++ "\n"] } } := by
  simp only [Session.typeLines, if_neg (ne_quit_of_parseInput asked), asked, Session.send, Session.write, connected,
    works, Bool.false_eq_true, if_false, Session.lineOf, Option.map_some, Option.getD_some, ite_self]

/-- What the user types is what the hub carries out. A line that asks for something is sent as one line, and
the object on it names an operation of the hub: by its type, with its fields as the arguments, each of them there.
Where this line arrives within the limit on an open connection on which nothing waits, the server carries
out this one operation for this connection, and apart from a note in the log shows what the operation does. -/
theorem typed_lines_are_carried_out {line : String} {request : Request} (asked : parseInput line = some request)
    (sent : Instant) :
    (∀ (session : Session) (channel : Channel), session.channel = some channel → channel.broken = false →
      Session.typeLines sent [line] session =
        { session with
          channel := some { channel with sent := channel.sent ++ [(request.toJson sent).wireText ++ "\n"] } }) ∧
    ∃ type operation, (request.toJson sent).text? "type" = some type ∧
      Hub.Operation.named? (request.toJson sent) = some operation ∧
      ∀ (s : Server) (connection : String) (client : Connection) (now : Instant),
        s.clients.find? connection = some client → client.waiting = [] →
        (bodyBytes (request.toJson sent)).length ≤ s.limit →
        s.occur now connection (.bytes (lineBytes (request.toJson sent))) =
          ({ s with hub := (s.hub.perform ⟨now, connection, operation⟩).hub },
            .logged (.debug ("Received from connection_id=" ++ connection ++ ": " ++ type)) ::
              Server.performAll s.clients (s.hub.perform ⟨now, connection, operation⟩).effects) := by
  refine ⟨fun _ _ connected works => typeLines_of_parseInput asked sent connected works, ?_⟩
  have apart := apart_of_parseInput asked
  obtain ⟨type, _, _, named, _⟩ := Request.ofLine_bodyBytes sent apart
  refine ⟨type, .ofRequest request, named, request.named?_toJson sent, fun s connection client now isOpen idle small => ?_⟩
  obtain ⟨type', named', executed⟩ := Server.occur_lineBytes apart isOpen idle sent now small
  cases Option.some.inj (named.symm.trans named')
  exact executed

/-- Capitals, quotes, a backslash and a text beyond ASCII, on a connection that is not logged in. -/
theorem typed_lines_are_carried_out_of_quoted_words :
    let line := "  :PM 'ann b' so\\ na \"🎉 \\u0041\" "
    let request := Request.privateMessage "ann b" "so na 🎉 \\u0041"
    let s := ((Server.create (.create (.empty .plain 5 5) (.empty 60 Instant.uptime) ⟨[], []⟩ .default) 100).accept
      "here" false).1
    let connection := (Id.ofNumber 1).text
    let operation := Hub.Operation.sendPrivate (some "ann b") (some "so na 🎉 \\u0041")
    parseInput line = some request ∧
      Hub.Operation.named? (request.toJson ⟨2⟩) = some operation ∧
      Server.shown (Server.performAll s.clients (s.hub.perform ⟨⟨3⟩, connection, operation⟩).effects) =
        [.sent connection (.ofFailure Refusal.notLoggedIn.failure)] ∧
      s.occur ⟨3⟩ connection (.bytes (lineBytes (request.toJson ⟨2⟩))) =
        ({ s with hub := (s.hub.perform ⟨⟨3⟩, connection, operation⟩).hub },
          .logged (.debug ("Received from connection_id=" ++ connection ++ ": " ++ "private_message")) ::
            Server.performAll s.clients (s.hub.perform ⟨⟨3⟩, connection, operation⟩).effects) := by
  intro line request s connection operation
  have asked : parseInput line = some request := by decide +kernel
  obtain ⟨-, type, carried, named, which, executed⟩ := typed_lines_are_carried_out asked ⟨2⟩
  cases Option.some.inj named
  cases Option.some.inj which
  refine ⟨asked, rfl, by decide +kernel, ?_⟩
  exact executed s connection ⟨[], false, false⟩ ⟨3⟩ (by decide +kernel) rfl (by decide +kernel)

end Client

end ChatService
