import ChatService.Proofs.Server.Replicas

/-!
# Broken clients

A connection that cannot be written to, or that fails to close, concerns nobody else. The
server with such a connection mended does the same, apart from what that connection itself
receives and from the reports of the failures; so two runs in which one connection fails at
different times go on side by side.
-/

namespace ChatService

namespace Server

variable {bad connection : String} {s s' start : Server} {events events' : List ServerEvent} {now : Instant}

/-! ## What others see -/

/-- The report that closing a connection failed. -/
def closeFailure (bad : String) : ServerEvent :=
  .logged (.debug ("Error closing connection_id=" ++ bad ++ ": broken close"))

/-- Whether a connection receives something, or writing to it or closing it is reported as failed. -/
def concerns (bad : String) (e : ServerEvent) : Bool :=
  match e with
  | .sent c _ => c = bad
  | _ => e ∈ closeFailure bad :: failures bad

/-- Everything that does not concern a connection. -/
def elsewhere (bad : String) (events : List ServerEvent) : List ServerEvent := events.filter (!concerns bad ·)

@[simp] theorem elsewhere_nil : elsewhere bad [] = [] := rfl

@[simp] theorem elsewhere_append (events events' : List ServerEvent) :
    elsewhere bad (events ++ events') = elsewhere bad events ++ elsewhere bad events' := List.filter_append ..

@[simp] theorem elsewhere_cons (e : ServerEvent) (events : List ServerEvent) :
    elsewhere bad (e :: events) =
      if concerns bad e then elsewhere bad events else e :: elsewhere bad events := by
  simp only [elsewhere, List.filter_cons]
  cases concerns bad e <;> rfl

/-- Other connections receive the same as elsewhere. -/
theorem received_elsewhere (other : connection ≠ bad) (events : List ServerEvent) :
    received connection (elsewhere bad events) = received connection events := by
  induction events with
  | nil => rfl
  | cons e rest ih =>
    rw [elsewhere_cons]
    cases e with
    | sent c r =>
      split
      · next mine =>
        have here : c = bad := by simpa [concerns] using mine
        rw [ih, received_sent, if_neg fun same => other (same.symm.trans here), List.nil_append]
      · rw [received_sent, received_sent, ih]
    | logged line => split <;> exact ih
    | fetched address => split <;> exact ih

/-! ## Mending -/

/-- A connection that works, if it is the one. -/
def mend (bad c : String) (client : Connection) : Connection :=
  if c = bad then { client with broken := false, closeFails := false } else client

/-- The server where everything works with one connection. -/
def mended (bad : String) (s : Server) : Server := { s with clients := s.clients.map (mend bad) }

@[simp] theorem waiting_mend (c : String) (client : Connection) :
    (mend bad c client).waiting = client.waiting := by
  unfold mend
  split <;> rfl

theorem mend_of_ne {c : String} (other : c ≠ bad) (client : Connection) : mend bad c client = client :=
  if_neg other

theorem mend_mend (c : String) (client : Connection) :
    mend bad c (mend bad c client) = mend bad c client := by
  by_cases here : c = bad <;> simp [mend, here]

@[simp] theorem mended_mended (bad : String) (s : Server) : (s.mended bad).mended bad = s.mended bad := by
  simp only [mended, Table.map_map, mend_mend]

theorem find?_mended (bad : String) (s : Server) (c : String) :
    (s.mended bad).clients.find? c = (s.clients.find? c).map (mend bad c) := Table.find?_map ..

/-! ## Writing -/

theorem elsewhere_sendTo (clients : Table String Connection) (c : String) (r : Reply) :
    elsewhere bad (sendTo (clients.map (mend bad)) c r).2 = elsewhere bad (sendTo clients c r).2 := by
  by_cases here : c = bad
  · subst here
    have nothing (clients : Table String Connection) : elsewhere c (sendTo clients c r).2 = [] := by
      cases found : clients.find? c with
      | none => simp [sendTo, found]
      | some client => cases broken : client.broken <;> simp [sendTo, found, broken, concerns, failures]
    rw [nothing, nothing]
  · simp only [sendTo, Table.find?_map]
    cases clients.find? c with
    | none => rfl
    | some client => simp only [Option.map_some, mend_of_ne here]

theorem elsewhere_entries (entries : List (String × Connection)) (r : Reply) :
    elsewhere bad ((entries.map fun e => (e.1, mend bad e.1 e.2)).map (written r)) =
      elsewhere bad (entries.map (written r)) := by
  -- Whatever becomes of a write to the connection itself, it concerns nobody else.
  have mine (client : Connection) : concerns bad (written r (bad, client)) = true := by
    cases broken : client.broken <;> simp [written, broken, concerns, failures]
  induction entries with
  | nil => rfl
  | cons entry rest ih =>
    obtain ⟨c, client⟩ := entry
    simp only [List.map_cons, elsewhere_cons, ih]
    by_cases here : c = bad
    · subst here
      rw [if_pos (mine _), if_pos (mine _)]
    · rw [mend_of_ne here]

theorem elsewhere_broadcast (clients : Table String Connection) (r : Reply) :
    elsewhere bad (broadcast (clients.map (mend bad)) r) = elsewhere bad (broadcast clients r) := by
  have entries : elsewhere bad ((clients.map (mend bad)).entries.map (written r)) =
      elsewhere bad (clients.entries.map (written r)) := elsewhere_entries clients.entries r
  simp only [broadcast_eq, Table.keys_map, elsewhere_cons, entries]

theorem elsewhere_performAll (clients : Table String Connection) (effects : List Effect) :
    elsewhere bad (performAll (clients.map (mend bad)) effects) =
      elsewhere bad (performAll clients effects) := by
  induction effects with
  | nil => rfl
  | cons e rest ih =>
    have first : elsewhere bad (perform (clients.map (mend bad)) e) = elsewhere bad (perform clients e) := by
      cases e with
      | caller c r | «to» c r => exact elsewhere_sendTo clients c r
      | all r => exact elsewhere_broadcast clients r
      | log | fetched | raised => rfl
    rw [performAll, performAll, List.flatMap_cons, List.flatMap_cons, elsewhere_append, elsewhere_append, first]
    exact congrArg _ ih

/-! ## What a server does -/

/-- A server and what could be seen, but for the failures of a connection and what it receives. -/
def besides (bad : String) (r : Server × List ServerEvent) : Server × List ServerEvent :=
  (r.1.mended bad, elsewhere bad r.2)

/-- Where mending makes no difference, servers that are the same when mended do the same. -/
theorem besides_congr {f : Server → Server × List ServerEvent}
    (mends : ∀ s, besides bad (f (s.mended bad)) = besides bad (f s)) (same : s.mended bad = s'.mended bad) :
    besides bad (f s) = besides bad (f s') := by
  rw [← mends s, ← mends s', same]

/-- One thing after the other, on both sides. -/
theorem besides_then {f : Server → Server × List ServerEvent} {r r' : Server × List ServerEvent}
    (first : besides bad r = besides bad r')
    (mends : ∀ s, besides bad (f (s.mended bad)) = besides bad (f s)) :
    besides bad ((f r.1).1, r.2 ++ (f r.1).2) = besides bad ((f r'.1).1, r'.2 ++ (f r'.1).2) := by
  have second := besides_congr mends (congrArg Prod.fst first)
  have servers := congrArg Prod.fst second
  refine Prod.ext servers ?_
  show elsewhere bad (r.2 ++ _) = elsewhere bad (r'.2 ++ _)
  rw [elsewhere_append, elsewhere_append]
  exact congrArg₂ _ (congrArg Prod.snd first) (congrArg Prod.snd second)

/-- A report or a last word before something else. -/
theorem besides_after {r r' : Server × List ServerEvent} (word word' : List ServerEvent)
    (same : besides bad r = besides bad r') (said : elsewhere bad word = elsewhere bad word') :
    besides bad (r.1, word ++ r.2) = besides bad (r'.1, word' ++ r'.2) := by
  have servers := congrArg Prod.fst same
  refine Prod.ext servers ?_
  show elsewhere bad (word ++ r.2) = elsewhere bad (word' ++ r'.2)
  rw [elsewhere_append, elsewhere_append, said]
  exact congrArg _ (congrArg Prod.snd same)

theorem besides_handleLine (s : Server) (line : List UInt8) :
    besides bad ((s.mended bad).handleLine now connection line) =
      besides bad (s.handleLine now connection line) := by
  unfold handleLine
  cases Incoming.ofLine line with
  | malformed =>
    refine Prod.ext (mended_mended bad s) ?_
    simp only [besides, mended, elsewhere_cons, elsewhere_sendTo]
  | unreadable => exact Prod.ext (mended_mended bad s) rfl
  | untyped => exact Prod.ext (mended_mended bad s) rfl
  | message type fields =>
    simp only
    cases Request.ofFields? type fields with
    | none => exact Prod.ext (mended_mended bad s) rfl
    | some request =>
      refine Prod.ext (mended_mended bad { s with hub := (s.hub.answer now connection request).hub }) ?_
      simp only [besides, mended, elsewhere_cons, elsewhere_performAll]

theorem besides_handleLines (s : Server) (lines : List (List UInt8)) :
    besides bad ((s.mended bad).handleLines now connection lines) =
      besides bad (s.handleLines now connection lines) := by
  induction lines generalizing s with
  | nil => exact Prod.ext (mended_mended bad s) rfl
  | cons line rest ih =>
    exact besides_then (f := (·.handleLines now connection rest)) (besides_handleLine s line) ih

theorem besides_close (s : Server) :
    besides bad ((s.mended bad).close now connection) = besides bad (s.close now connection) := by
  have erased : (s.clients.map (mend bad)).erase connection = (s.clients.erase connection).map (mend bad) :=
    (Table.map_erase ..).symm
  refine Prod.ext ?_ ?_
  · simp only [besides, close, drop, release, mended, erased, Table.map_map, mend_mend]
  · simp only [besides, close, drop, release, mended, erased, elsewhere_append, elsewhere_performAll, Table.find?_map]
    congr 1
    cases s.clients.find? connection with
    | none => rfl
    | some client =>
      by_cases here : connection = bad
      · -- A failure to close is left out as well.
        subst here
        cases fails : client.closeFails <;> simp [closingNotes, mend, fails, concerns, closeFailure]
      · simp only [Option.map_some, mend_of_ne here]

theorem besides_refuseLine (s : Server) :
    besides bad ((s.mended bad).refuseLine now connection) = besides bad (s.refuseLine now connection) := by
  refine besides_after (refusal _ _) (refusal _ _) (besides_close s) ?_
  simp only [refusal, mended, elsewhere_cons, elsewhere_sendTo]

/-- Tables in which a connection is entered in the same way, as far as mending does not level it. -/
theorem map_mend_insert (clients : Table String Connection) {client client' : Connection}
    (same : mend bad connection client' = mend bad connection client) :
    ((clients.map (mend bad)).insert connection client').map (mend bad) =
      (clients.insert connection client).map (mend bad) := by
  simp only [Table.map_insert, Table.map_map, mend_mend, same]

theorem besides_change {client client' : Connection}
    (same : mend bad connection client' = mend bad connection client) :
    besides bad ({ s.mended bad with clients := (s.mended bad).clients.insert connection client' }, []) =
      besides bad ({ s with clients := s.clients.insert connection client }, []) := by
  simp only [besides, mended, map_mend_insert _ same]

theorem besides_settle (s : Server) (waiting : List UInt8) :
    besides bad ((s.mended bad).settle now connection waiting) =
      besides bad (s.settle now connection waiting) := by
  simp only [settle, show (s.mended bad).limit = s.limit from rfl, find?_mended]
  cases nextLine s.limit waiting with
  | oversized => exact besides_refuseLine s
  | line | unfinished =>
    cases s.clients.find? connection with
    | none => exact Prod.ext (mended_mended bad s) rfl
    | some client => exact besides_change (by grind [mend])

theorem besides_drain (s : Server) (waiting : List UInt8) :
    besides bad ((s.mended bad).drain now connection waiting) =
      besides bad (s.drain now connection waiting) := by
  simp only [drain_eq, show (s.mended bad).limit = s.limit from rfl]
  exact besides_then (f := (·.settle now connection _)) (besides_handleLines s _) fun s => besides_settle s _

theorem besides_occur (s : Server) (o : Occurrence) :
    besides bad ((s.mended bad).occur now connection o) = besides bad (s.occur now connection o) := by
  simp only [occur, receive, find?_mended]
  cases s.clients.find? connection with
  | none => exact Prod.ext (mended_mended bad s) rfl
  | some client =>
    simp only [Option.map_some, waiting_mend]
    cases o with
    | bytes content => exact besides_drain s _
    | endOfFile =>
      simp only
      split
      · exact besides_close s
      · exact besides_then (f := (·.close now connection)) (besides_handleLine s _) besides_close
    | reset | cancel => exact besides_after [.logged _] [.logged _] (besides_close s) rfl
    | breakWriting | breakClosing => exact besides_change (by grind [mend])

/-- A connection that opens, working or not. -/
theorem besides_accept (s : Server) (peer : String) {broken broken' : Bool}
    (same : broken' = broken ∨ s.hub.store.nextId.text = bad) :
    besides bad ((s.mended bad).meet now (.accept peer broken')) =
      besides bad (s.meet now (.accept peer broken)) := by
  have mends : mend bad s.hub.store.nextId.text ⟨[], broken', false⟩ =
      mend bad s.hub.store.nextId.text ⟨[], broken, false⟩ := by
    grind [mend]
  have level := map_mend_insert s.clients mends
  refine Prod.ext ?_ ?_
  · simp only [besides, meet, accept, mended, level]
  · simp only [besides, meet, accept, mended, elsewhere_cons]
    rw [← elsewhere_performAll, level, elsewhere_performAll]

theorem besides_meet (s : Server) (incident : Incident) :
    besides bad ((s.mended bad).meet now incident) = besides bad (s.meet now incident) := by
  cases incident with
  | accept peer broken => exact besides_accept s peer (.inl rfl)
  | occur connection o => exact besides_occur s o

/-! ## Two runs -/

/-- When a connection begins to fail, nothing changes besides. -/
theorem besides_fault (s : Server) (events : List ServerEvent) (now : Instant) {fault : Occurrence}
    (isFault : fault = .breakWriting ∨ fault = .breakClosing) :
    besides bad ((s.occur now bad fault).1, events ++ (s.occur now bad fault).2) = besides bad (s, events) := by
  cases found : s.clients.find? bad with
  | none => simp only [occur, found, List.append_nil]
  | some client =>
    have kept (client' : Connection) (same : mend bad bad client' = mend bad bad client) :
        (s.clients.insert bad client').map (mend bad) = s.clients.map (mend bad) := by
      rw [Table.map_insert, same]
      exact Table.insert_of_find? (by rw [Table.find?_map, found]; rfl)
    rcases isFault with rfl | rfl
    · have level := kept { client with broken := true } (by simp [mend])
      simp only [occur, found, besides, mended, level, List.append_nil]
    · have level := kept { client with closeFails := true } (by simp [mend])
      simp only [occur, found, besides, mended, level, List.append_nil]

/-- Two runs of one server side by side, each with what could be seen. The same happens in both, at the same
times, but for the failures of one connection: it may be broken from the start, writing to it may begin to fail
at any moment, and closing it may fail, in each run as it likes. -/
inductive Abreast (bad : String) (start : Server) : List ServerEvent → Server → List ServerEvent → Server → Prop
  | nothing : Abreast bad start [] start [] start
  | both {events events' : List ServerEvent} {s s' : Server} (earlier : Abreast bad start events s events' s')
      (now : Instant) (incident : Incident) :
      Abreast bad start (events ++ (s.meet now incident).2) (s.meet now incident).1
        (events' ++ (s'.meet now incident).2) (s'.meet now incident).1
  /-- The connection opens, broken or not. -/
  | opens {events events' : List ServerEvent} {s s' : Server} (earlier : Abreast bad start events s events' s')
      (now : Instant) (peer : String) (broken broken' : Bool) (drawn : s.hub.store.nextId.text = bad) :
      Abreast bad start (events ++ (s.meet now (.accept peer broken)).2) (s.meet now (.accept peer broken)).1
        (events' ++ (s'.meet now (.accept peer broken')).2) (s'.meet now (.accept peer broken')).1
  /-- The connection begins to fail in the first run alone. -/
  | first {events events' : List ServerEvent} {s s' : Server} (earlier : Abreast bad start events s events' s')
      (now : Instant) {fault : Occurrence} (isFault : fault = .breakWriting ∨ fault = .breakClosing) :
      Abreast bad start (events ++ (s.meet now (.occur bad fault)).2) (s.meet now (.occur bad fault)).1
        events' s'
  /-- The connection begins to fail in the second run alone. -/
  | second {events events' : List ServerEvent} {s s' : Server} (earlier : Abreast bad start events s events' s')
      (now : Instant) {fault : Occurrence} (isFault : fault = .breakWriting ∨ fault = .breakClosing) :
      Abreast bad start events s (events' ++ (s'.meet now (.occur bad fault)).2)
        (s'.meet now (.occur bad fault)).1

/-- Each side is a run by itself. -/
theorem Abreast.runs (abreast : Abreast bad start events s events' s') :
    (∃ messages, Run start messages events s) ∧ ∃ messages', Run start messages' events' s' := by
  induction abreast with
  | nothing => exact ⟨⟨_, .nothing⟩, _, .nothing⟩
  | both _ now incident ih =>
    obtain ⟨⟨_, run⟩, _, run'⟩ := ih
    exact ⟨⟨_, run.step now incident⟩, _, run'.step now incident⟩
  | opens _ now peer broken broken' _ ih =>
    obtain ⟨⟨_, run⟩, _, run'⟩ := ih
    exact ⟨⟨_, run.step now (.accept peer broken)⟩, _, run'.step now (.accept peer broken')⟩
  | first _ now _ ih =>
    obtain ⟨⟨_, run⟩, run'⟩ := ih
    exact ⟨⟨_, run.step now _⟩, run'⟩
  | second _ now _ ih =>
    obtain ⟨run, _, run'⟩ := ih
    exact ⟨run, _, run'.step now _⟩

/-- Both sides stay the same besides the failing connection. -/
theorem Abreast.besides (abreast : Abreast bad start events s events' s') :
    besides bad (s, events) = besides bad (s', events') := by
  induction abreast with
  | nothing => rfl
  | both _ now incident ih => exact besides_then (f := (·.meet now incident)) ih fun s => besides_meet s incident
  | @opens events events' s s' _ now peer broken broken' drawn ih =>
    have same : s.mended bad = s'.mended bad := congrArg Prod.fst ih
    have hubs : (s.mended bad).hub = (s'.mended bad).hub := by rw [same]
    have drawn' : s'.hub.store.nextId.text = bad := by rwa [show s'.hub = s.hub from hubs.symm]
    have opened : Server.besides bad (s.meet now (.accept peer broken)) =
        Server.besides bad (s'.meet now (.accept peer broken')) := by
      rw [← besides_accept s peer (.inl rfl), same, besides_accept s' peer (.inr drawn')]
    exact besides_after events events' opened (congrArg Prod.snd ih)
  | first _ now isFault ih => exact (besides_fault _ _ now isFault).trans ih
  | second _ now isFault ih => exact ih.trans (besides_fault _ _ now isFault).symm

/-- A broken client disturbs nobody. Take two runs of a server in which the same happens at the same times, but
for the failures of one connection. At every moment the hub is the same in both, with its store and all sessions,
and the same connections are open; every other connection has received the same replies in the same order; and
what could be seen differs only in what the failing connection receives and in the reports that writing to it or
closing it failed. -/
theorem broken_client_disturbs_nobody (abreast : Abreast bad start events s events' s') :
    s'.hub = s.hub ∧ s'.clients.keys = s.clients.keys ∧
      (∀ c, c ≠ bad → s'.clients.find? c = s.clients.find? c ∧ received c events' = received c events) ∧
      elsewhere bad events' = elsewhere bad events := by
  have same : s'.mended bad = s.mended bad := (congrArg Prod.fst abreast.besides).symm
  have seen : elsewhere bad events' = elsewhere bad events := (congrArg Prod.snd abreast.besides).symm
  have hubs := congrArg Server.hub same
  have keys := congrArg (·.clients.keys) same
  simp only [mended, Table.keys_map] at hubs keys
  refine ⟨hubs, keys, fun c other => ⟨?_, ?_⟩, seen⟩
  · have found := congrArg (·.clients.find? c) same
    have level : mend bad c = id := funext (mend_of_ne other)
    simpa only [find?_mended, level, Option.map_id, id] using found
  · rw [← received_elsewhere other, seen, received_elsewhere other]

/-- The first of two clients logs in and is cut off. In one run it is broken from the start, in the other it works
until it fails to close. -/
theorem broken_client_disturbs_nobody_of_silence :
    let hub := (Hub.create (.empty .plain 5 5) (.empty 60 Instant.uptime) ⟨[], []⟩ .default).advance
      [⟨⟨1⟩, "before", .register (some "alice") (some "a@x") (some "secret")⟩]
    let bad := (Id.ofNumber 2).text
    let bystander := (Id.ofNumber 3).text
    ∃ events s events' s', Abreast bad (create hub defaultLimit) events s events' s' ∧
      ((∃ messages, Run (create hub defaultLimit) messages events s) ∧
        ∃ messages', Run (create hub defaultLimit) messages' events' s') ∧
      (received bad events = [] ∧ (received bad events').length = 3 ∧
        received bystander events = [.history [], .onlineUsers ["alice"], .onlineUsers []]) ∧
      received bystander events' = received bystander events ∧ s'.hub = s.hub := by
  intro hub bad bystander
  have opened : Abreast bad (create hub defaultLimit) _ _ _ _ :=
    .opens .nothing ⟨2⟩ "here" true false (by decide +kernel)
  have joined := opened.both ⟨3⟩ (.accept "there" false)
  have loggedIn := joined.both ⟨4⟩ (.occur bad (.bytes (Request.login "alice" "secret").line))
  have failing := loggedIn.second ⟨5⟩ (.inr rfl)
  have ended := failing.both ⟨6⟩ (.occur bad .cancel)
  obtain ⟨hubs, -, others, -⟩ := broken_client_disturbs_nobody ended
  exact ⟨_, _, _, _, ended, ended.runs, by decide +kernel, (others bystander (by decide +kernel)).2, hubs⟩

end Server

end ChatService
