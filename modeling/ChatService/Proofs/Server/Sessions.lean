import ChatService.Proofs.Hub.Presence
import ChatService.Proofs.Server.Run

/-!
# Sessions and connections

Connections have identities that were drawn, and so do those that have sessions: none is
used twice. A connection whose session ends takes the session that it has along, and
nobody else's; everybody who can still be reached is told.
-/

namespace ChatService

theorem Id.text_ofNumber_ne_empty (n : Nat) : (Id.ofNumber n).text ≠ "" := by
  intro empty
  have length := congrArg (fun s : String => s.toList.length) empty
  simp only [Id.ofNumber, String.toList_ofList, List.length_append, List.length_replicate, String.toList_empty,
    List.length_nil] at length
  omega

namespace Store

variable {s : Store} {now : Instant} {connection : String}

theorem text_nextId_ne {id : Id} (drawn : s.Drawn id) : s.nextId.text ≠ id.text := by
  intro same
  have next : s.nextId = id := congrArg Id.mk same
  exact not_drawn_nextId s (next ▸ drawn)

theorem consistent_draw (consistent : Consistent s) : Consistent s.draw :=
  ⟨linked_draw consistent.toLinked, consistent.connected, consistent.named⟩

/-- Who is logged in is online. -/
theorem Consistent.mem_online_of_session? (consistent : Consistent s) {u : User}
    (session : s.session? connection = some u) : u.username ∈ s.online := by
  obtain ⟨id, bound, found⟩ := session?_eq_some_iff.1 session
  have on := consistent.connected bound found
  exact Store.mem_online_iff.2 ⟨id, u, found, (consistent.online_iff found).2 (by simp [on]), rfl⟩

/-- Who is online is logged in somewhere. -/
theorem Consistent.mem_online_iff_session (consistent : Consistent s) {name : Text} :
    name ∈ s.online ↔ ∃ connection u, s.session? connection = some u ∧ u.username = name := by
  constructor
  · intro online
    obtain ⟨id, u, found, online, same⟩ := Store.mem_online_iff.1 online
    obtain ⟨connection, on⟩ := Option.isSome_iff_exists.1 ((consistent.online_iff found).1 online)
    exact ⟨connection, u, session?_eq_some_iff.2 ⟨id, consistent.anchored found on, found⟩, same⟩
  · rintro ⟨connection, u, session, rfl⟩
    exact consistent.mem_online_of_session? session

/-- The account whose connection is left is offline. -/
theorem not_mem_online_disconnect (linked : Linked s) {u : User} (session : s.session? connection = some u) :
    u.username ∉ (s.disconnect now connection).2.online := by
  intro online
  obtain ⟨id, bound, found⟩ := session?_eq_some_iff.1 session
  obtain ⟨id', v, found', isOnline, same⟩ := Store.mem_online_iff.1 online
  rw [find?_disconnect linked, bound] at found'
  split at found'
  · obtain ⟨w, -, rfl⟩ := Option.map_eq_some_iff.1 found'
    cases isOnline
  · next other =>
    have mine := linked.byUsername.unique found found' same.symm
    exact other (congrArg some mine)

/-- Leaving a connection leaves every other session as it is. -/
theorem session?_disconnect_of_ne (consistent : Consistent s) {other : String} (ne : other ≠ connection) {u : User}
    (session : s.session? other = some u) : (s.disconnect now connection).2.session? other = some u := by
  obtain ⟨id, bound, found⟩ := session?_eq_some_iff.1 session
  have elsewhere : s.sessions.find? connection ≠ some id := by
    intro here
    have on := consistent.connected bound found
    rw [consistent.connected here found, Option.some.injEq] at on
    exact ne on.symm
  refine session?_eq_some_iff.2 ⟨id, ?_, ?_⟩
  · rw [sessions_disconnect consistent.toLinked, if_neg ne, bound]
  · rw [find?_disconnect consistent.toLinked, if_neg elsewhere, found]

end Store

namespace Server

variable {s s' start : Server} {messages : List Message} {events : List ServerEvent}

/-! ## The invariant -/

/-- The identity of a connection was drawn. -/
def Known (s : Server) (connection : String) : Prop := ∃ id, s.hub.store.Drawn id ∧ connection = id.text

/-- Connections have identities that were drawn, and so do those with sessions. -/
structure Identified (s : Server) : Prop where
  consistent : s.hub.store.Consistent
  drawn {connection : String} {client : Connection} : s.clients.find? connection = some client → s.Known connection
  known {connection : String} {id : Id} : s.hub.store.sessions.find? connection = some id → s.Known connection

theorem Known.named {connection : String} (known : s.Known connection) : connection ≠ "" := by
  obtain ⟨_, ⟨n, -, rfl⟩, rfl⟩ := known
  exact Id.text_ofNumber_ne_empty (n + 1)

/-- The identity that is drawn next is not known yet. -/
theorem not_known_nextId (s : Server) : ¬ s.Known s.hub.store.nextId.text :=
  fun ⟨_, drawn, same⟩ => Store.text_nextId_ne drawn same

theorem identified_create (hasher : Hasher) (maxHistory : Nat) (maxPrivateHistory : Int) (cache : Rates.Cache)
    (surroundings : BuiltIn.Surroundings) (chatLog : ChatLog) (limit : Nat) :
    Identified (create (.create (.empty hasher maxHistory maxPrivateHistory) cache surroundings chatLog) limit) where
  consistent := Store.consistent_empty hasher maxHistory maxPrivateHistory
  drawn isOpen := by cases isOpen
  known session := by cases session

/-- What the hub does for a connection that is known. -/
theorem Identified.perform (identified : Identified s) (step : Hub.Step) (known : s.Known step.connection) :
    Identified { s with hub := (s.hub.perform step).hub } := by
  have still {connection : String} (known : s.Known connection) :
      Known { s with hub := (s.hub.perform step).hub } connection :=
    known.imp fun id drawn => drawn.imp_left (Hub.drawn_perform s.hub step)
  refine ⟨Hub.consistent_perform identified.consistent known.named, fun isOpen => still (identified.drawn isOpen), ?_⟩
  intro connection id session
  rcases Hub.sessions_perform identified.consistent step session with rfl | before
  · exact still known
  · exact still (identified.known before)

theorem Identified.drop (identified : Identified s) (connection : String) : Identified (s.drop connection) where
  consistent := identified.consistent
  drawn isOpen := identified.drawn (Table.find?_of_find?_erase isOpen)
  known session := identified.known session

theorem Known.move {connection : String} (known : s.Known connection) (move : Move s messages events s') :
    s'.Known connection := by
  obtain ⟨id, drawn, rfl⟩ := known
  refine ⟨id, ?_, rfl⟩
  cases move with
  | note | complain | change => exact drawn
  | accept => exact drawn.draw
  | perform | close => exact Hub.drawn_perform s.hub _ drawn

theorem Identified.move (identified : Identified s) (move : Move s messages events s') : Identified s' := by
  cases move with
  | note | complain => exact identified
  | perform step isOpen => exact identified.perform step (identified.drawn isOpen)
  | @change place client isOpen client' _ =>
    refine ⟨identified.consistent, ?_, identified.known⟩
    intro connection found isOpen'
    rw [Table.find?_insert] at isOpen'
    split at isOpen'
    · next here =>
      rw [here]
      exact identified.drawn isOpen
    · exact identified.drawn isOpen'
  | accept broken =>
    have still {connection : String} (known : s.Known connection) := known.move (Move.accept broken)
    refine ⟨Store.consistent_draw identified.consistent, ?_, fun session => still (identified.known session)⟩
    intro connection client isOpen
    rw [Table.find?_insert] at isOpen
    split at isOpen
    · next here => exact ⟨_, Store.drawn_nextId _, here⟩
    · exact still (identified.drawn isOpen)
  | @close now place client isOpen =>
    exact (identified.perform ⟨now, place, .disconnect⟩ (identified.drawn isOpen)).drop place

theorem Identified.path (identified : Identified start) (path : Path start messages events s) : Identified s := by
  induction path with
  | nothing => exact identified
  | move _ last ih => exact ih.move last

theorem Known.path {connection : String} (known : start.Known connection) (path : Path start messages events s) :
    s.Known connection := by
  induction path with
  | nothing => exact known
  | move _ last ih => exact ih.move last

/-! ## The end of a connection -/

theorem sent_of_broadcast {clients : Table String Connection} {connection : String} {client : Connection}
    (isOpen : clients.find? connection = some client) (works : client.broken = false) (r : Reply) :
    .sent connection r ∈ broadcast clients r := by
  refine List.mem_cons_of_mem _ (List.mem_map.2 ⟨(connection, client), Table.mem_entries_iff.2 isOpen, ?_⟩)
  simp [works]

/-- Ending the session of a connection leaves the others as they are. If it had one, everybody whose writing works is
told who is online now. -/
theorem release_session (identified : Identified s) (now : Instant) (connection : String) :
    let ended := s.release now connection
    (∀ u, s.hub.store.session? connection = some u → u.username ∉ ended.1.hub.store.online ∧
      ∀ other client, s.clients.find? other = some client → client.broken = false →
        .sent other (.onlineUsers ended.1.hub.store.online) ∈ ended.2) ∧
    (∀ other u, other ≠ connection → s.hub.store.session? other = some u →
      ended.1.hub.store.session? other = some u) := by
  intro ended
  have linked := identified.consistent.toLinked
  have store : ended.1.hub.store = (s.hub.store.disconnect now connection).2 := by
    simp only [ended, release_eq, Hub.store_perform_disconnect]
  constructor
  · intro u session
    refine ⟨store ▸ Store.not_mem_online_disconnect linked session, ?_⟩
    intro other client isOpen works
    have moves : s.hub.MovesSession ⟨now, connection, .disconnect⟩ := .inr ⟨.inr rfl, u, session⟩
    rcases Hub.announces linked ⟨now, connection, .disconnect⟩ with ⟨-, earlier, -, sends⟩ | ⟨calm, -⟩
    · have announced := (Effect.mem_sent_iff.1 (sends ▸ List.mem_append_right _ (List.mem_singleton_self _))).1
      simp only [ended, release_eq]
      refine List.mem_flatMap.2 ⟨_, announced, ?_⟩
      exact sent_of_broadcast isOpen works _
    · exact absurd moves calm
  · intro other u ne session
    rw [store]
    exact Store.session?_disconnect_of_ne identified.consistent ne session

/-- Two clients connect, and the first one logs in. -/
def visit : List (Instant × Incident) :=
  [(⟨1⟩, .accept "here" false), (⟨2⟩, .accept "there" false),
   (⟨3⟩, .occur (Id.ofNumber 1).text (.bytes (Request.register "alice" "a@x" "secret").line)),
   (⟨4⟩, .occur (Id.ofNumber 1).text (.bytes (Request.login "alice" "secret").line))]

end Server

end ChatService
