import Mathlib.Data.List.Count
import ChatService.Proofs.Hub.Delivery
import ChatService.Proofs.Hub.Posting

/-!
# The chat log

The chat log gets a line for each message that is accepted: its time, the names that take part, and the text
or, of a private message, the length. Texts and names go into the line as they are. So the lines of the file
are the lines that were written only as long as nobody chose a line feed; and who wrote a line can be told
from it only as long as the names keep to characters that do not separate its parts.
-/

namespace ChatService

/-! ## Lines of a file -/

/-- A file cut at its line feeds. -/
def piecesOf (file : String) : List String := (file.toList.splitOn '\n').map String.ofList

/-- The lines of a file: what stands before each of its line feeds. -/
def linesOf (file : String) : List String := (piecesOf file).dropLast

theorem piecesOf_append_feed (one two : String) : piecesOf (one ++ "\n" ++ two) = piecesOf one ++ piecesOf two := by
  have cut : (one ++ "\n" ++ two).toList = one.toList ++ '\n' :: two.toList := by simp
  rw [piecesOf, cut, List.splitOn_eq_splitOnP, List.splitOnP_append_cons _ _ (by simp), List.map_append]
  simp only [piecesOf, List.splitOn_eq_splitOnP]

theorem length_piecesOf (file : String) : (piecesOf file).length = file.toList.count '\n' + 1 := by
  rw [piecesOf, List.length_map]
  induction file.toList with
  | nil => rfl
  | cons c rest ih =>
    rw [List.splitOn_eq_splitOnP] at ih ⊢
    rw [List.splitOnP_cons_eq_if_modifyHead, List.count_cons]
    split
    · simp [ih]
    · simp [ih]

theorem piecesOf_eq_singleton {file : String} (whole : '\n' ∉ file.toList) : piecesOf file = [file] := by
  have none (c : Char) (member : c ∈ file.toList) : (c == '\n') = false := by
    simpa using fun feed : c = '\n' => whole (feed ▸ member)
  rw [piecesOf, List.splitOn_eq_splitOnP, List.splitOnP_eq_singleton none, List.map_cons, List.map_nil,
    String.ofList_toList]

/-- A file to which lines were appended falls into the pieces of what was written as lines. -/
theorem linesOf_join (written : List String) :
    linesOf (String.join (written.map (· ++ "\n"))) = written.flatMap piecesOf := by
  -- The piece behind the last line feed is empty and counts as no line.
  have pieces : piecesOf (String.join (written.map (· ++ "\n"))) = written.flatMap piecesOf ++ [""] := by
    induction written with
    | nil => rfl
    | cons line rest ih =>
      rw [List.map_cons, String.join_cons, piecesOf_append_feed, ih, List.flatMap_cons, List.append_assoc]
  rw [linesOf, pieces, List.dropLast_concat]

theorem Text.mem_ofString {c : Char} {s : String} : .char c ∈ Text.ofString s ↔ c ∈ s.toList :=
  List.mem_map_of_injective fun _ _ => CodePoint.char.inj

theorem Text.count_ofString (c : Char) (s : String) : (Text.ofString s).count (.char c) = s.toList.count c :=
  List.count_map_of_injective s.toList CodePoint.char (fun _ _ => CodePoint.char.inj) c

/-! ## Records -/

/-- A text of digits and of the signs that stand in a time. -/
def IsStamp (text : String) : Prop := ∀ c ∈ text.toList, c.isDigit = true ∨ c ∈ ['-', 'T', ':', '.']

instance (text : String) : Decidable (IsStamp text) := List.decidableBAll _ text.toList

theorem IsStamp.append {one two : String} (first : IsStamp one) (second : IsStamp two) : IsStamp (one ++ two) := by
  intro c member
  rw [String.toList_append, List.mem_append] at member
  exact member.elim (first c) (second c)

theorem isStamp_padded (width n : Nat) : IsStamp (Instant.padded width n) := by
  intro c member
  rw [Instant.padded, String.toList_ofList, List.mem_append] at member
  rcases member with filling | digit
  · rw [List.eq_of_mem_replicate filling]
    exact .inl rfl
  · exact .inl (Nat.isDigit_of_mem_toDigits (by decide) (by decide) digit)

/-- The time in front of a line holds nothing that separates lines or their parts. -/
theorem isStamp_localText (t : Instant) : IsStamp t.localText := by
  have sign : ∀ text ∈ ["-", "T", ":", ".", ""], IsStamp text := by decide
  have date : IsStamp t.dateText :=
    ((((isStamp_padded _ _).append (sign "-" (by decide))).append (isStamp_padded _ _)).append
      (sign "-" (by decide))).append (isStamp_padded _ _)
  have minute : IsStamp t.minuteText :=
    ((isStamp_padded _ _).append (sign ":" (by decide))).append (isStamp_padded _ _)
  have clock : IsStamp t.clockText := (minute.append (sign ":" (by decide))).append (isStamp_padded _ _)
  refine ((date.append (sign "T" (by decide))).append clock).append ?_
  split
  · exact sign "" (by decide)
  · exact (sign "." (by decide)).append (isStamp_padded _ _)

theorem IsStamp.not_mem {text : String} (stamp : IsStamp text) {c : Char}
    (other : c.isDigit = false ∧ c ∉ ['-', 'T', ':', '.']) : .char c ∉ Text.ofString text := by
  intro member
  rcases stamp c (Text.mem_ofString.1 member) with digit | sign
  · rw [other.1] at digit
    cases digit
  · exact other.2 sign

namespace ChatLog

/-- What the log tells of a message: everything of a broadcast message, and the two names and the length of a
private one. -/
inductive Entry
  | chat (author text : Text)
  | whisper (sender recipient : Text) (length : Nat)
deriving DecidableEq

/-- The line of an entry at a local time. -/
def Entry.line : Entry → Instant → Text
  | chat author text => chatLine author text
  | whisper sender recipient length => privateLine sender recipient length

/-- What users chose of a line. -/
def Entry.chosen : Entry → Text
  | chat author text => author ++ text
  | whisper sender recipient _ => sender ++ recipient

/-- The names in an entry. -/
def Entry.names : Entry → List Text
  | chat author _ => [author]
  | whisper sender recipient _ => [sender, recipient]

/-- A name without the characters that separate the parts of a line. -/
structure IsPlain (name : Text) : Prop where
  bar : .char '|' ∉ name
  bracket : .char '[' ∉ name
  arrow : .char '→' ∉ name

instance (name : Text) : Decidable (IsPlain name) :=
  decidable_of_iff (.char '|' ∉ name ∧ .char '[' ∉ name ∧ .char '→' ∉ name)
    ⟨fun ⟨bar, bracket, arrow⟩ => ⟨bar, bracket, arrow⟩, fun plain => ⟨plain.bar, plain.bracket, plain.arrow⟩⟩

/-- All names of an entry are plain. -/
def Entry.Plain (e : Entry) : Prop := ∀ name ∈ e.names, IsPlain name

instance (e : Entry) : Decidable e.Plain := List.decidableBAll _ e.names

/-- The line feeds of a line are those that users chose. -/
theorem Entry.count_line (e : Entry) (time : Instant) :
    (e.line time).count (.char '\n') = e.chosen.count (.char '\n') := by
  have stamp : (Text.ofString time.localText).count (.char '\n') = 0 :=
    List.count_eq_zero.2 ((isStamp_localText time).not_mem (by decide))
  cases e with
  | chat author text =>
    have bar : (Text.ofString " | ").count (.char '\n') = 0 := by decide
    simp only [line, chatLine, chosen, List.count_append, stamp, bar]
    omega
  | whisper sender recipient length =>
    have digits : (Text.ofString (toString length)).count (.char '\n') = 0 := by
      rw [Text.count_ofString, Nat.toString_eq_ofList_toDigits, String.toList_ofList]
      exact List.count_eq_zero.2 fun member => by cases Nat.isDigit_of_mem_toDigits (by decide) (by decide) member
    have fixed : ∀ text ∈ [" | [PRIVATE ", "→", "] | ", " chars"], (Text.ofString text).count (.char '\n') = 0 := by
      decide
    simp only [List.forall_mem_cons] at fixed
    simp only [line, privateLine, chosen, List.count_append, stamp, digits, fixed]
    omega

/-- A line has no bytes exactly if users chose a half. -/
theorem Entry.encodable_line (e : Entry) (time : Instant) :
    (∃ line, e.line time = Text.ofString line) ↔ ∀ c ∈ e.chosen, c.isHalf = false := by
  have whole (s : String) : (∀ c ∈ Text.ofString s, c.isHalf = false) ↔ True :=
    iff_true_intro fun _ => Text.isHalf_of_mem_ofString
  rw [Text.exists_ofString_iff]
  cases e with
  | chat author text =>
    simp only [line, chatLine, chosen, List.forall_mem_append, whole, true_and, and_true]
  | whisper sender recipient length =>
    simp only [line, privateLine, chosen, List.forall_mem_append, whole, true_and, and_true]

/-- The part of a line between its two bars. -/
def Entry.party : Entry → Text
  | chat author _ => author
  | whisper sender recipient _ => "[PRIVATE " ++ sender ++ "→" ++ recipient ++ "]"

/-- The part of a line behind its second bar. -/
def Entry.matter : Entry → Text
  | chat _ text => text
  | whisper _ _ length => toString length ++ " chars"

theorem Entry.line_eq (e : Entry) (time : Instant) :
    e.line time = time.localText ++ " | " ++ e.party ++ " | " ++ e.matter := by
  cases e with
  | chat author text => rfl
  | whisper sender recipient length =>
    have opened : Text.ofString " | [PRIVATE " = " | " ++ "[PRIVATE " := rfl
    have closed : Text.ofString "] | " = "]" ++ " | " := rfl
    simp only [line, privateLine, party, matter, opened, closed, List.append_assoc]

/-- What stands on either side of the first occurrence of a code point is found again. -/
theorem cut_injective {c : CodePoint} {front front' behind behind' : Text} (whole : c ∉ front) (whole' : c ∉ front')
    (same : front ++ c :: behind = front' ++ c :: behind') : front = front' ∧ behind = behind' := by
  have cut {front : Text} (whole : c ∉ front) (behind : Text) :
      (front ++ c :: behind).takeWhile (· != c) = front ∧ (front ++ c :: behind).dropWhile (· != c) = c :: behind :=
    Text.span_append _ (fun a member => by simpa using ne_of_mem_of_not_mem member whole) (by simp)
  obtain ⟨before, after⟩ := cut whole behind
  obtain ⟨before', after'⟩ := cut whole' behind'
  rw [same] at before after
  exact ⟨before.symm.trans before', List.tail_eq_of_cons_eq (after.symm.trans after')⟩

theorem Entry.Plain.bar {e : Entry} (plain : e.Plain) : .char '|' ∉ e.party := by
  cases e with
  | chat author text => exact (plain author (by simp [names])).bar
  | whisper sender recipient length =>
    have one := plain sender (by simp [names])
    have two := plain recipient (by simp [names])
    have fixed : ∀ text ∈ ["[PRIVATE ", "→", "]"], .char '|' ∉ Text.ofString text := by decide
    simp only [List.forall_mem_cons] at fixed
    simp [party, one.bar, two.bar, fixed]

/-- The two names and the length of a private message are found again in its parts. -/
theorem whisper_injective {sender sender' recipient recipient' : Text} {length length' : Nat}
    (plain : .char '→' ∉ sender) (plain' : .char '→' ∉ sender')
    (party : (Entry.whisper sender recipient length).party = (Entry.whisper sender' recipient' length').party)
    (matter : (Entry.whisper sender recipient length).matter = (Entry.whisper sender' recipient' length').matter) :
    sender = sender' ∧ recipient = recipient' ∧ length = length' := by
  have opening : .char '→' ∉ Text.ofString "[PRIVATE " := by decide
  have parts (sender recipient : Text) (length : Nat) : (Entry.whisper sender recipient length).party =
      (Text.ofString "[PRIVATE " ++ sender) ++ .char '→' :: (recipient ++ Text.ofString "]") := by
    have arrow : Text.ofString "→" = [.char '→'] := rfl
    simp [Entry.party, arrow]
  rw [parts, parts] at party
  obtain ⟨front, behind⟩ := cut_injective (by simp [plain, opening]) (by simp [plain', opening]) party
  have digits : Nat.toDigits 10 length = Nat.toDigits 10 length' := by
    have same := Text.ofString_inj.1 (List.append_cancel_right matter)
    simpa using congrArg String.toList same
  have number : length = length' := by
    rw [← Nat.ofDigitChars_ten_toDigits (n := length), digits, Nat.ofDigitChars_ten_toDigits]
  exact ⟨List.append_cancel_left front, List.append_cancel_right behind, number⟩

/-- Entries with plain names are told apart by the parts of their lines. -/
theorem Entry.eq_of_parts {e e' : Entry} (plain : e.Plain) (plain' : e'.Plain) (party : e.party = e'.party)
    (matter : e.matter = e'.matter) : e = e' := by
  -- But for the bracket, an author could have a name that reads like the two parties of a private message.
  have bracketed {sender recipient author : Text} (plain : IsPlain author) :
      author ≠ "[PRIVATE " ++ sender ++ "→" ++ recipient ++ "]" := by
    rintro rfl
    refine plain.bracket ?_
    have opening : .char '[' ∈ Text.ofString "[PRIVATE " := by decide
    simp [opening]
  cases e with
  | chat author text =>
    cases e' with
    | chat author' text' => exact congr (congrArg chat party) matter
    | whisper sender' recipient' length' =>
      exact absurd party (bracketed (plain author (by simp [names])))
  | whisper sender recipient length =>
    cases e' with
    | chat author' text' =>
      exact absurd party.symm (bracketed (plain' author' (by simp [names])))
    | whisper sender' recipient' length' =>
      obtain ⟨rfl, rfl, rfl⟩ := whisper_injective (plain sender (by simp [names])).arrow
        (plain' sender' (by simp [names])).arrow party matter
      rfl

/-- A line tells its entry when the names are plain, and its time as it is written. -/
theorem Entry.line_injective {e e' : Entry} {time time' : Instant} (plain : e.Plain) (plain' : e'.Plain)
    (same : e.line time = e'.line time') : time.localText = time'.localText ∧ e = e' := by
  have parts (e : Entry) (time : Instant) : e.line time = (Text.ofString time.localText ++ [.char ' ']) ++
      .char '|' :: ((.char ' ' :: e.party ++ [.char ' ']) ++ .char '|' :: .char ' ' :: e.matter) := by
    have bar : Text.ofString " | " = [.char ' ', .char '|', .char ' '] := rfl
    rw [e.line_eq, bar]
    simp
  -- The first bar ends the time and the second one the names; the text may hold any number of bars.
  have stamp (time : Instant) : .char '|' ∉ Text.ofString time.localText ++ [.char ' '] := by
    simpa using (isStamp_localText time).not_mem (c := '|') (by decide)
  rw [parts, parts] at same
  obtain ⟨first, behind⟩ := cut_injective (stamp time) (stamp time') same
  obtain ⟨party, matter⟩ := cut_injective (by simpa using plain.bar) (by simpa using plain'.bar) behind
  have party := List.append_cancel_right (List.tail_eq_of_cons_eq party)
  exact ⟨Text.ofString_inj.1 (List.append_cancel_right first),
    Entry.eq_of_parts plain plain' party (List.tail_eq_of_cons_eq matter)⟩

/-- An entry with a time: the time of its step, or the local time in its line. -/
structure Record where
  time : Instant
  entry : Entry
deriving DecidableEq

namespace Record

def line (r : Record) : Text := r.entry.line r.time

/-- What is written of a record: its line, unless that has no bytes. -/
def written? (r : Record) : Option String := r.line.string?

/-- Whether users chose no half in the names and the text of a record. -/
def isWhole (r : Record) : Bool := r.entry.chosen.all (!·.isHalf)

theorem written?_isSome (r : Record) : r.written?.isSome = r.isWhole := by
  rw [Bool.eq_iff_iff, Option.isSome_iff_exists]
  simp only [written?, Text.string?_eq_some_iff, line, Entry.encodable_line, isWhole, List.all_eq_true,
    Bool.not_eq_eq_eq_not, Bool.not_true]

end Record

/-- A record at the end of the log. -/
def put (l : ChatLog) (r : Record) : ChatLog := (l.append r.time r.entry.line).1

/-- Records with the readings of a clock, of which a number were made before. -/
def dated (clock : Nat → Instant → Instant) (readings : Nat) (records : List Record) : List Record :=
  records.mapIdx fun i r => ⟨clock (readings + i) r.time, r.entry⟩

theorem dated_cons (clock : Nat → Instant → Instant) (readings : Nat) (r : Record) (rest : List Record) :
    dated clock readings (r :: rest) = ⟨clock readings r.time, r.entry⟩ :: dated clock (readings + 1) rest := by
  simp only [dated, List.mapIdx_cons, Nat.add_zero, Nat.add_assoc, Nat.add_comm 1]

/-- A log that can be written holds what is written of the records that were put into it. -/
theorem foldl_put {l : ChatLog} (writable : l.blocked = none) (records : List Record) :
    (records.foldl put l).records = l.records ++ (dated l.clock l.readings records).filterMap Record.written? ∧
      (records.foldl put l).created = (l.created || !records.isEmpty) := by
  induction records generalizing l with
  | nil => simp [dated]
  | cons r rest ih =>
    rw [List.foldl_cons, dated_cons, List.filterMap_cons]
    have next : l.put r = { l with
        readings := l.readings + 1, created := true
        records := l.records ++ (Record.written? ⟨l.clock l.readings r.time, r.entry⟩).toList } := by
      unfold put append Record.written? Record.line Text.encode
      simp only [writable]
      cases (r.entry.line (l.clock l.readings r.time)).string? <;> simp
    obtain ⟨records, created⟩ := ih (l := l.put r) (by rw [next]; exact writable)
    rw [records, created, next]
    cases Record.written? ⟨l.clock l.readings r.time, r.entry⟩ <;> simp

end ChatLog

/-! ## Steps and runs -/

namespace Hub

open ChatLog (Record)

variable {hub : Hub}

/-- The record of a step that is accepted. A private message is accepted from an account that is logged in, to
another account, with a text that holds a character that is not white space and has at most 1000 characters. -/
def record? (hub : Hub) (step : Step) : Option Record :=
  match step.operation with
  | .sendPrivate recipient text =>
    match hub.store.session? step.connection, hub.store.user? recipient with
    | some u, some other =>
      if other.id ≠ u.id ∧ (text.getD "").any (!Text.isBlank ·) ∧ (text.getD "").length ≤ 1000 then
        some ⟨step.time, .whisper u.username other.username (text.getD "").length⟩
      else none
    | _, _ => none
  | _ => (hub.accepted? step).map fun m => ⟨m.timestamp, .chat m.username m.text⟩

/-- The record of a turn that is accepted. -/
def Turn.record? (turn : Turn) : Option Record := turn.hub.record? turn.step

theorem chatLog_message (now : Instant) (connection : String) (text : Option Text) :
    (hub.message now connection text).hub.chatLog =
      ((hub.message now connection text).value.map fun m =>
        Record.mk m.timestamp (.chat m.username m.text)).toList.foldl ChatLog.put hub.chatLog := by
  unfold Hub.message
  simp only
  split
  · simp [command]
  · split
    · simp [refuse]
    · split
      · simp [refuse]
      · rfl

/-- A private message to another account is accepted when its text is one that a message can have. -/
theorem sendPrivate_of_user? {s : Store} (linked : s.Linked) (now : Instant) {sender : Id}
    {recipient text : Option Text} {b : User} (found : s.user? recipient = some b) (other : b.id ≠ sender)
    (fine : Store.textFault? (text.getD "") = none) :
    ∃ m s', s.sendPrivate now sender recipient text = .ok (m, s') := by
  obtain ⟨name, id, rfl, listed, stored⟩ := Store.user?_eq_some_iff.1 found
  have keyed := linked.keyed stored
  subst keyed
  simp only [Store.sendPrivate, fine, Option.bind_some, listed, if_neg other]
  exact ⟨_, _, rfl⟩

/-- A private message is recorded when it is accepted. -/
theorem chatLog_sendPrivate (linked : hub.store.Linked) (now : Instant) (connection : String)
    (recipient text : Option Text) :
    (hub.sendPrivate now connection recipient text).hub.chatLog =
      (hub.record? ⟨now, connection, .sendPrivate recipient text⟩).toList.foldl ChatLog.put hub.chatLog := by
  cases session : hub.store.session? connection with
  | none => simp [Hub.sendPrivate, refuse, record?, session]
  | some u =>
    cases result : hub.store.sendPrivate now u.id recipient text with
    | error refusal =>
      -- What the store refuses has no record: a record needs all that the store asks for.
      have unaccepted : hub.record? ⟨now, connection, .sendPrivate recipient text⟩ = none := by
        simp only [record?, session]
        split
        · next u' b same found =>
          cases same
          refine if_neg ?_
          rintro ⟨other, fine⟩
          obtain ⟨m, s', ok⟩ := sendPrivate_of_user? linked now found other (Store.textFault?_eq_none_iff.2 fine)
          rw [result] at ok
          cases ok
        · rfl
      simp [Hub.sendPrivate, refuse, session, result, unaccepted]
    | ok value =>
      obtain ⟨b, rfl, stored, -, other⟩ := recipient_of_sendPrivate linked result
      obtain ⟨fine, -, -, -, -, written, -⟩ := Store.sendPrivate_ok result
      have found : hub.store.user? (some b.username) = some b := Store.user?_of_find? linked stored
      have accepted : hub.record? ⟨now, connection, .sendPrivate (some b.username) text⟩ =
          some ⟨now, .whisper u.username b.username value.1.text.length⟩ := by
        rw [written]
        simp only [record?, session, found]
        exact if_pos ⟨other.symm, Store.textFault?_eq_none_iff.1 fine⟩
      simp only [Hub.sendPrivate, session, result, accepted]
      rfl

/-- A step puts its record into the log, and nothing else. -/
theorem chatLog_perform (linked : hub.store.Linked) (step : Step) :
    (hub.perform step).hub.chatLog = (hub.record? step).toList.foldl ChatLog.put hub.chatLog := by
  obtain ⟨now, connection, operation⟩ := step
  cases operation with
  | message text =>
    have posted := posted?_eq_accepted? hub ⟨now, connection, .message text⟩
    simp only [posted?] at posted
    simp only [perform, Done.of, chatLog_message, posted, record?]
  | sendPrivate recipient text => exact chatLog_sendPrivate linked now connection recipient text
  | connect | heartbeat | getHistory => simp [perform, Done.of, connect, heartbeat, Hub.getHistory, record?, accepted?]
  | disconnect =>
    simp only [perform, Done.of, Hub.disconnect]
    split <;> simp [record?, accepted?]
  | logout =>
    simp only [perform, Done.of, Hub.logout]
    split <;> simp [record?, accepted?]
  | register username email password =>
    simp only [perform, Done.of, Hub.register]
    split <;> simp [refuse, raise, record?, accepted?]
  | login username password =>
    simp only [perform, Done.of, Hub.login]
    split <;> simp [refuse, record?, accepted?]
  | getPrivateHistory username =>
    simp only [perform, Done.of, Hub.getPrivateHistory]
    split
    · simp [refuse, record?, accepted?]
    · split <;> simp [refuse, record?, accepted?]
  | addContact username =>
    simp only [perform, Done.of, Hub.addContact]
    split
    · simp [refuse, record?, accepted?]
    · split <;> simp [refuse, record?, accepted?]
  | getContacts =>
    simp only [perform, Done.of, Hub.getContacts]
    split <;> simp [refuse, record?, accepted?]

/-- A run puts the records of what was accepted into the log, one after the other. -/
theorem chatLog_advance (linked : hub.store.Linked) (steps : List Step) :
    (hub.advance steps).chatLog = ((hub.turns steps).filterMap Turn.record?).foldl ChatLog.put hub.chatLog := by
  induction steps generalizing hub with
  | nil => rfl
  | cons step rest ih =>
    refine (ih (linked_perform linked step)).trans ?_
    rw [chatLog_perform linked step, turns, List.filterMap_cons]
    cases recorded : hub.record? step <;> simp [Turn.record?, recorded]

/-! ## The file -/

/-- The file that some records leave. -/
def fileOf (records : List Record) : Option String :=
  if records = [] then none else some (String.join ((records.filterMap Record.written?).map (· ++ "\n")))

/-- What users chose of some records. -/
def chosenIn (records : List Record) : Text := records.flatMap (·.entry.chosen)

theorem linesOf_fileOf (records : List Record) :
    linesOf ((fileOf records).getD "") = (records.filterMap Record.written?).flatMap piecesOf := by
  rw [← linesOf_join, fileOf]
  split
  · next nothing =>
    rw [nothing]
    rfl
  · rfl

/-- A file has a line for each record that can be written, and one more for each line feed that was chosen there. -/
theorem length_flatMap_piecesOf (records : List Record) :
    ((records.filterMap Record.written?).flatMap piecesOf).length =
      (records.filter Record.isWhole).length + (chosenIn (records.filter Record.isWhole)).count (.char '\n') := by
  induction records with
  | nil => rfl
  | cons r rest ih =>
    have whole := r.written?_isSome
    cases written : r.written? with
    | none =>
      rw [written] at whole
      rw [List.filterMap_cons_none written, List.filter_cons_of_neg (by simp [← whole]), ih]
    | some line =>
      rw [written] at whole
      have feeds : line.toList.count '\n' = r.entry.chosen.count (.char '\n') := by
        rw [← Text.count_ofString, ← Text.string?_eq_some_iff.1 written, Record.line, ChatLog.Entry.count_line]
      rw [List.filterMap_cons_some written, List.filter_cons_of_pos whole.symm]
      simp only [chosenIn, List.flatMap_cons, List.length_append, List.length_cons, List.count_append,
        length_piecesOf, feeds] at ih ⊢
      omega

/-- The lines of a file are the lines of its records exactly if no line feed and no half was chosen. -/
theorem flatMap_piecesOf_iff (records : List Record) :
    ((records.filterMap Record.written?).flatMap piecesOf).map Text.ofString = records.map Record.line ↔
      ∀ c ∈ chosenIn records, c ≠ .char '\n' ∧ c.isHalf = false := by
  constructor
  · intro same
    -- What is in a file has bytes, so no record is missing; then the number of lines leaves no room for a line feed.
    have whole : ∀ r ∈ records, r.isWhole = true := by
      intro r listed
      have written : r.line ∈ ((records.filterMap Record.written?).flatMap piecesOf).map Text.ofString :=
        same ▸ List.mem_map_of_mem listed
      obtain ⟨s, -, line⟩ := List.mem_map.1 written
      rw [← Record.written?_isSome, Record.written?, Text.string?_eq_some_iff.2 line.symm]
      rfl
    have count := congrArg List.length same
    rw [List.length_map, length_flatMap_piecesOf, List.filter_eq_self.2 whole, List.length_map] at count
    have feeds : (chosenIn records).count (.char '\n') = 0 := by omega
    intro c member
    obtain ⟨r, listed, chosen⟩ := List.mem_flatMap.1 member
    have half := List.all_eq_true.1 (whole r listed) c chosen
    exact ⟨fun feed => List.count_eq_zero.1 feeds (feed ▸ member), by simpa using half⟩
  · intro chosen
    induction records with
    | nil => rfl
    | cons r rest ih =>
      simp only [chosenIn, List.flatMap_cons, List.forall_mem_append] at chosen
      have whole : r.isWhole = true := List.all_eq_true.2 fun c member => by simp [(chosen.1 c member).2]
      rw [← Record.written?_isSome, Option.isSome_iff_exists] at whole
      obtain ⟨line, written⟩ := whole
      have text := Text.string?_eq_some_iff.1 written
      have single : '\n' ∉ line.toList := by
        rw [← List.count_eq_zero, ← Text.count_ofString, ← text, Record.line, ChatLog.Entry.count_line,
          List.count_eq_zero]
        exact fun feed => (chosen.1 _ feed).1 rfl
      rw [List.filterMap_cons_some written, List.flatMap_cons, piecesOf_eq_singleton single, List.map_append,
        ih chosen.2]
      exact congrArg (· :: rest.map Record.line) text.symm

/-- The chat log records what was accepted. After every run with a log that can be written, the file holds the lines
of the accepted messages, each with a line feed behind it, in the order of the steps; what is missing are the lines
that have no bytes, because users chose a half in a text or a name. It has one line more for each line feed that users
chose, so its lines are those of the accepted messages exactly when there is neither a half nor a line feed. Each line
has the reading of the clock that was made for it. And a line of an accepted message with plain names is the line of
no other entry with plain names. -/
theorem chat_log_records_accepted (hasher : Hasher) (maxHistory : Nat) (maxPrivateHistory : Int) (cache : Rates.Cache)
    (surroundings : BuiltIn.Surroundings) (path : String) (clock : Nat → Instant → Instant) (steps : List Step) :
    let start := create (.empty hasher maxHistory maxPrivateHistory) cache surroundings (.empty path none clock)
    let records := ChatLog.dated clock 0 ((start.turns steps).filterMap Turn.record?)
    let file := (start.advance steps).chatLog.content?
    file = fileOf records ∧
    (linesOf (file.getD "")).length =
      (records.filter Record.isWhole).length + (chosenIn (records.filter Record.isWhole)).count (.char '\n') ∧
    ((linesOf (file.getD "")).map Text.ofString = records.map Record.line ↔
      ∀ c ∈ chosenIn records, c ≠ .char '\n' ∧ c.isHalf = false) ∧
    ∀ r ∈ records, ∀ r' : Record, r.entry.Plain → r'.entry.Plain → r.line = r'.line →
      r.time.localText = r'.time.localText ∧ r.entry = r'.entry := by
  intro start records file
  have fresh : start.store.Linked := (Store.consistent_empty hasher maxHistory maxPrivateHistory).toLinked
  have content : file = fileOf records := by
    obtain ⟨written, created⟩ := ChatLog.foldl_put (l := start.chatLog) rfl ((start.turns steps).filterMap Turn.record?)
    rw [← chatLog_advance fresh] at written created
    have none : records = [] ↔ (start.turns steps).filterMap Turn.record? = [] := List.mapIdx_eq_nil_iff
    simp only [file, ChatLog.content?, written, created, fileOf, none]
    by_cases nothing : (start.turns steps).filterMap Turn.record? = []
    · rw [if_pos nothing, nothing]
      rfl
    · have some : ((start.turns steps).filterMap Turn.record?).isEmpty = false := by simpa using nothing
      rw [if_neg nothing, some, Bool.not_false, Bool.or_true, if_pos rfl]
      rfl
  have lines := linesOf_fileOf records
  rw [← content] at lines
  refine ⟨content, ?_, ?_, fun r _ r' plain plain' same => ChatLog.Entry.line_injective plain plain' same⟩
  · rw [lines, length_flatMap_piecesOf]
  · rw [lines, flatMap_piecesOf_iff]

/-- Two accounts; one of them posts a text and sends a private message to the other. -/
def correspondence (text : Text) : List Step :=
  [⟨⟨1⟩, "c", .register (some "ann") (some "a@x") (some "secret")⟩,
   ⟨⟨2⟩, "c", .register (some "bob") (some "b@x") (some "secret")⟩, ⟨⟨3⟩, "c", .login (some "ann") (some "secret")⟩,
   ⟨⟨4⟩, "c", .message (some text)⟩, ⟨⟨5⟩, "c", .sendPrivate (some "bob") (some "psst")⟩]

/-- Two lines where local time is an hour ahead, and nobody else could have written the first. -/
theorem chat_log_records_accepted_of_correspondence :
    let clock : Nat → Instant → Instant := fun _ now => ⟨now.micros + 3600000000⟩
    let start := create (.empty .plain 5 5) (.empty 60 Instant.uptime) ⟨[], []⟩ (.empty "chat.log" none clock)
    let first : Text := "1970-01-01T01:00:00.000004 | ann | hello"
    (linesOf (((start.advance (correspondence "hello")).chatLog.content?).getD "")).map Text.ofString =
      [first, "1970-01-01T01:00:00.000005 | [PRIVATE ann→bob] | 4 chars"] ∧
    ∀ r : Record, r.entry.Plain → first = r.line → .chat "ann" "hello" = r.entry := by
  intro clock start first
  obtain ⟨-, -, lines, told⟩ := chat_log_records_accepted .plain 5 5 (.empty 60 Instant.uptime) ⟨[], []⟩ "chat.log"
    clock (correspondence "hello")
  have records : ChatLog.dated clock 0 ((start.turns (correspondence "hello")).filterMap Turn.record?) =
      [⟨⟨3600000004⟩, .chat "ann" "hello"⟩, ⟨⟨3600000005⟩, .whisper "ann" "bob" 4⟩] := by decide +kernel
  rw [records] at lines told
  constructor
  · rw [lines.2 (by decide)]
    decide +kernel
  · intro r plain same
    have line : first = Record.line ⟨⟨3600000004⟩, .chat "ann" "hello"⟩ := by decide +kernel
    obtain ⟨-, entry⟩ := told _ (List.mem_cons_self ..) r (by decide) plain (line.symm.trans same)
    exact entry

/-- A text with a line feed leaves a line that another account seems to have written. -/
theorem line_forged :
    let start := create (.empty .plain 5 5) (.empty 60 Instant.uptime) ⟨[], []⟩ .default
    let steps := (correspondence "hello\n1970-01-01T00:00:00.000009 | bob | I resign").take 4
    ((start.turns steps).filterMap Turn.record?).length = 1 ∧
      (linesOf ((start.advance steps).chatLog.content?.getD "")).map Text.ofString =
        [Text.ofString "1970-01-01T00:00:00.000004 | ann | hello", ChatLog.chatLine "bob" "I resign" ⟨9⟩] := by
  decide +kernel

end Hub

end ChatService
