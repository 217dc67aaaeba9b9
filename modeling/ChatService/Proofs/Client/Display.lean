import ChatService.Client.Display

/-!
# Messages that can be shown

Showing a message looks into its fields: it cuts times out of texts, counts and lists
members, and looks for fields in the members. A message can be shown to its end exactly
when the fields that its type is shown by are missing or hold values of the kinds for
that, and no half stands in a line to print. What the other fields hold makes no
difference.
-/

namespace ChatService.Client

/-! ## Kinds of values -/

/-- The values that parts are cut of: texts and lists. -/
def Cuttable : Json → Prop
  | .str _ | .arr _ => True
  | _ => False

def IsObject (v : Json) : Prop := ∃ fields, v = .obj fields

/-- An object in which a field is missing or holds a value of some kind. -/
def HasField (key : Text) (kind : Json → Prop) (v : Json) : Prop :=
  ∃ fields, v = .obj fields ∧ ∀ x, Json.lookup key fields = some x → kind x

/-- A list of values of some kind. A text or an object lists nothing only if it is empty: otherwise its members are
texts. -/
def Lists (kind : Json → Prop) : Json → Prop
  | .arr items => ∀ item ∈ items, kind item
  | .str text => text = []
  | .obj fields => fields = []
  | _ => False

/-- A value whose members are texts. -/
def ListsTexts : Json → Prop
  | .arr items => ∀ item ∈ items, ∃ text, item = .str text
  | .str _ | .obj _ => True
  | _ => False

/-- A message of a history. -/
def IsEntry (v : Json) : Prop := HasField "timestamp" Cuttable v

/-- A contact that is online, or was last seen at some time. -/
def IsContact (v : Json) : Prop :=
  IsObject v ∧ (isTrue ((v.field? "is_online").getD .null) = true ∨ HasField "last_seen" Cuttable v)

/-- A text that has bytes. -/
def Whole (text : Text) : Prop := ∀ c ∈ text, c.isHalf = false

/-- A message whose type's fields are missing or of the kinds that it is shown by. -/
structure WellShaped (v : Json) : Prop where
  isObject : IsObject v
  login : v.field? "type" = some (.str "login_success") → HasField "user" IsObject v
  register : v.field? "type" = some (.str "register_success") → HasField "user" IsObject v
  online : v.field? "type" = some (.str "online_users") → HasField "users" ListsTexts v
  chat : v.field? "type" = some (.str "chat") → HasField "timestamp" Cuttable v
  history : v.field? "type" = some (.str "history") →
    HasField "messages" (fun messages => isTrue messages = false ∨ Lists IsEntry messages) v
  privateHistory : v.field? "type" = some (.str "private_history") → HasField "messages" (Lists IsEntry) v
  contacts : v.field? "type" = some (.str "contacts") → HasField "contacts" (Lists IsContact) v

/-- A message all of whose lines can be shown. -/
structure Showable (v : Json) : Prop extends WellShaped v where
  whole : ∀ line, .ok (.print line) ∈ display v → Whole line

/-! ## Looking into values -/

/-- A line or a part of it comes out. -/
def Comes {α : Type} (part : Except DisplayFault α) : Prop := ∃ a, part = .ok a

@[simp] theorem comes_ok {α : Type} (a : α) : Comes (.ok a) := ⟨a, rfl⟩

@[simp] theorem not_comes_error {α : Type} (fault : DisplayFault) : ¬Comes (.error fault : Except DisplayFault α) := by
  rintro ⟨a, same⟩
  cases same

theorem comes_bind {α β : Type} {part : Except DisplayFault α} {next : α → Except DisplayFault β} :
    Comes (part >>= next) ↔ ∃ a, part = .ok a ∧ Comes (next a) := by
  cases part with
  | error fault =>
    constructor
    · exact fun comes => absurd comes (not_comes_error fault)
    · rintro ⟨a, same, -⟩
      cases same
  | ok a =>
    constructor
    · exact fun comes => ⟨a, rfl, comes⟩
    · rintro ⟨b, same, comes⟩
      cases same
      exact comes

theorem comes_map {α β : Type} {part : Except DisplayFault α} {f : α → β} : Comes (part.map f) ↔ Comes part := by
  cases part with
  | error fault => exact iff_of_false (not_comes_error fault) (not_comes_error fault)
  | ok a => exact iff_of_true (comes_ok _) (comes_ok _)

/-- A part before one that comes out anyway is what decides. -/
theorem comes_bind_of_comes {α β : Type} {part : Except DisplayFault α} {next : α → Except DisplayFault β}
    (rest : ∀ a, part = .ok a → Comes (next a)) : Comes (part >>= next) ↔ Comes part := by
  rw [comes_bind]
  constructor
  · exact fun ⟨a, found, _⟩ => ⟨a, found⟩
  · exact fun ⟨a, found⟩ => ⟨a, found, rest a found⟩

theorem comes_mapM {α β : Type} {part : α → Except DisplayFault β} {items : List α} :
    Comes (items.mapM part) ↔ ∀ item ∈ items, Comes (part item) := by
  induction items with
  | nil => simp [pure, Except.pure]
  | cons item items ih =>
    rw [List.mapM_cons, comes_bind, List.forall_mem_cons, ← ih]
    constructor
    · rintro ⟨first, found, comes⟩
      obtain ⟨others, found', -⟩ := comes_bind.1 comes
      exact ⟨⟨first, found⟩, others, found'⟩
    · rintro ⟨⟨first, found⟩, others, found'⟩
      exact ⟨first, found, comes_bind.2 ⟨others, found', comes_ok _⟩⟩

theorem encodes_iff {text : Text} : (∃ s, text.encode = .ok s) ↔ Whole text := by
  simp only [Text.encode_eq_ok_iff, Text.exists_ofString_iff, Whole]

theorem comes_come {shown : Shown} : Comes shown.come ↔ ∀ text, shown = .print text → Whole text := by
  cases shown with
  | print text =>
    simp only [Shown.print.injEq, forall_eq', ← encodes_iff, Shown.come]
    cases text.encode with
    | ok s => exact iff_of_true (comes_ok _) ⟨s, rfl⟩
    | error fault => exact iff_of_false (not_comes_error _) (by simp)
  | log line => simp [Shown.come]

theorem fault?_cons_eq_none_iff {line : Except DisplayFault Shown} {lines : Printout} :
    fault? (line :: lines) = none ↔ Comes (line >>= Shown.come) ∧ fault? lines = none := by
  rw [fault?, show line >>= Shown.come = line.bind Shown.come from rfl]
  cases line.bind Shown.come <;> simp

/-- Lines are shown to their end if all of them can be had, and those to print have bytes. -/
theorem fault?_eq_none_iff {lines : Printout} :
    fault? lines = none ↔ (∀ line ∈ lines, Comes line) ∧ ∀ text, .ok (.print text) ∈ lines → Whole text := by
  induction lines with
  | nil => simp [fault?]
  | cons line lines ih =>
    have first : Comes (line >>= Shown.come) ↔ Comes line ∧ ∀ text, .ok (.print text) = line → Whole text := by
      cases line with
      | error fault => exact iff_of_false (not_comes_error fault) fun both => not_comes_error fault both.1
      | ok shown =>
        have come : Comes (.ok shown >>= Shown.come) ↔ Comes shown.come := Iff.rfl
        rw [and_iff_right (comes_ok shown), come, comes_come]
        simp only [Except.ok.injEq, eq_comm]
    rw [fault?_cons_eq_none_iff, first, ih]
    simp only [List.mem_cons, or_imp, forall_and, forall_eq]
    exact and_and_and_comm

theorem comes_cut {start stop : Nat} {v : Json} : Comes (cut start stop v) ↔ Cuttable v := by
  cases v <;> simp [cut, Cuttable]

theorem comes_shownField {v default : Json} {key : Text} : Comes (shownField v key default) ↔ IsObject v := by
  rw [shownField, comes_map]
  cases v <;> simp [fieldOr, IsObject]

/-- A field of an object, or the default of its kind. -/
theorem hasField_iff {key : Text} {kind : Json → Prop} {v : Json} (default : Json) (usual : kind default) :
    HasField key kind v ↔ ∃ x, fieldOr key default v = .ok x ∧ kind x := by
  constructor
  · rintro ⟨fields, rfl, each⟩
    refine ⟨_, rfl, ?_⟩
    cases found : Json.lookup key fields with
    | none => exact usual
    | some x => exact each x found
  · rintro ⟨x, found, kept⟩
    cases v with
    | obj fields =>
      cases found
      refine ⟨fields, rfl, fun y at' => ?_⟩
      rwa [at'] at kept
    | _ => cases found

theorem isObject_of_fieldOr {key : Text} {default v x : Json} (found : fieldOr key default v = .ok x) :
    IsObject v := by
  cases v with
  | obj fields => exact ⟨fields, rfl⟩
  | _ => cases found

theorem comes_cutField {v : Json} {key : Text} {start stop : Nat} :
    Comes (cutField v key start stop) ↔ HasField key Cuttable v := by
  rw [cutField, comes_bind, hasField_iff (.str "") trivial]
  refine exists_congr fun x => and_congr_right fun _ => ?_
  exact (comes_bind_of_comes fun part _ => comes_ok _).trans comes_cut

theorem isObject_of_hasField {key : Text} {kind : Json → Prop} {v : Json} (has : HasField key kind v) : IsObject v :=
  ⟨has.choose, has.choose_spec.1⟩

/-! ## Lines -/

section

variable {v : Json}

/-- A sentence goes on behind a field of an object. -/
theorem comes_shownField_bind {α : Type} {key : Text} {default : Json} {next : Text → Except DisplayFault α}
    (object : IsObject v) (rest : ∀ text, Comes (next text)) : Comes (shownField v key default >>= next) :=
  comes_bind.2 ((comes_shownField.2 object).imp fun text found => ⟨found, rest text⟩)

/-- A sentence with a time and two more fields needs the time alone. -/
theorem comes_timed {key key' : Text} {default default' : Json} {start stop : Nat}
    (sentence : Text → Text → Text → Text) :
    Comes (do
      let time ← cutField v "timestamp" start stop
      let first ← shownField v key default
      let second ← shownField v key' default'
      return sentence time first second) ↔ HasField "timestamp" Cuttable v := by
  refine (comes_bind_of_comes fun time found => ?_).trans comes_cutField
  have object := isObject_of_hasField (comes_cutField.1 ⟨time, found⟩)
  exact comes_shownField_bind object fun first => comes_shownField_bind object fun second => comes_ok _

theorem comes_chatLine : Comes (chatLine v) ↔ HasField "timestamp" Cuttable v :=
  comes_timed fun time username text => "[" ++ time ++ "] " ++ username ++ ": " ++ text

theorem comes_historyRow {author : Text} {nobody silence : Json} :
    Comes (historyRow author nobody silence v) ↔ IsEntry v :=
  comes_timed fun time username text => "[" ++ time ++ "] " ++ username ++ ": " ++ text

theorem comes_privateLine : Comes (privateLine v) ↔ IsObject v := by
  refine (comes_bind_of_comes fun sender found => ?_).trans comes_shownField
  have object := comes_shownField.1 ⟨sender, found⟩
  exact comes_shownField_bind object fun recipient => comes_shownField_bind object fun text => comes_ok _

theorem comes_accountName : Comes (accountName v) ↔ HasField "user" IsObject v := by
  rw [accountName, comes_bind, hasField_iff (.obj []) ⟨[], rfl⟩]
  refine exists_congr fun user => and_congr_right fun _ => ?_
  cases user <;> simp [fieldOr, IsObject]

theorem comes_contactRow : Comes (contactRow v) ↔ IsContact v := by
  cases v with
  | obj fields =>
    have object : IsObject (.obj fields) := ⟨fields, rfl⟩
    have sentence (status : Text) : Comes (do
        let username ← shownField (.obj fields) "username" .null
        return "  - " ++ username ++ " (" ++ status ++ ")") :=
      comes_shownField_bind object fun username => comes_ok _
    rw [contactRow, IsContact, and_iff_right object]
    simp only [fieldOr, bind, Except.bind]
    split
    · next online => exact iff_of_true (sentence "online") (.inl online)
    · next offline =>
      refine (comes_bind_of_comes fun since _ => sentence _).trans (comes_cutField.trans ?_)
      exact (or_iff_right offline).symm
  | _ => exact iff_of_false (not_comes_error _) (fun contact => nomatch contact.1.choose_spec)

theorem comes_size : Comes (size v) ↔ Comes (members v) := by
  cases v <;> simp [size, members]

theorem comes_memberTexts : Comes (memberTexts v) ↔ ListsTexts v := by
  rw [memberTexts, comes_bind]
  simp only [comes_mapM]
  cases v with
  | arr items =>
    rw [members, ListsTexts]
    simp only [Except.ok.injEq, exists_eq_left']
    refine forall₂_congr fun item _ => ?_
    cases item <;> simp
  | str text => simp [members, ListsTexts]
  | obj fields =>
    refine iff_of_true ⟨_, rfl, List.forall_mem_map.2 fun field _ => ?_⟩ trivial
    exact comes_ok field.1
  | _ => simp [members, ListsTexts]

theorem comes_onlineLine : Comes (onlineLine v) ↔ HasField "users" ListsTexts v := by
  rw [onlineLine, comes_bind, hasField_iff (.arr []) (by simp [ListsTexts])]
  refine exists_congr fun users => and_congr_right fun _ => ?_
  rw [comes_bind, ← comes_memberTexts]
  constructor
  · rintro ⟨count, counted, comes⟩
    obtain ⟨names, listed, -⟩ := comes_bind.1 comes
    exact ⟨names, listed⟩
  · rintro ⟨names, listed⟩
    have listable : Comes (members users) := by
      obtain ⟨items, found, -⟩ := comes_bind.1 ⟨names, listed⟩
      exact ⟨items, found⟩
    exact (comes_size.2 listable).imp fun count counted => ⟨counted, comes_bind.2 ⟨names, listed, comes_ok _⟩⟩

/-! ## Lists of lines -/

/-- Rows that need values of a kind that no text is of come out for a list of such values. -/
theorem comes_rows {row : Json → Except DisplayFault Text} {kind : Json → Prop}
    (each : ∀ item, Comes (row item) ↔ kind item) (noText : ∀ text, ¬kind (.str text)) :
    (∀ line ∈ rows row v, Comes line) ↔ Lists kind v := by
  cases v with
  | str text =>
    simp [rows, members, Lists, comes_map, each, noText, ← List.eq_nil_iff_forall_not_mem]
  | obj fields => cases fields <;> simp [rows, members, Lists, comes_map, each, noText]
  | _ => simp [rows, members, Lists, comes_map, each]

theorem comes_members_of_lists {kind : Json → Prop} (lists : Lists kind v) : Comes (members v) := by
  cases v with
  | arr items => exact comes_ok _
  | str text => exact comes_ok _
  | obj fields => exact comes_ok _
  | _ => exact lists.elim

theorem not_isEntry_str (text : Text) : ¬IsEntry (.str text) := by
  rintro ⟨fields, same, -⟩
  cases same

theorem comes_entryRows {author : Text} {nobody silence : Json} :
    (∀ line ∈ rows (historyRow author nobody silence) v, Comes line) ↔ Lists IsEntry v :=
  comes_rows (fun _ => comes_historyRow) not_isEntry_str

theorem comes_contactRows : (∀ line ∈ rows contactRow v, Comes line) ↔ Lists IsContact v :=
  comes_rows (fun _ => comes_contactRow) fun _ contact => nomatch contact.1.choose_spec

/-- A line that counts what is listed comes out if the list does. -/
theorem comes_count {kind : Json → Prop} {line : Nat → Shown} (lists : Lists kind v) :
    Comes ((size v).map line) :=
  comes_map.2 (comes_size.2 (comes_members_of_lists lists))

theorem comes_historyLines :
    (∀ line ∈ historyLines v, Comes line) ↔
      HasField "messages" (fun messages => isTrue messages = false ∨ Lists IsEntry messages) v := by
  rw [historyLines, hasField_iff (.arr []) (.inl rfl)]
  cases fieldOr "messages" (.arr []) v with
  | error fault => simp
  | ok messages =>
    cases any : isTrue messages with
    | false => simp [any]
    | true =>
      simp only [any, if_true, List.cons_append, List.forall_mem_cons, List.forall_mem_append, comes_entryRows,
        comes_ok, Except.ok.injEq, exists_eq_left', reduceCtorEq, false_or, true_and]
      exact (and_iff_right_of_imp fun lists => comes_count lists.1).trans
        (and_iff_left (by simp))

theorem comes_privateHistoryLines :
    (∀ line ∈ privateHistoryLines v, Comes line) ↔ HasField "messages" (Lists IsEntry) v := by
  rw [privateHistoryLines, hasField_iff (.arr []) (by simp [Lists])]
  cases found : fieldOr "messages" (.arr []) v with
  | error fault => simp
  | ok messages =>
    have object := isObject_of_fieldOr found
    simp only [List.forall_mem_cons, comes_entryRows, Except.ok.injEq, exists_eq_left']
    exact and_iff_right
      (comes_shownField_bind object fun other => comes_shownField_bind object fun count => comes_ok _)

theorem comes_contactsLines :
    (∀ line ∈ contactsLines v, Comes line) ↔ HasField "contacts" (Lists IsContact) v := by
  rw [contactsLines, hasField_iff (.arr []) (by simp [Lists])]
  cases fieldOr "contacts" (.arr []) v with
  | error fault => simp
  | ok contacts =>
    simp only [List.forall_mem_cons, comes_contactRows, Except.ok.injEq, exists_eq_left']
    exact and_iff_right_of_imp comes_count

end

/-! ## Messages -/

theorem typeOf?_eq_some_iff {fields : List (Text × Json)} {name : String} :
    typeOf? fields = some name ↔ Json.lookup "type" fields = some (.str name) := by
  unfold typeOf?
  split
  · next type found => simp [found, Text.string?_eq_some_iff]
  · next other => exact iff_of_false (by nofun) (other _)

/-- What an object has to hold to be shown, by its type. -/
theorem wellShaped_obj_iff {fields : List (Text × Json)} {type : Option String} (typed : typeOf? fields = type) :
    WellShaped (.obj fields) ↔
      (type = some "login_success" → HasField "user" IsObject (.obj fields)) ∧
      (type = some "register_success" → HasField "user" IsObject (.obj fields)) ∧
      (type = some "online_users" → HasField "users" ListsTexts (.obj fields)) ∧
      (type = some "chat" → HasField "timestamp" Cuttable (.obj fields)) ∧
      (type = some "history" →
        HasField "messages" (fun messages => isTrue messages = false ∨ Lists IsEntry messages) (.obj fields)) ∧
      (type = some "private_history" → HasField "messages" (Lists IsEntry) (.obj fields)) ∧
      (type = some "contacts" → HasField "contacts" (Lists IsContact) (.obj fields)) := by
  subst typed
  simp only [typeOf?_eq_some_iff]
  exact ⟨fun ⟨_, login, register, online, chat, history, privateHistory, contacts⟩ =>
      ⟨login, register, online, chat, history, privateHistory, contacts⟩,
    fun ⟨login, register, online, chat, history, privateHistory, contacts⟩ =>
      ⟨⟨fields, rfl⟩, login, register, online, chat, history, privateHistory, contacts⟩⟩

/-- All lines of a message can be had exactly when what its type is shown by is of the kinds for that. -/
theorem comes_display (v : Json) : (∀ line ∈ display v, Comes line) ↔ WellShaped v := by
  cases v with
  | obj fields =>
    have object : IsObject (.obj fields) := ⟨fields, rfl⟩
    rw [display]
    split
    case h_13 =>
      -- A message of another type shows nothing.
      refine iff_of_true (by simp) ((wellShaped_obj_iff rfl).2 ?_)
      simp_all
    all_goals
      next typed =>
      rw [wellShaped_obj_iff typed]
      simp [comes_map, comes_shownField, comes_accountName, comes_onlineLine, comes_chatLine, comes_privateLine,
        comes_historyLines, comes_privateHistoryLines, comes_contactsLines, object]
  | _ => exact iff_of_false (by simp [display]) fun shaped => nomatch shaped.isObject.choose_spec

/-- A message is shown to its end exactly when its lines can be had, and those to print have bytes. -/
theorem fault?_display_eq_none_iff (v : Json) : fault? (display v) = none ↔ Showable v := by
  rw [fault?_eq_none_iff, comes_display]
  exact ⟨fun ⟨shaped, whole⟩ => ⟨shaped, whole⟩, fun showable => ⟨showable.toWellShaped, showable.whole⟩⟩

end ChatService.Client
