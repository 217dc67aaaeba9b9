import ChatService.Command.Dispatcher
import ChatService.Proofs.Text.Case

/-!
# Reaching a command

Names are registered in lower case behind the marker; a command text is looked up by its
first word, marker and all, in lower case. The two agree for every name exactly when
the marker is neutral: when lower case leaves it alone and begins behind it as at the
start of a text.
-/

namespace ChatService.Dispatcher

variable {α : Type}

/-! ## The words of a command -/

/-- Characters without white space before white space, or before nothing, are the first word. -/
theorem words_append {word rest : Text} (filled : word ≠ []) (solid : Text.Solid word)
    (apart : ∀ c ∈ rest.head?, Text.isBlank c = true) : Text.words (word ++ rest) = word :: Text.words rest := by
  obtain ⟨c, tail, rfl⟩ := List.exists_cons_of_ne_nil filled
  obtain ⟨first, inside⟩ := List.forall_mem_cons.1 solid
  have cut := Text.span_append (p := fun d => !Text.isBlank d) rest
    (fun d (mem : d ∈ tail) => by simp [inside d mem]) (fun d mem => by simp [apart d mem])
  rw [List.cons_append, Text.words, if_neg (by simp [first]), cut.1, cut.2]

/-! ## The handler of a token -/

/-- The dispatcher after some registrations, in this order: each a handler with its names. -/
def ofCalls (marker : Text) (calls : List (α × List Text)) : Dispatcher α :=
  calls.foldl (fun d call => d.register call.1 call.2) (.empty marker)

/-- The names with their handlers in the order of registration. -/
def registered (calls : List (α × List Text)) : List (Text × α) :=
  calls.flatMap fun call => call.2.map fun name => (name, call.1)

theorem registered_cons (call : α × List Text) (calls : List (α × List Text)) :
    registered (call :: calls) = (call.2.map fun name => (name, call.1)) ++ registered calls := List.flatMap_cons

theorem marker_foldl_register (calls : List (α × List Text)) (d : Dispatcher α) :
    (calls.foldl (fun d call => d.register call.1 call.2) d).marker = d.marker := by
  induction calls generalizing d with
  | nil => rfl
  | cons call calls ih => exact ih _

theorem marker_ofCalls (marker : Text) (calls : List (α × List Text)) : (ofCalls marker calls).marker = marker :=
  marker_foldl_register calls _

theorem find?_foldl_insert {κ : Type} [DecidableEq κ] (key : Text → κ) (entries : List (Text × α)) (t : Table κ α)
    (k : κ) : (entries.foldl (fun t e => t.insert (key e.1) e.2) t).find? k =
      ((entries.reverse.find? fun e => key e.1 = k).map (·.2)).or (t.find? k) := by
  induction entries generalizing t with
  | nil => rfl
  | cons e entries ih =>
    rw [List.foldl_cons, ih, Table.find?_insert, List.reverse_cons, List.find?_append]
    by_cases same : key e.1 = k
    · cases entries.reverse.find? fun e => key e.1 = k <;> simp [same]
    · cases entries.reverse.find? fun e => key e.1 = k <;> simp [same, Ne.symm same]

/-- A token calls the handler that was registered last under a name that makes up the token. -/
theorem find?_ofCalls (marker : Text) (calls : List (α × List Text)) (token : Text) :
    (ofCalls marker calls).handlers.find? token =
      ((registered calls).reverse.find? fun e => marker ++ Text.lowered e.1 = token).map (·.2) := by
  have whole (calls : List (α × List Text)) (d : Dispatcher α) (same : d.marker = marker) :
      (calls.foldl (fun d call => d.register call.1 call.2) d).handlers =
        (registered calls).foldl (fun t e => t.insert (marker ++ Text.lowered e.1) e.2) d.handlers := by
    induction calls generalizing d with
    | nil => rfl
    | cons call calls ih =>
      rw [List.foldl_cons, ih (d.register call.1 call.2) same, registered_cons, List.foldl_append, register,
        List.foldl_map, same]
  rw [ofCalls, whole calls _ rfl, find?_foldl_insert fun name => marker ++ Text.lowered name]
  exact Option.or_none

/-- The handler that was registered last under a name, up to lower case. -/
def Latest (calls : List (α × List Text)) (name : Text) (handler : α) : Prop :=
  ∃ before own after, registered calls = before ++ (own, handler) :: after ∧ Text.lowered own = Text.lowered name ∧
    ∀ e ∈ after, Text.lowered e.1 ≠ Text.lowered name

theorem latest_of_find? {calls : List (α × List Text)} {name : Text} {e : Text × α}
    (found : (registered calls).reverse.find? (fun e => Text.lowered e.1 = Text.lowered name) = some e) :
    Latest calls name e.2 := by
  obtain ⟨same, after, before, split, others⟩ := List.find?_eq_some_iff_append.1 found
  refine ⟨before.reverse, e.1, after.reverse, ?_, by simpa using same, ?_⟩
  · rw [← List.reverse_reverse (registered calls), split]
    simp
  · intro f mem
    simpa using others f (List.mem_reverse.1 mem)

/-! ## Command texts -/

/-- A command text runs a handler: it is taken for a command, the handler gets the arguments, and its reply or the
text of its failure is the reply. -/
structure Runs (d : Dispatcher α) (text : Text) (handler : α) (arguments : List Text) : Prop where
  isCommand : d.isCommand text = true
  answers : ∀ {σ ε : Type} (log : LogLine → ε) (run : α → List Text → σ → Except Text Text × σ × List ε)
    (who : Text) (s s' : σ) (effects : List ε),
    (∀ reply, run handler arguments s = (.ok reply, s', effects) →
      ∃ note, d.dispatch log run who text s = (reply, s', log note :: effects)) ∧
    (∀ message, run handler arguments s = (.error message, s', effects) →
      ∃ note fault, d.dispatch log run who text s = ("❌ Error: " ++ message, s', log note :: effects ++ [log fault]))

theorem runs_of_select {d : Dispatcher α} {text token : Text} {handler : α} {arguments : List Text}
    (isCommand : d.isCommand text = true) (selected : d.select text = .handler token handler arguments) :
    Runs d text handler arguments := by
  refine ⟨isCommand, fun log run who s s' effects => ⟨fun reply done => ?_, fun message failed => ?_⟩⟩
  · simp only [dispatch, selected, done]
    exact ⟨_, rfl⟩
  · simp only [dispatch, selected, failed]
    exact ⟨_, _, rfl⟩

theorem not_runs_of_unknown {d : Dispatcher α} {text token : Text} (unknown : d.select text = .unknown token)
    (handler : α) (arguments : List Text) : ¬Runs d text handler arguments := by
  intro runs
  obtain ⟨note, same⟩ := (runs.answers (fun line => line) (fun _ _ s => (.ok "", s, [])) "" () () []).1 "" rfl
  simp only [dispatch, unknown] at same
  exact absurd (Prod.mk.inj same).1 (by decide)

variable {marker : Text}

theorem isCommand_marked (calls : List (α × List Text)) (typed rest : Text) (filled : marker ≠ []) :
    (ofCalls marker calls).isCommand (marker ++ typed ++ rest) = true := by
  have starts : marker.isPrefixOf (marker ++ typed ++ rest) = true := by
    rw [List.isPrefixOf_iff_prefix, List.append_assoc]
    exact List.prefix_append ..
  rw [isCommand, marker_ofCalls, starts]
  simp [filled]

/-- What a command text selects, whatever the marker is. -/
theorem select_marked (calls : List (α × List Text)) {typed rest : Text} (filled : marker ≠ [])
    (solid : Text.Solid marker) (word : Text.Solid typed) (apart : ∀ c ∈ rest.head?, Text.isBlank c = true) :
    (ofCalls marker calls).select (marker ++ typed ++ rest) =
      match (registered calls).reverse.find? fun e => marker ++ Text.lowered e.1 = Text.lowered (marker ++ typed) with
      | none => .unknown (Text.lowered (marker ++ typed))
      | some e => .handler (Text.lowered (marker ++ typed)) e.2 (Text.words rest) := by
  have first : Text.words (marker ++ typed ++ rest) = (marker ++ typed) :: Text.words rest :=
    words_append (by simp [filled]) (Text.solid_append.2 ⟨solid, word⟩) apart
  simp only [select, first, find?_ofCalls]
  cases (registered calls).reverse.find? fun e => marker ++ Text.lowered e.1 = Text.lowered (marker ++ typed) <;> rfl

/-- Under a marker that is not neutral there is a name whose own spelling makes up no registered token. -/
theorem exists_lowered_ne (unsettled : ¬Text.IsNeutral marker) :
    ∃ name : Text, name ≠ [] ∧ Text.Solid name ∧ marker ++ Text.lowered name ≠ Text.lowered (marker ++ name) := by
  by_cases same : Text.lowered marker = marker
  · -- Only the letters before the name are left to blame: they make a capital sigma final.
    have met : Text.meetsCased (Text.standIns marker).reverse = true := by
      rw [← Bool.not_eq_false]
      exact fun unmet => unsettled ⟨same, unmet⟩
    refine ⟨"Σ", by decide, by decide, fun agree => ?_⟩
    have final : Text.lowered (marker ++ "Σ") = marker ++ "ς" := by
      rw [Text.lowered, Text.loweredFrom_append_of_unchanged (Text.lowered_eq_self_iff.1 same), List.append_nil]
      refine congrArg (marker ++ ·) ?_
      have sigma : Text.ofString "Σ" = [.char 'Σ'] := rfl
      rw [sigma, Text.loweredFrom, Text.lowerIn, if_pos rfl, Text.lowerSigma, met]
      rfl
    rw [final] at agree
    exact absurd (List.append_cancel_left agree) (by decide)
  · refine ⟨"a", by decide, by decide, fun agree => same (Text.lowered_eq_self_iff.2 ?_)⟩
    exact Text.unchanged_of_prefix [] ⟨_, agree⟩

/-- Every registered command is reached in any letter case, by the handler registered last for it and with the
words behind it as arguments, if the marker is neutral. Under any other marker some name is not reached, not even
as it was registered. -/
theorem commands_are_reachable (filled : marker ≠ []) (solid : Text.Solid marker) :
    (Text.IsNeutral marker → ∀ (calls : List (α × List Text)) (name typed rest : Text),
      name ∈ (registered calls).map (·.1) → Text.Solid name → Text.lowered typed = Text.lowered name →
      (∀ c ∈ rest.head?, Text.isBlank c = true) →
      ∃ handler, Latest calls name handler ∧
        Runs (ofCalls marker calls) (marker ++ typed ++ rest) handler (Text.words rest)) ∧
    (¬Text.IsNeutral marker → ∃ name : Text, name ≠ [] ∧ Text.Solid name ∧
      ∀ (own handler : α) (arguments : List Text),
        ¬Runs (ofCalls marker [(own, [name])]) (marker ++ name) handler arguments) := by
  refine ⟨fun neutral calls name typed rest known word same apart => ?_, fun unsettled => ?_⟩
  · have typedWord : Text.Solid typed := by
      rw [← Text.solid_lowered_iff, same, Text.solid_lowered_iff]
      exact word
    have names (e : Text × α) : marker ++ Text.lowered e.1 = Text.lowered (marker ++ typed) ↔
        Text.lowered e.1 = Text.lowered name := by
      rw [Text.lowered_append_of_neutral neutral, same, List.append_cancel_left_eq]
    have selected := select_marked calls filled solid typedWord apart
    simp only [names] at selected
    obtain ⟨e, member, rfl⟩ := List.mem_map.1 known
    cases found : (registered calls).reverse.find? fun f => Text.lowered f.1 = Text.lowered e.1 with
    | none => exact absurd (List.find?_eq_none.1 found e (List.mem_reverse.2 member)) (by simp)
    | some f =>
      rw [found] at selected
      exact ⟨f.2, latest_of_find? found, runs_of_select (isCommand_marked calls typed rest filled) selected⟩
  · obtain ⟨name, some', word, apart⟩ := exists_lowered_ne unsettled
    refine ⟨name, some', word, fun own => ?_⟩
    have nothing : ∀ c ∈ ([] : Text).head?, Text.isBlank c = true := by simp
    have selected := select_marked [(own, [name])] filled solid word nothing
    have unknown : (ofCalls marker [(own, [name])]).select (marker ++ name) =
        .unknown (Text.lowered (marker ++ name)) := by
      rw [List.append_nil] at selected
      simpa [registered, apart] using selected
    exact not_runs_of_unknown unknown

/-- A name with capital sigmas that two handlers are registered under, in three spellings. Under a marker with a
capital letter a name is not reached. -/
theorem commands_are_reachable_of_sigmas :
    let slash := Text.ofString "/"
    let capital := Text.ofString "Bot:"
    let calls : List (Nat × List Text) := [(1, ["echo", "ΣΑΣ"]), (2, ["help", "Σας"])]
    (slash ≠ [] ∧ Text.Solid slash ∧ Text.IsNeutral slash ∧ Text.ofString "ΣΑΣ" ∈ (registered calls).map (·.1) ∧
      Text.Solid (Text.ofString "ΣΑΣ") ∧ Text.lowered "σαΣ" = Text.lowered "ΣΑΣ" ∧
      (∀ c ∈ (Text.ofString "\u3000a  b").head?, Text.isBlank c = true) ∧
      ∃ handler, Latest calls "ΣΑΣ" handler ∧ Runs (ofCalls slash calls) "/σαΣ\u3000a  b" handler ["a", "b"]) ∧
    (capital ≠ [] ∧ Text.Solid capital ∧ ¬Text.IsNeutral capital ∧
      ∃ name : Text, name ≠ [] ∧ Text.Solid name ∧ ∀ (own handler : Nat) (arguments : List Text),
        ¬Runs (ofCalls capital [(own, [name])]) (capital ++ name) handler arguments) := by
  intro slash capital calls
  have neutral : Text.IsNeutral slash := by decide +kernel
  have same : Text.lowered "σαΣ" = Text.lowered "ΣΑΣ" := by decide +kernel
  have unsettled : ¬Text.IsNeutral capital := by decide +kernel
  have apart : ∀ c ∈ (Text.ofString "\u3000a  b").head?, Text.isBlank c = true := by
    rintro c ⟨⟩
    decide
  have marked := @commands_are_reachable Nat slash (by decide) (by decide)
  have capitals := @commands_are_reachable Nat capital (by decide) (by decide)
  refine ⟨⟨by decide, by decide, neutral, by decide, by decide +kernel, same, apart, ?_⟩,
    by decide, by decide, unsettled, capitals.2 unsettled⟩
  have reached := marked.1 neutral calls "ΣΑΣ" "σαΣ" "\u3000a  b" (by decide) (by decide +kernel) same apart
  have words : Text.words (Text.ofString "\u3000a  b") = [Text.ofString "a", Text.ofString "b"] := by decide +kernel
  have whole : slash ++ "σαΣ" ++ "\u3000a  b" = Text.ofString "/σαΣ\u3000a  b" := by decide +kernel
  rwa [words, whole] at reached

/-- A registered command that is taken for a command and not reached. -/
theorem capital_marker_unknown :
    let d := ofCalls "Bot:" [((), ["echo"])]
    d.isCommand "Bot:echo a b" = true ∧ ∀ handler arguments, ¬Runs d "Bot:echo a b" handler arguments := by
  intro d
  have marker : Text.ofString "Bot:" ≠ [] ∧ Text.Solid (Text.ofString "Bot:") := by decide
  have typed : Text.Solid (Text.ofString "echo") := by decide
  have rest : ∀ c ∈ (Text.ofString " a b").head?, Text.isBlank c = true := by
    rintro c ⟨⟩
    decide
  have apart : Text.ofString "Bot:" ++ Text.lowered "echo" ≠ Text.lowered "Bot:echo" := by decide +kernel
  have selected := select_marked [((), ["echo"])] marker.1 marker.2 typed rest
  have word : Text.ofString "Bot:" ++ Text.ofString "echo" = Text.ofString "Bot:echo" := rfl
  have whole : Text.ofString "Bot:echo" ++ Text.ofString " a b" = Text.ofString "Bot:echo a b" := rfl
  have unknown : d.select "Bot:echo a b" = .unknown (Text.lowered "Bot:echo") := by
    rw [word, whole] at selected
    simpa [registered, apart] using selected
  exact ⟨isCommand_marked [((), ["echo"])] "echo" " a b" marker.1, not_runs_of_unknown unknown⟩

end ChatService.Dispatcher
