import ChatService.Proofs.Hub.Commands

/-!
# The exchange rates over a run

The rates command keeps one text. `Rates.Answered` says what it answers and whether it
asks, given the latest success and what the next request meets. Over every run the cache
holds this latest success, and nothing else that a connection can ask for changes it.
-/

namespace ChatService

open Effect (asked sent)

/-! ## Quotes -/

/-- Doubles that compare as equal compare as ordered. -/
theorem Float.le_of_beq {x y : Float} (equal : (x == y) = true) : x ≤ y := by
  have same : x.toModel.unpack.compare y.toModel.unpack = some .eq := beq_iff_eq.1 equal
  have below : x.toModel.unpack.le y.toModel.unpack = true := by
    rw [Float.Model.UnpackedFloat.le, same]
    rfl
  exact decide_eq_true (p := x.toModel ≤ y.toModel) below

namespace Rates

/-- The euro of a quote passed the test on its sign; it may still be no number. -/
theorem not_le_of_quoteOf {body : Json} {quote : Quote} (quoted : quoteOf body = .ok quote) :
    ¬quote.eur.value ≤ 0 := by
  simp only [quoteOf, bind, Except.bind] at quoted
  cases found : body.field? "rates" with
  | none =>
    simp only [found] at quoted
    cases quoted
  | some rates =>
    simp only [found] at quoted
    -- Each of the three currencies is looked up; without one of them there is no quote.
    iterate 3
      split at quoted
      · cases quoted
    split at quoted
    · cases quoted
    · next positive =>
      cases quoted
      simp only [Bool.or_eq_true, decide_eq_true_eq, not_or] at positive
      exact positive.1.2

/-- Every quote that a service answers has a text: the division by the euro never fails. -/
theorem text?_of_quote {met : ServiceAnswer} {quote : Quote} (quoted : Rates.quote met = .ok quote) :
    ∃ text, quote.text? = .ok text := by
  cases met with
  | response r =>
    simp only [Rates.quote] at quoted
    split at quoted
    · cases quoted
    · split at quoted
      · cases quoted
      · have nonzero : ¬(quote.eur.value == 0) = true := fun zero => not_le_of_quoteOf quoted (Float.le_of_beq zero)
        exact ⟨_, by rw [Quote.text?, Rates.text?, if_neg nonzero]⟩
  | clientError | timeout | crash | silence => cases quoted

/-! ## The command -/

/-- There is no text, or it is too old. -/
def Due (ttl : Float) (latest : Option (String × Float)) (now : Float) : Prop :=
  ∀ text since, latest = some (text, since) → ¬now - since < ttl

/-- What the rates command answers at some time, and the addresses that it asks: given the time to live, the text
and the time of the latest success, and what the next request meets. -/
inductive Answered (ttl : Float) (latest : Option (String × Float)) (met : ServiceAnswer) (now : Float) :
    Text → List String → Prop
  | fresh {text : String} {since : Float} (kept : latest = some (text, since)) (young : now - since < ttl) :
    Answered ttl latest met now text []
  | success {quote : Quote} {text : String} (due : Due ttl latest now) (quoted : Rates.quote met = .ok quote)
    (shown : quote.text? = .ok text) : Answered ttl latest met now text [address]
  | outage {failure : LookupFailure} (due : Due ttl latest now) (failed : Rates.quote met = .error failure)
    (expected : failure = .silence ∨ ∃ message, failure = .unavailable message) :
    Answered ttl latest met now ((latest.map (·.1)).getD BuiltIn.ratesFallback : String) [address]
  | crash {failure : LookupFailure} (due : Due ttl latest now) (failed : Rates.quote met = .error failure)
    (unexpected : failure = .overflow ∨ ∃ message, failure = .crash message) :
    Answered ttl latest met now ("❌ Error: " ++ failure.message) [address]

theorem Cache.isValid_iff (c : Cache) (now : Instant) :
    c.isValid now = true ↔ ∃ text since, c.slot = some (text, since) ∧ c.clock now - since < c.ttl := by
  rcases slot : c.slot with - | ⟨text, since⟩
  · simp [isValid, slot]
  · constructor
    · intro valid
      exact ⟨text, since, rfl, by simpa [isValid, slot] using valid⟩
    · rintro ⟨_, _, kept, young⟩
      cases kept
      simpa [isValid, slot] using young

theorem Cache.due_of_not_isValid {c : Cache} {now : Instant} (old : ¬c.isValid now = true) :
    Due c.ttl c.slot (c.clock now) :=
  fun text since kept young => old ((c.isValid_iff now).2 ⟨text, since, kept, young⟩)

/-- The cache after a success, or as it is. -/
def Cache.keep (c : Cache) (success : Option (String × Float)) : Cache := { c with slot := success.or c.slot }

end Rates

namespace BuiltIn

/-- The text and the time of a success, should the rates be asked for now. The time is what the clock shows when
the answer is there. -/
def State.success? (s : State) (now : Instant) : Option (String × Float) :=
  match Rates.quote s.ask.1 with
  | .ok quote => quote.text?.toOption.map (·, s.cache.clock (now.after s.ask.1.took))
  | .error _ => none

theorem runRates_answered (now : Instant) (s : State) :
    Rates.Answered s.cache.ttl s.cache.slot s.ask.1 (s.cache.clock now) (Ending.reply (runRates now s))
      (asked (runRates now s).2.2) := by
  unfold runRates
  split
  · next valid =>
    obtain ⟨text, since, kept, young⟩ := (s.cache.isValid_iff _).1 valid
    have shown : s.cache.text?.getD "" = text := by rw [Rates.Cache.text?, kept]; rfl
    simp only [Ending.reply, shown]
    exact .fresh kept young
  · next old =>
    have due := Rates.Cache.due_of_not_isValid old
    cases met : Rates.quote s.ask.1 with
    | ok quote =>
      obtain ⟨text, shown⟩ := Rates.text?_of_quote met
      simp only [met, shown]
      exact .success due met shown
    | error failure =>
      simp only [met]
      cases failure with
      | unavailable message => exact .outage due met (.inr ⟨message, rfl⟩)
      | silence => exact .outage due met (.inl rfl)
      | crash message => exact .crash due met (.inr ⟨message, rfl⟩)
      | overflow => exact .crash due met (.inl rfl)

/-- The rates command keeps a success, and nothing else. -/
theorem cache_runRates (now : Instant) (s : State) :
    (runRates now s).2.1.cache =
      s.cache.keep (if Rates.address ∈ asked (runRates now s).2.2 then s.success? now else none) := by
  unfold runRates
  split
  · rfl
  · cases met : Rates.quote s.ask.1 with
    | ok quote =>
      obtain ⟨text, shown⟩ := Rates.text?_of_quote met
      have success : s.success? now = some (text, s.cache.clock (now.after s.ask.1.took)) := by
        simp only [State.success?, met, shown, Except.toOption, Option.map_some]
      simp only [success, met, shown, Effect.asked_fetched, List.mem_singleton, if_true, Effect.asked_nil]
      rfl
    | error failure =>
      have nothing : s.success? now = none := by simp only [State.success?, met]
      rw [nothing, ite_self]
      simp only [met]
      split <;> rfl

/-- The weather is asked for somewhere else. -/
theorem weather_address_ne (city : String) : Weather.address city ≠ Rates.address := by
  intro same
  have heads := congrArg (fun address : String => address.toList.take 5) same
  unfold Weather.address at heads
  simp only [String.toList_append, List.append_assoc] at heads
  rw [List.take_append_of_le_length (by decide)] at heads
  exact absurd heads (by decide)

theorem not_asked_fetch (city : Text) (answers : Answers) : Rates.address ∉ (Weather.fetch city answers).asked := by
  unfold Weather.fetch
  split
  · exact List.not_mem_nil
  · next city _ => exact fun asked => weather_address_ne city (List.mem_singleton.1 asked).symm

/-- Other commands neither keep rates nor ask for them. -/
theorem cache_run_of_ne {command : BuiltIn} (other : command ≠ .rates) (store : Store) (caller : Caller)
    (arguments : List Text) (s : State) :
    (run store caller command arguments s).2.1.cache = s.cache ∧
      Rates.address ∉ asked (run store caller command arguments s).2.2 := by
  cases command with
  | rates => exact absurd rfl other
  | weather =>
    obtain ⟨kept, same⟩ := runWeather_asks arguments s
    refine ⟨kept, ?_⟩
    rw [run, same]
    exact not_asked_fetch (namedCity arguments) s.surroundings.answers
  | time | calculate | joke | contacts | online | help => exact ⟨rfl, List.not_mem_nil⟩

theorem cache_run (store : Store) (caller : Caller) (command : BuiltIn) (arguments : List Text) (s : State) :
    (run store caller command arguments s).2.1.cache =
      s.cache.keep
        (if Rates.address ∈ asked (run store caller command arguments s).2.2 then s.success? caller.now else none) := by
  by_cases rates : command = .rates
  · rw [rates]
    exact cache_runRates caller.now s
  · obtain ⟨same, silent⟩ := cache_run_of_ne rates store caller arguments s
    rw [same, if_neg silent]
    rfl

end BuiltIn

/-! ## Steps and runs -/

namespace Hub

/-- The text and the time of a success in a turn: the rates were asked for, and what was met is a quote. -/
def Turn.success? (turn : Turn) : Option (String × Float) :=
  if Rates.address ∈ asked turn.done.effects then turn.hub.commands.success? turn.step.time else none

/-- The latest success among the turns of a run. -/
def latestSuccess (turns : List Turn) : Option (String × Float) := (turns.filterMap Turn.success?).getLast?

/-- A step keeps its success in the cache, and otherwise leaves the cache as it is. -/
theorem cache_perform (hub : Hub) (step : Step) :
    (hub.perform step).hub.commands.cache = hub.commands.cache.keep (Turn.mk hub step).success? := by
  apply perform_commands (P := fun state asked =>
    state.cache = hub.commands.cache.keep
      (if Rates.address ∈ asked then hub.commands.success? step.time else none))
  · rfl
  · intro user command arguments _
    exact BuiltIn.cache_run hub.store ⟨user, step.time⟩ command arguments hub.commands

theorem latestSuccess_cons (turn : Turn) (rest : List Turn) :
    latestSuccess (turn :: rest) = (latestSuccess rest).or turn.success? := by
  rw [latestSuccess, latestSuccess, List.filterMap_cons]
  cases success : turn.success? with
  | none => exact Option.or_none.symm
  | some first => rw [List.getLast?_cons]; cases (rest.filterMap Turn.success?).getLast? <;> rfl

/-- After a run the cache holds the latest success of the run, or what it held before. -/
theorem cache_advance (hub : Hub) (steps : List Step) :
    (hub.advance steps).commands.cache = hub.commands.cache.keep (latestSuccess (hub.turns steps)) := by
  induction steps generalizing hub with
  | nil => rfl
  | cons step rest ih =>
    have later := ih (hub.perform step).hub
    rw [cache_perform] at later
    rw [turns, latestSuccess_cons]
    refine later.trans ?_
    simp only [Rates.Cache.keep, Option.or_assoc]

/-- A text that calls for the rates. -/
structure CallsRates (text : Text) : Prop where
  isCommand : BuiltIn.dispatcher.isCommand text = true
  word : ∃ first arguments, Text.words text = first :: arguments ∧
    (Text.lowered first = "/rates" ∨ Text.lowered first = "/курс")

theorem CallsRates.calls {text : Text} (calls : CallsRates text) : BuiltIn.Calls .rates text := by
  obtain ⟨first, arguments, words, named⟩ := calls.word
  refine ⟨calls.isCommand, first, arguments, words, (.rates, ["rates", "курс"]), by decide, rfl, ?_⟩
  rcases named with english | russian
  · exact ⟨"rates", by decide, english⟩
  · exact ⟨"курс", by decide, russian⟩

/-- The rates command is answered to its caller, and to nobody else. -/
theorem perform_rates (hub : Hub) (now : Instant) (connection : String) {text : Text} (calls : CallsRates text) :
    ∃ reply, Rates.Answered hub.commands.cache.ttl hub.commands.cache.slot hub.commands.ask.1
        (hub.commands.cache.clock now) reply
        (asked (hub.perform ⟨now, connection, .message (some text)⟩).effects) ∧
      sent (hub.perform ⟨now, connection, .message (some text)⟩).effects = [.caller connection (.system reply now)] := by
  obtain ⟨token, arguments, selected⟩ := calls.calls.select
  obtain ⟨reply, only, ends⟩ := perform_command calls.isCommand hub now connection
  obtain ⟨rfl, same⟩ := ends token .rates arguments selected
  rw [same]
  exact ⟨_, BuiltIn.runRates_answered now hub.commands, only⟩

/-- The rates over a run, by any clock. Whatever happened, the cache holds the text and the time of the latest
success, so no failure changes, clears or renews it. Whenever somebody calls for the rates, one reply is sent, to the
caller: while the latest success is young its text, and nothing is asked; otherwise the service is asked once, and the
reply is the text of the quote, or in an outage the latest success however old (a replacement if there was none), or
else the text of the failure. -/
theorem rates_follow_latest_success (hasher : Hasher) (maxHistory : Nat) (maxPrivateHistory : Int) (ttl : Float)
    (clock : Instant → Float) (surroundings : BuiltIn.Surroundings) (chatLog : ChatLog) (steps : List Step) :
    let start := create (.empty hasher maxHistory maxPrivateHistory) (.empty ttl clock) surroundings chatLog
    let hub := start.advance steps
    let latest := latestSuccess (start.turns steps)
    hub.commands.cache = ⟨ttl, clock, latest⟩ ∧
      ∀ (now : Instant) (connection : String) (text : Text), CallsRates text →
        let done := hub.perform ⟨now, connection, .message (some text)⟩
        ∃ reply, Rates.Answered ttl latest hub.commands.ask.1 (clock now) reply (asked done.effects) ∧
          sent done.effects = [.caller connection (.system reply now)] := by
  intro start hub latest
  have held : hub.commands.cache = ⟨ttl, clock, latest⟩ := by
    rw [cache_advance start steps]
    simp only [Rates.Cache.keep, start, create, Rates.Cache.empty, Option.or_none, latest]
  refine ⟨held, fun now connection text calls => ?_⟩
  have answered := perform_rates hub now connection calls
  rwa [held] at answered

/-- One success that takes a tenth of a second, and then the service is silent just when its text has become too
old. -/
theorem rates_follow_latest_success_of_silence :
    let rates := Json.obj [("RUB", .int 90), ("EUR", .str "0.5"), ("CNY", .int 7)]
    let clock : Instant → Float := fun now => Float.ofInt now.micros / 1000000
    let start := create (.empty .plain 5 5) (.empty 600 clock)
      ⟨[.response ⟨200, .ok "", .ok (.obj [("rates", rates)]), 100000⟩, .silence], []⟩ .default
    let text := "💵 Exchange rates:\n1 USD = 90.00 ₽\n1 EUR = 2.00 $\n1 USD = 7.00 ¥"
    let hub := start.advance [⟨⟨100900000⟩, "a", .message (some "/rates")⟩]
    let done := hub.perform ⟨⟨701000000⟩, "b", .message (some "/Курс now")⟩
    hub.commands.cache = ⟨600, clock, some (text, 101)⟩ ∧ asked done.effects = [Rates.address] ∧
      sent done.effects = [.caller "b" (.system text ⟨701000000⟩)] := by
  intro rates clock start text hub done
  obtain ⟨held, answers⟩ := rates_follow_latest_success .plain 5 5 600 clock
    ⟨[.response ⟨200, .ok "", .ok (.obj [("rates", rates)]), 100000⟩, .silence], []⟩ .default
    [⟨⟨100900000⟩, "a", .message (some "/rates")⟩]
  have latest : latestSuccess (start.turns [⟨⟨100900000⟩, "a", .message (some "/rates")⟩]) = some (text, 101) := by
    decide +kernel
  have calls : CallsRates "/Курс now" :=
    ⟨by decide +kernel, "/Курс", ["now"], by decide +kernel, .inr (by decide +kernel)⟩
  have silent : Rates.quote hub.commands.ask.1 = .error .silence := by
    have met : (match hub.commands.ask.1 with | .silence => true | _ => false) = true := by decide +kernel
    split at met
    · next silence => rw [silence]; rfl
    · cases met
  obtain ⟨reply, answered, only⟩ := answers ⟨701000000⟩ "b" "/Курс now" calls
  rw [show latestSuccess _ = _ from latest] at held answered
  refine ⟨held, ?_⟩
  change Rates.Answered _ _ hub.commands.ask.1 _ reply (asked done.effects) at answered
  generalize asked done.effects = addresses at answered ⊢
  rcases answered with ⟨kept, young⟩ | ⟨-, quoted, -⟩ | - | ⟨-, failed, unexpected⟩
  · cases kept
    exact absurd young (by decide)
  · cases silent.symm.trans quoted
  · exact ⟨rfl, only⟩
  · cases silent.symm.trans failed
    simp at unexpected

end Hub

end ChatService
