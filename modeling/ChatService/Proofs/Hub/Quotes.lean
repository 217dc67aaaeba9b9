import ChatService.Proofs.Decimal.Range
import ChatService.Proofs.Hub.Rates

/-!
# What comes of an answer about the rates

A quote holds what the answer gives for the three symbols, and every one of its rates passed a comparison with zero.
So it is a finite number above zero, or one of the two doubles that such a comparison does not stop: the positive
infinity and what is no number. Any other answer ends in the one failure that the service is unavailable, except
for whole numbers too large for a double.
-/

namespace ChatService

open Effect (sent)

namespace Rates

/-- The symbols whose rates are asked for. -/
def symbols : List String := ["RUB", "EUR", "CNY"]

/-- The value that a body gives for a symbol. -/
def listed? (body : Json) (symbol : String) : Option Json := (body.field? "rates").bind (·.field? symbol)

/-- The value that an answer gives for a symbol, if it is a success and has a body. -/
def sent? (met : ServiceAnswer) (symbol : String) : Option Json :=
  match met with
  | .response r => if r.status = 200 then r.body.toOption.bind (listed? · symbol) else none
  | _ => none

/-- The rates with their symbols. -/
def Quote.entries (quote : Quote) : List (String × Rate) := [("RUB", quote.rub), ("EUR", quote.eur), ("CNY", quote.cny)]

/-- A finite rate above zero. -/
def Rate.Sound (rate : Rate) : Prop := Binary64.isFinite rate.value = true ∧ 0 < rate.value

/-- A rate that is infinite or no number, and that a comparison with zero does not stop. -/
def Rate.Special (rate : Rate) : Prop := rate.value = Binary64.infinity false ∨ rate.value = Binary64.nan

/-- A whole number that is too large for a double. -/
def TooLarge (v : Json) : Prop := ∃ n : Int, v = .int n ∧ Binary64.wholeBound ≤ n.natAbs

theorem not_le_iff (rate : Rate) : ¬rate.value ≤ 0 ↔ rate.Sound ∨ rate.Special := Binary64.not_le_zero_iff

/-! ## Reading -/

theorem rate?_int (n : Int) : rate? (.int n) =
    if n.natAbs < Binary64.wholeBound then .ok (.ofFloat (Binary64.nearest (n < 0) n.natAbs 1))
    else .error .overflow := by
  simp only [rate?, Binary64.isFinite_nearest_iff]

/-- A value that is no rate is refused, unless it is a number that is too large. -/
theorem of_rate?_error {v : Json} {failure : LookupFailure} (failed : rate? v = .error failure) :
    failure = unexpected ∨ (failure = .overflow ∧ TooLarge v) := by
  cases v with
  | int n =>
    rw [rate?_int] at failed
    split at failed
    · cases failed
    · next large =>
      cases failed
      exact .inr ⟨rfl, n, rfl, Nat.not_lt.1 large⟩
  | str s =>
    simp only [rate?] at failed
    split at failed
    · cases failed
    · cases failed
      exact .inl rfl
  | float | bool => cases failed
  | null | arr | obj =>
    cases failed
    exact .inl rfl

/-- The rate that a value stands for, if it is there. -/
def reading (v : Option Json) : Except LookupFailure Rate := v.elim (.error unexpected) rate?

theorem of_reading_error {v : Option Json} {failure : LookupFailure} (failed : reading v = .error failure) :
    failure = unexpected ∨ (failure = .overflow ∧ ∃ w, v = some w ∧ TooLarge w) := by
  cases v with
  | none =>
    cases failed
    exact .inl rfl
  | some w => exact (of_rate?_error failed).imp_right fun ⟨same, large⟩ => ⟨same, w, rfl, large⟩

/-- A quote is made from three readings. -/
theorem quoteOf_eq (body : Json) : quoteOf body = (do
    let rub ← reading (listed? body "RUB")
    let eur ← reading (listed? body "EUR")
    let cny ← reading (listed? body "CNY")
    if rub.value ≤ 0 || eur.value ≤ 0 || cny.value ≤ 0 then
      .error (.unavailable "rates service returned a non-positive rate")
    else .ok ⟨rub, eur, cny⟩) := by
  have step (rates : Json) (name : String) : symbol rates name = reading (rates.field? name) := by
    unfold symbol reading
    cases rates.field? name <;> rfl
  unfold quoteOf listed?
  cases body.field? "rates" with
  | none => rfl
  | some rates => simp only [step]; rfl

/-- A quote comes of a body exactly if it holds what the body gives for the symbols and a comparison with zero stops
none of its rates. -/
theorem quoteOf_eq_ok_iff {body : Json} {quote : Quote} : quoteOf body = .ok quote ↔
    ∀ entry ∈ quote.entries, reading (listed? body entry.1) = .ok entry.2 ∧ ¬entry.2.value ≤ 0 := by
  rw [quoteOf_eq]
  obtain ⟨rub, eur, cny⟩ := quote
  simp only [Quote.entries, List.forall_mem_cons, List.not_mem_nil, false_implies, implies_true, and_true]
  generalize reading (listed? body "RUB") = first
  generalize reading (listed? body "EUR") = second
  generalize reading (listed? body "CNY") = third
  rcases first with - | r
  · simp [bind, Except.bind]
  rcases second with - | e
  · simp [bind, Except.bind]
  rcases third with - | c
  · simp [bind, Except.bind]
  simp only [bind, Except.bind, Except.ok.injEq]
  split
  · next refused =>
    refine iff_of_false (by simp) ?_
    rintro ⟨⟨rfl, first⟩, ⟨rfl, second⟩, rfl, third⟩
    simp [first, second, third] at refused
  · next passed =>
    simp only [Bool.or_eq_true, decide_eq_true_eq, not_or] at passed
    constructor
    · rintro ⟨⟩
      exact ⟨⟨rfl, passed.1.1⟩, ⟨rfl, passed.1.2⟩, rfl, passed.2⟩
    · rintro ⟨⟨rfl, -⟩, ⟨rfl, -⟩, rfl, -⟩
      rfl

/-- A body of which no quote comes is refused, unless it gives a number that is too large. -/
theorem of_quoteOf_error {body : Json} {failure : LookupFailure} (failed : quoteOf body = .error failure) :
    (∃ message, failure = .unavailable message) ∨
      (failure = .overflow ∧ ∃ symbol ∈ symbols, ∃ v, listed? body symbol = some v ∧ TooLarge v) := by
  have refused {name : String} (known : name ∈ symbols) {failure : LookupFailure}
      (failed : reading (listed? body name) = .error failure) : (∃ message, failure = .unavailable message) ∨
        (failure = .overflow ∧ ∃ symbol ∈ symbols, ∃ v, listed? body symbol = some v ∧ TooLarge v) := by
    rcases of_reading_error failed with rfl | ⟨rfl, v, listed, large⟩
    · exact .inl ⟨_, rfl⟩
    · exact .inr ⟨rfl, name, known, v, listed, large⟩
  rw [quoteOf_eq] at failed
  cases first : reading (listed? body "RUB") with
  | error =>
    rw [first] at failed
    cases failed
    exact refused (by decide) first
  | ok rub =>
    cases second : reading (listed? body "EUR") with
    | error =>
      rw [first, second] at failed
      cases failed
      exact refused (by decide) second
    | ok eur =>
      cases third : reading (listed? body "CNY") with
      | error =>
        rw [first, second, third] at failed
        cases failed
        exact refused (by decide) third
      | ok cny =>
        rw [first, second, third] at failed
        simp only [bind, Except.bind] at failed
        split at failed
        · cases failed
          exact .inl ⟨_, rfl⟩
        · cases failed

/-! ## Answers -/

/-- The answers that a request is known to end in: a response, a failure of the client, or no answer in time. -/
def Foreseen : ServiceAnswer → Prop
  | .response _ | .clientError _ | .timeout => True
  | .crash _ | .silence => False

theorem sent?_success (text : Except String Text) (body : Json) (took : Nat) (symbol : String) :
    sent? (.response ⟨200, text, .ok body, took⟩) symbol = listed? body symbol := rfl

/-- A quote comes of an answer exactly if it holds what the answer gives for the symbols, and each of its rates is a
finite number above zero, infinite or no number. -/
theorem quote_eq_ok_iff {met : ServiceAnswer} {quote : Quote} : Rates.quote met = .ok quote ↔
    ∀ entry ∈ quote.entries, reading (sent? met entry.1) = .ok entry.2 ∧ (entry.2.Sound ∨ entry.2.Special) := by
  have none (nothing : ∀ symbol, sent? met symbol = none) : ¬∀ entry ∈ quote.entries,
      reading (sent? met entry.1) = .ok entry.2 ∧ (entry.2.Sound ∨ entry.2.Special) := by
    intro all
    have first := (all ("RUB", quote.rub) (List.mem_cons_self ..)).1
    rw [nothing] at first
    cases first
  cases met with
  | response r =>
    obtain ⟨status, text, body, took⟩ := r
    simp only [Rates.quote]
    split
    · next other => exact iff_of_false (by simp) (none fun symbol => if_neg other)
    · next success =>
      cases body with
      | error message => exact iff_of_false (by simp) (none fun symbol => by simp [sent?, Except.toOption])
      | ok body =>
        cases not_not.1 success
        simp only [sent?_success, ← not_le_iff]
        exact quoteOf_eq_ok_iff
  | clientError | timeout | crash | silence => exact iff_of_false (by simp [Rates.quote]) (none fun _ => rfl)

/-- An answer of which no quote comes ends in the failure that the service is unavailable, unless it gives a number
that is too large. -/
theorem of_quote_error {met : ServiceAnswer} (foreseen : Foreseen met) {failure : LookupFailure}
    (failed : Rates.quote met = .error failure) : (∃ message, failure = .unavailable message) ∨
      (failure = .overflow ∧ ∃ symbol ∈ symbols, ∃ v, sent? met symbol = some v ∧ TooLarge v) := by
  cases met with
  | response r =>
    obtain ⟨status, text, body, took⟩ := r
    simp only [Rates.quote] at failed
    split at failed
    · cases failed
      exact .inl ⟨_, rfl⟩
    · next success =>
      cases body with
      | error message =>
        cases failed
        exact .inl ⟨_, rfl⟩
      | ok body =>
        cases not_not.1 success
        simp only [sent?_success]
        exact of_quoteOf_error failed
  | clientError | timeout =>
    cases failed
    exact .inl ⟨_, rfl⟩
  | crash | silence => exact foreseen.elim

/-- No symbol is given a rate that is infinite or no number, or a number that is too large. -/
def Regular (met : ServiceAnswer) : Prop :=
  ∀ symbol ∈ symbols, ∀ v, sent? met symbol = some v → ¬TooLarge v ∧ ∀ rate, rate? v = .ok rate → ¬rate.Special

/-- A value that reads as a finite rate or is refused. -/
def isRegular (v : Json) : Bool :=
  match rate? v with
  | .ok rate => Binary64.isFinite rate.value
  | .error failure => failure != .overflow

theorem regular_of_isRegular {met : ServiceAnswer}
    (all : symbols.all fun symbol => (sent? met symbol).all isRegular) : Regular met := by
  intro symbol known v given
  have regular := List.all_eq_true.1 all symbol known
  rw [given, Option.all_some, isRegular] at regular
  constructor
  · rintro ⟨n, rfl, large⟩
    rw [rate?_int, if_neg (Nat.not_lt.2 large)] at regular
    cases regular
  · intro rate read special
    simp only [read] at regular
    rcases special with same | same <;> rw [same] at regular <;> exact absurd regular (by decide +kernel)

theorem sound_of_regular {met : ServiceAnswer} (regular : Regular met) {quote : Quote}
    (quoted : Rates.quote met = .ok quote) : ∀ entry ∈ quote.entries, entry.2.Sound := by
  intro entry listed
  obtain ⟨read, kind⟩ := quote_eq_ok_iff.1 quoted entry listed
  refine kind.resolve_right ?_
  have known : entry.1 ∈ symbols := List.mem_map_of_mem (f := Prod.fst) listed
  cases given : sent? met entry.1 with
  | none =>
    rw [given] at read
    cases read
  | some v =>
    rw [given] at read
    exact (regular entry.1 known v given).2 entry.2 read

/-- What a call for the rates leads to when the kept text is too old: the reply, and the cache afterwards. -/
inductive Shown (met : ServiceAnswer) (now : Instant) (cache : Cache) : Text → Cache → Prop
  | quote {quote : Quote} {text : String} (quoted : Rates.quote met = .ok quote) (shown : quote.text? = .ok text) :
    Shown met now cache text (cache.update (now.after met.took) text)
  | outage {message : String} (failed : Rates.quote met = .error (.unavailable message)) :
    Shown met now cache (cache.text?.getD BuiltIn.ratesFallback : String) cache
  | overflow (failed : Rates.quote met = .error .overflow) :
    Shown met now cache "❌ Error: int too large to convert to float" cache

end Rates

namespace Hub

/-- A call for the rates with no fresh text: a quote is shown and kept, and without one the cache stays as it is. -/
theorem perform_rates_due {met : ServiceAnswer} (foreseen : Rates.Foreseen met) {hub : Hub} {now : Instant}
    (next : hub.commands.ask.1 = met) (old : hub.commands.cache.isValid now = false) (connection : String)
    {text : Text} (calls : CallsRates text) :
    let done := hub.perform ⟨now, connection, .message (some text)⟩
    ∃ reply, Rates.Shown met now hub.commands.cache reply done.hub.commands.cache ∧
      sent done.effects = [.caller connection (.system reply now)] := by
  intro done
  obtain ⟨reply, answered, only⟩ := perform_rates hub now connection calls
  refine ⟨reply, ?_, only⟩
  have kept : done.hub.commands.cache = hub.commands.cache.keep (if Rates.address ∈ Effect.asked done.effects then
    hub.commands.success? now else none) := cache_perform hub ⟨now, connection, .message (some text)⟩
  change Rates.Answered _ _ _ _ reply (Effect.asked done.effects) at answered
  generalize Effect.asked done.effects = addresses at answered kept
  rw [next] at answered
  have nothing {failure : LookupFailure} (failed : Rates.quote met = .error failure) :
      done.hub.commands.cache = hub.commands.cache := by
    have none : hub.commands.success? now = none := by simp only [BuiltIn.State.success?, next, failed]
    rw [kept, none, ite_self]
    rfl
  cases answered with
  | @fresh shown since slot young =>
    have valid := (hub.commands.cache.isValid_iff now).2 ⟨shown, since, slot, young⟩
    rw [old] at valid
    cases valid
  | @success quote line _ quoted shown =>
    have success : hub.commands.success? now = some (line, hub.commands.cache.clock (now.after met.took)) := by
      simp only [BuiltIn.State.success?, next, quoted, shown]
      rfl
    rw [kept, if_pos (List.mem_singleton_self _), success]
    exact .quote quoted shown
  | outage _ failed expected =>
    rw [nothing failed]
    rcases expected with rfl | ⟨message, rfl⟩
    · rcases Rates.of_quote_error foreseen failed with ⟨_, same⟩ | ⟨same, -⟩ <;> cases same
    · exact .outage failed
  | crash _ failed unexpected =>
    rw [nothing failed]
    rcases unexpected with rfl | ⟨message, rfl⟩
    · exact .overflow failed
    · rcases Rates.of_quote_error foreseen failed with ⟨_, same⟩ | ⟨same, -⟩ <;> cases same

/-- Asking for the rates. Unless a symbol is given a rate that is infinite or no number, or a number too large for a
double, what comes of an answer is a quote of finite rates above zero, or the failure that the service is unavailable.
In general the quotes that come of an answer hold what it gives, each rate being finite and above zero, infinite or no
number; and besides the one failure there is only the overflow of a number that is too large. A call for the rates
with no fresh text shows and keeps a quote. Without one it falls back to the text it has, or tells of the overflow. -/
theorem rates_are_sound_or_unavailable {met : ServiceAnswer} (foreseen : Rates.Foreseen met) :
    (Rates.Regular met → (∃ quote, Rates.quote met = .ok quote ∧ ∀ entry ∈ quote.entries, entry.2.Sound) ∨
        ∃ message, Rates.quote met = .error (.unavailable message)) ∧
      (∀ quote, Rates.quote met = .ok quote ↔ ∀ entry ∈ quote.entries,
        Rates.reading (Rates.sent? met entry.1) = .ok entry.2 ∧ (entry.2.Sound ∨ entry.2.Special)) ∧
      (∀ failure, Rates.quote met = .error failure → (∃ message, failure = .unavailable message) ∨
        (failure = .overflow ∧ ∃ symbol ∈ Rates.symbols, ∃ v, Rates.sent? met symbol = some v ∧ Rates.TooLarge v)) ∧
      ∀ (hub : Hub) (now : Instant) (connection : String) (text : Text), CallsRates text → hub.commands.ask.1 = met →
        hub.commands.cache.isValid now = false →
        let done := hub.perform ⟨now, connection, .message (some text)⟩
        ∃ reply, Rates.Shown met now hub.commands.cache reply done.hub.commands.cache ∧
          sent done.effects = [.caller connection (.system reply now)] := by
  refine ⟨fun regular => ?_, fun quote => Rates.quote_eq_ok_iff, fun failure => Rates.of_quote_error foreseen, ?_⟩
  · cases came : Rates.quote met with
    | ok quote => exact .inl ⟨quote, rfl, Rates.sound_of_regular regular came⟩
    | error failure =>
      rcases Rates.of_quote_error foreseen came with ⟨message, rfl⟩ | ⟨-, symbol, known, v, given, large⟩
      · exact .inr ⟨message, rfl⟩
      · exact absurd large (regular symbol known v given).1
  · exact fun hub now connection text calls next old => perform_rates_due foreseen next old connection calls

/-- Rates as a whole number, a text and a truth value. -/
theorem rates_are_sound_or_unavailable_of_mixed_forms :
    let rates := Json.obj [("RUB", .int 90), ("EUR", .str " 0.5 "), ("CNY", .bool true)]
    let met := ServiceAnswer.response ⟨200, .ok "", .ok (.obj [("rates", rates)]), 0⟩
    Rates.Foreseen met ∧ Rates.Regular met ∧
      ∃ quote, Rates.quote met = .ok quote ∧ ∀ entry ∈ quote.entries, entry.2.Sound := by
  intro rates met
  have regular : Rates.Regular met := Rates.regular_of_isRegular (by decide +kernel)
  obtain ⟨claim, -⟩ := rates_are_sound_or_unavailable (show Rates.Foreseen met from trivial)
  refine ⟨trivial, regular, (claim regular).resolve_right ?_⟩
  rintro ⟨message, failed⟩
  have quoted : (Rates.quote met).isOk = true := by decide +kernel
  rw [failed] at quoted
  cases quoted

/-- A text that is no number is a rate that comes out. -/
theorem unsound_rate_passes : ¬∀ met, Rates.Foreseen met →
    (∃ quote, Rates.quote met = .ok quote ∧ ∀ entry ∈ quote.entries, entry.2.Sound) ∨
      ∃ message, Rates.quote met = .error (.unavailable message) := by
  intro claim
  let rates := Json.obj [("RUB", .str "nan"), ("EUR", .str "0.92"), ("CNY", .int 7)]
  let met := ServiceAnswer.response ⟨200, .ok "", .ok (.obj [("rates", rates)]), 0⟩
  have infinite : (Rates.quote met).toOption.map (fun quote => Binary64.isFinite quote.rub.value) = some false := by
    decide +kernel
  rcases claim met trivial with ⟨quote, quoted, sound⟩ | ⟨message, failed⟩
  · have finite := (sound ("RUB", quote.rub) (List.mem_cons_self ..)).1
    rw [quoted] at infinite
    simp only [Except.toOption, Option.map_some, Option.some.injEq] at infinite
    rw [infinite] at finite
    cases finite
  · rw [failed] at infinite
    cases infinite

end Hub

end ChatService
