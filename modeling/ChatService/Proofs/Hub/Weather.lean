import ChatService.Proofs.Hub.Rates
import ChatService.Proofs.Service.WebAddress
import ChatService.Proofs.Text.PercentEncoding

/-!
# Where the weather is asked for

The text of a city comes from a user and becomes a part of a web address. It stays inside the
path of the address: host, query and fragment are the same for every city, and the path can be
read back as the city. What a look-up ends in depends on the one answer that it meets.
-/

namespace ChatService

open Effect (asked)

namespace Weather

/-! ## The address -/

theorem toList_address (city : String) :
    (address city).toList = "http".toList ++ ':' :: '/' :: '/' ::
      ("wttr.in".toList ++ '/' :: (Text.percentEncoded city).toList) ++ '?' :: "format=%C+%t+%w".toList := by
  simp [address]

/-- A city with marks that end a path, and with a letter of two bytes. -/
example : address "../?x=1#@évil" = "http://wttr.in/../%3Fx%3D1%23%40%C3%A9vil?format=%C+%t+%w" := by decide +kernel

/-- Only the path of the address depends on the city. -/
theorem ofText_address (city : String) :
    WebAddress.ofText (address city).toList =
      ⟨some "http".toList, some "wttr.in".toList, '/' :: (Text.percentEncoded city).toList,
        some "format=%C+%t+%w".toList, none⟩ := by
  have escaped := Text.escaped_percentEncoded city
  have free : WebAddress.Free ['?', '#'] (Text.percentEncoded city).toList := by
    intro mark known
    rcases List.mem_cons.1 known with rfl | known
    · exact escaped.not_mem (by decide) (by decide)
    · cases List.mem_singleton.1 known
      exact escaped.not_mem (by decide) (by decide)
  rw [toList_address]
  exact WebAddress.ofText_parts (by decide) (by decide) (by decide) free (by decide)

theorem parameters_address (city : String) :
    (WebAddress.ofText (address city).toList).parameters = [("format".toList, some "%C+%t+%w".toList)] := by
  rw [ofText_address]
  rfl

/-- Different cities have different addresses. -/
theorem address_inj {city other : String} : address city = address other ↔ city = other := by
  constructor
  · intro same
    have paths := congrArg (fun url : String => (WebAddress.ofText url.toList).path) same
    simp only [ofText_address, List.cons.injEq, true_and, String.toList_inj] at paths
    exact Text.percentEncoded_inj.1 paths
  · rintro rfl
    rfl

/-- A city whose name has bytes is asked for at its address, and no other city is asked for anywhere. -/
theorem asked_of_encode {city : Text} {name : String} (encoded : city.encode = .ok name) (answers : Answers) :
    (fetch city answers).asked = [address name] := by
  rw [fetch, encoded]

/-! ## The outcome -/

/-- The answers that tell the weather, with what they tell: a success with a body that is not blank. -/
inductive Tells : ServiceAnswer → Text → Prop
  | body {r : ServiceResponse} {text : Text} (success : r.status = 200) (read : r.text = .ok text)
    (ink : Text.allBlank text = false) : Tells (.response r) (Text.strip text)

/-- The answers for which the service counts as unavailable. -/
inductive Untold : ServiceAnswer → Prop
  | status {r : ServiceResponse} (other : r.status ≠ 200) : Untold (.response r)
  | blank {r : ServiceResponse} {text : Text} (read : r.text = .ok text) (blank : Text.allBlank text = true) :
    Untold (.response r)
  | clientError (message : String) : Untold (.clientError message)
  | timeout : Untold .timeout

/-- The answers that end a look-up in an error that nobody planned for: a success whose body is no text, and what
fails in such a way by itself. -/
inductive Breaks : ServiceAnswer → String → Prop
  | body {r : ServiceResponse} {reason : String} (success : r.status = 200) (unread : r.text = .error reason) :
    Breaks (.response r) reason
  | crash (reason : String) : Breaks (.crash reason) reason

theorem Tells.ne_nil {met : ServiceAnswer} {text : Text} (tells : Tells met text) : text ≠ [] := by
  cases tells with
  | body _ _ ink =>
    rw [ne_eq, Text.strip_eq_nil_iff, ink]
    exact Bool.false_ne_true

theorem summary_of_tells {met : ServiceAnswer} {text : Text} (tells : Tells met text) : summary met = .ok text := by
  have solid := tells.ne_nil
  cases tells with
  | body success read _ => simp only [summary, success, read, ne_eq, not_true_eq_false, if_false, if_neg solid]

theorem summary_of_untold {met : ServiceAnswer} (untold : Untold met) :
    ∃ message, summary met = .error (.unavailable message) := by
  cases untold with
  | status other => exact ⟨_, if_pos other⟩
  | @blank r text read blank =>
    by_cases success : r.status = 200
    · have empty := Text.strip_eq_nil_iff.2 blank
      exact ⟨_, by simp only [summary, success, read, ne_eq, not_true_eq_false, if_false, if_pos empty]; rfl⟩
    · exact ⟨_, if_pos success⟩
  | clientError | timeout => exact ⟨_, rfl⟩

theorem summary_of_breaks {met : ServiceAnswer} {reason : String} (breaks : Breaks met reason) :
    summary met = .error (.crash reason) := by
  cases breaks with
  | body success unread => simp only [summary, success, unread, ne_eq, not_true_eq_false, if_false]
  | crash => rfl

/-- What a request can meet, apart from silence. -/
theorem tells_or_untold_or_breaks (met : ServiceAnswer) :
    (∃ text, Tells met text) ∨ Untold met ∨ (∃ reason, Breaks met reason) ∨ met = .silence := by
  cases met with
  | response r =>
    by_cases success : r.status = 200
    · cases read : r.text with
      | error reason => exact .inr (.inr (.inl ⟨reason, .body success read⟩))
      | ok text =>
        cases blank : Text.allBlank text with
        | true => exact .inr (.inl (.blank read blank))
        | false => exact .inl ⟨_, .body success read blank⟩
    · exact .inr (.inl (.status success))
  | clientError message => exact .inr (.inl (.clientError message))
  | timeout => exact .inr (.inl .timeout)
  | crash reason => exact .inr (.inr (.inl ⟨reason, .crash reason⟩))
  | silence => exact .inr (.inr (.inr rfl))

/-- What a look-up ends in says what it met. -/
theorem summary_iff (met : ServiceAnswer) :
    (∀ text, summary met = .ok text ↔ Tells met text) ∧
      ((∃ message, summary met = .error (.unavailable message)) ↔ Untold met) ∧
      ∀ reason, summary met = .error (.crash reason) ↔ Breaks met reason := by
  refine ⟨fun text => ⟨fun told => ?_, summary_of_tells⟩, ⟨?_, summary_of_untold⟩,
    fun reason => ⟨fun broken => ?_, summary_of_breaks⟩⟩
  all_goals
    rcases tells_or_untold_or_breaks met with ⟨text', tells⟩ | untold | ⟨reason', breaks⟩ | rfl
  · rw [summary_of_tells tells, Except.ok.injEq] at told
    exact told ▸ tells
  · obtain ⟨message, failed⟩ := summary_of_untold untold
    rw [failed] at told
    cases told
  · rw [summary_of_breaks breaks] at told
    cases told
  · cases told
  · rintro ⟨message, failed⟩
    rw [summary_of_tells tells] at failed
    cases failed
  · exact fun _ => untold
  · rintro ⟨message, failed⟩
    rw [summary_of_breaks breaks] at failed
    cases failed
  · rintro ⟨message, failed⟩
    cases failed
  · rw [summary_of_tells tells] at broken
    cases broken
  · obtain ⟨message, failed⟩ := summary_of_untold untold
    rw [failed] at broken
    cases broken
  · rw [summary_of_breaks breaks, Except.error.injEq, LookupFailure.crash.injEq] at broken
    exact broken ▸ breaks
  · cases broken

end Weather

/-! ## Steps of the hub -/

namespace BuiltIn

theorem runRates_asks (now : Instant) (s : State) :
    asked (runRates now s).2.2 = [] ∨ asked (runRates now s).2.2 = [Rates.address] := by
  have answered := runRates_answered now s
  generalize Ending.reply (runRates now s) = reply, asked (runRates now s).2.2 = addresses at answered ⊢
  cases answered with
  | fresh => exact .inl rfl
  | success | outage | crash => exact .inr rfl

/-- The words that call for the weather. -/
theorem handler_weather_iff {token : Text} :
    dispatcher.handlers.find? token = some .weather ↔ token = "/weather" ∨ token = "/погода" := by
  have listed : ∀ entry ∈ dispatcher.handlers.entries,
      entry.2 = .weather → entry.1 = Text.ofString "/weather" ∨ entry.1 = Text.ofString "/погода" := by decide +kernel
  constructor
  · intro found
    exact listed _ (Table.mem_entries_iff.2 found) rfl
  · rintro (rfl | rfl)
    · decide +kernel
    · decide +kernel

end BuiltIn

namespace Hub

/-- The city whose weather a step asks for: the words behind the command, or Moscow if there are none. -/
def Step.city? (step : Step) : Option Text :=
  match step.operation with
  | .message (some text) =>
    match Text.words text with
    | first :: arguments =>
      if BuiltIn.dispatcher.isCommand text = true ∧ (Text.lowered first = "/weather" ∨ Text.lowered first = "/погода")
      then some (if arguments = [] then "Moscow" else Text.join " " arguments)
      else none
    | [] => none
  | _ => none

theorem Step.runs_of_city? {step : Step} {city : Text} (named : step.city? = some city) :
    ∃ arguments, step.Runs .weather arguments ∧ city = BuiltIn.namedCity arguments := by
  unfold Step.city? at named
  split at named
  · next text asked =>
    split at named
    · next first arguments words =>
      split at named
      · next calls =>
        obtain ⟨isCommand, token⟩ := calls
        have selected : BuiltIn.dispatcher.select text = .handler (Text.lowered first) .weather arguments := by
          simp only [Dispatcher.select, words, BuiltIn.handler_weather_iff.2 token]
        refine ⟨arguments, ⟨some text, _, asked, isCommand, selected⟩, ?_⟩
        rw [Option.some.injEq] at named
        simp only [← named, BuiltIn.namedCity, List.isEmpty_iff]
        rfl
      · cases named
    · cases named
  · cases named

theorem Step.city?_of_runs {step : Step} {arguments : List Text} (runs : step.Runs .weather arguments) :
    step.city? = some (BuiltIn.namedCity arguments) := by
  obtain ⟨text, token, asked, isCommand, selected⟩ := runs
  cases text with
  | none => exact absurd isCommand (by decide)
  | some text =>
    simp only [Option.getD_some, Dispatcher.select] at isCommand selected
    split at selected
    · cases selected
    · next first rest words =>
      split at selected
      · cases selected
      · next command found =>
        cases selected
        simp only [Step.city?, asked, words, isCommand, BuiltIn.handler_weather_iff.1 found, and_self, if_true,
          BuiltIn.namedCity, List.isEmpty_iff]
        rfl

/-- Whatever a connection asks for, the hub asks for the weather of the city that was named; and if none was, it asks
for nothing, or for the rates. -/
theorem asked_perform (hub : Hub) (step : Step) :
    let addresses := asked (hub.perform step).effects
    (∀ city, step.city? = some city → addresses = (Weather.fetch city hub.commands.surroundings.answers).asked) ∧
      (step.city? = none → addresses = [] ∨ addresses = [Rates.address]) := by
  intro addresses
  constructor
  · intro city named
    obtain ⟨arguments, ⟨text, token, asked, isCommand, selected⟩, rfl⟩ := Step.runs_of_city? named
    obtain ⟨now, connection, operation⟩ := step
    cases asked
    cases text with
    | none => cases named
    | some text =>
      obtain ⟨reply, -, ends⟩ := perform_command isCommand hub now connection
      obtain ⟨-, same⟩ := ends token .weather arguments selected
      exact same.trans (BuiltIn.runWeather_asks arguments hub.commands).2
  · intro nobody
    apply perform_commands (P := fun _ addresses => addresses = [] ∨ addresses = [Rates.address])
    · exact .inl rfl
    · intro user command arguments runs
      cases command with
      | weather =>
        rw [Step.city?_of_runs runs] at nobody
        cases nobody
      | rates => exact BuiltIn.runRates_asks step.time hub.commands
      | time | calculate | joke | contacts | online | help => exact .inl rfl

/-- Asking for the weather of a city. If its name has bytes, one address is asked. The name is a part of the path,
written with unreserved characters and escapes only, and can be read back from there; so scheme, host, parameter and
the lack of a fragment are the same for every city, and no other city leads to the same address. What comes of it is
the stripped body of a success, if it is not blank, and never the empty text; the service counts as unavailable exactly
for another status, a blank body, a failure of the client and no answer in time; and the look-up breaks off exactly
where the body of a success is no text, or the request itself broke off. If the name has no bytes, nothing is asked and
the look-up breaks off. Whatever a connection asks the hub for, the hub asks for the weather of the city that was
named, or else for nothing or the rates. -/
theorem no_city_redirects (city : Text) (answers : Answers) :
    let done := Weather.fetch city answers
    let met := answers.next.1
    (∀ name, city.encode = .ok name →
      (∃ place : String,
        let url := "http://wttr.in" ++ "/" ++ place ++ "?format=%C+%t+%w"
        let parts := WebAddress.ofText url.toList
        done.asked = [url] ∧ Text.Escaped place.toList ∧ Text.percentDecoded? place = some name ∧
          parts = ⟨some "http".toList, some "wttr.in".toList, "/".toList ++ place.toList,
            some "format=%C+%t+%w".toList, none⟩ ∧
          parts.parameters = [("format".toList, some "%C+%t+%w".toList)]) ∧
      (∀ (other : Text) (others : Answers), (Weather.fetch other others).asked = done.asked ↔ other = city) ∧
      (∀ text, done.result = .ok text ↔ Weather.Tells met text) ∧ done.result ≠ .ok [] ∧
      ((∃ message, done.result = .error (.unavailable message)) ↔ Weather.Untold met) ∧
      ∀ reason, done.result = .error (.crash reason) ↔ Weather.Breaks met reason) ∧
    (∀ fault, city.encode = .error fault → done.asked = [] ∧ done.result = .error (.crash fault.message)) ∧
    ∀ (hub : Hub) (step : Step),
      let addresses := asked (hub.perform step).effects
      (∀ named, step.city? = some named →
        addresses = (Weather.fetch named hub.commands.surroundings.answers).asked) ∧
      (step.city? = none → addresses = [] ∨ addresses = [Rates.address]) := by
  intro done met
  refine ⟨fun name encoded => ?_, fun fault unencodable => ?_, asked_perform⟩
  · have askedOnce : done.asked = [Weather.address name] := Weather.asked_of_encode encoded answers
    have ends : done.result = Weather.summary met := by simp only [done, Weather.fetch, encoded, met]
    obtain ⟨told, unavailable, broken⟩ := Weather.summary_iff met
    rw [ends]
    refine ⟨⟨Text.percentEncoded name, askedOnce, Text.escaped_percentEncoded name,
      Text.percentDecoded?_percentEncoded name, Weather.ofText_address name, Weather.parameters_address name⟩,
      fun other others => ?_, told, fun empty => ((told []).1 empty).ne_nil rfl, unavailable, broken⟩
    rw [askedOnce]
    constructor
    · intro same
      cases encoded' : other.encode with
      | error fault =>
        rw [Weather.fetch, encoded'] at same
        cases same
      | ok name' =>
        rw [Weather.asked_of_encode encoded' others, List.singleton_inj, Weather.address_inj] at same
        rw [Text.encode_eq_ok_iff.1 encoded, Text.encode_eq_ok_iff.1 encoded', same]
    · rintro rfl
      exact Weather.asked_of_encode encoded others
  · simp only [done, Weather.fetch, unencodable, and_self]

/-- A name with marks that end a path: it is typed, asked for, and read back. -/
theorem no_city_redirects_of_marks :
    let start := create (.empty .plain 5 5) (.empty 60 Instant.uptime) ⟨[], []⟩ .default
    ∃ place : String,
      asked (start.perform ⟨⟨1⟩, "c", .message (some "/Weather ../?x=1#@évil")⟩).effects =
          ["http://wttr.in" ++ "/" ++ place ++ "?format=%C+%t+%w"] ∧
        Text.Escaped place.toList ∧ Text.percentDecoded? place = some "../?x=1#@évil" := by
  intro start
  have named : Step.city? ⟨⟨1⟩, "c", .message (some "/Weather ../?x=1#@évil")⟩ =
      some (Text.ofString "../?x=1#@évil") := by decide +kernel
  obtain ⟨single, -, steps⟩ := no_city_redirects "../?x=1#@évil" []
  obtain ⟨⟨place, once, escaped, back, -⟩, -⟩ := single "../?x=1#@évil" (Text.encode_ofString _)
  exact ⟨place, ((steps start ⟨⟨1⟩, "c", .message (some "/Weather ../?x=1#@évil")⟩).1 _ named).trans once, escaped,
    back⟩

/-- A half in the name of a city: nothing is asked, and the service does not count as unavailable. -/
theorem half_city_unasked :
    let done := Weather.fetch [.half 0] [.response ⟨200, .ok "Sunny", .error "", 0⟩]
    done.asked = [] ∧ (∀ text, done.result ≠ .ok text) ∧ ∀ message, done.result ≠ .error (.unavailable message) := by
  intro done
  have broken : done.result = .error (.crash
      "'utf-8' codec can't encode character '\\ud800' in position 0: surrogates not allowed") := by rfl
  rw [broken]
  exact ⟨rfl, nofun, nofun⟩

end Hub

end ChatService
