import ChatService.Calculator.Guise
import ChatService.Command.Dispatcher
import ChatService.Hub.Effect
import ChatService.Service.Rates
import ChatService.Service.Weather
import ChatService.Store.Basic

/-!
# The built-in commands

Weather, time, calculator, jokes, exchange rates, contacts, online users and help. A
command sees the store, keeps the rates of the last successful look-up, and takes what
it cannot know by itself (foreign answers, picked jokes) from its surroundings.
-/

namespace ChatService

inductive BuiltIn
  | weather
  | time
  | calculate
  | joke
  | rates
  | contacts
  | online
  | help
deriving DecidableEq, Repr

namespace BuiltIn

/-- All commands with the words that call them. -/
def all : List (BuiltIn × List Text) :=
  [(weather, ["weather", "погода"]), (time, ["time", "время"]), (calculate, ["calc"]),
   (joke, ["joke", "шутка"]), (rates, ["rates", "курс"]), (contacts, ["contacts", "контакты"]),
   (online, ["online", "онлайн"]), (help, ["help", "помощь"])]

def dispatcher : Dispatcher BuiltIn :=
  all.foldl (fun d entry => d.register entry.1 entry.2) (.empty Dispatcher.defaultMarker)

/-- What comes from outside: the answers that the next requests meet and the jokes picked next. -/
structure Surroundings where
  answers : Answers
  jokes : List Nat

structure State where
  surroundings : Surroundings
  cache : Rates.Cache

/-- Who calls a command, and when. -/
structure Caller where
  user : Option User
  now : Instant

/-- How a command ends: with a reply or the text of a failure, a new state, and what it did. -/
abbrev Ending := Except Text Text × State × List Effect

/-- The answer to the next request. -/
def State.ask (s : State) : ServiceAnswer × State :=
  let (answer, rest) := s.surroundings.answers.next
  (answer, { s with surroundings := { s.surroundings with answers := rest } })

/-! ## Weather -/

/-- The city that is meant when none is named. -/
def defaultCity : Text := "Moscow"

/-- The failures that a command answers with a replacement text, as the log names them. -/
def excused? : LookupFailure → Option String
  | .unavailable message => some (FailureKind.externalUnavailable.name ++ " " ++ message)
  | .silence => some "TimeoutError "
  | .crash _ | .overflow => none

/-- The city that arguments name. -/
def namedCity (arguments : List Text) : Text :=
  if arguments.isEmpty then defaultCity else Text.join " " arguments

def weatherReply (city summary : Text) : Text := "🌤️ Weather in " ++ city ++ ": " ++ summary

def runWeather (arguments : List Text) (s : State) : Ending :=
  let city := namedCity arguments
  let done := Weather.fetch city s.surroundings.answers
  let s := { s with surroundings := { s.surroundings with answers := done.left } }
  let fetched := done.asked.map Effect.fetched
  match done.result with
  | .ok summary => (.ok (weatherReply city summary), s, fetched)
  | .error failure =>
    match excused? failure with
    | some reason =>
      (.ok (weatherReply city "unavailable right now, try again later"), s,
        fetched ++ [.log (.warning ("Weather lookup for " ++ city ++ " failed: " ++ reason))])
    | none => (.error failure.message, s, fetched)

/-! ## Time -/

/-- The cities whose time is known: their names in lower case, the name shown, and the hours ahead of
UTC. -/
def cityOffsets : List (Text × Text × Int) :=
  [("moscow", "Moscow", 3), ("москва", "Moscow", 3), ("london", "London", 1), ("лондон", "London", 1),
   ("new york", "New York", -4), ("нью-йорк", "New York", -4), ("tokyo", "Tokyo", 9),
   ("токио", "Tokyo", 9), ("beijing", "Beijing", 8), ("пекин", "Beijing", 8)]

/-- The name shown and the offset of a city; unknown cities get the default one's. -/
def cityOffset (city : Text) : Text × Int :=
  ((cityOffsets.find? fun entry => entry.1 == Text.lowered city).map (·.2)).getD (defaultCity, 3)

/-- The time in a city, unless it lies outside the calendar. -/
def timeReply (arguments : List Text) (now : Instant) : Except Text Text :=
  let (name, hours) := cityOffset (Text.join " " arguments)
  let there := now.addHours hours
  if there.isDated then .ok ("🕐 Time (" ++ name ++ "): " ++ there.clockText)
  else .error "date value out of range"

/-! ## Calculator -/

def calcUsage : String := "Usage: /calc 2+2*sin(pi/2)"

def calcReply (arguments : List Text) : Text :=
  if arguments.isEmpty then "❌ " ++ calcUsage
  else
    let expression := arguments.flatten
    match Calculator.calculate expression with
    | .ok x => "🧮 " ++ expression ++ " = " ++ Text.ofChars (Calculator.formatNumber x)
    | .error reason => "❌ Error in expression: " ++ reason ++ ". " ++ calcUsage

/-! ## Jokes -/

def jokes : List String :=
  ["🤖 Why do programmers mix up Halloween and Christmas? Because Oct 31 == Dec 25!",
   "💻 How many programmers does it take to change a light bulb? None, that's a hardware problem.",
   "🐛 A programmer goes to a therapist. The therapist says: 'You seem to have trouble debugging your personality.'",
   "📚 There are 10 kinds of people: those who understand binary and those who don't.",
   "🔥 Why did Python get so popular? Its snake hypnotised everyone!"]

/-- The joke picked next; the first one when no pick is left. -/
def runJoke (s : State) : Ending :=
  let picks := s.surroundings.jokes
  (.ok (jokes.getD (picks.headD 0) ""),
    { s with surroundings := { s.surroundings with jokes := picks.tail } }, [])

/-! ## Exchange rates -/

def ratesFallback : String :=
  "💵 Exchange rates are unavailable right now.\nTry /rates again in a few minutes."

/-- Why a quote has no text, inside a sentence. -/
def textFaultMessage : Rates.TextFault → String
  | .missing symbol => "'" ++ symbol ++ "'"
  | .zeroEuro => "float division by zero"

/-- The rates: the text kept while it is fresh; else those just asked for, which are kept with the time of
their answer; else the old text, or a replacement when there is none. -/
def runRates (now : Instant) (s : State) : Ending :=
  if s.cache.isValid now then (.ok (s.cache.text?.getD ""), s, [])
  else
    let (answer, s) := s.ask
    let fetched := Effect.fetched Rates.address
    match Rates.quote answer with
    | .ok quote =>
      match quote.text? with
      | .ok text => (.ok text, { s with cache := s.cache.update (now.after answer.took) text }, [fetched])
      | .error fault => (.error (textFaultMessage fault), s, [fetched])
    | .error failure =>
      match excused? failure with
      | some reason =>
        (.ok (s.cache.text?.getD ratesFallback), s,
          [fetched, .log (.warning ("Exchange rate lookup failed: " ++ reason))])
      | none => (.error failure.message, s, [fetched])

/-! ## Contacts, online users, help -/

/-- One line of the contact list. -/
def contactLine (c : ContactStatus) : Text :=
  if c.isOnline then "🟢 " ++ c.username
  else "⚪ " ++ c.username ++ " (last seen " ++ c.lastSeen.spokenText ++ " UTC)"

def contactsReply (store : Store) (user : Option User) : Except Text Text :=
  match user with
  | none => .error Refusal.loginToSeeContacts.message
  | some user =>
    match store.contactsOf user.id with
    | [] => .ok "📇 You have no contacts yet"
    | entries => .ok (Text.join "\n" ("📇 Contacts:" :: entries.map contactLine))

def onlineReply (store : Store) : Text :=
  match store.online with
  | [] => "🟢 Nobody is online"
  | names => "🟢 Online (" ++ toString names.length ++ "): " ++ Text.join ", " names

def helpText : Text :=
  Text.join "\n"
    ["📚 Available commands:",
     "🌤️ /weather [city] - Weather",
     "🕐 /time [city] - Time (Moscow, London, New York, Tokyo, Beijing)",
     "🧮 /calc expression - Calculator (+ - * / ^, sin cos tan log ln sqrt, pi, e)",
     "😂 /joke - Random joke",
     "💵 /rates - Exchange rates",
     "📇 /contacts - Your contacts",
     "🟢 /online - Who is online",
     "❓ /help - This help"]

def run (store : Store) (caller : Caller) (command : BuiltIn) (arguments : List Text) (s : State) :
    Ending :=
  match command with
  | weather => runWeather arguments s
  | time => (timeReply arguments caller.now, s, [])
  | calculate => (.ok (calcReply arguments), s, [])
  | joke => runJoke s
  | rates => runRates caller.now s
  | contacts => (contactsReply store caller.user, s, [])
  | online => (.ok (onlineReply store), s, [])
  | help => (.ok helpText, s, [])

end BuiltIn

end ChatService
