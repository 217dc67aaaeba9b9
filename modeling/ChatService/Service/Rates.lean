import ChatService.Decimal.Notation
import ChatService.Decimal.Reading
import ChatService.Instant
import ChatService.Service.Answer

/-!
# Exchange rates

What one dollar is worth in three currencies, from a service that answers with a
structured value, and the text that is shown. The last text is kept for a while.
-/

namespace ChatService.Rates

/-- The address that is asked. -/
def address : String := "https://api.exchangerate.host/latest?base=USD&symbols=RUB,EUR,CNY"

/-- A rate: its value and the sign in front of it. A value that is no number does not show its sign by
itself. -/
structure Rate where
  negative : Bool
  value : Float

/-- A rate that shows its sign by itself. -/
def Rate.ofFloat (x : Float) : Rate := ⟨Binary64.isNegative x, x⟩

def Rate.hexText (r : Rate) : String := Binary64.signedHexText r.negative r.value

/-- The worth of one dollar. -/
structure Quote where
  rub : Rate
  eur : Rate
  cny : Rate

/-- The failure of an answer in another form. -/
def unexpected : LookupFailure := .unavailable "unexpected rates payload"

/-- A rate as it was sent. Truth values count as one and zero, texts are read as numbers. -/
def rate? : Json → Except LookupFailure Rate
  | .float x => .ok (.ofFloat x)
  | .bool b => .ok (.ofFloat (if b then 1 else 0))
  | .int n =>
    let x := Binary64.nearest (n < 0) n.natAbs 1
    if Binary64.isFinite x then .ok (.ofFloat x) else .error .overflow
  | .str s => match s.chars?.bind Numeral.signedDouble? with
    | some (negative, x) => .ok ⟨negative, x⟩
    | none => .error unexpected
  | _ => .error unexpected

def symbol (rates : Json) (name : String) : Except LookupFailure Rate :=
  match rates.field? name with
  | some v => rate? v
  | none => .error unexpected

def quoteOf (body : Json) : Except LookupFailure Quote := do
  let rates ← match body.field? "rates" with
    | some rates => .ok rates
    | none => .error unexpected
  let rub ← symbol rates "RUB"
  let eur ← symbol rates "EUR"
  let cny ← symbol rates "CNY"
  if rub.value ≤ 0 || eur.value ≤ 0 || cny.value ≤ 0 then
    .error (.unavailable "rates service returned a non-positive rate")
  else .ok ⟨rub, eur, cny⟩

def quote : ServiceAnswer → Except LookupFailure Quote
  | .response r =>
    if r.status ≠ 200 then .error (.unavailable ("rates service answered " ++ toString r.status))
    else match r.body with
      | .error message => .error (.unavailable ("rates service unavailable: " ++ message))
      | .ok body => quoteOf body
  | .clientError message => .error (.unavailable ("rates service unavailable: " ++ message))
  | .timeout => .error (.unavailable "rates service unavailable: ")
  | .crash message => .error (.crash message)
  | .silence => .error .silence

/-- An amount with two places. -/
def amount (x : Float) : String := String.ofList (Binary64.fixed 2 x)

/-- Why rates have no text. -/
inductive TextFault
  | missing (symbol : String)
  | zeroEuro
deriving DecidableEq, Repr

/-- The text of rates of which some may be missing. The euro is shown the other way round. -/
def text? (rub eur cny : Option Rate) : Except TextFault String :=
  match rub, eur, cny with
  | none, _, _ => .error (.missing "RUB")
  | some _, none, _ => .error (.missing "EUR")
  | some rub, some eur, cny =>
    if eur.value == 0 then .error .zeroEuro
    else match cny with
      | none => .error (.missing "CNY")
      | some cny =>
        .ok ("💵 Exchange rates:\n1 USD = " ++ amount rub.value ++ " ₽\n1 EUR = " ++ amount (1 / eur.value) ++
          " $\n1 USD = " ++ amount cny.value ++ " ¥")

def Quote.text? (q : Quote) : Except TextFault String := Rates.text? (some q.rub) (some q.eur) (some q.cny)

/-- The text kept from the last successful look-up, with the time that the clock showed then. -/
structure Cache where
  /-- For how many seconds a text counts as fresh. -/
  ttl : Float
  /-- The seconds that the clock of the cache shows at an instant. -/
  clock : Instant → Float
  slot : Option (String × Float)

namespace Cache

/-- For how long a text counts as fresh unless a cache is told otherwise. -/
def defaultTtl : Float := 600

def empty (ttl : Float) (clock : Instant → Float) : Cache := ⟨ttl, clock, none⟩

/-- Whether there is a text that is younger than the time to live. -/
def isValid (c : Cache) (now : Instant) : Bool :=
  match c.slot with
  | some (_, since) => c.clock now - since < c.ttl
  | none => false

def update (c : Cache) (now : Instant) (text : String) : Cache := { c with slot := some (text, c.clock now) }

/-- The text, fresh or not. -/
def text? (c : Cache) : Option String := c.slot.map (·.1)

end Cache

end ChatService.Rates
