import ChatService.Service.Answer
import ChatService.Text.Blank
import ChatService.Text.Encoding
import ChatService.Text.PercentEncoding

/-!
# Weather

One line about the weather of a city, from a service that answers in plain text.
-/

namespace ChatService.Weather

/-- The address that is asked about a city. -/
def address (city : String) : String :=
  "http://wttr.in/" ++ Text.percentEncoded city ++ "?format=%C+%t+%w"

def summary : ServiceAnswer → Except LookupFailure Text
  | .response r =>
    if r.status ≠ 200 then .error (.unavailable ("weather service answered " ++ toString r.status))
    else match r.text with
      | .error reason => .error (.crash reason)
      | .ok text =>
        let text := Text.strip text
        if text = [] then .error (.unavailable "weather service returned an empty answer") else .ok text
  | .clientError message => .error (.unavailable ("weather service unavailable: " ++ message))
  | .timeout => .error (.unavailable "weather service unavailable: ")
  | .crash message => .error (.crash message)
  | .silence => .error .silence

/-- Asks for the weather of a city. Nothing is asked about a city whose name has no bytes. -/
def fetch (city : Text) (answers : Answers) : Lookup Text :=
  match city.encode with
  | .error fault => ⟨.error (.crash fault.message), [], answers⟩
  | .ok city =>
    let (met, left) := answers.next
    ⟨summary met, [address city], left⟩

end ChatService.Weather
