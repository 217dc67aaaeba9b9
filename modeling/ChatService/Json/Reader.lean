import ChatService.Json.Complaint

/-!
# Reading structured values

A value is put together token by token. The open lists and objects form a stack, and
the phase says which token may come next, so reading is one pass over the text.
-/

namespace ChatService.Json

/-- A list or object that is not closed yet. -/
inductive Frame
  /-- The items so far, last one first. -/
  | items (done : List Json)
  | fields (done : List (Text × Json))
  /-- The fields so far and the key whose value is awaited. -/
  | member (done : List (Text × Json)) (key : Text)

/-- What may come next. -/
inductive Phase
  | value
  /-- Directly behind an open bracket. -/
  | itemOrClose
  /-- Directly behind an open brace. -/
  | keyOrClose
  | key
  | colon (key : Text)
  | commaOrClose
  /-- Nothing more: the value is complete. -/
  | complete (v : Json)

/-- How far a value has been read. -/
structure Reading where
  phase : Phase
  stack : List Frame

/-- Why a token is not taken. -/
inductive StepError
  | unexpected
  | oversized (digits : Nat)
deriving DecidableEq, Repr

/-- Why a text is not read. -/
inductive ReadError
  | malformed (stop : Stop)
  /-- It holds a whole number with too many digits. -/
  | oversized (digits : Nat)
deriving DecidableEq, Repr

def Phase.expected : Phase → Expected
  | value | itemOrClose => .value
  | keyOrClose | key => .key
  | colon _ => .colon
  | commaOrClose => .comma
  | complete _ => .nothing

namespace Reading

def start : Reading := ⟨.value, []⟩

/-- A value just read takes its place in what is open. -/
def finish (v : Json) : List Frame → Except StepError Reading
  | [] => .ok ⟨.complete v, []⟩
  | .items done :: stack => .ok ⟨.commaOrClose, .items (v :: done) :: stack⟩
  | .member done key :: stack => .ok ⟨.commaOrClose, .fields (put key v done) :: stack⟩
  | .fields _ :: _ => .error .unexpected

/-- A token where a value is awaited. -/
def begin (t : Token) (stack : List Frame) : Except StepError Reading :=
  match t with
  | .openBracket => .ok ⟨.itemOrClose, .items [] :: stack⟩
  | .openBrace => .ok ⟨.keyOrClose, .fields [] :: stack⟩
  | .scalar v => finish v stack
  | .oversized digits => .error (.oversized digits)
  | _ => .error .unexpected

def close (t : Token) (stack : List Frame) : Except StepError Reading :=
  match t, stack with
  | .closeBracket, .items done :: stack => finish (.arr done.reverse) stack
  | .closeBrace, .fields done :: stack => finish (.obj done) stack
  | _, _ => .error .unexpected

def step (r : Reading) (t : Token) : Except StepError Reading :=
  match r.phase, t with
  | .value, t => begin t r.stack
  | .itemOrClose, .closeBracket => close .closeBracket r.stack
  | .itemOrClose, t => begin t r.stack
  | .keyOrClose, .closeBrace => close .closeBrace r.stack
  | .keyOrClose, .scalar (.str key) => .ok ⟨.colon key, r.stack⟩
  | .key, .scalar (.str key) => .ok ⟨.colon key, r.stack⟩
  | .colon key, .colon =>
    match r.stack with
    | .fields done :: stack => .ok ⟨.value, .member done key :: stack⟩
    | _ => .error .unexpected
  | .commaOrClose, .comma =>
    match r.stack with
    | .items done :: stack => .ok ⟨.value, .items done :: stack⟩
    | .fields done :: stack => .ok ⟨.key, .fields done :: stack⟩
    | _ => .error .unexpected
  | .commaOrClose, t => close t r.stack
  | _, _ => .error .unexpected

/-- Reading stops in front of the rest of a text. -/
def stop (r : Reading) (s : List Char) : ReadError := .malformed ⟨r.phase.expected, s.dropWhile isSpace⟩

/-- The value once the text has ended. -/
def result (r : Reading) : Except ReadError Json :=
  match r.phase with
  | .complete v => .ok v
  | _ => .error (r.stop [])

def run (r : Reading) (s : List Char) : Except ReadError Json :=
  match nextToken s with
  | .done => r.result
  | .bad => .error (r.stop s)
  | .token t rest _ =>
    match r.step t with
    | .ok r' => r'.run rest
    | .error .unexpected => .error (r.stop s)
    | .error (.oversized digits) => .error (.oversized digits)
termination_by s.length

end Reading

def read (s : List Char) : Except ReadError Json := Reading.start.run s

end ChatService.Json
