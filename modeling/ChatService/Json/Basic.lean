import ChatService.Text.Basic

/-!
# Structured values

The values that travel between server and client: the JSON values, with whole numbers
kept apart from doubles and the fields of an object in the order of their first
appearance.
-/

namespace ChatService

/-- A structured value. -/
inductive Json
  | null
  | bool (b : Bool)
  | int (n : Int)
  | float (x : Float)
  | str (s : Text)
  | arr (items : List Json)
  | obj (fields : List (Text × Json))

namespace Json

instance : Inhabited Json := ⟨null⟩

/-- The value of a field in a list of fields. -/
def lookup (key : Text) : List (Text × Json) → Option Json
  | [] => none
  | (k, v) :: rest => if k = key then some v else lookup key rest

/-- The fields after one of them was set: in its old place, or at the end when it is new. -/
def put (key : Text) (value : Json) : List (Text × Json) → List (Text × Json)
  | [] => [(key, value)]
  | (k, v) :: rest => if k = key then (k, value) :: rest else (k, v) :: put key value rest

theorem lookup_put_self (key : Text) (value : Json) (fields : List (Text × Json)) :
    lookup key (put key value fields) = some value := by
  induction fields with
  | nil => simp [put, lookup]
  | cons field rest ih =>
    by_cases h : field.1 = key <;> simp [put, lookup, h, ih]

/-- The value of a field of an object; other values have no fields. -/
def field? (key : Text) : Json → Option Json
  | obj fields => lookup key fields
  | _ => none

end Json

end ChatService
