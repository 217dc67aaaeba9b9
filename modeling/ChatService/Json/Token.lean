import ChatService.Json.Basic
import ChatService.Decimal.Reading

/-!
# Tokens

The pieces that a written value consists of. `nextToken` takes one off the front of a
text; `Scan.token` carries the proof that the text got shorter.
-/

namespace ChatService.Json

/-- One piece of a written value. -/
inductive Token
  | openBracket
  | closeBracket
  | openBrace
  | closeBrace
  | comma
  | colon
  /-- A value that is written in one piece. -/
  | scalar (v : Json)
  /-- A whole number with more digits than are read. -/
  | oversized (digits : Nat)

/-- What stands at the front of a text. -/
inductive Scan (s : List Char)
  | done
  | bad
  | token (t : Token) (rest : List Char) (shorter : rest.length < s.length)

/-- White space between tokens. -/
def isSpace (c : Char) : Bool := c == ' ' || c == '\t' || c == '\n' || c == '\r'

def isDigit (c : Char) : Bool := '0' ≤ c && c ≤ '9'

/-! ## Texts -/

def hexValue? (c : Char) : Option Nat :=
  if '0' ≤ c ∧ c ≤ '9' then some (c.toNat - '0'.toNat)
  else if 'a' ≤ c ∧ c ≤ 'f' then some (c.toNat - 'a'.toNat + 10)
  else if 'A' ≤ c ∧ c ≤ 'F' then some (c.toNat - 'A'.toNat + 10)
  else none

/-- The UTF-16 unit that four hexadecimal digits write. -/
def unit? (a b c d : Char) : Option Nat := do
  let a ← hexValue? a
  let b ← hexValue? b
  let c ← hexValue? c
  let d ← hexValue? d
  return ((a * 16 + b) * 16 + c) * 16 + d

/-- The character that a short escape stands for. -/
def shortEscape? : Char → Option Char
  | '"' => some '"'
  | '\\' => some '\\'
  | '/' => some '/'
  | 'b' => some '\x08'
  | 'f' => some '\x0c'
  | 'n' => some '\n'
  | 'r' => some '\r'
  | 't' => some '\t'
  | _ => none

/-- The code points and escaped units up to the closing quote (last one first), and the text behind it. -/
def scanText (units : List Nat) : List Char → Option (List Nat × List Char)
  | [] => none
  | '"' :: rest => some (units, rest)
  | '\\' :: 'u' :: a :: b :: c :: d :: rest =>
    match unit? a b c d with
    | some unit => scanText (unit :: units) rest
    | none => none
  | '\\' :: e :: rest =>
    match shortEscape? e with
    | some c => scanText (c.toNat :: units) rest
    | none => none
  | c :: rest => if c.toNat < 32 ∨ c = '\\' then none else scanText (c.toNat :: units) rest

/-- Joins the two halves of an escaped character; the units come last one first. A half without its
partner stands alone. -/
def joinUnits (points : Text) : List Nat → Text
  | [] => points
  | low :: high :: rest =>
    if 0xDC00 ≤ low ∧ low < 0xE000 ∧ 0xD800 ≤ high ∧ high < 0xDC00 then
      joinUnits (.char (Char.ofNat (0x10000 + (high - 0xD800) * 1024 + (low - 0xDC00))) :: points) rest
    else joinUnits (CodePoint.ofNat low :: points) (high :: rest)
  | [unit] => CodePoint.ofNat unit :: points

theorem length_scanText {s rest : List Char} {units found : List Nat}
    (h : scanText units s = some (found, rest)) : rest.length < s.length := by
  fun_induction scanText units s <;> simp_all <;> omega

/-! ## Numbers -/

/-- The digits behind a point, when there is a point with digits behind it. -/
def scanPlaces (s : List Char) : Option (List Char × List Char) :=
  match s with
  | '.' :: rest =>
    let places := rest.takeWhile isDigit
    if places.isEmpty then none else some (places, rest.dropWhile isDigit)
  | _ => none

/-- The exponent, when there is one with digits. -/
def scanExponent (s : List Char) : Option (Int × List Char) :=
  match s with
  | e :: rest =>
    if e = 'e' ∨ e = 'E' then
      let (negative, digits) := Numeral.takeSign rest
      let run := digits.takeWhile isDigit
      if run.isEmpty then none
      else
        let n := Text.digitsValue run
        some (if negative then -(n : Int) else n, digits.dropWhile isDigit)
    else none
  | [] => none

/-- A number from its digits before the point on. -/
def scanNumber (negative : Bool) (whole rest : List Char) : Token × List Char :=
  let places := scanPlaces rest
  let afterPlaces := (places.map (·.2)).getD rest
  let exponent := scanExponent afterPlaces
  let afterExponent := (exponent.map (·.2)).getD afterPlaces
  let token :=
    if places.isNone && exponent.isNone then
      if Numeral.longestWhole < whole.length then .oversized whole.length
      else
        let n := Text.digitsValue whole
        .scalar (.int (if negative then -(n : Int) else n))
    else
      let behind := (places.map (·.1)).getD []
      let power := (exponent.map (·.1)).getD 0
      .scalar (.float (Decimal.toFloat negative
        ⟨Text.digitsValue (whole ++ behind), power - behind.length⟩))
  (token, afterExponent)

theorem length_dropWhile_isDigit_le (s : List Char) : (s.dropWhile isDigit).length ≤ s.length :=
  (List.dropWhile_sublist isDigit).length_le

theorem length_scanPlaces {s places rest : List Char} (h : scanPlaces s = some (places, rest)) :
    rest.length ≤ s.length := by
  unfold scanPlaces at h
  split at h
  · next t =>
    have := length_dropWhile_isDigit_le t
    simp only at h
    split at h
    · cases h
    · cases h
      simp only [List.length_cons]
      omega
  · cases h

theorem length_takeSign_le (s : List Char) : (Numeral.takeSign s).2.length ≤ s.length := by
  unfold Numeral.takeSign
  split <;> simp

theorem length_scanExponent {s rest : List Char} {n : Int} (h : scanExponent s = some (n, rest)) :
    rest.length ≤ s.length := by
  unfold scanExponent at h
  split at h
  · next e t =>
    split at h
    · have := length_takeSign_le t
      have := length_dropWhile_isDigit_le (Numeral.takeSign t).2
      simp only at h
      split at h
      · cases h
      · cases h
        simp only [List.length_cons]
        omega
    · cases h
  · cases h

theorem length_scanNumber (negative : Bool) (whole rest : List Char) :
    (scanNumber negative whole rest).2.length ≤ rest.length := by
  unfold scanNumber
  simp only
  cases places : scanPlaces rest with
  | none =>
    cases exponent : scanExponent rest with
    | none => simp [exponent]
    | some found => simpa [exponent] using length_scanExponent exponent
  | some found =>
    have := length_scanPlaces places
    cases exponent : scanExponent found.2 with
    | none => simpa [exponent] using this
    | some more =>
      have := length_scanExponent exponent
      simp only [Option.map_some, Option.getD_some, exponent]
      omega

/-! ## All tokens -/

/-- The words that stand for values. -/
def words : List (List Char × Json) :=
  [("null".toList, .null), ("true".toList, .bool true), ("false".toList, .bool false),
   ("NaN".toList, .float Binary64.nan), ("Infinity".toList, .float (Binary64.infinity false)),
   ("-Infinity".toList, .float (Binary64.infinity true))]

def word? (s : List Char) : Option (List Char × Json) := words.find? fun w => w.1.isPrefixOf s

def numberToken? (s : List Char) : Option (Token × List Char) :=
  let negative := s.head? == some '-'
  let body := if negative then s.drop 1 else s
  match body with
  | [] => none
  | c :: rest =>
    if c = '0' then some (scanNumber negative ['0'] rest)
    else if isDigit c then some (scanNumber negative (c :: rest.takeWhile isDigit) (rest.dropWhile isDigit))
    else none

theorem length_numberToken? {s rest : List Char} {t : Token} (h : numberToken? s = some (t, rest)) :
    rest.length < s.length := by
  unfold numberToken? at h
  simp only at h
  generalize e : (if (s.head? == some '-') = true then s.drop 1 else s) = body at h
  have hb : body.length ≤ s.length := by
    rw [← e]
    split <;> simp
  cases body with
  | nil => cases h
  | cons c more =>
    simp only [List.length_cons] at hb
    simp only at h
    split at h
    · have := length_scanNumber (s.head? == some '-') ['0'] more
      rw [Option.some.inj h] at this
      simp only at this
      omega
    · split at h
      · have := length_scanNumber (s.head? == some '-') (c :: more.takeWhile isDigit) (more.dropWhile isDigit)
        have := length_dropWhile_isDigit_le more
        rw [Option.some.inj h] at *
        simp only at *
        omega
      · cases h

def punctuation? : Char → Option Token
  | '[' => some .openBracket
  | ']' => some .closeBracket
  | '{' => some .openBrace
  | '}' => some .closeBrace
  | ',' => some .comma
  | ':' => some .colon
  | _ => none

theorem word_ne_nil {w : List Char × Json} (h : w ∈ words) : 0 < w.1.length := by
  simp only [words, List.mem_cons, List.not_mem_nil, or_false] at h
  rcases h with rfl | rfl | rfl | rfl | rfl | rfl <;> decide

/-- The token at the front of a text without white space before it. -/
def scanToken (s : List Char) : Scan s :=
  match s with
  | [] => .done
  | c :: rest =>
    match punctuation? c with
    | some t => .token t rest (by simp)
    | none =>
      if c = '"' then
        match h : scanText [] rest with
        | some (units, rest') =>
          .token (.scalar (.str (joinUnits [] units))) rest'
            (by have := length_scanText h; simp only [List.length_cons]; omega)
        | none => .bad
      else
        match h : word? (c :: rest) with
        | some w =>
          .token (.scalar w.2) ((c :: rest).drop w.1.length)
            (by have := word_ne_nil (List.mem_of_find?_eq_some h)
                simp only [List.length_drop, List.length_cons]
                omega)
        | none =>
          match h : numberToken? (c :: rest) with
          | some (t, rest') => .token t rest' (length_numberToken? h)
          | none => .bad

def nextToken (s : List Char) : Scan s :=
  match scanToken (s.dropWhile isSpace) with
  | .done => .done
  | .bad => .bad
  | .token t rest shorter =>
    .token t rest (Nat.lt_of_lt_of_le shorter (List.dropWhile_sublist isSpace).length_le)

end ChatService.Json
