import Mathlib.Data.List.Chain
import ChatService.Json.Printer
import ChatService.Json.Reader

/-!
# What the printer writes in one piece

A text, a word or a whole number that the printer writes is one token of the reader. A text
is read unit by unit, so a character above U+FFFF comes as the two halves that its escape
writes and is put together again at the end; a number goes on as long as digits, a point or
an exponent follow, so what stands behind it matters.
-/

namespace ChatService.Json

/-! ## Texts -/

/-- The UTF-16 units of a character. -/
def unitsOf (c : Char) : List Nat :=
  if c.toNat < 0x10000 then [c.toNat]
  else [0xD800 + (c.toNat - 0x10000) / 1024, 0xDC00 + (c.toNat - 0x10000) % 1024]

theorem hexValue?_hexDigit (n : Nat) : hexValue? (hexDigit n) = some (n % 16) := by
  have digit : ∀ d < 16, hexValue? (Nat.digitChar d) = some d := by decide
  exact digit (n % 16) (Nat.mod_lt n (by decide))

theorem unit?_hexDigit {n : Nat} (small : n < 0x10000) :
    unit? (hexDigit (n / 4096)) (hexDigit (n / 256)) (hexDigit (n / 16)) (hexDigit n) = some n := by
  have value : ((n / 4096 % 16 * 16 + n / 256 % 16) * 16 + n / 16 % 16) * 16 + n % 16 = n := by omega
  simp [unit?, hexValue?_hexDigit, value]

theorem scanText_unitEscape {n : Nat} (small : n < 0x10000) (units : List Nat) (rest : List Char) :
    scanText units (unitEscape n ++ rest) = scanText (n :: units) rest := by
  simp [unitEscape, scanText, unit?_hexDigit small]

theorem toNat_range (c : Char) : c.toNat < 0xD800 ∨ (0xE000 ≤ c.toNat ∧ c.toNat < 0x110000) := by
  have valid := c.valid
  simp only [UInt32.isValidChar, Nat.isValidChar] at valid
  simp only [Char.toNat]
  omega

theorem scanText_numericEscape (c : Char) (units : List Nat) (rest : List Char) :
    scanText units (numericEscape c ++ rest) = scanText ((unitsOf c).reverse ++ units) rest := by
  have range := toNat_range c
  unfold numericEscape unitsOf
  split
  · next small => exact scanText_unitEscape small units rest
  · rw [List.append_assoc, scanText_unitEscape (by omega), scanText_unitEscape (by omega)]
    rfl

theorem unitsOf_small {c : Char} (small : c.toNat < 0x10000) : unitsOf c = [c.toNat] := if_pos small

theorem scanText_plain {c : Char} (notQuote : c ≠ '"') (notBackslash : c ≠ '\\') (printable : ¬ c.toNat < 32)
    (units : List Nat) (rest : List Char) : scanText units (c :: rest) = scanText (c.toNat :: units) rest := by
  simp [scanText, notBackslash, printable]

/-- The escape of a character is read as its units. -/
theorem scanText_escape (c : Char) (units : List Nat) (rest : List Char) :
    scanText units (escape .ascii c ++ rest) = scanText ((unitsOf c).reverse ++ units) rest := by
  unfold escape
  split
  · next quote => simp [quote, scanText, shortEscape?, unitsOf]
  split
  · next backslash => simp [backslash, scanText, shortEscape?, unitsOf]
  split
  · next feed => simp [feed, scanText, shortEscape?, unitsOf]
  split
  · next back => simp [back, scanText, shortEscape?, unitsOf]
  split
  · next tab => simp [tab, scanText, shortEscape?, unitsOf]
  split
  · next backspace => simp [scanText, shortEscape?, unitsOf_small, backspace]
  split
  · next formFeed => simp [scanText, shortEscape?, unitsOf_small, formFeed]
  split
  · exact scanText_numericEscape c units rest
  split
  · exact scanText_numericEscape c units rest
  · next notQuote notBackslash _ _ _ _ _ printable ascii =>
    have small : c.toNat < 0x10000 := by
      simp only [true_and] at ascii
      omega
    rw [unitsOf_small small]
    exact scanText_plain notQuote notBackslash printable units rest

/-- The UTF-16 units of a code point. -/
def pointUnits : CodePoint → List Nat
  | .char c => unitsOf c
  | .half n => [(CodePoint.half n).value]

theorem scanText_escapePoint (c : CodePoint) (units : List Nat) (rest : List Char) :
    scanText units (escapePoint .ascii c ++ rest) = scanText ((pointUnits c).reverse ++ units) rest := by
  cases c with
  | char c => exact scanText_escape c units rest
  | half n => exact scanText_unitEscape (show 0xD800 + n.val < 0x10000 by omega) units rest

theorem scanText_flatMap (t : Text) (units : List Nat) (rest : List Char) :
    scanText units (t.flatMap (escapePoint .ascii) ++ rest) =
      scanText ((t.flatMap pointUnits).reverse ++ units) rest := by
  induction t generalizing units with
  | nil => rfl
  | cons c t ih =>
    rw [List.flatMap_cons, List.append_assoc, scanText_escapePoint, ih, List.flatMap_cons, List.reverse_append,
      List.append_assoc]

/-- Two halves that make up a character: a leading one with a trailing one behind it. -/
def Joins (a b : CodePoint) : Prop := (0xD800 ≤ a.value ∧ a.value < 0xDC00) ∧ 0xDC00 ≤ b.value ∧ b.value < 0xE000

instance (a b : CodePoint) : Decidable (Joins a b) := inferInstanceAs (Decidable (_ ∧ _))

/-- No two halves of a text make up a character. Where they do, the character is read back in their place. -/
def Apart (t : Text) : Prop := t.IsChain fun a b => ¬ Joins a b

theorem not_joins_char (a : CodePoint) (c : Char) : ¬ Joins a (.char c) := by
  have range := toNat_range c
  rintro ⟨-, low, high⟩
  simp only [CodePoint.value] at low high
  omega

theorem apart_ofChars (s : List Char) : Apart (Text.ofChars s) := by
  induction s with
  | nil => exact .nil
  | cons c s ih =>
    cases s with
    | nil => exact .singleton _
    | cons d s => exact List.isChain_cons_cons.2 ⟨not_joins_char _ d, ih⟩

@[simp] theorem apart_ofString (s : String) : Apart (Text.ofString s) := apart_ofChars s.toList

/-- The unit in front of a code point does not join it. -/
def FreeOf (c : CodePoint) (units : List Nat) : Prop :=
  ∀ u ∈ units.head?, 0xD800 ≤ u → u < 0xDC00 → ¬ (0xDC00 ≤ c.value ∧ c.value < 0xE000)

theorem ofNat_value (c : CodePoint) : CodePoint.ofNat c.value = c := by
  cases c with
  | char c =>
    have range := toNat_range c
    rw [CodePoint.ofNat, CodePoint.value, dif_neg (by omega), Char.ofNat_toNat]
  | half n =>
    have lone : 0xD800 ≤ 0xD800 + n.val ∧ 0xD800 + n.val < 0xE000 := by omega
    rw [CodePoint.ofNat, CodePoint.value, dif_pos lone]
    exact congrArg CodePoint.half (Fin.ext (Nat.add_sub_cancel_left ..))

/-- A unit that the one in front of it does not join is a code point of its own. -/
theorem joinUnits_value (c : CodePoint) (behind : Text) {units : List Nat} (free : FreeOf c units) :
    joinUnits behind (c.value :: units) = joinUnits (c :: behind) units := by
  cases units with
  | nil => simp only [joinUnits, ofNat_value]
  | cons next units =>
    have apart : ¬ (0xDC00 ≤ c.value ∧ c.value < 0xE000 ∧ 0xD800 ≤ next ∧ next < 0xDC00) :=
      fun ⟨low, high, first, last⟩ => free next rfl first last ⟨low, high⟩
    rw [joinUnits, if_neg apart, ofNat_value]

theorem joinUnits_pointUnits (c : CodePoint) (behind : Text) {units : List Nat} (free : FreeOf c units) :
    joinUnits behind ((pointUnits c).reverse ++ units) = joinUnits (c :: behind) units := by
  cases c with
  | half n => exact joinUnits_value _ behind free
  | char c =>
    have range := toNat_range c
    rw [pointUnits, unitsOf]
    split
    · exact joinUnits_value (.char c) behind free
    · have code : 0x10000 + (0xD800 + (c.toNat - 0x10000) / 1024 - 0xD800) * 1024 +
          (0xDC00 + (c.toNat - 0x10000) % 1024 - 0xDC00) = c.toNat := by omega
      simp only [List.reverse_cons, List.reverse_nil, List.nil_append, List.cons_append]
      rw [joinUnits, if_pos (by omega), code, Char.ofNat_toNat]

/-- The units in front of a code point end in the ones of the code point there. -/
theorem freeOf_flatMap {c d : CodePoint} (apart : ¬ Joins d c) (others : Text) :
    FreeOf c ((d :: others).flatMap (List.reverse ∘ pointUnits)) := by
  intro u first low high trailing
  rw [List.flatMap_cons, Function.comp_apply] at first
  cases d with
  | half n =>
    cases first
    exact apart ⟨⟨low, high⟩, trailing⟩
  | char d =>
    have range := toNat_range d
    rw [pointUnits, unitsOf] at first
    split at first
    · cases first
      omega
    · simp only [List.reverse_cons, List.reverse_nil, List.nil_append, List.cons_append, List.head?_cons, Option.mem_def,
        Option.some.injEq] at first
      omega

/-- The units of a text make up the text. -/
theorem joinUnits_flatMap {t : Text} (apart : Apart t) : joinUnits [] (t.flatMap pointUnits).reverse = t := by
  have joined : ∀ (last : Text), (last.IsChain fun b a => ¬ Joins a b) → ∀ behind,
      joinUnits behind (last.flatMap (List.reverse ∘ pointUnits)) = last.reverse ++ behind := by
    intro last
    induction last with
    | nil => exact fun _ behind => rfl
    | cons c last ih =>
      intro chain behind
      have free : FreeOf c (last.flatMap (List.reverse ∘ pointUnits)) := by
        cases last with
        | nil => simp [FreeOf]
        | cons d others => exact freeOf_flatMap (List.isChain_cons_cons.1 chain).1 others
      rw [List.flatMap_cons, Function.comp_apply, joinUnits_pointUnits c behind free, ih chain.tail, List.reverse_cons,
        List.append_assoc, List.singleton_append]
  rw [List.reverse_flatMap, joined _ (List.isChain_reverse.2 apart), List.reverse_reverse, List.append_nil]

/-! ## Tokens -/

/-- The token that a scan found, and the text behind it. -/
def Scan.token? {s : List Char} : Scan s → Option (Token × List Char)
  | .token t rest _ => some (t, rest)
  | _ => none

/-- A token stands at the front of a text, and something else behind it. -/
def Takes (s : List Char) (t : Token) (rest : List Char) : Prop := (nextToken s).token? = some (t, rest)

theorem token?_nextToken (s : List Char) :
    (nextToken s).token? = (scanToken (s.dropWhile isSpace)).token? := by
  unfold nextToken
  split <;> simp_all [Scan.token?]

theorem takes_of_scanToken {c : Char} (solid : isSpace c = false) {s rest : List Char} {t : Token}
    (scanned : (scanToken (c :: s)).token? = some (t, rest)) : Takes (c :: s) t rest := by
  rw [Takes, token?_nextToken, List.dropWhile_cons, solid]
  exact scanned

theorem takes_punctuation {c : Char} {t : Token} (sign : punctuation? c = some t) (rest : List Char) :
    Takes (c :: rest) t rest := by
  have solid : isSpace c = false := by
    unfold punctuation? at sign
    split at sign <;> first | rfl | cases sign
  refine takes_of_scanToken solid ?_
  simp only [scanToken]
  split
  · next found => rw [sign] at found; cases found; rfl
  · next missing => rw [sign] at missing; cases missing

theorem scanToken_text {s rest : List Char} {units : List Nat} (scanned : scanText [] s = some (units, rest)) :
    (scanToken ('"' :: s)).token? = some (.scalar (.str (joinUnits [] units)), rest) := by
  have other : punctuation? '"' = none := rfl
  simp only [scanToken, other, if_true]
  split
  · next found =>
    cases scanned.symm.trans found
    rfl
  · next missing => cases scanned.symm.trans missing

theorem scanToken_word {c : Char} (other : punctuation? c = none) (notQuote : c ≠ '"') {s : List Char}
    {w : List Char × Json} (found : word? (c :: s) = some w) :
    (scanToken (c :: s)).token? = some (.scalar w.2, (c :: s).drop w.1.length) := by
  simp only [scanToken, other, if_neg notQuote]
  split
  · next again =>
    cases found.symm.trans again
    rfl
  · next missing => cases found.symm.trans missing

theorem scanToken_number {c : Char} (other : punctuation? c = none) (notQuote : c ≠ '"') {s rest : List Char}
    {t : Token} (missing : word? (c :: s) = none) (number : numberToken? (c :: s) = some (t, rest)) :
    (scanToken (c :: s)).token? = some (t, rest) := by
  simp only [scanToken, other, if_neg notQuote]
  split
  · next found => cases missing.symm.trans found
  · split
    · next again =>
      cases number.symm.trans again
      rfl
    · next none => cases number.symm.trans none

/-- A written text is one token. -/
theorem takes_text {t : Text} (apart : Apart t) (rest : List Char) :
    Takes (writeText .ascii t ++ rest) (.scalar (.str t)) rest := by
  have scanned : scanText [] (t.flatMap (escapePoint .ascii) ++ '"' :: rest) =
      some ((t.flatMap pointUnits).reverse, rest) := by
    rw [scanText_flatMap, scanText, List.append_nil]
  have text : writeText .ascii t ++ rest = '"' :: (t.flatMap (escapePoint .ascii) ++ '"' :: rest) := by
    simp [writeText]
  rw [text]
  refine takes_of_scanToken (by decide) ?_
  rw [scanToken_text scanned, joinUnits_flatMap apart]

example : writeText .ascii "é😀" = "\"\\u00e9\\ud83d\\ude00\"".toList := by decide

theorem takes_null (rest : List Char) : Takes (write .ascii .null ++ rest) (.scalar .null) rest :=
  takes_of_scanToken rfl (scanToken_word rfl (by decide) (w := ("null".toList, .null)) rfl)

theorem takes_bool (b : Bool) (rest : List Char) : Takes (write .ascii (.bool b) ++ rest) (.scalar (.bool b)) rest := by
  cases b with
  | true => exact takes_of_scanToken rfl (scanToken_word rfl (by decide) (w := ("true".toList, .bool true)) rfl)
  | false => exact takes_of_scanToken rfl (scanToken_word rfl (by decide) (w := ("false".toList, .bool false)) rfl)

/-! ## Whole numbers -/

/-- What stands behind a value: nothing, or what separates it from the next one or closes. -/
def Ends (rest : List Char) : Prop := ∀ c ∈ rest.head?, c = ',' ∨ c = ']' ∨ c = '}'

theorem toDigits_head {n : Nat} (positive : 0 < n) : ∃ c digits, Nat.toDigits 10 n = c :: digits ∧ c ≠ '0' := by
  rw [Nat.toDigits_eq_if (by decide)]
  split
  · next small =>
    have nonzero : ∀ d < 10, 0 < d → Nat.digitChar d ≠ '0' := by decide
    exact ⟨n.digitChar, [], rfl, nonzero n small positive⟩
  · obtain ⟨c, digits, eq, nonzero⟩ := toDigits_head (n := n / 10) (by omega)
    exact ⟨c, digits ++ [(n % 10).digitChar], by rw [eq, List.cons_append], nonzero⟩

theorem ne_of_digit {c d : Char} (digit : c.isDigit = true) (other : d.isDigit = false) : c ≠ d := by
  rintro rfl
  cases digit.symm.trans other

theorem isDigit_of_mem {n : Nat} {c : Char} (member : c ∈ Nat.toDigits 10 n) : c.isDigit = true :=
  Nat.isDigit_of_mem_toDigits (by decide) (by decide) member

/-- A number does not go on in what stands behind a value. -/
theorem Ends.number {rest : List Char} (ends : Ends rest) :
    ∀ c ∈ rest.head?, c ≠ '.' ∧ c ≠ 'e' ∧ c ≠ 'E' ∧ isDigit c = false := by
  intro c head
  rcases ends c head with rfl | rfl | rfl <;> decide

theorem Ends.stop {rest : List Char} (ends : Ends rest) : ∀ c ∈ rest.head?, isDigit c = false :=
  fun c head => (ends.number c head).2.2.2

theorem scanPlaces_ends {rest : List Char} (ends : Ends rest) : scanPlaces rest = none := by
  unfold scanPlaces
  split
  · exact absurd rfl (ends.number _ rfl).1
  · rfl

theorem scanExponent_ends {rest : List Char} (ends : Ends rest) : scanExponent rest = none := by
  unfold scanExponent
  split
  · obtain ⟨-, small, capital, -⟩ := ends.number _ rfl
    rw [if_neg (by simp [small, capital])]
  · rfl

theorem scanNumber_whole {rest : List Char} (ends : Ends rest) (negative : Bool) {whole : List Char}
    (short : whole.length ≤ Numeral.longestWhole) :
    scanNumber negative whole rest =
      (.scalar (.int (if negative then -(Text.digitsValue whole : Int) else Text.digitsValue whole)), rest) := by
  simp [scanNumber, scanPlaces_ends ends, scanExponent_ends ends, Nat.not_lt.2 short]

/-- The digits of a number are cut off what stands behind them. -/
theorem numberToken?_digits {rest : List Char} (ends : Ends rest) (negative : Bool) (n : Nat) :
    numberToken? (Binary64.withSign negative (Nat.toDigits 10 n) ++ rest) =
      some (scanNumber negative (Nat.toDigits 10 n) rest) := by
  obtain ⟨c, digits, eq⟩ := List.exists_cons_of_ne_nil (Nat.toDigits_ne_nil (b := 10) (n := n))
  have all : ∀ d ∈ c :: digits, isDigit d = true := fun d member => isDigit_of_mem (eq ▸ member)
  have first : isDigit c = true := all c (List.mem_cons_self ..)
  have unsigned : (c == '-') = false := beq_eq_false_iff_ne.2 (ne_of_digit first rfl)
  obtain ⟨run, behind⟩ := Text.span_append rest (fun d member => all d (List.mem_cons_of_mem _ member)) ends.stop
  have cut : (if c = '0' then some (scanNumber negative ['0'] (digits ++ rest))
      else if isDigit c then
        some (scanNumber negative (c :: (digits ++ rest).takeWhile isDigit) ((digits ++ rest).dropWhile isDigit))
      else none) = some (scanNumber negative (c :: digits) rest) := by
    split
    · next zero =>
      -- Only zero is written with a zero in front.
      have alone : digits = [] := by
        rcases Nat.eq_zero_or_pos n with rfl | positive
        · exact (List.cons.inj eq).2.symm
        · obtain ⟨d, others, same, nonzero⟩ := toDigits_head positive
          cases eq.symm.trans same
          exact absurd zero nonzero
      rw [alone, zero, List.nil_append]
    · rw [run, behind]
  rw [eq]
  cases negative with
  | true => simpa [numberToken?, Binary64.withSign] using cut
  | false => simpa [numberToken?, Binary64.withSign, unsigned] using cut

theorem word?_digit {c : Char} (digit : c.isDigit = true) (s : List Char) :
    word? (c :: s) = none ∧ word? ('-' :: c :: s) = none := by
  have other : ∀ d : Char, d.isDigit = false → (d == c) = false := fun d letter =>
    beq_eq_false_iff_ne.2 (ne_of_digit digit letter).symm
  constructor <;> simp [word?, words, List.isPrefixOf, other]

theorem digit_plain {c : Char} (digit : c.isDigit = true) :
    isSpace c = false ∧ punctuation? c = none ∧ c ≠ '"' := by
  have other : ∀ d : Char, d.isDigit = false → (c == d) = false := fun d letter =>
    beq_eq_false_iff_ne.2 (ne_of_digit digit letter)
  refine ⟨by simp [isSpace, other], ?_, ne_of_digit digit rfl⟩
  unfold punctuation?
  split <;> first | rfl | cases digit

/-- A whole number with no more digits than are read. -/
def Legible (n : Nat) : Prop := (Nat.toDigits 10 n).length ≤ Numeral.longestWhole

/-- Every number of 64 bits can be read. -/
theorem legible_of_lt {n : Nat} (small : n < 18446744073709551616) : Legible n := by
  have few : (Nat.toDigits 10 n).length ≤ 20 :=
    (Nat.length_toDigits_le_iff (by decide) (by decide)).2 (Nat.lt_trans small (by decide))
  exact Nat.le_trans few (by decide)

/-- A written whole number is one token. -/
theorem takes_int {n : Int} (short : Legible n.natAbs) {rest : List Char} (ends : Ends rest) :
    Takes (write .ascii (.int n) ++ rest) (.scalar (.int n)) rest := by
  have number := numberToken?_digits ends (n < 0) n.natAbs
  have value : (if decide (n < 0) then -(n.natAbs : Int) else n.natAbs) = n := by
    by_cases negative : n < 0
    · rw [if_pos (decide_eq_true negative)]
      omega
    · rw [if_neg (by rwa [decide_eq_true_iff])]
      omega
  rw [scanNumber_whole ends _ short, Text.digitsValue_eq fun c member => isDigit_of_mem member,
    Nat.ofDigitChars_ten_toDigits, value] at number
  obtain ⟨c, digits, eq⟩ := List.exists_cons_of_ne_nil (Nat.toDigits_ne_nil (b := 10) (n := n.natAbs))
  have digit : c.isDigit = true := isDigit_of_mem (eq ▸ List.mem_cons_self ..)
  have noWord := word?_digit digit (digits ++ rest)
  rw [write, writeInt]
  rw [eq] at number ⊢
  cases negative : decide (n < 0) with
  | true =>
    rw [negative] at number
    exact takes_of_scanToken rfl (scanToken_number rfl (by decide) noWord.2 number)
  | false =>
    rw [negative] at number
    obtain ⟨solid, other, notQuote⟩ := digit_plain digit
    exact takes_of_scanToken solid (scanToken_number other notQuote noWord.1 number)

end ChatService.Json
