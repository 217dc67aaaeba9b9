import ChatService.Proofs.Calculator.Balance

/-!
# Evaluation that can go wrong

The evaluation once more, as a loop and two recursions that nothing makes end, over places in a text that a look-up
can miss. Dividing, taking a power, calling a function, reading a number and writing one out can each raise an error
of their own. Whatever the text, the evaluation ends, with a finite double or with a fault of the expression.
-/

namespace ChatService.Calculator

/-- What can be raised in the middle of an evaluation. -/
inductive Raised
  | fault (fault : Fault)
  /-- An argument for which an operation has no result. -/
  | invalid
  /-- A result that an operation cannot give. -/
  | overflow
  /-- A division by zero that no one looked for. -/
  | zeroDivision
  /-- A look-up beyond the end of a text. -/
  | outOfRange

/-- What has come of a computation after some steps: nothing yet, an error or a result. -/
abbrev Run := ExceptT Raised Option

namespace Strict

def ended {α : Type} (result : Except Raised α) : Run α := ExceptT.mk (some result)

def unfinished {α : Type} : Run α := ExceptT.mk none

def lift {α : Type} (result : Except Fault α) : Except Raised α := result.mapError .fault

/-! ## Operations -/

def charAt (s : List Char) (place : Nat) : Except Raised Char :=
  match s[place]? with
  | some c => .ok c
  | none => .error .outOfRange

def quotient (x y : Float) : Except Raised Float := if y == 0 then .error .zeroDivision else .ok (x / y)

/-- A power of finite doubles. -/
def power (x y : Float) : Except Raised Float :=
  let r := x.pow y
  if Binary64.isNaN r then .error .invalid
  else if Binary64.isFinite r then .ok r
  else if x == 0 then .error .invalid
  else .error .overflow

/-- A function at a finite double. -/
def call (f : Function) (x : Float) : Except Raised Float := if f.accepts x then .ok (f.value x) else .error .invalid

def read (s : List Char) : Except Raised Float :=
  match Numeral.parse? s with
  | some n => .ok n.value
  | none => .error .invalid

/-- The whole part of a double, without its sign. -/
def wholePart (x : Float) : Except Raised Nat :=
  if Binary64.isNaN x then .error .invalid
  else if Binary64.isFinite x then .ok (Binary64.units x / Binary64.unitsPerOne)
  else .error .overflow

/-- How many digits a whole number may have that is written out. -/
def digitLimit : Nat := 4300

def wholeText (n : Nat) : Except Raised (List Char) :=
  if (Decimal.wholeText n).length ≤ digitLimit then .ok (Decimal.wholeText n) else .error .invalid

def formatNumber (x : Float) : Except Raised (List Char) :=
  if !Binary64.isFinite x then .ok (Binary64.specialText x)
  else if Binary64.isWhole x then do
    let n ← wholePart x
    let digits ← wholeText n
    return Binary64.withSign (Binary64.isNegative x && n != 0) digits
  else return Binary64.withSign (Binary64.isNegative x) (Decimal.shortest x).plain

/-- An operation whose own errors are turned into faults. -/
def guarded (domain overflow : Fault) : Except Raised Float → Except Raised Float
  | .error .invalid => .error (.fault domain)
  | .error .overflow => .error (.fault overflow)
  | other => other

def combine (op : Operator) (x y : Float) : Except Raised Float := do
  let result ← guarded .outsideDomain .resultTooLarge <|
    match op with
    | .add => .ok (x + y)
    | .sub => .ok (x - y)
    | .mul => .ok (x * y)
    | .div => if y == 0 then .error (.fault .divisionByZero) else quotient x y
    | .pow => power x y
  lift (finite .resultTooLarge result)

def apply (f : Function) (x : Float) : Except Raised Float := do
  let result ← guarded (.functionOutsideDomain f) (.functionTooLarge f) (call f x)
  lift (finite (.functionTooLarge f) result)

def number (s : List Char) : Except Raised Float :=
  if (Numeral.parse? s).isNone then .error (.fault (.notNumber (String.ofList s)))
  else do
    let x ← read s
    lift (finite (.numberTooLarge (String.ofList s)) x)

/-! ## Texts without groups -/

/-- Whether a sign at a place belongs to a number. -/
def opensOperand (s : List Char) (place : Nat) : Except Raised Bool :=
  if place = 0 then .ok true
  else do
    let c ← charAt s (place - 1)
    return (Operator.ofChar? c).isSome

/-- The last operator of a tier among the first characters of a text, with its place. -/
def scan (tier : Operator.Tier) (s : List Char) : Nat → Except Raised (Option (Nat × Operator))
  | 0 => .ok none
  | place + 1 => do
    let c ← charAt s place
    match Operator.ofChar? c with
    | none => scan tier s place
    | some op =>
      if op.tier ≠ tier then scan tier s place
      else if c ≠ '-' then return some (place, op)
      else if ← opensOperand s place then scan tier s place
      else return some (place, op)

def search (s : List Char) : List Operator.Tier → Except Raised (Option (Nat × Operator))
  | [] => .ok none
  | tier :: tiers => do
    match ← scan tier s s.length with
    | some found => return some found
    | none => search s tiers

/-- Nothing says beforehand how deep the operators of a text lie. The steps are those that are left. -/
def flat : Nat → List Char → Run Float
  | 0, _ => unfinished
  | steps + 1, s => do
    match ← ended (search s Operator.Tier.all) with
    | none => ended (number s)
    | some (place, op) =>
      let x ← flat steps (s.take place)
      let y ← flat steps (s.drop (place + 1))
      ended (combine op x y)

/-! ## Texts with groups -/

/-- The place of the last such character of a text that has one. -/
def lastPlace (c : Char) (s : List Char) : Nat := s.length - 1 - s.reverse.idxOf c

/-- The first place of a character from some place on. -/
def placeFrom? (start : Nat) (c : Char) (s : List Char) : Option Nat :=
  if c ∈ s.drop start then some (start + (s.drop start).idxOf c) else none

def slice (start stop : Nat) (s : List Char) : List Char := (s.take stop).drop start

/-- The function whose name stands right before a place. -/
def named? (start : Nat) (s : List Char) : Option Function :=
  Function.all.find? fun f => f.name.isSuffixOf (slice (start - 4) start s)

/-- Where the text that makes way for a group starts, and the value that takes its place. -/
def called (start : Nat) (s : List Char) (x : Float) : Except Raised (Nat × Float) :=
  match named? start s with
  | none => .ok (start, x)
  | some f => (apply f x).map fun y => (start - f.name.length, y)

/-- Puts the value of the last group in its place and goes on with the text that this gives. The group is evaluated
like any other text. -/
def dissolve : Nat → List Char → Run Float
  | 0, _ => unfinished
  | steps + 1, s => do
    if '(' ∈ s ∧ ')' ∈ s then
      let start := lastPlace '(' s
      match placeFrom? start ')' s with
      | none => ended (.error (.fault .unbalanced))
      | some stop =>
        let x ← dissolve steps (prepare (slice (start + 1) stop s))
        let (start, y) ← ended (called start s x)
        let text ← ended (formatNumber y)
        dissolve steps (s.take start ++ text ++ s.drop (stop + 1))
    else if '(' ∈ s ∨ ')' ∈ s then ended (.error (.fault .unbalanced))
    else flat steps s

def evaluate (steps : Nat) (s : List Char) : Run Float := dissolve steps (prepare s)

end Strict

section

open Strict (ended lift)

variable {α β : Type}

/-! ## Coming to an end -/

/-- Given enough steps the computation has this result, and more steps make no difference. -/
def Ends (run : Nat → Run α) (result : Except Raised α) : Prop :=
  ∃ enough, ∀ steps, enough ≤ steps → run steps = ended result

theorem Ends.const (result : Except Raised α) : Ends (fun _ => ended result) result := ⟨0, fun _ _ => rfl⟩

/-- A computation ends if what it does after its first step ends. -/
theorem Ends.step {run next : Nat → Run α} {result : Except Raised α} (ends : Ends next result)
    (first : ∀ steps, run (steps + 1) = next steps) : Ends run result := by
  obtain ⟨enough, same⟩ := ends
  refine ⟨enough + 1, fun steps more => ?_⟩
  cases steps with
  | zero => exact absurd more (Nat.not_succ_le_zero enough)
  | succ steps =>
    rw [first]
    exact same steps (Nat.le_of_succ_le_succ more)

/-- Two computations end one behind the other if the first one ends, and the second one where it is reached. -/
theorem Ends.bind {run : Nat → Run α} {next : α → Nat → Run β} {m : Except Fault α} {f : α → Except Fault β}
    (first : Ends run (lift m)) (second : ∀ a, m = .ok a → Ends (next a) (lift (f a))) :
    Ends (fun steps => run steps >>= fun a => next a steps) (lift (m >>= f)) := by
  obtain ⟨enough, same⟩ := first
  cases m with
  | error fault =>
    refine ⟨enough, fun steps more => ?_⟩
    simp only [same steps more]
    rfl
  | ok a =>
    obtain ⟨enough', same'⟩ := second a rfl
    refine ⟨max enough enough', fun steps more => ?_⟩
    simp only [same steps ((Nat.le_max_left ..).trans more)]
    exact same' steps ((Nat.le_max_right ..).trans more)

/-! ## Operations on finite doubles -/

theorem guarded_ok (domain overflow : Fault) (x : Float) : Strict.guarded domain overflow (.ok x) = .ok x := rfl

theorem ok_bind {ε α β : Type} (a : α) (f : α → Except ε β) : (Except.ok a >>= f) = f a := rfl

theorem strict_combine (op : Operator) (x y : Float) : Strict.combine op x y = lift (op.combine x y) := by
  cases op with
  | add | sub | mul => simp only [Strict.combine, guarded_ok, ok_bind, Operator.combine]
  | div =>
    simp only [Strict.combine, Operator.combine, Strict.quotient]
    split
    · rfl
    · simp only [guarded_ok, ok_bind]
  | pow =>
    simp only [Strict.combine, Operator.combine, Strict.power, power]
    generalize x.pow y = r
    by_cases undefined : Binary64.isNaN r = true
    · simp only [if_pos undefined]
      rfl
    · simp only [if_neg undefined]
      by_cases small : Binary64.isFinite r = true
      · simp only [small, ↓reduceIte, guarded_ok, ok_bind, Bool.not_true, Bool.false_and, Bool.false_eq_true]
      · by_cases zero : (x == 0) = true
        · simp only [small, zero, ↓reduceIte, Bool.not_false, Bool.true_and, Bool.false_eq_true]
          rfl
        · simp only [small, zero, finite, ↓reduceIte, Bool.not_false, Bool.true_and, Bool.false_eq_true]
          rfl

theorem strict_apply (f : Function) (x : Float) : Strict.apply f x = lift (f.apply x) := by
  unfold Strict.apply Strict.call Function.apply
  split
  · simp only [guarded_ok, ok_bind]
  · rfl

theorem strict_number (s : List Char) : Strict.number s = lift (number s) := by
  rw [Strict.number, Strict.read, number]
  cases Numeral.parse? s with
  | none => rfl
  | some n =>
    simp only
    generalize n.value = x
    exact ok_bind x _

theorem not_isNaN_of_isFinite {x : Float} (finite : Binary64.isFinite x) : Binary64.isNaN x = false := by
  have small := Binary64.isFinite_iff.1 finite
  simp only [Binary64.isNaN, decide_eq_false_iff_not]
  omega

/-- A whole number has at most as many digits as binary digits. -/
theorem length_wholeText_le {n k : Nat} (positive : 0 < k) (less : n < 2 ^ k) : (Decimal.wholeText n).length ≤ k :=
  (Nat.length_toDigits_le_iff (by decide) positive).2 (less.trans_le (Nat.pow_le_pow_left (by decide) k))

theorem strict_wholeText {x : Float} (finite : Binary64.isFinite x) :
    Strict.wholeText (Binary64.units x / Binary64.unitsPerOne) =
      .ok (Decimal.wholeText (Binary64.units x / Binary64.unitsPerOne)) := by
  have small := Binary64.isFinite_iff.1 finite
  have spaced : Binary64.spacing x ≤ 2045 := by
    have below : Binary64.fieldBits x / Binary64.fractions < 2047 :=
      (Nat.div_lt_iff_lt_mul (by decide)).2 small
    unfold Binary64.spacing
    omega
  have units : Binary64.units x < 2 ^ 1024 * Binary64.unitsPerOne := calc
    Binary64.units x = Binary64.significand x * 2 ^ Binary64.spacing x := Binary64.units_eq x
    _ < 2 * Binary64.fractions * 2 ^ Binary64.spacing x :=
      Nat.mul_lt_mul_of_pos_right (Binary64.significand_lt x) (Nat.two_pow_pos _)
    _ ≤ 2 * Binary64.fractions * 2 ^ 2045 := Nat.mul_le_mul_left _ (Nat.pow_le_pow_right (by decide) spaced)
    _ = 2 ^ 1024 * Binary64.unitsPerOne := by decide +kernel
  have short := length_wholeText_le (by decide) ((Nat.div_lt_iff_lt_mul (by decide)).2 units)
  exact if_pos (short.trans (by decide))

theorem strict_formatNumber {x : Float} (finite : Binary64.isFinite x) :
    Strict.formatNumber x = .ok (formatNumber x) := by
  have part : Strict.wholePart x = .ok (Binary64.units x / Binary64.unitsPerOne) := by
    simp only [Strict.wholePart, not_isNaN_of_isFinite finite, finite, ↓reduceIte, Bool.false_eq_true]
  cases whole : Binary64.isWhole x with
  | true =>
    have divides : Binary64.unitsPerOne ∣ Binary64.units x :=
      Nat.dvd_of_mod_eq_zero (by simpa [Binary64.isWhole] using whole)
    have signed : (Binary64.units x / Binary64.unitsPerOne != 0) = (Binary64.units x != 0) := by
      rw [Bool.eq_iff_iff, bne_iff_ne, bne_iff_ne]
      refine not_congr ⟨Nat.eq_zero_of_dvd_of_div_eq_zero divides, fun zero => ?_⟩
      rw [zero, Nat.zero_div]
    rw [formatNumber_whole finite whole]
    simp only [Strict.formatNumber, finite, whole, part, strict_wholeText finite, ok_bind, signed, Bool.not_true,
      Bool.false_eq_true, ↓reduceIte]
    rfl
  | false =>
    rw [formatNumber_fraction finite whole]
    simp only [Strict.formatNumber, finite, whole, Bool.not_true, Bool.false_eq_true, ↓reduceIte]
    rfl

/-! ## Texts without groups -/

theorem charAt_length (before right : List Char) (c : Char) :
    Strict.charAt (before.reverse ++ c :: right) before.length = .ok c := by
  have found : (before.reverse ++ c :: right)[before.length]? = some c := by
    rw [List.getElem?_append_right (by simp), List.length_reverse, Nat.sub_self]
    rfl
  rw [Strict.charAt, found]

theorem strict_opensOperand (before right : List Char) :
    Strict.opensOperand (before.reverse ++ right) before.length = .ok (opensOperand before) := by
  cases before with
  | nil => rfl
  | cons c before =>
    have form : (c :: before).reverse ++ right = before.reverse ++ c :: right := by simp
    have later : ¬ (c :: before).length = 0 := by simp
    rw [form, Strict.opensOperand, if_neg later, List.length_cons, Nat.add_sub_cancel, charAt_length, ok_bind]
    rfl

/-- The place of a split, and its operator. -/
def Split.place (cut : Split) : Nat × Operator := (cut.left.length, cut.operator)

/-- Looking for an operator from place to place finds the same one as looking through the text backwards. -/
theorem strict_scan (tier : Operator.Tier) (before right : List Char) :
    Strict.scan tier (before.reverse ++ right) before.length =
      .ok ((splitBackwards tier before right).map Split.place) := by
  induction before generalizing right with
  | nil => rfl
  | cons c before ih =>
    have next := ih (c :: right)
    have form : (c :: before).reverse ++ right = before.reverse ++ c :: right := by simp
    rw [form, List.length_cons, Strict.scan, charAt_length, ok_bind, strict_opensOperand, splitBackwards, splitter?]
    cases kind : Operator.ofChar? c with
    | none => exact next
    | some op =>
      have found : Split.place ⟨before.reverse, op, right⟩ = (before.length, op) := by simp [Split.place]
      by_cases own : op.tier = tier
      · by_cases minus : c = '-'
        · cases opens : opensOperand before with
          | true =>
            simp only [own, minus, ne_eq, not_true_eq_false, ok_bind, ↓reduceIte]
            exact minus ▸ next
          | false =>
            simp only [own, minus, ne_eq, not_true_eq_false, not_false_eq_true, and_false, and_true, ok_bind, ↓reduceIte,
              Bool.false_eq_true, Option.map_some, found]
            rfl
        · simp only [own, minus, ne_eq, not_true_eq_false, not_false_eq_true, false_and, and_true, ↓reduceIte,
            Option.map_some, found]
          rfl
      · simp only [own, ne_eq, not_false_eq_true, false_and, ↓reduceIte]
        exact next

theorem strict_search (s : List Char) (tiers : List Operator.Tier) :
    Strict.search s tiers =
      .ok ((tiers.findSome? fun tier => splitBackwards tier s.reverse []).map Split.place) := by
  induction tiers with
  | nil => rfl
  | cons tier tiers ih =>
    have here := strict_scan tier s.reverse []
    rw [List.reverse_reverse, List.append_nil, List.length_reverse] at here
    rw [Strict.search, here, ok_bind, List.findSome?_cons]
    cases splitBackwards tier s.reverse [] with
    | none => exact ih
    | some cut => rfl

theorem strict_flat (s : List Char) : Ends (Strict.flat · s) (lift (flat s)) := by
  fun_induction flat s with
  | case1 s unsplit =>
    refine (Ends.const (lift (number s))).step fun steps => ?_
    rw [Strict.flat, strict_search, ← split?, unsplit, strict_number]
    rfl
  | case2 s cut found left_ih right_ih =>
    have whole := split?_eq found
    have left : s.take cut.left.length = cut.left := by rw [whole, List.take_left]
    have right : s.drop (cut.left.length + 1) = cut.right := by rw [whole, ← List.drop_drop, List.drop_left]; rfl
    refine (left_ih.bind fun x _ => right_ih.bind fun y _ => .const (lift (cut.operator.combine x y))).step fun steps => ?_
    rw [Strict.flat, strict_search, ← split?, found, ← left, ← right]
    simp only [← strict_combine]
    rfl

/-! ## Places of parentheses -/

theorem lastPlace_eq {c : Char} {rest : List Char} (last : c ∉ rest) (before : List Char) :
    Strict.lastPlace c (before.reverse ++ c :: rest) = before.length := by
  have form : (before.reverse ++ c :: rest).reverse = rest.reverse ++ c :: before := by simp
  rw [Strict.lastPlace, form, List.idxOf_append_of_notMem (by simpa using last), List.idxOf_cons_self]
  simp only [List.length_append, List.length_reverse, List.length_cons]
  omega

theorem placeFrom?_none {c d : Char} {rest : List Char} (other : d ≠ c) (none : c ∉ rest) (before : List Char) :
    Strict.placeFrom? before.length c (before.reverse ++ d :: rest) = .none := by
  rw [Strict.placeFrom?, ← List.length_reverse, List.drop_left, if_neg]
  simpa using ⟨other.symm, none⟩

theorem placeFrom?_some {c d : Char} {inner : List Char} (other : d ≠ c) (first : c ∉ inner) (before after : List Char) :
    Strict.placeFrom? before.length c (before.reverse ++ d :: (inner ++ c :: after)) =
      some (before.length + (inner.length + 1)) := by
  rw [Strict.placeFrom?, ← List.length_reverse, List.drop_left, if_pos (by simp), List.length_reverse,
    List.idxOf_cons_ne _ other, List.idxOf_append_of_notMem first, List.idxOf_cons_self]

theorem slice_group (before inner after : List Char) (c d : Char) :
    Strict.slice (before.length + 1) (before.length + (inner.length + 1)) (before.reverse ++ c :: (inner ++ d :: after)) =
      inner := by
  have form : before.reverse ++ c :: (inner ++ d :: after) = (before.reverse ++ [c]) ++ (inner ++ d :: after) := by simp
  have start : before.length + 1 = (before.reverse ++ [c]).length := by simp
  have stop : before.length + (inner.length + 1) = (before.reverse ++ [c]).length + inner.length := by
    rw [← start]
    omega
  rw [Strict.slice, form, stop, List.take_length_add_append, List.take_left, start, List.drop_left]

/-- The few characters before a place are enough to tell whether a name ends there. -/
theorem isSuffixOf_slice (f : Function) (before rest : List Char) :
    f.name.isSuffixOf (Strict.slice (before.length - 4) before.length (before.reverse ++ rest)) =
      f.name.reverse.isPrefixOf before := by
  have front : (before.reverse ++ rest).take before.length = before.reverse := by
    rw [← List.length_reverse, List.take_left]
  have short : f.name.length ≤ 4 := by cases f <;> decide
  rw [Bool.eq_iff_iff, List.isSuffixOf_iff_suffix, List.isPrefixOf_iff_prefix, Strict.slice, front,
    ← List.reverse_prefix, List.drop_reverse, List.reverse_reverse, List.prefix_take_iff, and_iff_left_iff_imp]
  intro named
  have fits := named.length_le
  rw [List.length_reverse] at fits ⊢
  omega

theorem strict_named (before rest : List Char) :
    Strict.named? before.length (before.reverse ++ rest) = (functionBefore? before).map (·.1) := by
  simp only [Strict.named?, isSuffixOf_slice, functionBefore?, List.map_findSome?, List.find?_eq_findSome?_guard]
  congr 1
  funext f
  rw [Function.comp_apply, Option.guard]
  split <;> rfl

/-- What is put in the place of a group is the same, or there is the same fault. -/
theorem strict_called (before rest : List Char) {x : Float} (finite : Binary64.isFinite x) :
    (∃ fault, splice before x = .error fault ∧
      Strict.called before.length (before.reverse ++ rest) x = .error (.fault fault)) ∨
    ∃ name before' y, before = name ++ before' ∧ Binary64.isFinite y = true ∧
      splice before x = .ok (before', formatNumber y) ∧
      Strict.called before.length (before.reverse ++ rest) x = .ok (before'.length, y) := by
  rw [Strict.called, strict_named, splice]
  cases found : functionBefore? before with
  | none => exact .inr ⟨[], before, x, rfl, finite, rfl, rfl⟩
  | some place =>
    obtain ⟨f, before'⟩ := place
    have same := functionBefore?_eq found
    have start : before.length - f.name.length = before'.length := by
      rw [same, List.length_append, List.length_reverse, Nat.add_sub_cancel_left]
    simp only [Option.map_some, strict_apply, start]
    cases applied : f.apply x with
    | error fault => exact .inl ⟨fault, rfl, rfl⟩
    | ok y => exact .inr ⟨f.name.reverse, before', y, same, isFinite_apply applied, rfl, rfl⟩

/-! ## Texts with groups -/

theorem strict_dissolve_flat {s : List Char} (open' : '(' ∉ s) (close : ')' ∉ s) :
    Ends (Strict.dissolve · s) (lift (flat s)) := by
  refine (strict_flat s).step fun steps => ?_
  rw [Strict.dissolve, if_neg fun both => open' both.1, if_neg (not_or.2 ⟨open', close⟩)]

/-- A group without groups of its own. -/
theorem strict_group {inner : List Char} (open' : '(' ∉ inner) (close : ')' ∉ inner) :
    Ends (Strict.dissolve · (prepare inner)) (lift (group inner)) := by
  have none : parentheses (prepare inner) = [] := by rw [parentheses_prepare, parentheses_eq_nil open' close]
  refine strict_dissolve_flat ?_ ?_
  · exact fun mem => by simpa [none] using mem_parentheses_iff.1.2 mem
  · exact fun mem => by simpa [none] using mem_parentheses_iff.2.2 mem

/-- The text after another one has taken the place of a group and of the name before it. -/
theorem text_spliced (name before inner after text : List Char) (c d : Char) :
    ((name ++ before).reverse ++ c :: (inner ++ d :: after)).take before.length ++ text ++
        ((name ++ before).reverse ++ c :: (inner ++ d :: after)).drop ((name ++ before).length + (inner.length + 1) + 1) =
      before.reverse ++ (text ++ after) := by
  have front : ((name ++ before).reverse ++ c :: (inner ++ d :: after)).take before.length = before.reverse := by
    rw [List.reverse_append, List.append_assoc, ← List.length_reverse, List.take_left]
  have back : ((name ++ before).reverse ++ c :: (inner ++ d :: after)).drop
      ((name ++ before).length + (inner.length + 1) + 1) = after := by
    have form : (name ++ before).reverse ++ c :: (inner ++ d :: after) =
        ((name ++ before).reverse ++ c :: (inner ++ [d])) ++ after := by simp
    have stop : (name ++ before).length + (inner.length + 1) + 1 =
        ((name ++ before).reverse ++ c :: (inner ++ [d])).length := by
      simp only [List.length_append, List.length_reverse, List.length_cons, List.length_nil]
      omega
    rw [form, stop, List.drop_left]
  rw [front, back, List.append_assoc]

/-- What follows once a group has a value. -/
theorem strict_put {before after : List Char} (inner : List Char) {x : Float} (finite : Binary64.isFinite x)
    (ends : ∀ before' text, splice before x = .ok (before', text) →
      Ends (Strict.dissolve · (before'.reverse ++ (text ++ after))) (lift (dissolve before' (text ++ after)))) :
    Ends (fun steps => do
        let (start, y) ← ended (Strict.called before.length (before.reverse ++ '(' :: (inner ++ ')' :: after)) x)
        let text ← ended (Strict.formatNumber y)
        Strict.dissolve steps ((before.reverse ++ '(' :: (inner ++ ')' :: after)).take start ++ text ++
          (before.reverse ++ '(' :: (inner ++ ')' :: after)).drop (before.length + (inner.length + 1) + 1)))
      (lift (splice before x >>= fun place => dissolve place.1 (place.2 ++ after))) := by
  rcases strict_called before ('(' :: (inner ++ ')' :: after)) finite with
    ⟨fault, spliced, called⟩ | ⟨name, before', y, rfl, finite', spliced, called⟩
  · rw [spliced, called]
    exact .const _
  · rw [spliced, called]
    change Ends (fun steps => ended (Strict.formatNumber y) >>= fun text => Strict.dissolve steps
      (((name ++ before').reverse ++ '(' :: (inner ++ ')' :: after)).take before'.length ++ text ++ _)) _
    rw [strict_formatNumber finite']
    change Ends (fun steps => Strict.dissolve steps
      (((name ++ before').reverse ++ '(' :: (inner ++ ')' :: after)).take before'.length ++ formatNumber y ++ _)) _
    rw [text_spliced]
    exact ends before' (formatNumber y) spliced

/-- Dissolving from place to place comes to what dissolving from right to left does. -/
theorem strict_dissolve (before after : List Char) (closed : '(' ∉ after) :
    Ends (Strict.dissolve · (before.reverse ++ after)) (lift (dissolve before after)) := by
  -- The whole text may get longer each time. What gets shorter is the part up to its last open parenthesis.
  induction before, after using dissolve_induct with
  | last after =>
    rw [List.reverse_nil, List.nil_append, dissolve_end]
    by_cases close : ')' ∈ after
    · rw [if_pos close]
      refine (Ends.const _).step fun steps => ?_
      rw [Strict.dissolve, if_neg fun both => closed both.1, if_pos (.inr close)]
      rfl
    · rw [if_neg close]
      exact strict_dissolve_flat closed close
  | pass c before after other ih =>
    rw [List.reverse_cons, List.append_assoc, List.singleton_append, dissolve_other other]
    exact ih (by simpa using ⟨other.symm, closed⟩)
  | unclosed before after opens =>
    rw [List.reverse_cons, List.append_assoc, List.singleton_append, dissolve_unclosed opens]
    have opening : '(' ∈ before.reverse ++ '(' :: after := by simp
    refine (Ends.const _).step fun steps => ?_
    rw [Strict.dissolve]
    split
    · simp only [lastPlace_eq closed, placeFrom?_none (show '(' ≠ ')' by decide) opens]
      rfl
    · rw [if_pos (.inl opening)]
      rfl
  | closed before inner after opens ih =>
    have open' : '(' ∉ inner := fun mem => closed (List.mem_append_left _ mem)
    have open'' : '(' ∉ after := fun mem => closed (List.mem_append_right _ (List.mem_cons_of_mem _ mem))
    rw [List.reverse_cons, List.append_assoc, List.singleton_append, dissolve_group opens]
    have continued (x : Float) (value : group inner = .ok x) := strict_put inner (isFinite_flat value)
      fun before' text spliced => ih x before' text value spliced (splice_closed (isFinite_flat value) spliced open'')
    refine ((strict_group open' opens).bind continued).step fun steps => ?_
    rw [Strict.dissolve, if_pos (by simp)]
    simp only [lastPlace_eq closed, placeFrom?_some (show '(' ≠ ')' by decide) opens, slice_group]

/-- Evaluation ends for every text, with a finite double or with a fault that is an evaluation failure, a syntax failure
or a division by zero. -/
theorem evaluation_ends (s : List Char) :
    (∃ x, Ends (Strict.evaluate · s) (.ok x) ∧ evaluate s = .ok x ∧ Binary64.isFinite x = true) ∨
      ∃ fault, Ends (Strict.evaluate · s) (.error (.fault fault)) ∧ evaluate s = .error fault ∧
        fault.kind ∈ [FailureKind.evaluation, .expressionSyntax, .divideByZero] := by
  have ends := strict_dissolve (prepare s).reverse [] (by simp)
  rw [List.reverse_reverse, List.append_nil] at ends
  change Ends (Strict.evaluate · s) (lift (evaluate s)) at ends
  cases value : evaluate s with
  | ok x =>
    rw [value] at ends
    exact .inl ⟨x, ends, rfl, isFinite_evaluate value⟩
  | error fault =>
    rw [value] at ends
    exact .inr ⟨fault, ends, rfl, by cases fault <;> simp [Fault.kind]⟩

end

end ChatService.Calculator
