import ChatService.Proofs.Calculator.Flat
import ChatService.Proofs.Calculator.Spelling

/-!
# Splicing values into expressions

Evaluating a text puts the values of its groups in their places, from right to left, until no
group is left. For the text of an expression this computes the value of the expression: what
is put in the place of a group is read back as its value, and a minus sign in front of it is
one of a number, because what stands before a group is an operator or an open parenthesis.
-/

namespace ChatService.Calculator

/-! ## Finite values -/

theorem isFinite_of_finite {fault : Fault} {x y : Float} (ok : finite fault x = .ok y) : Binary64.isFinite y = true :=
  (finite_eq_ok_iff.1 ok).2

theorem isFinite_number {s : List Char} {x : Float} (ok : number s = .ok x) : Binary64.isFinite x = true := by
  unfold number at ok
  split at ok
  · cases ok
  · exact isFinite_of_finite ok

theorem isFinite_combine {op : Operator} {x y z : Float} (ok : op.combine x y = .ok z) : Binary64.isFinite z = true := by
  cases op with
  | add | sub | mul => exact isFinite_of_finite ok
  | div =>
    simp only [Operator.combine] at ok
    split at ok
    · cases ok
    · exact isFinite_of_finite ok
  | pow =>
    simp only [Operator.combine, power] at ok
    split at ok
    · cases ok
    · split at ok
      · cases ok
      · exact isFinite_of_finite ok

theorem isFinite_apply {f : Function} {x y : Float} (ok : f.apply x = .ok y) : Binary64.isFinite y = true := by
  unfold Function.apply at ok
  split at ok
  · exact isFinite_of_finite ok
  · cases ok

theorem of_bind_ok {α β : Type} {m : Except Fault α} {f : α → Except Fault β} {b : β} (ok : m >>= f = .ok b) :
    ∃ a, m = .ok a ∧ f a = .ok b := by
  cases m with
  | error fault => cases ok
  | ok a => exact ⟨a, rfl, ok⟩

theorem of_bind_error {α β : Type} {m : Except Fault α} {f : α → Except Fault β} {fault : Fault}
    (failed : m >>= f = .error fault) : m = .error fault ∨ ∃ a, m = .ok a ∧ f a = .error fault := by
  cases m with
  | error fault' =>
    cases failed
    exact .inl rfl
  | ok a => exact .inr ⟨a, rfl, failed⟩

theorem isFinite_flat {s : List Char} {x : Float} (ok : flat s = .ok x) : Binary64.isFinite x = true := by
  unfold flat at ok
  split at ok
  · exact isFinite_number ok
  · obtain ⟨y, -, ok⟩ := of_bind_ok ok
    obtain ⟨z, -, ok⟩ := of_bind_ok ok
    exact isFinite_combine ok

/-! ## Written values -/

/-- The text written for a finite double is a flat text with this double. -/
theorem flatText_formatNumber {x : Float} (finite : Binary64.isFinite x) :
    FlatText .atom (formatNumber x) (.ok (unsignedZero x)) := by
  obtain ⟨u, text, -⟩ := formatNumber_eq finite
  have literal := FlatText.literal (Binary64.isNegative x && Binary64.units x != 0) u
  rwa [← text, number_formatNumber finite] at literal

theorem flatText_constant {bits : Nat} (small : bits < Binary64.infinityFields) (negative : Bool) :
    FlatText .atom (Binary64.withSign negative (formatNumber (Binary64.ofFields false bits)))
      (.ok (Binary64.ofFields negative bits)) := by
  have finite : Binary64.isFinite (Binary64.ofFields false bits) = true := by
    rw [Binary64.isFinite_iff, Binary64.fieldBits_ofFields small]
    exact small
  obtain ⟨u, text, value⟩ := formatNumber_eq finite
  have literal := FlatText.literal negative u
  rw [number_text finite value, Binary64.fieldBits_ofFields small] at literal
  rw [text, Binary64.isNegative_ofFields small]
  exact literal

theorem flatText_literal (negative : Bool) (l : Literal) :
    FlatText .atom (Binary64.withSign negative l.text) (l.value negative) := by
  cases l with
  | number u => exact .literal negative u
  | pi =>
    have small : circleFields < Binary64.infinityFields := by decide
    exact flatText_constant small negative
  | euler =>
    have small : eulerFields < Binary64.infinityFields := by decide
    exact flatText_constant small negative

/-! ## Dissolving -/

/-- The text of an expression after its groups are dissolved, from right to left. -/
def Tree.dissolved {level : Level} : Tree level → Except Fault (List Char)
  | .literal negative l => .ok (Binary64.withSign negative l.text)
  | .group inner => do
    let text ← inner.dissolved
    let x ← flat text
    .ok (formatNumber x)
  | .call f inner => do
    let text ← inner.dissolved
    let x ← flat text
    let y ← f.apply x
    .ok (formatNumber y)
  | .lift operand => operand.dissolved
  | .chain op left right => do
    let last ← right.dissolved
    let first ← left.dissolved
    .ok (first ++ op.char :: last)

/-- Dissolving keeps the value of an expression: the text that is left is flat and has it. -/
theorem Tree.flatText_of_dissolved {level : Level} {t : Tree level} {text : List Char} (ok : t.dissolved = .ok text) :
    FlatText level text t.eval := by
  induction t generalizing text with
  | literal negative l =>
    cases ok
    exact flatText_literal negative l
  | group inner ih =>
    obtain ⟨body, dissolved, ok⟩ := of_bind_ok ok
    obtain ⟨x, value, ok⟩ := of_bind_ok ok
    cases ok
    rw [eval, ← (ih dissolved).flat_eq, value]
    exact flatText_formatNumber (isFinite_flat value)
  | call f inner ih =>
    obtain ⟨body, dissolved, ok⟩ := of_bind_ok ok
    obtain ⟨x, value, ok⟩ := of_bind_ok ok
    obtain ⟨y, applied, ok⟩ := of_bind_ok ok
    cases ok
    have result : eval (.call f inner) = .ok (unsignedZero y) := by
      rw [eval, ← (ih dissolved).flat_eq, value]
      exact congrArg (Except.map unsignedZero) applied
    rw [result]
    exact flatText_formatNumber (isFinite_apply applied)
  | lift operand ih => exact .lift (ih ok)
  | chain op left right left_ih right_ih =>
    obtain ⟨last, right_ok, ok⟩ := of_bind_ok ok
    obtain ⟨first, left_ok, ok⟩ := of_bind_ok ok
    cases ok
    exact .chain op (left_ih left_ok) (right_ih right_ok)

/-- Where dissolving fails, the expression has no value. -/
theorem Tree.eval_of_not_dissolved {level : Level} {t : Tree level} {fault : Fault} (failed : t.dissolved = .error fault) :
    ∃ fault, t.eval = .error fault := by
  induction t generalizing fault with
  | literal negative l => cases failed
  | group inner ih =>
    rcases of_bind_error failed with inner_failed | ⟨body, dissolved, failed⟩
    · obtain ⟨fault, none⟩ := ih inner_failed
      exact ⟨fault, by rw [eval, none]; rfl⟩
    · rcases of_bind_error failed with none | ⟨x, -, failed⟩
      · exact ⟨fault, by rw [eval, ← (flatText_of_dissolved dissolved).flat_eq, none]; rfl⟩
      · cases failed
  | call f inner ih =>
    rcases of_bind_error failed with inner_failed | ⟨body, dissolved, failed⟩
    · obtain ⟨fault, none⟩ := ih inner_failed
      exact ⟨fault, by rw [eval, none]; rfl⟩
    · have value := (flatText_of_dissolved dissolved).flat_eq
      rcases of_bind_error failed with none | ⟨x, some, failed⟩
      · exact ⟨fault, by rw [eval, ← value, none]; rfl⟩
      · rcases of_bind_error failed with refused | ⟨y, -, failed⟩
        · refine ⟨fault, ?_⟩
          rw [eval, ← value, some]
          exact congrArg (Except.map unsignedZero) refused
        · cases failed
  | lift operand ih => exact ih failed
  | chain op left right left_ih right_ih =>
    rcases of_bind_error failed with right_failed | ⟨last, -, failed⟩
    · obtain ⟨fault, none⟩ := right_ih right_failed
      cases first : left.eval with
      | error fault => exact ⟨fault, by rw [eval, first]; rfl⟩
      | ok x => exact ⟨fault, by rw [eval, first, none]; rfl⟩
    · rcases of_bind_error failed with left_failed | ⟨first, -, failed⟩
      · obtain ⟨fault, none⟩ := left_ih left_failed
        exact ⟨fault, by rw [eval, none]; rfl⟩
      · cases failed

/-! ## Splicing -/

theorem FlatText.plain {level : Level} {text : List Char} {value : Except Fault Float}
    (flat : FlatText level text value) : ∀ c ∈ text, isPlain c = true := by
  induction flat with
  | literal negative u => exact isPlain_withSign u negative
  | lift operand ih => exact ih
  | chain op first last first_ih last_ih =>
    intro c mem
    rcases List.mem_append.1 mem with front | back
    · exact first_ih c front
    · rcases List.mem_cons.1 back with rfl | back
      · exact isPlain_iff.2 (.inr (.inr ⟨op, rfl⟩))
      · exact last_ih c back

/-- Where an expression can stand, seen from the text before it (last character first). -/
def Opens (before : List Char) : Prop := ∀ c ∈ before.head?, c = '(' ∨ ∃ op : Operator, c = op.char

theorem functionBefore?_of_opens {before : List Char} (opens : Opens before) : functionBefore? before = none := by
  rw [functionBefore?, List.findSome?_eq_none_iff]
  intro f _
  cases before with
  | nil => cases f <;> rfl
  | cons c before =>
    rcases opens c rfl with rfl | ⟨op, rfl⟩
    · cases f <;> rfl
    · cases f <;> cases op <;> rfl

theorem functionBefore?_name (f : Function) (before : List Char) :
    functionBefore? (f.name.reverse ++ before) = some (f, before) := by
  cases f <;> rfl

theorem dissolve_other {c : Char} (other : c ≠ '(') (before after : List Char) :
    dissolve (c :: before) after = dissolve before (c :: after) := by
  rw [dissolve, if_neg other]

theorem dissolve_pass {s : List Char} (none : '(' ∉ s) (before after : List Char) :
    dissolve (s.reverse ++ before) after = dissolve before (s ++ after) := by
  induction s generalizing before with
  | nil => rfl
  | cons c s ih =>
    have other : c ≠ '(' := by
      rintro rfl
      exact none (List.mem_cons_self ..)
    rw [List.reverse_cons, List.append_assoc, ih (fun mem => none (List.mem_cons_of_mem _ mem)),
      List.singleton_append, dissolve_other other, List.cons_append]

/-- An open parenthesis before a flat text and a close parenthesis. -/
theorem dissolve_open {text : List Char} (plain : ∀ c ∈ text, isPlain c = true) (before after : List Char) :
    dissolve ('(' :: before) (text ++ ')' :: after) = (flat text >>= fun x =>
      match functionBefore? before with
      | none => dissolve before (formatNumber x ++ after)
      | some (f, before') => f.apply x >>= fun y => dissolve before' (formatNumber y ++ after)) := by
  have inside : ∀ c ∈ text, (c != ')') = true := by
    intro c mem
    rw [bne_iff_ne]
    rintro rfl
    exact not_mem_of_plain plain (by decide) mem
  have span : (text ++ ')' :: after).dropWhile (· != ')') = ')' :: after ∧
      (text ++ ')' :: after).takeWhile (· != ')') = text := by
    rw [List.dropWhile_append_of_pos inside, List.takeWhile_append_of_pos inside]
    simp
  rw [dissolve, if_pos rfl, span.1, span.2]
  simp only [group, prepare_plain plain]
  congr 1
  funext x
  split
  · next found => rw [found]
  · next f before' found => rw [found]

theorem opens_parenthesis (before : List Char) : Opens ('(' :: before) := by
  intro c head
  exact .inl (by simpa using head.symm)

theorem opens_char (op : Operator) (before : List Char) : Opens (op.char :: before) := by
  intro c head
  exact .inr ⟨op, by simpa using head.symm⟩

theorem char_ne_parenthesis (op : Operator) : op.char ≠ '(' := by
  cases op <;> decide

/-- Dissolving the text of an expression puts its dissolved text in its place. -/
theorem Tree.dissolve_text {level : Level} (t : Tree level) {before : List Char} (opens : Opens before)
    (after : List Char) :
    dissolve (t.text.reverse ++ before) after = (t.dissolved >>= fun text => dissolve before (text ++ after)) := by
  induction t generalizing before after with
  | literal negative l =>
    have plain := (flatText_literal negative l).plain
    exact dissolve_pass (not_mem_of_plain plain (by decide)) before after
  | group inner ih =>
    have form : (text (.group inner)).reverse ++ before = ')' :: (inner.text.reverse ++ '(' :: before) := by
      simp [text]
    rw [form, dissolve_other (by decide), ih (opens_parenthesis before), dissolved]
    cases body : inner.dissolved with
    | error fault => rfl
    | ok text =>
      have opened := dissolve_open (flatText_of_dissolved body).plain before after
      rw [functionBefore?_of_opens opens] at opened
      refine opened.trans ?_
      cases value : flat text with
      | error fault => simp [value, bind, Except.bind]
      | ok x => simp [value, bind, Except.bind]
  | call f inner ih =>
    have form : (text (.call f inner)).reverse ++ before =
        ')' :: (inner.text.reverse ++ '(' :: (f.name.reverse ++ before)) := by
      simp [text]
    rw [form, dissolve_other (by decide), ih (opens_parenthesis _), dissolved]
    cases body : inner.dissolved with
    | error fault => rfl
    | ok text =>
      have opened := dissolve_open (flatText_of_dissolved body).plain (f.name.reverse ++ before) after
      rw [functionBefore?_name] at opened
      refine opened.trans ?_
      cases value : flat text with
      | error fault => simp [value, bind, Except.bind]
      | ok x => cases applied : f.apply x <;> simp [value, applied, bind, Except.bind]
  | lift operand ih => exact ih opens after
  | chain op left right left_ih right_ih =>
    -- The right operand is dissolved first: what stands before it is the operator.
    have form : (text (.chain op left right)).reverse ++ before =
        right.text.reverse ++ op.char :: (left.text.reverse ++ before) := by
      simp [text]
    rw [form, right_ih (opens_char op _), dissolved]
    cases right_text : right.dissolved with
    | error fault => rfl
    | ok last =>
      have passed := dissolve_other (char_ne_parenthesis op) (left.text.reverse ++ before) (last ++ after)
      rw [left_ih opens] at passed
      refine passed.trans ?_
      cases left.dissolved <;> simp [bind, Except.bind]

theorem dissolve_nil {text : List Char} (plain : ∀ c ∈ text, isPlain c = true) : dissolve [] text = flat text := by
  rw [dissolve, if_neg]
  simpa using not_mem_of_plain plain (show isPlain ')' = false by decide)

/-- A plain text is evaluated as it stands. -/
theorem evaluate_plain {text : List Char} (plain : ∀ c ∈ text, isPlain c = true) : evaluate text = flat text := by
  have passed := dissolve_pass (not_mem_of_plain plain (by decide)) [] []
  rw [List.append_nil, List.append_nil] at passed
  rw [evaluate, prepare_plain plain, passed, dissolve_nil plain]

/-- Evaluating a text that spells an expression dissolves its groups and evaluates what is left. -/
theorem evaluate_spelled {t : Tree (.chain .sum)} {s : List Char} (spelled : Spelled s t.tokens) :
    evaluate s = (t.dissolved >>= fun text => flat text) := by
  have nothing : Opens [] := by simp [Opens]
  have whole := t.dissolve_text nothing []
  rw [List.append_nil] at whole
  rw [evaluate, Tree.prepare_eq_text spelled, whole]
  cases body : t.dissolved with
  | error fault => rfl
  | ok text =>
    have plain := (Tree.flatText_of_dissolved body).plain
    change dissolve [] (text ++ []) = flat text
    rw [List.append_nil, dissolve_nil plain]

/-- A text that spells an expression evaluates to the value of the expression, and fails with an evaluation
failure if some node of the expression has no value. -/
theorem evaluate_eq_eval {t : Tree (.chain .sum)} {s : List Char} (spelled : Spelled s t.tokens) :
    (∀ x, evaluate s = .ok x ↔ t.eval = .ok x) ∧
      ∀ {level : Level} {node : Tree level} {fault : Fault}, node.Node t → node.eval = .error fault →
        ∃ fault, evaluate s = .error fault ∧ FailureKind.evaluation ∈ fault.kind.lineage := by
  have kind (fault : Fault) : FailureKind.evaluation ∈ fault.kind.lineage := by
    cases fault <;> simp [Fault.kind, FailureKind.lineage]
  rw [evaluate_spelled spelled]
  cases body : t.dissolved with
  | error fault =>
    obtain ⟨fault', none⟩ := Tree.eval_of_not_dissolved body
    refine ⟨?_, fun _ _ => ⟨fault, rfl, kind fault⟩⟩
    intro x
    rw [none]
    refine ⟨?_, ?_⟩
    · intro ok
      cases ok
    · intro ok
      cases ok
  | ok text =>
    have value : flat text = t.eval := (Tree.flatText_of_dissolved body).flat_eq
    refine ⟨fun x => by rw [← value]; rfl, ?_⟩
    intro level node fault within failed
    obtain ⟨fault, none⟩ := within.eval_error failed
    exact ⟨fault, value.trans none, kind fault⟩

/-- A number of one digit. -/
def Unsigned.ofDigit (c : Char) (digit : Text.isDigit c = true) : Unsigned := ⟨[c], none, by simpa using digit, by simp⟩

/-- A number of one digit, as a product. -/
def Tree.digit (c : Char) (digit : Text.isDigit c = true) : Tree (.chain .product) :=
  .lift (.lift (.literal false (.number (.ofDigit c digit))))

/-- The difference of `e` and `e*(1-2)`. -/
def differences : Tree (.chain .sum) :=
  .chain .sub (.lift (.lift (.lift (.literal false .euler))))
    (.chain .mul (.lift (.lift (.literal false .euler)))
      (.lift (.group (.chain .sub (.lift (.digit '1' (by decide))) (.digit '2' (by decide))))))

/-- The quotient of one and zero. -/
def quotient : Tree (.chain .product) :=
  .chain .div (.digit '1' (by decide)) (.lift (.literal false (.number (.ofDigit '0' (by decide)))))

/-- That quotient in a group. -/
def grouped : Tree (.chain .sum) := .lift (.lift (.lift (.group (.lift quotient))))

theorem evaluate_eq_eval_of_samples :
    Spelled ['E', ' ', '-', 'e', '*', '(', '1', '-', ' ', '2', ')'] differences.tokens ∧
      evaluate ['E', ' ', '-', 'e', '*', '(', '1', '-', ' ', '2', ')'] = .ok (Float.ofBits 0x4015BF0A8B145769) ∧
      Spelled ['(', '1', '/', '0', ')'] grouped.tokens ∧
      ∃ fault, evaluate ['(', '1', '/', '0', ')'] = .error fault ∧ FailureKind.evaluation ∈ fault.kind.lineage := by
  have spelled : Spelled ['E', ' ', '-', 'e', '*', '(', '1', '-', ' ', '2', ')'] differences.tokens :=
    @Spelled.ofPieces [([], ['E']), ([' '], ['-']), ([], ['e']), ([], ['*']), ([], ['(']), ([], ['1']), ([], ['-']),
      ([' '], ['2']), ([], [')'])] (by simp [Text.isBlank_space])
  have spelled' : Spelled ['(', '1', '/', '0', ')'] grouped.tokens :=
    @Spelled.ofPieces [([], ['(']), ([], ['1']), ([], ['/']), ([], ['0']), ([], [')'])] (by simp)
  have within : quotient.Node grouped := .lift (.lift (.lift (.group (.lift (.root quotient)))))
  have failed : quotient.eval = .error .divisionByZero := by decide +kernel
  refine ⟨spelled, ((evaluate_eq_eval spelled).1 _).2 ?_, spelled', (evaluate_eq_eval spelled').2 within failed⟩
  decide +kernel

end ChatService.Calculator
