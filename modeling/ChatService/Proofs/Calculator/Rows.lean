import ChatService.Proofs.Calculator.Splicing

/-!
# Rows of numbers

The texts without groups that have a value: numbers with at most one minus sign each, and one operator
between neighbours. Such a row has exactly one tree, where powers bind tightest, sums loosest and every
chain folds to the left, and its value is that of the tree. No other text has a value.
-/

namespace ChatService.Calculator

/-- Numbers in a row with an operator between neighbours, each with at most one minus sign in front. -/
inductive Row : List Char → Prop
  | operand (negative : Bool) (u : Unsigned) : Row (Binary64.withSign negative u.text)
  | more {row : List Char} (earlier : Row row) (op : Operator) (negative : Bool) (u : Unsigned) :
      Row (row ++ op.char :: Binary64.withSign negative u.text)

/-- Whether an expression is made of numbers alone, without constants, groups and calls. -/
def Tree.Flat {level : Level} : Tree level → Prop
  | literal _ (.number _) => True
  | literal _ .pi | literal _ .euler | group _ | call _ _ => False
  | lift operand => operand.Flat
  | chain _ left right => left.Flat ∧ right.Flat

theorem Tree.Flat.flatText {level : Level} {t : Tree level} (flat : t.Flat) : FlatText level t.text t.eval := by
  induction t with
  | literal negative l =>
    cases l with
    | number u => exact .literal negative u
    | pi | euler => cases flat
  | group inner | call f inner => cases flat
  | lift operand ih => exact .lift (ih flat)
  | chain op left right left_ih right_ih => exact .chain op (left_ih flat.1) (right_ih flat.2)

/-! ## Trees of rows -/

theorem Row.join {s t : List Char} (first : Row s) (last : Row t) (op : Operator) : Row (s ++ op.char :: t) := by
  induction last with
  | operand negative u => exact .more first op negative u
  | more earlier op' negative u ih =>
    rw [← List.cons_append, ← List.append_assoc]
    exact .more ih op' negative u

theorem Tree.Flat.row {level : Level} {t : Tree level} (flat : t.Flat) : Row t.text := by
  induction t with
  | literal negative l =>
    cases l with
    | number u => exact .operand negative u
    | pi | euler => cases flat
  | group inner | call f inner => cases flat
  | lift operand ih => exact ih flat
  | chain op left right left_ih right_ih => exact (left_ih flat.1).join (right_ih flat.2) op

/-- Whether a text is that of a flat expression of some level. -/
def Derives (level : Level) (s : List Char) : Prop := ∃ t : Tree level, t.Flat ∧ t.text = s

theorem Derives.lift {tier : Operator.Tier} {s : List Char} (operand : Derives tier.operand s) :
    Derives (.chain tier) s := by
  obtain ⟨t, flat, rfl⟩ := operand
  exact ⟨.lift t, flat, rfl⟩

theorem Derives.chain (op : Operator) {s s' : List Char} (first : Derives (.chain op.tier) s)
    (last : Derives op.tier.operand s') : Derives (.chain op.tier) (s ++ op.char :: s') := by
  obtain ⟨t, flat, rfl⟩ := first
  obtain ⟨t', flat', rfl⟩ := last
  exact ⟨.chain op t t', ⟨flat, flat'⟩, rfl⟩

theorem Derives.operand (level : Level) (negative : Bool) (u : Unsigned) :
    Derives level (Binary64.withSign negative u.text) := by
  have atom : Derives .atom (Binary64.withSign negative u.text) := ⟨.literal negative (.number u), trivial, rfl⟩
  have power : Derives (.chain .power) (Binary64.withSign negative u.text) := .lift atom
  have product : Derives (.chain .product) (Binary64.withSign negative u.text) := .lift power
  cases level with
  | atom => exact atom
  | chain tier =>
    cases tier with
    | sum => exact .lift product
    | product => exact product
    | power => exact power

theorem rank_injective {tier tier' : Operator.Tier} (same : tier.rank = tier'.rank) : tier = tier' := by
  cases tier <;> cases tier' <;> first | rfl | cases same

/-- The operands of a chain whose operators are looser than some operator are chains themselves. -/
theorem operand_of_looser {tier tier' : Operator.Tier} (looser : tier.rank < tier'.rank) :
    ∃ next, tier.operand = .chain next ∧ next.rank ≤ tier'.rank := by
  cases tier with
  | sum => exact ⟨.product, rfl, looser⟩
  | product => exact ⟨.power, rfl, looser⟩
  | power => cases tier' <;> cases looser <;> contradiction

/-- One more operand at the end of an expression goes into its last operand, as long as this binds tighter. -/
theorem Tree.Flat.extend {level : Level} {t : Tree level} (flat : t.Flat) {tier : Operator.Tier} (chain : level = .chain tier)
    (op : Operator) (tight : tier.rank ≤ op.tier.rank) (negative : Bool) (u : Unsigned) :
    Derives level (t.text ++ op.char :: Binary64.withSign negative u.text) := by
  -- An operator of the same tier lengthens the chain. A tighter one goes into the last operand.
  induction t generalizing tier with
  | literal _ _ | group _ | call _ _ => cases chain
  | @lift tier' operand ih =>
    cases chain
    by_cases same : tier' = op.tier
    · subst same
      exact .chain op ⟨.lift operand, flat, rfl⟩ (.operand _ negative u)
    · obtain ⟨next, form, tight⟩ := operand_of_looser (lt_of_le_of_ne tight fun ranks => same (rank_injective ranks))
      exact .lift (ih flat form tight)
  | chain op' left right _ ih =>
    cases chain
    by_cases same : op'.tier = op.tier
    · have whole : Derives (.chain op'.tier) (Tree.chain op' left right).text := ⟨_, flat, rfl⟩
      generalize (Tree.chain op' left right).text = s at whole ⊢
      rw [same] at whole ⊢
      exact .chain op whole (.operand _ negative u)
    · obtain ⟨next, form, tight⟩ := operand_of_looser (lt_of_le_of_ne tight fun ranks => same (rank_injective ranks))
      have longer := Derives.chain op' ⟨left, flat.1, rfl⟩ (ih flat.2 form tight)
      rwa [← List.cons_append, ← List.append_assoc] at longer

theorem Row.derives {s : List Char} (row : Row s) : Derives (.chain .sum) s := by
  induction row with
  | operand negative u => exact .operand _ negative u
  | more earlier op negative u ih =>
    obtain ⟨t, flat, rfl⟩ := ih
    exact flat.extend rfl op (Nat.zero_le _) negative u

/-! ## One tree for each row -/

theorem Unsigned.withSign_injective {negative negative' : Bool} {u u' : Unsigned}
    (same : Binary64.withSign negative u.text = Binary64.withSign negative' u'.text) : negative = negative' ∧ u = u' := by
  have read := parse?_text u negative
  rw [same, parse?_text u' negative', Option.some.injEq] at read
  obtain ⟨rfl, wholes, digits⟩ := Numeral.mk.injEq .. ▸ read
  have texts : u.text = u'.text := by
    cases negative' with
    | false => exact same
    | true => exact List.tail_eq_of_cons_eq same
  obtain ⟨whole, places, _, _⟩ := u
  obtain ⟨whole', places', _, _⟩ := u'
  subst wholes
  refine ⟨rfl, ?_⟩
  cases places <;> cases places' <;> simp_all [text]

/-- A chain is its only operand, or ends with an operator of its tier. -/
theorem Tree.chain_cases {tier : Operator.Tier} (t : Tree (.chain tier)) :
    (∃ operand, t = .lift operand) ∨
      ∃ (op : Operator) (left : Tree (.chain op.tier)) (right : Tree op.tier.operand) (own : op.tier = tier),
        t = own ▸ .chain op left right := by
  cases t with
  | lift operand => exact .inl ⟨operand, rfl⟩
  | chain op left right => exact .inr ⟨op, left, right, rfl, rfl⟩

theorem Tree.text_cast {tier tier' : Operator.Tier} (same : tier = tier') (t : Tree (.chain tier)) :
    (same ▸ t : Tree (.chain tier')).text = t.text := by
  subst same
  rfl

theorem Tree.flat_cast {tier tier' : Operator.Tier} (same : tier = tier') (t : Tree (.chain tier)) :
    (same ▸ t : Tree (.chain tier')).Flat ↔ t.Flat := by
  subst same
  rfl

/-- The operand of a chain is not a chain of the same tier. -/
theorem Tree.Flat.ne_chain {op : Operator} {operand : Tree op.tier.operand} {left : Tree (.chain op.tier)}
    {right : Tree op.tier.operand} (flat : operand.Flat) (flat' : (Tree.chain op left right).Flat) :
    operand.text ≠ (Tree.chain op left right).text := by
  intro same
  have tighter : op.tier.rank < op.tier.operand.rank := by
    rw [rank_operand]
    exact Nat.lt_succ_self _
  have unsplit := flat.flatText.unsplit tighter
  have splits := FlatText.splits op flat'.1.flatText flat'.2.flatText
  rw [same] at unsplit
  cases unsplit.symm.trans splits

theorem Tree.Flat.unique {level : Level} {t t' : Tree level} (flat : t.Flat) (flat' : t'.Flat) (same : t.text = t'.text) :
    t = t' := by
  induction t with
  | literal negative l =>
    cases t' with
    | literal negative' l' =>
      cases l with
      | number u =>
        cases l' with
        | number u' =>
          obtain ⟨rfl, rfl⟩ := Unsigned.withSign_injective same
          rfl
        | pi | euler => cases flat'
      | pi | euler => cases flat
    | group inner | call f inner => cases flat'
  | group inner | call f inner => cases flat
  | lift operand ih =>
    obtain ⟨operand', rfl⟩ | ⟨op, left, right, rfl, rfl⟩ := t'.chain_cases
    · rw [ih flat flat' same]
    · exact absurd same (Tree.Flat.ne_chain flat flat')
  | chain op left right left_ih right_ih =>
    obtain ⟨operand', rfl⟩ | ⟨op', left', right', own, rfl⟩ := t'.chain_cases
    · exact absurd same.symm (Tree.Flat.ne_chain flat' flat)
    · rw [text_cast] at same
      rw [flat_cast] at flat'
      have splits := FlatText.split?_chain op flat.1.flatText flat.2.flatText
      have splits' := FlatText.split?_chain op' flat'.1.flatText flat'.2.flatText
      change (left.text ++ op.char :: right.text) = (left'.text ++ op'.char :: right'.text) at same
      rw [← same, splits, Option.some.injEq, Split.mk.injEq] at splits'
      obtain ⟨lefts, rfl, rights⟩ := splits'
      rw [left_ih flat.1 flat'.1 lefts, right_ih flat.2 flat'.2 rights]

/-! ## Nothing else has a value -/

/-- What is read as a number is written as one, behind at most one sign. -/
theorem Numeral.of_parse? {s : List Char} {n : Numeral} (parsed : Numeral.parse? s = some n) :
    ∃ (negative : Bool) (u : Unsigned), s = Binary64.withSign negative u.text ∨ s = '+' :: u.text := by
  unfold Numeral.parse? at parsed
  split at parsed
  next negative body taken =>
  have digits : ∀ c ∈ body.takeWhile Text.isDigit, Text.isDigit c = true :=
    List.all_eq_true.1 List.all_takeWhile
  have parts := List.takeWhile_append_dropWhile (p := Text.isDigit) (l := body)
  have unsigned : ∃ u : Unsigned, body = u.text := by
    generalize body.takeWhile Text.isDigit = whole at parsed digits parts
    rw [← parts]
    simp only at parsed
    split at parsed
    · next rest =>
      split at parsed
      · cases parsed
      · next some =>
        rw [rest, List.append_nil]
        exact ⟨⟨whole, none, by simpa using digits, .inl (by simpa using some)⟩, rfl⟩
    · next places rest =>
      split at parsed
      · next fine =>
        simp only [Bool.and_eq_true, List.all_eq_true, Bool.not_eq_true', Bool.and_eq_false_iff, List.isEmpty_eq_false_iff] at fine
        refine ⟨⟨whole, some places, ?_, ?_⟩, by rw [rest, Unsigned.text]⟩
        · intro c mem
          exact (List.mem_append.1 mem).elim (digits c) (fine.1 c)
        · refine fine.2.imp id fun written => ?_
          obtain ⟨c, others, rfl⟩ := List.exists_cons_of_ne_nil written
          exact ⟨c, others, rfl⟩
      · cases parsed
    · cases parsed
  obtain ⟨u, rfl⟩ := unsigned
  split at taken <;> cases taken
  · exact ⟨true, u, .inl rfl⟩
  · exact ⟨false, u, .inr rfl⟩
  · exact ⟨false, u, .inl rfl⟩

theorem splitBackwards_eq {tier : Operator.Tier} {before right : List Char} {cut : Split}
    (found : splitBackwards tier before right = some cut) :
    before.reverse ++ right = cut.left ++ cut.operator.char :: cut.right := by
  induction before generalizing right with
  | nil => cases found
  | cons c before ih =>
    rw [splitBackwards] at found
    split at found
    · next op splits =>
      cases found
      unfold splitter? at splits
      split at splits
      · next op' kind =>
        split at splits
        · cases splits
          rw [List.reverse_cons, List.append_assoc, Operator.eq_char_of_ofChar? kind]
          rfl
        · cases splits
      · cases splits
    · rw [List.reverse_cons, List.append_assoc, List.singleton_append]
      exact ih found

theorem split?_eq {s : List Char} {cut : Split} (found : split? s = some cut) :
    s = cut.left ++ cut.operator.char :: cut.right := by
  obtain ⟨tier, _, found⟩ := List.exists_of_findSome?_eq_some found
  have whole := splitBackwards_eq found
  rwa [List.reverse_reverse, List.append_nil] at whole

/-- A plus sign always splits a text, also at its start. -/
theorem splitBackwards_plus (before right : List Char) : splitBackwards .sum (before ++ ['+']) right ≠ none := by
  induction before generalizing right with
  | nil => simp [splitBackwards, splitter?, Operator.ofChar?, Operator.tier]
  | cons c before ih =>
    rw [List.cons_append, splitBackwards]
    split
    · simp
    · exact ih (c :: right)

theorem split?_plus (s : List Char) : split? ('+' :: s) ≠ none := by
  intro none
  have first := List.findSome?_eq_none_iff.1 none .sum (List.mem_cons_self ..)
  rw [List.reverse_cons] at first
  exact splitBackwards_plus s.reverse [] first

/-- Whatever has a value is a row. -/
theorem row_of_flat {s : List Char} {x : Float} (ok : flat s = .ok x) : Row s := by
  fun_induction flat s generalizing x with
  | case1 s unsplit =>
    unfold number at ok
    split at ok
    · cases ok
    · next n parsed =>
      obtain ⟨negative, u, rfl | rfl⟩ := Numeral.of_parse? parsed
      · exact .operand negative u
      · exact absurd unsplit (split?_plus u.text)
  | case2 s cut found left_ih right_ih =>
    obtain ⟨y, left, ok⟩ := of_bind_ok ok
    obtain ⟨z, right, -⟩ := of_bind_ok ok
    rw [split?_eq found]
    exact (left_ih left).join (right_ih right) cut.operator

/-! ## Why a text has no value -/

theorem finite_eq_error_iff {fault fault' : Fault} {x : Float} :
    finite fault x = .error fault' ↔ Binary64.isFinite x = false ∧ fault = fault' := by
  unfold finite
  split <;> simp_all

theorem fault_of_combine {op : Operator} {x y : Float} {fault : Fault} (failed : op.combine x y = .error fault) :
    fault = .divisionByZero ∨ fault = .resultTooLarge ∨ fault = .outsideDomain := by
  cases op with
  | add | sub | mul => exact .inr (.inl (finite_eq_error_iff.1 failed).2.symm)
  | div =>
    rw [Operator.combine] at failed
    split at failed
    · cases failed
      exact .inl rfl
    · exact .inr (.inl (finite_eq_error_iff.1 failed).2.symm)
  | pow =>
    simp only [Operator.combine, power] at failed
    split at failed
    · cases failed
      exact .inr (.inr rfl)
    · split at failed
      · cases failed
        exact .inr (.inr rfl)
      · exact .inr (.inl (finite_eq_error_iff.1 failed).2.symm)

/-- A row has a value, or an operation on numbers has none. -/
theorem FlatText.not_syntax {level : Level} {text : List Char} {value : Except Fault Float}
    (flat : FlatText level text value) {fault : Fault} (failed : value = .error fault) :
    fault.kind ≠ .expressionSyntax := by
  induction flat generalizing fault with
  | literal negative u =>
    simp only [number, u.parse?_text negative] at failed
    obtain ⟨-, rfl⟩ := finite_eq_error_iff.1 failed
    simp [Fault.kind]
  | lift operand ih => exact ih failed
  | chain op first last first_ih last_ih =>
    rcases of_bind_error failed with failed | ⟨x, -, failed⟩
    · exact first_ih failed
    · rcases of_bind_error failed with failed | ⟨y, -, failed⟩
      · exact last_ih failed
      · rcases fault_of_combine failed with rfl | rfl | rfl <;> decide

/-- The texts that have a value when they have no groups are rows. A row has one tree, and has the value of this tree.
If it has no value, that is for no reason of syntax. -/
theorem rows_alone_have_values (t : List Char) :
    (Row t →
      (∃! tree : Tree (.chain .sum), tree.Flat ∧ tree.text = t) ∧
        (∀ tree : Tree (.chain .sum), tree.Flat → tree.text = t → ∀ v, flat t = .ok v ↔ tree.eval = .ok v) ∧
        ∀ fault, flat t = .error fault → fault.kind ≠ .expressionSyntax) ∧
      (¬ Row t → ∀ v, flat t ≠ .ok v) := by
  refine ⟨fun row => ?_, fun other v ok => other (row_of_flat ok)⟩
  obtain ⟨tree, isFlat, rfl⟩ := row.derives
  have value {tree' : Tree (.chain .sum)} (isFlat' : tree'.Flat) : flat tree'.text = tree'.eval := isFlat'.flatText.flat_eq
  refine ⟨⟨tree, ⟨isFlat, rfl⟩, fun tree' same => same.1.unique isFlat same.2⟩, ?_, ?_⟩
  · intro tree' isFlat' same v
    rw [← same, value isFlat']
  · intro fault failed
    rw [value isFlat] at failed
    exact isFlat.flatText.not_syntax failed

/-- One half, without a digit before the point. -/
def Unsigned.half : Unsigned := ⟨[], some ['5'], by simpa using (show Text.isDigit '5' = true by decide), .inr ⟨'5', [], rfl⟩⟩

/-- Two negative numbers, one behind each kind of minus sign. -/
def signs : Tree (.chain .sum) :=
  .chain .sub
    (.lift (.chain .mul (.lift (.lift (.literal true (.number (.ofDigit '4' (by decide))))))
      (.lift (.literal false (.number (.ofDigit '3' (by decide)))))))
    (.lift (.lift (.literal true (.number .half))))

theorem rows_alone_have_values_of_signs :
    Row ['-', '4', '*', '3', '-', '-', '.', '5'] ∧
      flat ['-', '4', '*', '3', '-', '-', '.', '5'] = .ok (Float.ofBits 0xC027000000000000) ∧
      ¬ Row ['2', '*', '-', '-', '3'] ∧ ∀ v, flat ['2', '*', '-', '-', '3'] ≠ .ok v := by
  have isFlat : signs.Flat := ⟨⟨trivial, trivial⟩, trivial⟩
  have row : Row ['-', '4', '*', '3', '-', '-', '.', '5'] := isFlat.row
  have other : ¬ Row ['2', '*', '-', '-', '3'] := by
    intro row
    have refused : flat ['2', '*', '-', '-', '3'] = .error (.notNumber "--3") := by decide +kernel
    exact ((rows_alone_have_values _).1 row).2.2 _ refused rfl
  refine ⟨row, (((rows_alone_have_values _).1 row).2.1 signs isFlat rfl _).2 ?_, other, (rows_alone_have_values _).2 other⟩
  decide +kernel

end ChatService.Calculator
