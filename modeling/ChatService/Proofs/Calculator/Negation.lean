import ChatService.Proofs.Calculator.Dissolving
import ChatService.Proofs.Decimal.Sign

/-!
# A minus sign before a group

A text in parentheses is evaluated as it is alone, wherever it stands behind another parenthesis. The
minus sign before such a group turns the sign of a value round that is not negative. A negative value
brings a sign of its own, and two signs in a row are not read as a number.
-/

namespace ChatService.Calculator

/-- A text in parentheses with a minus sign in front. -/
def negated (s : List Char) : List Char := '-' :: '(' :: (s ++ [')'])

/-! ## Preparing a group -/

/-- A character that the form of a capital sigma does not look past. -/
def IsBarrier (c : Char) : Prop :=
  Text.Range.anyHolds Text.caseIgnorableRanges c.toNat = false ∧ Text.Range.anyHolds Text.casedRanges c.toNat = false

theorem isBarrier_open : IsBarrier '(' := by
  constructor <;> decide +kernel

theorem isBarrier_close : IsBarrier ')' := by
  constructor <;> decide +kernel

theorem unmet_of_barrier {c : Char} (barrier : IsBarrier c) (t : List Char) : Text.meetsCased (c :: t) = false := by
  simp [Text.meetsCased, barrier.1, barrier.2]

/-- What stands behind a barrier makes no difference to the lower case before it. -/
theorem lowerFrom_before {c : Char} (barrier : IsBarrier c) (before s t : List Char) :
    Text.lowerFrom before (s ++ c :: t) = Text.lowerFrom before s ++ Text.lowerFrom (s.reverse ++ before) (c :: t) := by
  induction s generalizing before with
  | nil => rfl
  | cons d s ih =>
    have step (rest : List Char) : Text.lowerFrom before (d :: rest) =
        (if d = 'Σ' then [Text.lowerSigma before rest] else Text.lowerChar d) ++ Text.lowerFrom (d :: before) rest := rfl
    have form : Text.lowerSigma before (s ++ c :: t) = Text.lowerSigma before s := by
      rw [Text.lowerSigma, Text.meetsCased_append (unmet_of_barrier barrier t), Text.lowerSigma]
    rw [List.cons_append, step, step, form, ih, List.append_assoc, List.reverse_cons, List.append_assoc]
    rfl

theorem lower_negated (s : List Char) : Text.lower (negated s) = negated (Text.lower s) := by
  have inside : Text.lowerFrom ['(', '-'] (s ++ [')']) = Text.lower s ++ [')'] := by
    rw [lowerFrom_before isBarrier_close]
    exact congrArg (· ++ [')']) (Text.lowerFrom_append_of_unmet (unmet_of_barrier isBarrier_open ['-']) [] s)
  exact congrArg (fun t => '-' :: '(' :: t) inside

theorem prepare_negated (s : List Char) : prepare (negated s) = negated (prepare s) := by
  have front (t : List Char) : written ('-' :: '(' :: t) = '-' :: '(' :: written t :=
    written_append (a := ['-', '(']) (.inl (by decide))
  rw [prepare_eq, lower_negated, negated, front, written_append (.inr (by decide))]
  rfl

/-! ## Dissolving behind a parenthesis -/

theorem prefix_behind {name before outside : List Char} {c : Char} (apart : c ∉ name) :
    name <+: before ++ c :: outside ↔ name <+: before := by
  refine ⟨fun starts => ?_, fun starts => starts.trans (List.prefix_append ..)⟩
  obtain ⟨rest, same⟩ := starts
  rcases List.append_eq_append_iff.1 same with ⟨middle, rfl, -⟩ | ⟨middle, rfl, tail⟩
  · exact List.prefix_append ..
  · cases middle with
    | nil => simp
    | cons d middle =>
      cases tail
      simp at apart

theorem functionBefore?_behind (before outside : List Char) :
    functionBefore? (before ++ '(' :: outside) =
      (functionBefore? before).map fun found => (found.1, found.2 ++ '(' :: outside) := by
  rw [functionBefore?, functionBefore?, List.map_findSome?]
  congr 1
  funext f
  have apart : '(' ∉ f.name.reverse := by
    rw [List.mem_reverse]
    exact (name_parenthesis f).1
  have same : f.name.reverse <+: before ++ '(' :: outside ↔ f.name.reverse <+: before := prefix_behind apart
  rw [Function.comp_apply]
  by_cases named : f.name.reverse <+: before
  · have short := named.length_le
    rw [List.length_reverse] at short
    rw [if_pos (List.isPrefixOf_iff_prefix.2 named), if_pos (List.isPrefixOf_iff_prefix.2 (same.2 named)),
      List.drop_append_of_le_length short]
    rfl
  · rw [if_neg fun found => named (List.isPrefixOf_iff_prefix.1 found),
      if_neg fun found => named (same.1 (List.isPrefixOf_iff_prefix.1 found))]
    rfl

theorem splice_behind (before outside : List Char) (x : Float) :
    splice (before ++ '(' :: outside) x = (splice before x).map fun place => (place.1 ++ '(' :: outside, place.2) := by
  unfold splice
  rw [functionBefore?_behind]
  cases functionBefore? before with
  | none => rfl
  | some found =>
    simp only [Option.map_some]
    cases found.1.apply x <;> rfl

/-- A text that has a value is dissolved in the same way behind an open parenthesis. -/
theorem dissolve_behind {before after : List Char} {x : Float} (ok : dissolve before after = .ok x) :
    ∃ text, flat text = .ok x ∧ ∀ outside behind, dissolve (before ++ '(' :: outside) (after ++ ')' :: behind) =
      dissolve ('(' :: outside) (text ++ ')' :: behind) := by
  -- A name has no parenthesis, so no step looks past the open parenthesis before all of the text is dissolved.
  induction before, after using dissolve_induct with
  | last after =>
    rw [dissolve_end] at ok
    split at ok
    · cases ok
    · exact ⟨after, ok, fun _ _ => rfl⟩
  | pass c before after other ih =>
    rw [dissolve_other other] at ok
    obtain ⟨text, value, same⟩ := ih ok
    refine ⟨text, value, fun outside behind => ?_⟩
    rw [List.cons_append, dissolve_other other, ← List.cons_append]
    exact same outside behind
  | unclosed before after opens =>
    rw [dissolve_unclosed opens] at ok
    cases ok
  | closed before inner after opens ih =>
    rw [dissolve_group opens] at ok
    obtain ⟨y, value, ok⟩ := of_bind_ok ok
    obtain ⟨⟨before', put⟩, spliced, ok⟩ := of_bind_ok ok
    obtain ⟨text, result, same⟩ := ih y before' put value spliced ok
    refine ⟨text, result, fun outside behind => ?_⟩
    rw [List.cons_append, List.append_assoc, List.cons_append, dissolve_group opens, value, ← same, List.append_assoc]
    simp only [bind, Except.bind, splice_behind, spliced]
    rfl

/-! ## Two signs -/

theorem plain_of_flat {text : List Char} {x : Float} (ok : flat text = .ok x) : ∀ c ∈ text, isPlain c = true := by
  obtain ⟨t, isFlat, rfl⟩ := (row_of_flat ok).derives
  exact isFlat.flatText.plain

/-- The value of a group with a minus sign in front is that of the minus sign and the number. -/
theorem evaluate_negated {s : List Char} {x : Float} (ok : evaluate s = .ok x) :
    evaluate (negated s) = flat ('-' :: formatNumber x) := by
  obtain ⟨text, value, same⟩ := dissolve_behind ok
  have form : (negated (prepare s)).reverse = ')' :: ((prepare s).reverse ++ '(' :: ['-']) := by
    simp [negated]
  have plain : ∀ c ∈ '-' :: formatNumber x, isPlain c = true :=
    List.forall_mem_cons.2 ⟨isPlain_iff.2 (.inr (.inr ⟨.sub, rfl⟩)), isPlain_formatNumber (isFinite_evaluate ok)⟩
  rw [evaluate, prepare_negated, form, dissolve_other (by decide), ← List.nil_append [')'], same,
    dissolve_open (plain_of_flat value), value]
  change dissolve ['-'] (formatNumber x ++ []) = _
  rw [List.append_nil, dissolve_other (by decide), dissolve_nil plain]

/-- Two minus signs before a number are not a number, and no operator is seen among them. -/
theorem flat_minus_minus (u : Unsigned) :
    flat ('-' :: '-' :: u.text) = .error (.notNumber (String.ofList ('-' :: '-' :: u.text))) := by
  have unsplit : split? ('-' :: '-' :: u.text) = none := by
    rw [split?, List.findSome?_eq_none_iff]
    intro tier _
    have second : splitter? tier '-' ['-'] = none := splitter?_minus tier rfl
    have first : splitter? tier '-' [] = none := splitter?_minus tier rfl
    have passed : splitBackwards tier (u.text.reverse ++ ['-', '-']) [] = splitBackwards tier ['-', '-'] (u.text ++ []) :=
      splitBackwards_pass (fun _ => ofChar?_of_mem_text) _ _
    rw [List.reverse_cons, List.reverse_cons, List.append_assoc, List.singleton_append, passed, splitBackwards, second]
    simp only
    rw [splitBackwards, first]
    rfl
  have unread : Numeral.parse? ('-' :: '-' :: u.text) = none := rfl
  unfold flat
  split
  · rw [number, unread]
  · next cut found => cases unsplit.symm.trans found

/-! ## The sign of a value -/

theorem units_eq_zero_iff (x : Float) : Binary64.units x = 0 ↔ Binary64.fieldBits x = 0 := by
  refine ⟨fieldBits_of_units, fun zero => ?_⟩
  rw [Binary64.units_eq, Binary64.significand_of_lt (by rw [zero]; decide), zero, Nat.zero_mul]

/-- What is written for a value is the value without its sign, behind a minus sign if it is less than zero. -/
theorem formatNumber_sign {x : Float} (finite : Binary64.isFinite x) :
    ∃ u : Unsigned, formatNumber x = Binary64.withSign (decide (x < 0)) u.text ∧
      number ('-' :: u.text) = .ok (Binary64.ofFields true (Binary64.fieldBits x)) := by
  obtain ⟨u, text, value⟩ := formatNumber_eq finite
  have sign : (Binary64.isNegative x && Binary64.units x != 0) = decide (x < 0) := by
    rw [Bool.eq_iff_iff, decide_eq_true_iff, Binary64.lt_zero_iff finite, Bool.and_eq_true, bne_iff_ne, ne_eq,
      units_eq_zero_iff]
  exact ⟨u, sign ▸ text, number_text finite value true⟩

/-- Turning the sign of a value round that is not less than zero gives it a minus sign, but for the sign of zero. -/
theorem unsignedZero_neg {x : Float} (finite : Binary64.isFinite x) (nonnegative : ¬ x < 0) :
    unsignedZero (Binary64.ofFields true (Binary64.fieldBits x)) = unsignedZero (-x) := by
  have small := Binary64.isFinite_iff.1 finite
  rw [Binary64.lt_zero_iff finite, not_and_or, not_not, Bool.not_eq_true] at nonnegative
  rw [Binary64.neg_eq finite]
  rcases nonnegative with positive | zero
  · rw [positive]
    rfl
  · have signed (negative : Bool) : unsignedZero (Binary64.ofFields negative (Binary64.fieldBits x)) = Float.ofBits 0 := by
      refine if_pos ((units_eq_zero_iff _).2 ?_)
      rw [Binary64.fieldBits_ofFields small, zero]
    rw [signed, signed]

/-- A minus sign before a group turns its value round, as long as this is not less than zero. The sign of a negative
value is written behind the minus sign, and both together are not read as the sign of a number. -/
theorem minus_before_group {s : List Char} {x : Float} (ok : evaluate s = .ok x) :
    (¬ x < 0 → ∃ y, evaluate (negated s) = .ok y ∧ unsignedZero y = unsignedZero (-x)) ∧
      (x < 0 → evaluate (negated s) = .error (.notNumber (String.ofList ('-' :: formatNumber x)))) := by
  have finite := isFinite_evaluate ok
  obtain ⟨u, text, value⟩ := formatNumber_sign finite
  rw [evaluate_negated ok]
  refine ⟨fun nonnegative => ?_, fun negative => ?_⟩
  · rw [decide_eq_false nonnegative] at text
    refine ⟨_, ?_, unsignedZero_neg finite nonnegative⟩
    rw [text, ← value]
    exact (FlatText.literal true u).flat_eq
  · rw [decide_eq_true negative] at text
    rw [text]
    exact flat_minus_minus u

/-- The group of 3-0 is turned round, that of 0-3 is not. -/
theorem minus_before_group_of_differences :
    evaluate ['3', '-', '0'] = .ok (Float.ofBits 0x4008000000000000) ∧
      (∃ y, evaluate ['-', '(', '3', '-', '0', ')'] = .ok y ∧ unsignedZero y = Float.ofBits 0xC008000000000000) ∧
      evaluate ['0', '-', '3'] = .ok (Float.ofBits 0xC008000000000000) ∧
      evaluate ['-', '(', '0', '-', '3', ')'] = .error (.notNumber "--3") := by
  have three : evaluate ['3', '-', '0'] = .ok (Float.ofBits 0x4008000000000000) := by decide +kernel
  have minus : evaluate ['0', '-', '3'] = .ok (Float.ofBits 0xC008000000000000) := by decide +kernel
  obtain ⟨y, result, same⟩ := (minus_before_group three).1 (by decide +kernel)
  refine ⟨three, ⟨y, result, same.trans ?_⟩, minus, ((minus_before_group minus).2 ?_).trans ?_⟩
  all_goals decide +kernel

/-- A group of a negative value cannot be turned round. -/
theorem minus_before_group_refused :
    ¬ ∀ (s : List Char) (x : Float), evaluate s = .ok x →
      ∃ y, evaluate (negated s) = .ok y ∧ unsignedZero y = unsignedZero (-x) := by
  intro every
  have minus : evaluate ['0', '-', '3'] = .ok (Float.ofBits 0xC008000000000000) := by decide +kernel
  have refused : evaluate (negated ['0', '-', '3']) = .error (.notNumber "--3") := by decide +kernel
  obtain ⟨y, ok, -⟩ := every _ _ minus
  cases refused.symm.trans ok

end ChatService.Calculator
