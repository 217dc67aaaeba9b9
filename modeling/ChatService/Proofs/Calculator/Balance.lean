import ChatService.Proofs.Calculator.Dissolving
import Mathlib.Combinatorics.Enumerative.DyckWord

/-!
# Balanced parentheses

The parentheses of a text are the steps of a path, up at an open one and down at a close one. Preparing
a text keeps the path, and dissolving a group takes a step up and the step down behind it out of it,
which keeps a Dyck path one and makes none of another. So a text with unbalanced parentheses has no
value, and one with balanced parentheses is never refused for them.
-/

namespace ChatService.Calculator

/-- The step that a character stands for. -/
def parenthesis? (c : Char) : Option DyckStep :=
  if c = '(' then some .U else if c = ')' then some .D else none

/-- The parentheses of a text, in order. -/
def parentheses (s : List Char) : List DyckStep := s.filterMap parenthesis?

/-- Whether the parentheses of a text pair up. -/
def Balanced (s : List Char) : Prop := ∃ w : DyckWord, w.toList = parentheses s

theorem parentheses_append (s t : List Char) : parentheses (s ++ t) = parentheses s ++ parentheses t :=
  List.filterMap_append

theorem parentheses_cons (c : Char) (s : List Char) : parentheses (c :: s) = parentheses [c] ++ parentheses s :=
  parentheses_append [c] s

theorem parentheses_open (s : List Char) : parentheses ('(' :: s) = .U :: parentheses s := rfl

theorem parentheses_close (s : List Char) : parentheses (')' :: s) = .D :: parentheses s := rfl

theorem mem_parentheses_iff {s : List Char} :
    (.U ∈ parentheses s ↔ '(' ∈ s) ∧ (.D ∈ parentheses s ↔ ')' ∈ s) := by
  have step (c : Char) : (parenthesis? c = some .U ↔ c = '(') ∧ (parenthesis? c = some .D ↔ c = ')') := by
    unfold parenthesis?
    split
    · next same => simp [same]
    · next other =>
      split
      · next same => simp [same]
      · next other' => simp [other, other']
  refine ⟨?_, ?_⟩
  · rw [parentheses, List.mem_filterMap]
    simp only [(step _).1, exists_eq_right]
  · rw [parentheses, List.mem_filterMap]
    simp only [(step _).2, exists_eq_right]

theorem parentheses_eq_nil {s : List Char} (open' : '(' ∉ s) (close : ')' ∉ s) : parentheses s = [] := by
  rw [List.eq_nil_iff_forall_not_mem]
  intro step mem
  cases step with
  | U => exact open' (mem_parentheses_iff.1.1 mem)
  | D => exact close (mem_parentheses_iff.2.1 mem)

theorem parentheses_plain {s : List Char} (plain : ∀ c ∈ s, isPlain c = true) : parentheses s = [] :=
  parentheses_eq_nil (not_mem_of_plain plain (by decide)) (not_mem_of_plain plain (by decide))

/-! ## Preparing keeps the parentheses -/

/-- What is lowered becomes a character behind the parentheses. -/
theorem runs_pass_parentheses : (Text.loweringRuns.all fun run => 41 < (run.first : Int) + run.distance) = true := by
  decide +kernel

theorem parentheses_ofNat {n : Nat} (behind : 41 < n) : parentheses [Char.ofNat n] = [] := by
  have code : (Char.ofNat n).toNat ≠ 40 ∧ (Char.ofNat n).toNat ≠ 41 := by
    rw [Char.toNat_ofNat]
    split <;> omega
  apply parentheses_eq_nil
  · rw [List.mem_singleton]
    intro same
    exact code.1 (by rw [← same]; rfl)
  · rw [List.mem_singleton]
    intro same
    exact code.2 (by rw [← same]; rfl)

theorem parentheses_lowerChar (c : Char) : parentheses (Text.lowerChar c) = parentheses [c] := by
  by_cases small : c.toNat < 128
  · have ascii : ∀ n < 128, parentheses (Text.lowerChar (Char.ofNat n)) = parentheses [Char.ofNat n] := by
      decide +kernel
    have same := ascii c.toNat small
    rwa [Char.ofNat_toNat] at same
  · have nothing := parentheses_ofNat (show 41 < c.toNat by omega)
    rw [Char.ofNat_toNat] at nothing
    rw [nothing, Text.lowerChar, if_neg small]
    split
    · rfl
    · split
      · next run found =>
        have pass := List.all_eq_true.1 runs_pass_parentheses run (List.mem_of_find?_eq_some found)
        have covered := List.find?_some found
        simp only [Text.LoweringRun.covers, Bool.and_eq_true, decide_eq_true_eq] at pass covered
        exact parentheses_ofNat (by omega)
      · exact nothing

theorem parentheses_lowerFrom (before s : List Char) : parentheses (Text.lowerFrom before s) = parentheses s := by
  induction s generalizing before with
  | nil => rfl
  | cons c rest ih =>
    rw [Text.lowerFrom, parentheses_append, ih, parentheses_cons c rest, Text.lowerIn]
    congr 1
    split
    · next sigma =>
      subst sigma
      unfold Text.lowerSigma
      split <;> rfl
    · exact parentheses_lowerChar c

theorem parentheses_expandPi (s : List Char) : parentheses (expandPi s) = parentheses s := by
  fun_induction expandPi s with
  | case1 rest ih =>
    rw [parentheses_append, parentheses_plain isPlain_piText, ih]
    rfl
  | case2 c rest other ih => rw [parentheses_cons, ih, ← parentheses_cons]
  | case3 => rfl

theorem parentheses_expandEuler (s : List Char) : parentheses (expandEuler s) = parentheses s := by
  induction s with
  | nil => rfl
  | cons c rest ih =>
    have head : parentheses (if c = 'e' then eulerText else [c]) = parentheses [c] := by
      split
      · next same =>
        subst same
        exact parentheses_plain isPlain_eulerText
      · rfl
    rw [expandEuler, List.flatMap_cons, parentheses_append, head, parentheses_cons c rest]
    exact congrArg _ ih

theorem parentheses_tidy (s : List Char) : parentheses (tidy s) = parentheses s := by
  induction s with
  | nil => rfl
  | cons c rest ih =>
    have head : parentheses (tidy [c]) = parentheses [c] := by
      by_cases blank : Text.isBlank c = true
      · have other {d : Char} (ink : Text.isBlank d = false) : d ∉ [c] := by
          rw [List.mem_singleton]
          rintro rfl
          rw [blank] at ink
          cases ink
        rw [parentheses_eq_nil (other (by decide)) (other (by decide)), tidy_blank (by simpa using blank)]
        rfl
      · by_cases comma : c = ','
        · subst comma
          decide
        · rw [tidy_eq (by simpa using blank) (by simpa using Ne.symm comma)]
    rw [← List.singleton_append, tidy_append, parentheses_append, head, ih, ← parentheses_append]

theorem parentheses_prepare (s : List Char) : parentheses (prepare s) = parentheses s := by
  rw [prepare_eq, written, parentheses_tidy, parentheses_expandEuler, parentheses_expandPi]
  exact parentheses_lowerFrom [] s

/-! ## Dyck paths -/

/-- Whether some steps are those of a Dyck path. -/
def IsDyck (steps : List DyckStep) : Prop := ∃ w : DyckWord, w.toList = steps

theorem isDyck_iff {steps : List DyckStep} :
    IsDyck steps ↔ steps.count .U = steps.count .D ∧ ∀ i, (steps.take i).count .D ≤ (steps.take i).count .U := by
  refine ⟨?_, ?_⟩
  · rintro ⟨w, rfl⟩
    exact ⟨w.count_U_eq_count_D, w.count_D_le_count_U⟩
  · rintro ⟨level, above⟩
    exact ⟨⟨steps, level, above⟩, rfl⟩

theorem count_pair (first last : List DyckStep) (step : DyckStep) :
    (first ++ .U :: .D :: last).count step = (first ++ last).count step + 1 := by
  cases step <;> simp [List.count_append] <;> omega

/-- A step up and the step down behind it make no difference. -/
theorem isDyck_pair (first last : List DyckStep) : IsDyck (first ++ .U :: .D :: last) ↔ IsDyck (first ++ last) := by
  have before {i : Nat} (inside : i ≤ first.length) (tail : List DyckStep) : (first ++ tail).take i = first.take i :=
    List.take_append_of_le_length inside
  have behind (tail : List DyckStep) (j : Nat) : (first ++ tail).take (first.length + j) = first ++ tail.take j := by
    rw [List.take_append, List.take_of_length_le (Nat.le_add_right _ _), Nat.add_sub_cancel_left]
  have pair (j : Nat) : (first ++ .U :: .D :: last).take (first.length + (j + 2)) = first ++ .U :: .D :: last.take j := by
    rw [behind, List.take_succ_cons, List.take_succ_cons]
  rw [isDyck_iff, isDyck_iff, count_pair, count_pair, Nat.add_right_cancel_iff]
  refine and_congr_right fun _ => ⟨fun above i => ?_, fun above i => ?_⟩
  · rcases Nat.le_total i first.length with inside | outside
    · have same := above i
      rwa [before inside] at same ⊢
    · obtain ⟨j, rfl⟩ := Nat.exists_eq_add_of_le outside
      have longer := above (first.length + (j + 2))
      rw [pair, count_pair, count_pair] at longer
      rw [behind]
      exact Nat.le_of_succ_le_succ longer
  · rcases Nat.le_total i first.length with inside | outside
    · have same := above i
      rwa [before inside] at same ⊢
    · obtain ⟨j, rfl⟩ := Nat.exists_eq_add_of_le outside
      have start := above (first.length + 0)
      match j with
      | 0 => rwa [behind, List.take_zero] at start ⊢
      | 1 =>
        rw [behind, List.take_zero, List.append_nil] at start
        rw [behind, List.take_succ_cons, List.take_zero, List.count_append, List.count_append]
        exact Nat.add_le_add start (by decide)
      | j + 2 =>
        have shorter := above (first.length + j)
        rw [behind] at shorter
        rw [pair, count_pair, count_pair]
        exact Nat.succ_le_succ shorter

theorem isDyck_nil : IsDyck [] := ⟨0, rfl⟩

/-- A step up at the end of a path is not taken back. -/
theorem not_isDyck_up (first : List DyckStep) : ¬ IsDyck (first ++ [.U]) := by
  intro dyck
  obtain ⟨level, above⟩ := isDyck_iff.1 dyck
  have start := above first.length
  rw [List.take_left] at start
  simp [List.count_append] at level
  omega

/-- A step down on a path without a step up leads below the ground. -/
theorem not_isDyck_down {steps : List DyckStep} (low : .U ∉ steps) (down : .D ∈ steps) : ¬ IsDyck steps := by
  intro dyck
  have level := (isDyck_iff.1 dyck).1
  rw [List.count_eq_zero_of_not_mem low] at level
  exact absurd level.symm (List.count_pos_iff.2 down).ne'

/-! ## Dissolving keeps balance and its lack -/

theorem flat_ne_unbalanced (s : List Char) : flat s ≠ .error .unbalanced := by
  fun_induction flat s with
  | case1 s _ =>
    intro failed
    unfold number at failed
    split at failed
    · cases failed
    · cases (finite_eq_error_iff.1 failed).2
  | case2 s cut _ left_ih right_ih =>
    intro failed
    rcases of_bind_error failed with failed | ⟨x, -, failed⟩
    · exact left_ih failed
    · rcases of_bind_error failed with failed | ⟨y, -, failed⟩
      · exact right_ih failed
      · exact absurd (fault_of_combine failed) (by decide)

theorem splice_ne_unbalanced (before : List Char) (x : Float) : splice before x ≠ .error .unbalanced := by
  intro failed
  unfold splice at failed
  split at failed
  · cases failed
  · next f _ _ =>
    rw [Function.apply] at failed
    split at failed
    · unfold finite at failed
      split at failed <;> cases failed
    · cases failed

/-- A group and what takes its place make no difference to the balance. -/
theorem isDyck_splice {before before' inner text : List Char} {x : Float} (finite : Binary64.isFinite x)
    (spliced : splice before x = .ok (before', text)) (noOpen : '(' ∉ inner) (noClose : ')' ∉ inner) (after : List Char) :
    IsDyck (parentheses (('(' :: before).reverse ++ (inner ++ ')' :: after))) ↔
      IsDyck (parentheses (before'.reverse ++ (text ++ after))) := by
  obtain ⟨name, rfl, bare⟩ := splice_before spliced
  have nameless : parentheses name.reverse = [] := parentheses_eq_nil (by simpa using bare.1) (by simpa using bare.2)
  have plain := parentheses_plain (splice_plain finite spliced)
  have form : ('(' :: (name ++ before')).reverse ++ (inner ++ ')' :: after) =
      before'.reverse ++ (name.reverse ++ '(' :: (inner ++ ')' :: after)) := by simp
  have path : parentheses (before'.reverse ++ (name.reverse ++ '(' :: (inner ++ ')' :: after))) =
      parentheses before'.reverse ++ .U :: .D :: parentheses after := by
    rw [parentheses_append, parentheses_append, nameless, parentheses_open, parentheses_append,
      parentheses_eq_nil noOpen noClose, parentheses_close]
    rfl
  rw [form, path, isDyck_pair, parentheses_append, parentheses_append, plain, List.nil_append]

/-- What dissolving a text says about its parentheses: with a value they pair up, and without a value for their sake
they do not. -/
theorem dissolve_balance (before after : List Char) (closed : '(' ∉ after) :
    (∀ x, dissolve before after = .ok x → IsDyck (parentheses (before.reverse ++ after))) ∧
      (dissolve before after = .error .unbalanced → ¬ IsDyck (parentheses (before.reverse ++ after))) := by
  -- Each group that is dissolved takes one pair of parentheses along, and the balance stays what it was.
  induction before, after using dissolve_induct with
  | last after =>
    rw [dissolve_end, List.reverse_nil, List.nil_append]
    by_cases stray : ')' ∈ after
    · rw [if_pos stray]
      refine ⟨fun x ok => (nomatch ok), fun _ => ?_⟩
      exact not_isDyck_down (fun up => closed (mem_parentheses_iff.1.1 up)) (mem_parentheses_iff.2.2 stray)
    · rw [if_neg stray, parentheses_eq_nil closed stray]
      exact ⟨fun _ _ => isDyck_nil, fun failed => absurd failed (flat_ne_unbalanced after)⟩
  | pass c before after other ih =>
    rw [dissolve_other other, List.reverse_cons, List.append_assoc]
    exact ih (by simp [closed, Ne.symm other])
  | unclosed before after opens =>
    rw [dissolve_unclosed opens, List.reverse_cons, List.append_assoc, parentheses_append, List.singleton_append,
      parentheses_open, parentheses_eq_nil closed opens]
    exact ⟨fun x ok => (nomatch ok), fun _ => not_isDyck_up _⟩
  | closed before inner after opens ih =>
    simp only [List.mem_append, List.mem_cons, not_or] at closed
    rw [dissolve_group opens]
    have place {x : Float} {spliced : List Char × List Char} (value : group inner = .ok x)
        (put : splice before x = .ok spliced) := isDyck_splice (isFinite_flat value) put closed.1 opens after
    have free {x : Float} {spliced : List Char × List Char} (value : group inner = .ok x)
        (put : splice before x = .ok spliced) := splice_closed (isFinite_flat value) put closed.2.2
    refine ⟨fun y ok => ?_, fun failed => ?_⟩
    · obtain ⟨x, value, ok⟩ := of_bind_ok ok
      obtain ⟨spliced, put, ok⟩ := of_bind_ok ok
      rw [place value put]
      exact (ih x _ _ value put (free value put)).1 y ok
    · rcases of_bind_error failed with failed | ⟨x, value, failed⟩
      · exact absurd failed (flat_ne_unbalanced _)
      · rcases of_bind_error failed with failed | ⟨spliced, put, failed⟩
        · exact absurd failed (splice_ne_unbalanced before x)
        · rw [place value put]
          exact (ih x _ _ value put (free value put)).2 failed

theorem evaluate_balance (s : List Char) :
    (∀ x, evaluate s = .ok x → Balanced s) ∧ (evaluate s = .error .unbalanced → ¬ Balanced s) := by
  have whole := dissolve_balance (prepare s).reverse [] (by simp)
  rwa [List.reverse_reverse, List.append_nil, parentheses_prepare] at whole

/-- The letter that the message of a fault begins with. -/
def Fault.initial : Fault → Char
  | unbalanced => 'u'
  | notNumber _ => 'c'
  | divisionByZero => 'd'
  | numberTooLarge _ => 'n'
  | resultTooLarge | functionTooLarge _ => 'r'
  | outsideDomain | functionOutsideDomain _ => 'm'

theorem head_message (fault : Fault) : fault.message.toList.head? = some fault.initial := by
  have starts {first : String} {c : Char} (letter : first.toList.head? = some c) (rest : String) :
      (first ++ rest).toList.head? = some c := by
    rw [String.toList_append, List.head?_append, letter]
    rfl
  cases fault with
  | unbalanced | divisionByZero | resultTooLarge | outsideDomain => rfl
  | notNumber text | numberTooLarge text | functionOutsideDomain f | functionTooLarge f => exact starts (starts rfl _) _

/-- Of all faults, only that of unbalanced parentheses is told in these words. -/
theorem eq_unbalanced_of_message {fault : Fault} (told : fault.message = "unbalanced parentheses") :
    fault = .unbalanced := by
  have first := head_message fault
  rw [told] at first
  cases fault with
  | unbalanced => rfl
  | _ => cases first

/-- The parentheses of an expression must pair up: otherwise it has no value, and if they do, it is not refused for
them, whatever else stands in it. -/
theorem parentheses_must_balance (s : List Char) :
    (¬ Balanced s → ∃ fault, evaluate s = .error fault ∧ FailureKind.evaluation ∈ fault.kind.lineage) ∧
      (Balanced s → ∀ fault, evaluate s = .error fault → fault.message ≠ "unbalanced parentheses") := by
  obtain ⟨valued, refused⟩ := evaluate_balance s
  refine ⟨fun lacking => ?_, fun balanced fault failed told => ?_⟩
  · cases value : evaluate s with
    | error fault => exact ⟨fault, rfl, evaluation_mem_lineage fault⟩
    | ok x => exact absurd (valued x value) lacking
  · rw [eq_unbalanced_of_message told] at failed
    exact refused failed balanced

theorem parentheses_must_balance_of_samples :
    ¬ Balanced [')', '2', '('] ∧
      (∃ fault, evaluate [')', '2', '('] = .error fault ∧ FailureKind.evaluation ∈ fault.kind.lineage) ∧
      Balanced ['(', '#', ')', '2'] ∧ evaluate ['(', '#', ')', '2'] = .error (.notNumber "#") ∧
      Fault.message (.notNumber "#") ≠ "unbalanced parentheses" := by
  have lacking : ¬ Balanced [')', '2', '('] := fun dyck => absurd ((isDyck_iff.1 dyck).2 1) (by decide)
  have balanced : Balanced ['(', '#', ')', '2'] := (isDyck_pair [] []).2 isDyck_nil
  have failed : evaluate ['(', '#', ')', '2'] = .error (.notNumber "#") := by decide +kernel
  exact ⟨lacking, (parentheses_must_balance _).1 lacking, balanced, failed,
    (parentheses_must_balance _).2 balanced _ failed⟩

end ChatService.Calculator
