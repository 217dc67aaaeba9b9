import ChatService.Proofs.Calculator.Grammar
import ChatService.Proofs.Text.Case

/-!
# Spelled expressions

An expression can be typed in any letter case and with white space around its tokens. Before
it is evaluated, the text is prepared: what is left are the tokens in lower case, with the
constants written out. Nothing is replaced inside another token or across two of them.
-/

namespace ChatService.Calculator

/-- A text that consists of tokens in any letter case, with white space around and between them. -/
inductive Spelled : List Char → List (List Char) → Prop
  | done {gap : List Char} (blank : ∀ c ∈ gap, Text.isBlank c = true) : Spelled gap []
  | token {gap word rest : List Char} {tokens : List (List Char)} (blank : ∀ c ∈ gap, Text.isBlank c = true)
      (later : Spelled rest tokens) : Spelled (gap ++ word ++ rest) (word.map Char.toLower :: tokens)

theorem Spelled.ofPieces {pieces : List (List Char × List Char)}
    (blank : ∀ p ∈ pieces, ∀ c ∈ p.1, Text.isBlank c = true) :
    Spelled (pieces.flatMap fun p => p.1 ++ p.2) (pieces.map fun p => p.2.map Char.toLower) := by
  induction pieces with
  | nil => exact .done (by simp)
  | cons p pieces ih =>
    exact .token (blank p (List.mem_cons_self ..)) (ih fun q mem => blank q (List.mem_cons_of_mem _ mem))

/-! ## Plain texts -/

/-- A character that makes up flat expressions: a digit, a point or an operator. -/
def isPlain (c : Char) : Bool := Text.isDigit c || c == '.' || (Operator.ofChar? c).isSome

theorem isPlain_iff {c : Char} : isPlain c = true ↔ Text.isDigit c = true ∨ c = '.' ∨ ∃ op : Operator, c = op.char := by
  simp only [isPlain, Bool.or_eq_true, beq_iff_eq, or_assoc, Option.isSome_iff_exists]
  refine or_congr_right (or_congr_right ⟨?_, ?_⟩)
  · rintro ⟨op, found⟩
    exact ⟨op, Operator.eq_char_of_ofChar? found⟩
  · rintro ⟨op, rfl⟩
    exact ⟨op, Operator.ofChar?_char op⟩

theorem steady_of_isPlain {c : Char} (plain : isPlain c = true) :
    Text.lowerChar c = [c] ∧ c ≠ 'Σ' ∧ Text.isBlank c = false := by
  rcases isPlain_iff.1 plain with digit | rfl | ⟨op, rfl⟩
  · exact ⟨(Text.steady_of_isDigit digit).1, (Text.steady_of_isDigit digit).2.1, Text.isBlank_of_isDigit digit⟩
  · decide
  · cases op <;> decide

theorem isPlain_withSign (u : Unsigned) (negative : Bool) : ∀ c ∈ Binary64.withSign negative u.text, isPlain c = true := by
  have body : ∀ c ∈ u.text, isPlain c = true := by
    intro c mem
    rcases Unsigned.mem_text mem with digit | rfl
    · exact isPlain_iff.2 (.inl digit)
    · rfl
  cases negative with
  | false => exact body
  | true =>
    intro c mem
    rcases List.mem_cons.1 mem with rfl | mem
    · rfl
    · exact body c mem

theorem isPlain_formatNumber {x : Float} (finite : Binary64.isFinite x) : ∀ c ∈ formatNumber x, isPlain c = true := by
  obtain ⟨u, text, -⟩ := formatNumber_eq finite
  rw [text]
  exact isPlain_withSign u _

/-! ## Preparing -/

/-- The end of preparing: white space is taken out, a comma is read as a point. -/
def tidy (s : List Char) : List Char := (s.filter fun c => !Text.isBlank c).map fun c => if c = ',' then '.' else c

/-- What preparing makes of a text in lower case. -/
def written (s : List Char) : List Char := tidy (expandEuler (expandPi s))

theorem prepare_eq (s : List Char) : prepare s = written (Text.lower s) := rfl

theorem expandPi_eq {s : List Char} (none : 'p' ∉ s) : expandPi s = s := by
  fun_induction expandPi s with
  | case1 rest ih => simp at none
  | case2 c rest other ih => rw [ih (fun mem => none (List.mem_cons_of_mem _ mem))]
  | case3 => rfl

theorem getLast?_of_cons {c : Char} {s : List Char} (ends : (c :: s).getLast? ≠ some 'p') : s.getLast? ≠ some 'p' := by
  cases s with
  | nil => simp
  | cons d s => rwa [List.getLast?_cons_cons] at ends

/-- Two texts can be expanded apart unless the letters of `pi` meet between them. -/
theorem expandPi_append {a b : List Char} (apart : a.getLast? ≠ some 'p' ∨ b.head? ≠ some 'i') :
    expandPi (a ++ b) = expandPi a ++ expandPi b := by
  fun_induction expandPi a with
  | case1 rest ih =>
    rw [List.cons_append, List.cons_append, expandPi,
      ih (apart.imp_left fun ends => getLast?_of_cons (getLast?_of_cons ends)), List.append_assoc]
  | case2 c rest other ih =>
    rw [List.cons_append, expandPi, ih (apart.imp_left getLast?_of_cons), List.cons_append]
    rintro later rfl same
    cases rest with
    | nil => simp [show b = _ from same] at apart
    | cons d rest =>
      cases same
      exact other rest rfl rfl
  | case3 => rfl

theorem expandEuler_append (a b : List Char) : expandEuler (a ++ b) = expandEuler a ++ expandEuler b :=
  List.flatMap_append

theorem tidy_append (a b : List Char) : tidy (a ++ b) = tidy a ++ tidy b := by
  simp [tidy]

theorem written_append {a b : List Char} (apart : a.getLast? ≠ some 'p' ∨ b.head? ≠ some 'i') :
    written (a ++ b) = written a ++ written b := by
  rw [written, expandPi_append apart, expandEuler_append, tidy_append]
  rfl

theorem expandEuler_eq {s : List Char} (none : 'e' ∉ s) : expandEuler s = s := by
  apply Text.flatMap_eq_self
  intro c mem
  rw [if_neg]
  rintro rfl
  exact none mem

theorem tidy_eq {s : List Char} (filled : ∀ c ∈ s, Text.isBlank c = false) (none : ',' ∉ s) : tidy s = s := by
  rw [tidy, List.filter_eq_self.2 (fun c mem => by simp [filled c mem])]
  refine (List.map_congr_left ?_).trans (List.map_id s)
  intro c mem
  rw [if_neg]
  · rfl
  · rintro rfl
    exact none mem

theorem tidy_blank {s : List Char} (blank : ∀ c ∈ s, Text.isBlank c = true) : tidy s = [] := by
  rw [tidy, List.filter_eq_nil_iff.2 (fun c mem => by simp [blank c mem]), List.map_nil]

theorem not_mem_of_plain {s : List Char} (plain : ∀ c ∈ s, isPlain c = true) {c : Char} (other : isPlain c = false) :
    c ∉ s := by
  intro mem
  rw [plain c mem] at other
  cases other

theorem tidy_plain {s : List Char} (plain : ∀ c ∈ s, isPlain c = true) : tidy s = s :=
  tidy_eq (fun c mem => (steady_of_isPlain (plain c mem)).2.2) (not_mem_of_plain plain (by decide))

theorem written_plain {s : List Char} (plain : ∀ c ∈ s, isPlain c = true) : written s = s := by
  rw [written, expandPi_eq (not_mem_of_plain plain (by decide)), expandEuler_eq (not_mem_of_plain plain (by decide)),
    tidy_plain plain]

/-- A plain text is prepared already. -/
theorem prepare_plain {s : List Char} (plain : ∀ c ∈ s, isPlain c = true) : prepare s = s := by
  have lower : Text.lower s = s := by
    rw [Text.lower_eq (not_mem_of_plain plain (by decide))]
    exact Text.flatMap_eq_self fun c mem => (steady_of_isPlain (plain c mem)).1
  rw [prepare_eq, lower, written_plain plain]

/-! ## Spelled texts -/

/-- A token of plain characters and letters that does not end with the first letter of `pi`. -/
def Tidied (token : List Char) : Prop :=
  (∀ c ∈ token, c.toNat < 128 ∨ Text.isDigit c = true) ∧ token.getLast? ≠ some 'p'

theorem lowerChar_of_toLower {c : Char} (kind : c.toLower.toNat < 128 ∨ Text.isDigit c.toLower = true) :
    Text.lowerChar c = [c.toLower] ∧ c ≠ 'Σ' := by
  by_cases ascii : c.toNat < 128
  · refine ⟨by rw [Text.lowerChar, if_pos ascii], ?_⟩
    rintro rfl
    exact absurd ascii (by decide)
  · have same : c.toLower = c := Text.toLower_eq (by omega)
    rw [same] at kind ⊢
    rcases kind with ascii' | digit
    · exact absurd ascii' ascii
    · exact ⟨(Text.steady_of_isDigit digit).1, (Text.steady_of_isDigit digit).2.1⟩

theorem expand_blank {gap : List Char} (blank : ∀ c ∈ gap, Text.isBlank c = true) :
    gap.flatMap Text.lowerChar = gap ∧ 'Σ' ∉ gap ∧ gap.getLast? ≠ some 'p' ∧ written gap = [] := by
  have other {c : Char} (ink : Text.isBlank c = false) : c ∉ gap := by
    intro mem
    rw [blank c mem] at ink
    cases ink
  refine ⟨Text.flatMap_eq_self fun c mem => (Text.steady_of_isBlank (blank c mem)).1, other (by decide), ?_, ?_⟩
  · intro last
    exact other (by decide) (List.mem_of_getLast? last)
  · rw [written, expandPi_eq (other (by decide)), expandEuler_eq (other (by decide)), tidy_blank blank]

/-- A text that spells tokens is prepared token by token. -/
theorem prepare_spelled {s : List Char} {tokens : List (List Char)} (spelled : Spelled s tokens)
    (tidied : ∀ token ∈ tokens, Tidied token) : prepare s = tokens.flatMap written := by
  suffices 'Σ' ∉ s ∧ written (s.flatMap Text.lowerChar) = tokens.flatMap written by
    rw [prepare_eq, Text.lower_eq this.1, this.2]
  induction spelled with
  | done blank =>
    obtain ⟨lower, sigma, -, nothing⟩ := expand_blank blank
    exact ⟨sigma, by rw [lower, nothing]; rfl⟩
  | @token gap word rest tokens blank later ih =>
    obtain ⟨lower, sigma, last, nothing⟩ := expand_blank blank
    obtain ⟨sigma', rest⟩ := ih fun token mem => tidied token (List.mem_cons_of_mem _ mem)
    obtain ⟨kinds, ends⟩ := tidied _ (List.mem_cons_self ..)
    have each (c : Char) (mem : c ∈ word) := lowerChar_of_toLower (kinds _ (List.mem_map_of_mem mem))
    refine ⟨?_, ?_⟩
    · intro mem
      rcases List.mem_append.1 mem with front | back
      · rcases List.mem_append.1 front with first | second
        · exact sigma first
        · exact (each _ second).2 rfl
      · exact sigma' back
    · rw [List.flatMap_append, List.flatMap_append, lower, Text.flatMap_lowerChar fun c mem => (each c mem).1,
        List.append_assoc, written_append (.inl last), written_append (.inl ends), nothing, rest]
      rfl

theorem isPlain_piText : ∀ c ∈ piText, isPlain c = true := isPlain_formatNumber (by decide)

theorem isPlain_eulerText : ∀ c ∈ eulerText, isPlain c = true := isPlain_formatNumber (by decide)

theorem tidied_plain {token : List Char} (plain : ∀ c ∈ token, isPlain c = true) : Tidied token := by
  refine ⟨?_, ?_⟩
  · intro c mem
    rcases isPlain_iff.1 (plain c mem) with digit | rfl | ⟨op, rfl⟩
    · exact .inr digit
    · exact .inl (by decide)
    · cases op <;> exact .inl (by decide)
  · intro last
    exact not_mem_of_plain plain (by decide) (List.mem_of_getLast? last)

/-- Tokens that are prepared to a text. -/
def Prepares (tokens : List (List Char)) (text : List Char) : Prop :=
  (∀ token ∈ tokens, Tidied token) ∧ tokens.flatMap written = text

theorem Prepares.single {token text : List Char} (tidied : Tidied token) (same : written token = text) :
    Prepares [token] text := by
  refine ⟨?_, ?_⟩
  · intro other mem
    rwa [List.mem_singleton.1 mem]
  · rw [List.flatMap_singleton, same]

theorem Prepares.append {tokens tokens' : List (List Char)} {text text' : List Char} (first : Prepares tokens text)
    (second : Prepares tokens' text') : Prepares (tokens ++ tokens') (text ++ text') := by
  refine ⟨?_, ?_⟩
  · intro token mem
    rcases List.mem_append.1 mem with front | back
    · exact first.1 token front
    · exact second.1 token back
  · rw [List.flatMap_append, first.2, second.2]

theorem prepares_plain {token : List Char} (plain : ∀ c ∈ token, isPlain c = true) : Prepares [token] token :=
  .single (tidied_plain plain) (written_plain plain)

theorem prepares_char (op : Operator) : Prepares [[op.char]] [op.char] := by
  apply prepares_plain
  intro c mem
  rw [List.mem_singleton.1 mem]
  exact isPlain_iff.2 (.inr (.inr ⟨op, rfl⟩))

theorem prepares_word (l : Literal) : Prepares [l.word] l.text := by
  cases l with
  | number u => exact prepares_plain (isPlain_withSign u false)
  | pi =>
    have expanded : written ['p', 'i'] = tidy (expandEuler piText) := by
      simp only [written, expandPi, List.append_nil]
    refine .single (by simp [Tidied, Literal.word]) ?_
    rw [Literal.word, expanded, expandEuler_eq (not_mem_of_plain isPlain_piText (by decide)),
      tidy_plain isPlain_piText, Literal.text]
  | euler =>
    have expanded : written ['e'] = tidy eulerText := by
      simp [written, expandPi, expandEuler]
    refine .single (by simp [Tidied, Literal.word]) ?_
    rw [Literal.word, expanded, tidy_plain isPlain_eulerText, Literal.text]

theorem prepares_name (f : Function) : Prepares [f.name] f.name := by
  cases f <;> exact .single (by simp [Tidied, Function.name]) (by decide)

theorem prepares_open : Prepares [['(']] ['('] := .single (by simp [Tidied]) (by decide)

theorem prepares_close : Prepares [[')']] [')'] := .single (by simp [Tidied]) (by decide)

/-- The tokens of an expression are prepared to its text. -/
theorem Tree.prepares {level : Level} (t : Tree level) : Prepares t.tokens t.text := by
  induction t with
  | literal negative l =>
    cases negative with
    | false => exact prepares_word l
    | true => exact (prepares_char .sub).append (prepares_word l)
  | group inner ih => exact (prepares_open.append ih).append prepares_close
  | call f inner ih =>
    have whole := (((prepares_name f).append prepares_open).append ih).append prepares_close
    simpa [tokens, text] using whole
  | lift operand ih => exact ih
  | chain op left right left_ih right_ih =>
    have whole := (left_ih.append (prepares_char op)).append right_ih
    simpa [tokens, text] using whole

/-- A text that spells an expression is prepared to the text of the expression. -/
theorem Tree.prepare_eq_text {level : Level} {t : Tree level} {s : List Char} (spelled : Spelled s t.tokens) :
    prepare s = t.text := by
  rw [prepare_spelled spelled t.prepares.1, t.prepares.2]

end ChatService.Calculator
