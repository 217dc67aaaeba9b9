import ChatService.Proofs.Calculator.Rows

/-!
# Dissolving any text

What becomes of a text that need not be an expression. Either its last group is closed, and a number
takes its place and that of the name before it, or the text is refused. One induction over these steps
carries what is said about all texts.
-/

namespace ChatService.Calculator

variable {before before' inner after text : List Char} {x : Float}

/-- What takes the place of a group of this value: the text before it (last character first) without the name of
a function, and the number. -/
def splice (before : List Char) (x : Float) : Except Fault (List Char × List Char) :=
  match functionBefore? before with
  | none => .ok (before, formatNumber x)
  | some (f, before') => (f.apply x).map fun y => (before', formatNumber y)

theorem splice_cases (ok : splice before x = .ok (before', text)) :
    (before' = before ∧ text = formatNumber x) ∨
      ∃ f y, functionBefore? before = some (f, before') ∧ f.apply x = .ok y ∧ text = formatNumber y := by
  unfold splice at ok
  split at ok
  · cases ok
    exact .inl ⟨rfl, rfl⟩
  · next f rest found =>
    cases applied : f.apply x with
    | error fault =>
      rw [applied] at ok
      cases ok
    | ok y =>
      rw [applied] at ok
      cases ok
      exact .inr ⟨f, y, found, applied, rfl⟩

theorem splice_length (ok : splice before x = .ok (before', text)) : before'.length ≤ before.length := by
  obtain ⟨rfl, -⟩ | ⟨f, y, found, -, -⟩ := splice_cases ok
  · exact le_rfl
  · exact length_functionBefore? found

/-- The text put in is that of a finite double, so it is plain. -/
theorem splice_plain (finite : Binary64.isFinite x) (ok : splice before x = .ok (before', text)) :
    ∀ c ∈ text, isPlain c = true := by
  obtain ⟨-, rfl⟩ | ⟨f, y, -, applied, rfl⟩ := splice_cases ok
  · exact isPlain_formatNumber finite
  · exact isPlain_formatNumber (isFinite_apply applied)

/-- What is put in opens no group. -/
theorem splice_closed (finite : Binary64.isFinite x) (ok : splice before x = .ok (before', text))
    (closed : '(' ∉ after) : '(' ∉ text ++ after := by
  rw [List.mem_append, not_or]
  exact ⟨not_mem_of_plain (splice_plain finite ok) (by decide), closed⟩

theorem functionBefore?_eq {f : Function} (found : functionBefore? before = some (f, before')) :
    before = f.name.reverse ++ before' := by
  obtain ⟨g, _, found⟩ := List.exists_of_findSome?_eq_some found
  split at found
  · next starts =>
    cases found
    obtain ⟨rest, rfl⟩ := List.isPrefixOf_iff_prefix.1 starts
    rw [← List.length_reverse, List.drop_left]
  · cases found

theorem name_parenthesis (f : Function) : '(' ∉ f.name ∧ ')' ∉ f.name := by
  cases f <;> decide

/-- What is taken away before a group holds no parenthesis. -/
theorem splice_before (ok : splice before x = .ok (before', text)) :
    ∃ name, before = name ++ before' ∧ '(' ∉ name ∧ ')' ∉ name := by
  obtain ⟨rfl, -⟩ | ⟨f, y, found, -, -⟩ := splice_cases ok
  · exact ⟨[], rfl, by simp, by simp⟩
  · have bare := name_parenthesis f
    exact ⟨f.name.reverse, functionBefore?_eq found, by simpa using bare.1, by simpa using bare.2⟩

/-! ## The steps -/

theorem dissolve_end (after : List Char) :
    dissolve [] after = if ')' ∈ after then .error .unbalanced else flat after := by
  rw [dissolve]
  simp only [List.contains_iff_mem]

theorem ne_close (opens : ')' ∉ inner) : ∀ c ∈ inner, (c != ')') = true := by
  intro c mem
  rw [bne_iff_ne]
  rintro rfl
  exact opens mem

theorem dissolve_unclosed (opens : ')' ∉ after) (before : List Char) :
    dissolve ('(' :: before) after = .error .unbalanced := by
  rw [dissolve, if_pos rfl, List.dropWhile_eq_nil_iff.2 (ne_close opens)]

/-- An open parenthesis and the first close parenthesis behind it. -/
theorem dissolve_group (opens : ')' ∉ inner) (before after : List Char) :
    dissolve ('(' :: before) (inner ++ ')' :: after) =
      (group inner >>= fun x => splice before x >>= fun place => dissolve place.1 (place.2 ++ after)) := by
  obtain ⟨taken, dropped⟩ := Text.span_append (')' :: after) (ne_close opens) (by simp)
  rw [dissolve, if_pos rfl, taken, dropped]
  simp only
  congr 1
  funext x
  unfold splice
  split
  · next found =>
    simp only [found]
    rfl
  · next f before' found =>
    simp only [found]
    cases f.apply x <;> rfl

/-- An induction over the way in which a text is dissolved. -/
theorem dissolve_induct {motive : List Char → List Char → Prop} (last : ∀ after, motive [] after)
    (pass : ∀ c before after, c ≠ '(' → motive before (c :: after) → motive (c :: before) after)
    (unclosed : ∀ before after, ')' ∉ after → motive ('(' :: before) after)
    (closed : ∀ before inner after, ')' ∉ inner →
      (∀ x before' text, group inner = .ok x → splice before x = .ok (before', text) → motive before' (text ++ after)) →
      motive ('(' :: before) (inner ++ ')' :: after))
    (before after : List Char) : motive before after := by
  match before with
  | [] => exact last after
  | c :: before =>
    by_cases opening : c = '('
    · subst opening
      by_cases closing : ')' ∈ after
      · obtain ⟨inner, rest, rfl, opens⟩ := List.eq_append_cons_of_mem closing
        refine closed before inner rest opens fun x before' text _ ok => ?_
        have shorter := splice_length ok
        exact dissolve_induct last pass unclosed closed before' (text ++ rest)
      · exact unclosed before after closing
    · exact pass c before after opening (dissolve_induct last pass unclosed closed before (c :: after))
termination_by before.length

theorem isFinite_dissolve (ok : dissolve before after = .ok x) : Binary64.isFinite x = true := by
  induction before, after using dissolve_induct with
  | last after =>
    rw [dissolve_end] at ok
    split at ok
    · cases ok
    · exact isFinite_flat ok
  | pass c before after other ih =>
    rw [dissolve_other other] at ok
    exact ih ok
  | unclosed before after opens =>
    rw [dissolve_unclosed opens] at ok
    cases ok
  | closed before inner after opens ih =>
    rw [dissolve_group opens] at ok
    obtain ⟨y, value, ok⟩ := of_bind_ok ok
    obtain ⟨⟨before', text⟩, spliced, ok⟩ := of_bind_ok ok
    exact ih y before' text value spliced ok

/-- The value of a text is finite. -/
theorem isFinite_evaluate {s : List Char} (ok : evaluate s = .ok x) : Binary64.isFinite x = true :=
  isFinite_dissolve ok

end ChatService.Calculator
