import ChatService.Text.Blank
import ChatService.Text.Case
import ChatService.Text.Digit

/-!
# Lower case

Where lower case is found character by character: in texts without a capital sigma, and in
particular in texts of ASCII letters.
-/

namespace ChatService.Text

theorem toLower_eq {c : Char} (other : ¬(65 ≤ c.toNat ∧ c.toNat ≤ 90)) : c.toLower = c := by
  have capital : ¬(c.val ≥ 'A'.val ∧ c.val ≤ 'Z'.val) := fun ⟨low, high⟩ =>
    other ⟨UInt32.le_iff_toNat_le.1 low, UInt32.le_iff_toNat_le.1 high⟩
  exact dif_neg capital

theorem lower_eq {s : List Char} (sigma : 'Σ' ∉ s) : lower s = s.flatMap lowerChar := by
  have whole := lowerFrom_append [] s [] sigma
  simpa [lower, lowerFrom] using whole

theorem flatMap_eq_self {f : Char → List Char} {s : List Char} (same : ∀ c ∈ s, f c = [c]) : s.flatMap f = s := by
  induction s with
  | nil => rfl
  | cons c s ih =>
    rw [List.flatMap_cons, same c (List.mem_cons_self ..), ih (fun d mem => same d (List.mem_cons_of_mem _ mem))]
    rfl

theorem flatMap_lowerChar {word : List Char} (each : ∀ c ∈ word, lowerChar c = [c.toLower]) :
    word.flatMap lowerChar = word.map Char.toLower := by
  induction word with
  | nil => rfl
  | cons c word ih =>
    rw [List.flatMap_cons, each c (List.mem_cons_self ..), ih (fun d mem => each d (List.mem_cons_of_mem _ mem))]
    rfl

theorem lower_of_ascii {word : List Char} (ascii : ∀ c ∈ word, c.toNat < 128) : lower word = word.map Char.toLower := by
  have sigma : 'Σ' ∉ word := fun mem => absurd (ascii 'Σ' mem) (by decide)
  rw [lower_eq sigma, flatMap_lowerChar fun c mem => by rw [lowerChar, if_pos (ascii c mem)]]

/-- The small letters of ASCII. -/
def IsSmallLetter (c : Char) : Prop := 97 ≤ c.toNat ∧ c.toNat ≤ 122

instance (c : Char) : Decidable (IsSmallLetter c) := inferInstanceAs (Decidable (_ ∧ _))

/-- A text of small letters alone. -/
def SmallLetters (s : List Char) : Prop := ∀ c ∈ s, IsSmallLetter c

instance (s : List Char) : Decidable (SmallLetters s) := List.decidableBAll IsSmallLetter s

/-- Only the letters of ASCII have small letters as their form in lower case. -/
theorem letter_of_toLower {c : Char} (small : IsSmallLetter c.toLower) :
    (65 ≤ c.toNat ∧ c.toNat ≤ 90) ∨ IsSmallLetter c := by
  by_cases capital : 65 ≤ c.toNat ∧ c.toNat ≤ 90
  · exact .inl capital
  · exact .inr (toLower_eq capital ▸ small)

/-! ## White space and digits -/

/-- The ranges of white space. -/
def blankRanges : List Range :=
  [⟨9, 13⟩, ⟨28, 32⟩, ⟨0x85, 0x85⟩, ⟨0xA0, 0xA0⟩, ⟨0x1680, 0x1680⟩, ⟨0x2000, 0x200A⟩, ⟨0x2028, 0x2029⟩,
   ⟨0x202F, 0x202F⟩, ⟨0x205F, 0x205F⟩, ⟨0x3000, 0x3000⟩]

/-- The ranges of digits. -/
def digitRanges : List Range := digitZeros.map fun start => ⟨start, start + 9⟩

theorem range_of_isBlank {c : Char} (blank : isBlank c = true) :
    ∃ r ∈ blankRanges, r.first ≤ c.toNat ∧ c.toNat ≤ r.last := by
  simp only [isBlank, code_char, Bool.or_eq_true, Bool.and_eq_true, decide_eq_true_eq, beq_iff_eq] at blank
  simp only [blankRanges, List.mem_cons, List.not_mem_nil, or_false, exists_eq_or_imp, exists_eq_left]
  omega

theorem range_of_isDigit {c : Char} (digit : isDigit c = true) :
    ∃ r ∈ digitRanges, r.first ≤ c.toNat ∧ c.toNat ≤ r.last := by
  simp only [isDigit, digitValue?] at digit
  split at digit
  · split at digit
    · next ascii =>
      exact ⟨⟨0x30, 0x39⟩, List.mem_cons_self .., ascii⟩
    · simp at digit
  · obtain ⟨value, found⟩ := Option.isSome_iff_exists.1 digit
    obtain ⟨start, found, -⟩ := Option.map_eq_some_iff.1 found
    have inside := List.find?_some found
    simp only [Bool.and_eq_true, decide_eq_true_eq] at inside
    refine ⟨⟨start, start + 9⟩, List.mem_map_of_mem (List.mem_of_find?_eq_some found), inside.1, ?_⟩
    exact Nat.lt_succ_iff.1 inside.2

/-- Ranges without a letter whose case changes. -/
def isSteady (r : Range) : Bool :=
  (r.last < 65 || 90 < r.first) && (r.last < 0x130 || 0x130 < r.first) && (r.last < 0x3A3 || 0x3A3 < r.first) &&
    loweringRuns.all fun run => r.last < run.first || run.last < r.first

theorem ranges_steady : (blankRanges ++ digitRanges).all isSteady = true := by
  decide +kernel

theorem ranges_apart :
    (blankRanges.all fun r => digitRanges.all fun d => r.last < d.first || d.last < r.first) = true := by
  decide +kernel

/-- White space and digits are the same in lower case. -/
theorem steady {c : Char} {r : Range} (mem : r ∈ blankRanges ++ digitRanges) (low : r.first ≤ c.toNat)
    (high : c.toNat ≤ r.last) : lowerChar c = [c] ∧ c ≠ 'Σ' ∧ c.toLower = c := by
  have apart := List.all_eq_true.1 ranges_steady r mem
  simp only [isSteady, Bool.and_eq_true, Bool.or_eq_true, decide_eq_true_eq, List.all_eq_true] at apart
  obtain ⟨⟨⟨upper, dotted⟩, sigma⟩, runs⟩ := apart
  have same : c.toLower = c := toLower_eq (by omega)
  have other : c ≠ 'İ' := by
    rintro rfl
    have code : ('İ' : Char).toNat = 0x130 := rfl
    omega
  refine ⟨?_, ?_, same⟩
  · have none : loweringRuns.find? (·.covers c.toNat) = none := by
      rw [List.find?_eq_none]
      intro run mem covered
      have := runs run mem
      simp only [LoweringRun.covers, Bool.and_eq_true, decide_eq_true_eq] at covered
      omega
    rw [lowerChar, same, none, if_neg other, ite_self]
  · rintro rfl
    have code : ('Σ' : Char).toNat = 0x3A3 := rfl
    omega

theorem steady_of_isBlank {c : Char} (blank : isBlank c = true) :
    lowerChar c = [c] ∧ c ≠ 'Σ' ∧ c.toLower = c := by
  obtain ⟨r, mem, low, high⟩ := range_of_isBlank blank
  exact steady (List.mem_append_left _ mem) low high

theorem steady_of_isDigit {c : Char} (digit : isDigit c = true) :
    lowerChar c = [c] ∧ c ≠ 'Σ' ∧ c.toLower = c := by
  obtain ⟨r, mem, low, high⟩ := range_of_isDigit digit
  exact steady (List.mem_append_right _ mem) low high

theorem isBlank_of_isDigit {c : Char} (digit : isDigit c = true) : isBlank c = false := by
  rw [Bool.eq_false_iff]
  intro blank
  obtain ⟨r, mem, low, high⟩ := range_of_isBlank blank
  obtain ⟨d, mem', low', high'⟩ := range_of_isDigit digit
  have apart := List.all_eq_true.1 (List.all_eq_true.1 ranges_apart r mem) d mem'
  simp only [Bool.or_eq_true, decide_eq_true_eq] at apart
  omega

/-! ## White space in lower case -/

/-- A text without white space. -/
def Solid {α : Type} [Coded α] (s : List α) : Prop := ∀ c ∈ s, isBlank c = false

instance {α : Type} [Coded α] (s : List α) : Decidable (Solid s) := List.decidableBAll (fun c => isBlank c = false) s

theorem solid_append {α : Type} [Coded α] {s t : List α} : Solid (s ++ t) ↔ Solid s ∧ Solid t :=
  List.forall_mem_append

theorem solid_ofChars {s : List Char} : Solid (ofChars s) ↔ Solid s := List.forall_mem_map

/-- No character becomes white space. -/
theorem runs_avoid_blank : (loweringRuns.all fun run => decide (0 ≤ (run.first : Int) + run.distance) &&
    blankRanges.all fun r =>
      decide ((run.last : Int) + run.distance < r.first) || decide ((r.last : Int) < run.first + run.distance)) = true := by
  decide +kernel

theorem isBlank_ofNat {n : Nat} (outside : ∀ r ∈ blankRanges, n < r.first ∨ r.last < n) :
    isBlank (Char.ofNat n) = false := by
  rw [Bool.eq_false_iff]
  intro blank
  by_cases valid : n.isValidChar
  · obtain ⟨r, member, low, high⟩ := range_of_isBlank blank
    have code : (Char.ofNat n).toNat = n := by
      rw [Char.ofNat, dif_pos valid]
      rfl
    rw [code] at low high
    rcases outside r member with below | above <;> omega
  · rw [Char.ofNat, dif_neg valid] at blank
    exact absurd blank (by decide)

/-- The form of a character in lower case is white space where the character is, and is never empty. -/
theorem isBlank_lowerChar (c : Char) : lowerChar c ≠ [] ∧ ∀ d ∈ lowerChar c, isBlank d = isBlank c := by
  by_cases blank : isBlank c = true
  · rw [(steady_of_isBlank blank).1]
    exact ⟨List.cons_ne_nil _ _, fun d mem => by rw [List.mem_singleton.1 mem]⟩
  by_cases small : c.toNat < 128
  · have ascii : ∀ n < 128, isBlank (Char.ofNat n).toLower = isBlank (Char.ofNat n) := by decide +kernel
    have same := ascii c.toNat small
    rw [Char.ofNat_toNat] at same
    rw [lowerChar, if_pos small]
    exact ⟨List.cons_ne_nil _ _, fun d mem => by rw [List.mem_singleton.1 mem, same]⟩
  rw [Bool.eq_false_iff.2 blank, lowerChar, if_neg small]
  split
  · exact ⟨List.cons_ne_nil _ _, List.forall_mem_cons.2 ⟨by decide, List.forall_mem_singleton.2 (by decide)⟩⟩
  · split
    · next run found =>
      have covered := List.find?_some found
      simp only [LoweringRun.covers, Bool.and_eq_true, decide_eq_true_eq] at covered
      refine ⟨List.cons_ne_nil _ _, fun d mem => ?_⟩
      rw [List.mem_singleton.1 mem]
      apply isBlank_ofNat
      intro r member
      have avoids := List.all_eq_true.1 runs_avoid_blank run (List.mem_of_find?_eq_some found)
      simp only [Bool.and_eq_true, Bool.or_eq_true, decide_eq_true_eq, List.all_eq_true] at avoids
      rcases avoids.2 r member with below | above <;> omega
    · exact ⟨List.cons_ne_nil _ _, fun d mem => by rw [List.mem_singleton.1 mem]; exact Bool.eq_false_iff.2 blank⟩

theorem isBlank_lowerIn (before : List Char) (c : Char) (rest : List Char) :
    lowerIn before c rest ≠ [] ∧ ∀ d ∈ lowerIn before c rest, isBlank d = isBlank c := by
  by_cases sigma : c = 'Σ'
  · subst sigma
    rw [lowerIn, if_pos rfl, lowerSigma]
    split <;> exact ⟨List.cons_ne_nil _ _, List.forall_mem_singleton.2 (by decide)⟩
  · rw [lowerIn, if_neg sigma]
    exact isBlank_lowerChar c

theorem solid_lowerIn_iff {before : List Char} {c : Char} {rest : List Char} :
    Solid (lowerIn before c rest) ↔ isBlank c = false := by
  obtain ⟨filled, same⟩ := isBlank_lowerIn before c rest
  constructor
  · intro solid
    obtain ⟨d, mem⟩ := List.exists_mem_of_ne_nil _ filled
    exact same d mem ▸ solid d mem
  · exact fun ink d mem => (same d mem).trans ink

theorem solid_loweredFrom_iff {before : List Char} {t : Text} : Solid (loweredFrom before t) ↔ Solid t := by
  induction t generalizing before with
  | nil => exact Iff.rfl
  | cons c rest ih =>
    cases c with
    | char c =>
      show Solid (ofChars (lowerIn before c (standIns rest)) ++ loweredFrom (c :: before) rest) ↔ _
      rw [solid_append, solid_ofChars, solid_lowerIn_iff, ih, Solid, Solid, List.forall_mem_cons, isBlank_char]
    | half n =>
      show Solid (CodePoint.half n :: loweredFrom _ rest) ↔ _
      rw [Solid, List.forall_mem_cons, ← Solid, ih, Solid, Solid, List.forall_mem_cons]

/-- Lower case neither makes nor removes white space. -/
theorem solid_lowered_iff {t : Text} : Solid (lowered t) ↔ Solid t := solid_loweredFrom_iff

/-! ## What stands before a text -/

/-- Nothing is seen through a text that shows no letter with case to what stands behind it. -/
theorem meetsCased_append {before : List Char} (unmet : meetsCased before = false) (s : List Char) :
    meetsCased (s ++ before) = meetsCased s := by
  induction s with
  | nil => exact unmet
  | cons c s ih =>
    unfold meetsCased at ih ⊢
    rw [List.cons_append, List.dropWhile_cons, List.dropWhile_cons]
    by_cases ignored : Range.anyHolds caseIgnorableRanges c.toNat = true
    · rw [if_pos ignored, if_pos ignored, ih]
    · rw [if_neg ignored, if_neg ignored]

theorem lowerIn_append_of_unmet {outside : List Char} (unmet : meetsCased outside = false) (before : List Char) (c : Char)
    (rest : List Char) : lowerIn (before ++ outside) c rest = lowerIn before c rest := by
  rw [lowerIn, lowerIn, lowerSigma, lowerSigma, meetsCased_append unmet]

theorem lowerFrom_append_of_unmet {outside : List Char} (unmet : meetsCased outside = false) (before s : List Char) :
    lowerFrom (before ++ outside) s = lowerFrom before s := by
  induction s generalizing before with
  | nil => rfl
  | cons c s ih => rw [lowerFrom, lowerFrom, ← List.cons_append, ih, lowerIn_append_of_unmet unmet]

theorem loweredFrom_append_of_unmet {outside : List Char} (unmet : meetsCased outside = false) (before : List Char)
    (t : Text) : loweredFrom (before ++ outside) t = loweredFrom before t := by
  induction t generalizing before with
  | nil => rfl
  | cons c t ih =>
    cases c with
    | char c => rw [loweredFrom, loweredFrom, ← List.cons_append, ih, lowerIn_append_of_unmet unmet]
    | half n => rw [loweredFrom, loweredFrom, ← List.cons_append, ih]

theorem lowerChar_of_head {c : Char} (kept : (lowerChar c).head? = some c) : lowerChar c = [c] := by
  rw [lowerChar] at kept ⊢
  split at kept
  · rw [if_pos ‹_›, Option.some.inj kept]
  · rw [if_neg ‹_›]
    split at kept
    · next dotted =>
      rw [dotted] at kept
      exact absurd (Option.some.inj kept) (by decide)
    · rw [if_neg ‹_›]
      split at kept
      · exact congrArg (fun d => [d]) (Option.some.inj kept)
      · rfl

/-- A code point that lower case leaves alone wherever it stands. -/
def Unchanged : CodePoint → Prop
  | .char c => c ≠ 'Σ' ∧ lowerChar c = [c]
  | .half _ => True

/-- A character whose form in a text begins with itself is left alone everywhere. -/
theorem unchanged_of_head (before : List Char) {c : Char} (rest : List Char)
    (kept : (lowerIn before c rest).head? = some c) : Unchanged (.char c) := by
  rw [lowerIn] at kept
  split at kept
  · next sigma =>
    subst sigma
    rw [lowerSigma] at kept
    split at kept <;> exact absurd (Option.some.inj kept) (by decide)
  · next other => exact ⟨other, lowerChar_of_head kept⟩

theorem Unchanged.loweredFrom_cons {c : CodePoint} (same : Unchanged c) (before : List Char) (t : Text) :
    loweredFrom before (c :: t) = c :: loweredFrom (c.standIn :: before) t := by
  cases c with
  | char c =>
    obtain ⟨other, alone⟩ := same
    rw [loweredFrom, lowerIn, if_neg other, alone]
    rfl
  | half n => rfl

theorem loweredFrom_append_of_unchanged {s : Text} (each : ∀ c ∈ s, Unchanged c) (before : List Char) (t : Text) :
    loweredFrom before (s ++ t) = s ++ loweredFrom ((standIns s).reverse ++ before) t := by
  induction s generalizing before with
  | nil => rfl
  | cons c s ih =>
    obtain ⟨same, each⟩ := List.forall_mem_cons.1 each
    rw [List.cons_append, same.loweredFrom_cons, ih each]
    simp [standIns]

/-- A text that begins its own lower case holds only code points that lower case leaves alone. -/
theorem unchanged_of_prefix (before : List Char) {s rest : Text} (kept : s <+: loweredFrom before (s ++ rest)) :
    ∀ c ∈ s, Unchanged c := by
  induction s generalizing before with
  | nil => simp
  | cons c s ih =>
    have here : Unchanged c := by
      cases c with
      | half n => trivial
      | char c =>
        obtain ⟨tail, same⟩ := kept
        obtain ⟨d, form, filled⟩ := List.exists_cons_of_ne_nil (isBlank_lowerIn before c (standIns (s ++ rest))).1
        refine unchanged_of_head before (standIns (s ++ rest)) ?_
        rw [List.cons_append, List.cons_append, loweredFrom, filled] at same
        rw [filled, List.head?_cons, CodePoint.char.inj (List.cons.inj same).1]
    rw [List.cons_append, here.loweredFrom_cons, List.cons_prefix_cons] at kept
    exact List.forall_mem_cons.2 ⟨here, ih _ kept.2⟩

theorem lowered_eq_self_iff {t : Text} : lowered t = t ↔ ∀ c ∈ t, Unchanged c := by
  constructor
  · intro same
    have kept : t <+: loweredFrom [] (t ++ []) := ⟨[], by rw [List.append_nil]; exact same.symm⟩
    exact unchanged_of_prefix _ kept
  · intro each
    have whole := loweredFrom_append_of_unchanged each [] []
    simpa [lowered, loweredFrom] using whole

/-- A text that lower case leaves alone and behind which it goes on as at the start of a text. -/
def IsNeutral (t : Text) : Prop := lowered t = t ∧ meetsCased (standIns t).reverse = false

instance (t : Text) : Decidable (IsNeutral t) := inferInstanceAs (Decidable (_ ∧ _))

/-- Behind a neutral text lower case is the same as without it. -/
theorem lowered_append_of_neutral {s : Text} (neutral : IsNeutral s) (t : Text) : lowered (s ++ t) = s ++ lowered t := by
  obtain ⟨same, unmet⟩ := neutral
  have behind := loweredFrom_append_of_unmet unmet [] t
  rw [List.nil_append] at behind
  rw [lowered, loweredFrom_append_of_unchanged (lowered_eq_self_iff.1 same), List.append_nil, behind, lowered]

end ChatService.Text
