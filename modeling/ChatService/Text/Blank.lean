import ChatService.Text.Basic

/-!
# White space

The white space of chat texts and what is cut along it: `strip` takes it off
both ends, `words` splits at it. Both work on lists of characters and on texts alike.
-/

namespace ChatService.Text

section

variable {α : Type} [Coded α]

/-- Unicode white space together with the four information separators U+001C to U+001F. -/
def isBlank (c : α) : Bool :=
  let n := Coded.code c
  (9 ≤ n && n ≤ 13) || (28 ≤ n && n ≤ 32) || n == 0x85 || n == 0xA0 || n == 0x1680 ||
    (0x2000 ≤ n && n ≤ 0x200A) || n == 0x2028 || n == 0x2029 || n == 0x202F || n == 0x205F ||
    n == 0x3000

/-- The text without the white space at its two ends. -/
def strip (s : List α) : List α :=
  ((s.dropWhile isBlank).reverse.dropWhile isBlank).reverse

/-- A text counts as blank when nothing of it is left after stripping. -/
def allBlank (s : List α) : Bool := s.all isBlank

omit [Coded α] in
theorem length_dropWhile_le (p : α → Bool) (s : List α) :
    (s.dropWhile p).length ≤ s.length :=
  (List.dropWhile_sublist p).length_le

omit [Coded α] in
/-- A run of one kind is cut off what begins with another kind. -/
theorem span_append {p : α → Bool} {run : List α} (rest : List α) (all : ∀ a ∈ run, p a = true)
    (stop : ∀ a ∈ rest.head?, p a = false) :
    (run ++ rest).takeWhile p = run ∧ (run ++ rest).dropWhile p = rest := by
  rw [List.takeWhile_append_of_pos all, List.dropWhile_append_of_pos all]
  cases rest with
  | nil => simp
  | cons a rest => simp [stop a rfl]

/-- The maximal runs of other characters between white space. -/
def words : List α → List (List α)
  | [] => []
  | c :: rest =>
    if isBlank c then words rest
    else (c :: rest.takeWhile (fun d => !isBlank d)) :: words (rest.dropWhile (fun d => !isBlank d))
termination_by s => s.length
decreasing_by
  · simp
  · have := length_dropWhile_le (fun d => !isBlank d) rest
    simp only [List.length_cons]
    omega

/-- Only the white space behind a text is stripped when the text has none at its ends. -/
theorem strip_append {s blanks : List α} (solid : s ≠ []) (first : ∀ c ∈ s.head?, isBlank c = false)
    (last : ∀ c ∈ s.getLast?, isBlank c = false) (blank : ∀ c ∈ blanks, isBlank c = true) :
    strip (s ++ blanks) = s := by
  have front : (s ++ blanks).dropWhile isBlank = s ++ blanks := by
    obtain ⟨c, rest, rfl⟩ := List.exists_cons_of_ne_nil solid
    rw [List.cons_append, List.dropWhile_cons, first c rfl]
    rfl
  have back : s.reverse.dropWhile isBlank = s.reverse := by
    obtain ⟨c, rest, eq⟩ := List.exists_cons_of_ne_nil (List.reverse_ne_nil_iff.2 solid)
    rw [eq, List.dropWhile_cons, last c (by rw [List.getLast?_eq_head?_reverse, eq]; rfl)]
    rfl
  rw [strip, front, List.reverse_append,
    List.dropWhile_append_of_pos fun c member => blank c (List.mem_reverse.1 member), back, List.reverse_reverse]

omit [Coded α] in
theorem all_of_dropWhile_eq_nil {p : α → Bool} {s : List α} (nothing : s.dropWhile p = []) :
    s.all p = true := by
  have whole := List.takeWhile_append_dropWhile (p := p) (l := s)
  rw [nothing, List.append_nil] at whole
  rw [← whole]
  exact List.all_takeWhile

/-- Nothing is left of a text exactly if all of it is white space. -/
theorem strip_eq_nil_iff {s : List α} : strip s = [] ↔ allBlank s = true := by
  constructor
  · intro nothing
    have behind : (s.dropWhile isBlank).all isBlank = true := by
      rw [← List.all_reverse]
      exact all_of_dropWhile_eq_nil (List.reverse_eq_nil_iff.1 nothing)
    rw [allBlank, ← List.takeWhile_append_dropWhile (p := isBlank) (l := s), List.all_append, List.all_takeWhile, behind]
    rfl
  · intro blank
    have nothing : (s ++ []).dropWhile isBlank = [] := (span_append [] (List.all_eq_true.1 blank) (by simp)).2
    rw [List.append_nil] at nothing
    rw [strip, nothing]
    rfl

/-- No white space stands at the ends of a text. -/
def Trimmed (s : List α) : Prop := (∀ c ∈ s.head?, isBlank c = false) ∧ ∀ c ∈ s.getLast?, isBlank c = false

theorem trimmed_strip (s : List α) : Trimmed (strip s) := by
  have front (c : α) (first : c ∈ (s.dropWhile isBlank).head?) : isBlank c = false := by
    have kept := List.head?_dropWhile_not isBlank s
    rw [Option.mem_def.1 first] at kept
    simpa using kept
  refine ⟨fun c first => front c ?_, fun c last => ?_⟩
  · have start : strip s <+: s.dropWhile isBlank := by
      rw [← List.reverse_suffix, strip, List.reverse_reverse]
      exact List.dropWhile_suffix _
    obtain ⟨blanks, whole⟩ := start
    rw [← whole, List.head?_append, Option.mem_def.1 first]
    rfl
  · rw [strip, List.getLast?_reverse] at last
    have kept := List.head?_dropWhile_not isBlank (s.dropWhile isBlank).reverse
    rw [Option.mem_def.1 last] at kept
    simpa using kept

/-- Stripping leaves exactly the texts without white space at their ends. -/
theorem strip_eq_self_iff {s : List α} : strip s = s ↔ Trimmed s := by
  constructor
  · intro same
    exact same ▸ trimmed_strip s
  · rintro ⟨first, last⟩
    cases s with
    | nil => rfl
    | cons c rest =>
      have behind : strip (c :: rest ++ []) = c :: rest :=
        strip_append (List.cons_ne_nil c rest) first last (by simp)
      rwa [List.append_nil] at behind

instance [DecidableEq α] (s : List α) : Decidable (Trimmed s) := decidable_of_iff (strip s = s) strip_eq_self_iff

/-- Stripping leaves a stripped text. -/
theorem strip_strip (s : List α) : strip (strip s) = strip s := strip_eq_self_iff.2 (trimmed_strip s)

end

theorem isBlank_space : isBlank ' ' = true := by decide

@[simp] theorem isBlank_char (c : Char) : isBlank (CodePoint.char c) = isBlank c := rfl

end ChatService.Text
