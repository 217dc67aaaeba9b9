import ChatService.Calculator.Evaluate
import ChatService.Text.Basic

/-!
# Expressions in texts

The calculator works on characters. A half that stands alone means no more to it than most
characters do, but a fault may quote it from the expression. So it takes part in the guise
of a character without a meaning that the expression does not hold.
-/

namespace ChatService.Calculator

/-- Blocks of 2048 characters that are no letters, digits, marks or white space: in the planes 4 to 13 no
character is assigned. -/
def guiseBlocks : List Nat := (List.range 320).map fun n => 0x40000 + 2048 * n

def inBlock (block n : Nat) : Bool := block ≤ n && n < block + 2048

/-- The first block that a text does not touch. There is one unless the text touches all 320. -/
def freeBlock (t : Text) : Nat :=
  (guiseBlocks.find? fun block => t.all fun c => !inBlock block c.value).getD 0x40000

/-- The character that stands for a code point. -/
def disguise (block : Nat) : CodePoint → Char
  | .char c => c
  | .half n => Char.ofNat (block + n)

/-- The code point that a character stands for. -/
def reveal (block : Nat) (c : Char) : CodePoint :=
  if inBlock block c.toNat then CodePoint.ofNat (0xD800 + (c.toNat - block)) else .char c

theorem toNat_disguise_half {block : Nat} (assigned : block ∈ guiseBlocks) (n : Fin 2048) :
    (disguise block (.half n)).toNat = block + n := by
  obtain ⟨k, below, rfl⟩ := List.mem_map.1 assigned
  have := List.mem_range.1 below
  have valid : (0x40000 + 2048 * k + n.val).isValidChar := .inr ⟨by omega, by omega⟩
  rw [disguise, Char.ofNat, dif_pos valid]
  rfl

/-- Under a block that they do not touch, code points are known again. -/
theorem reveal_disguise {block : Nat} (assigned : block ∈ guiseBlocks) {c : CodePoint}
    (free : inBlock block c.value = false) : reveal block (disguise block c) = c := by
  cases c with
  | char c =>
    have free : inBlock block c.toNat = false := free
    exact if_neg (Bool.eq_false_iff.1 free)
  | half n =>
    have inside : inBlock block (block + n) = true := by
      simp [inBlock]
    have lone : 0xD800 ≤ 0xD800 + n.val ∧ 0xD800 + n.val < 0xE000 := by omega
    rw [reveal, toNat_disguise_half assigned, if_pos inside, Nat.add_sub_cancel_left, CodePoint.ofNat, dif_pos lone]
    exact congrArg CodePoint.half (Fin.ext (Nat.add_sub_cancel_left ..))

/-- A code point touches one block at most, so a text leaves one of more blocks than it has code points. -/
theorem exists_untouched {t : Text} {numbers : List Nat} (distinct : numbers.Nodup)
    (short : t.length < numbers.length) :
    ∃ n ∈ numbers, ∀ c ∈ t, inBlock (0x40000 + 2048 * n) c.value = false := by
  induction t generalizing numbers with
  | nil =>
    obtain ⟨n, isMem⟩ := List.exists_mem_of_length_pos short
    exact ⟨n, isMem, nofun⟩
  | cons c t ih =>
    let touched := (c.value - 0x40000) / 2048
    have fewer : numbers.length - 1 ≤ (numbers.erase touched).length := List.le_length_erase
    rw [List.length_cons] at short
    obtain ⟨n, isMem, free⟩ := ih (distinct.erase touched) (by omega)
    obtain ⟨other, isMem⟩ := distinct.mem_erase_iff.1 isMem
    refine ⟨n, isMem, List.forall_mem_cons.2 ⟨?_, free⟩⟩
    have : ¬(0x40000 + 2048 * n ≤ c.value ∧ c.value < 0x40000 + 2048 * n + 2048) := by omega
    simpa [inBlock] using this

/-- The guise of a text of less than 320 code points can be seen through. -/
theorem reveal_guise {t : Text} (short : t.length < 320) :
    (t.map (disguise (freeBlock t))).map (reveal (freeBlock t)) = t := by
  have short : t.length < (List.range 320).length := by rwa [List.length_range]
  obtain ⟨n, below, untouched⟩ := exists_untouched List.nodup_range short
  cases found : guiseBlocks.find? fun block => t.all fun c => !inBlock block c.value with
  | none =>
    have touched := List.find?_eq_none.1 found _ (List.mem_map_of_mem below)
    exact absurd (by simpa using untouched) touched
  | some block =>
    have free : ∀ c ∈ t, inBlock block c.value = false := by simpa using List.find?_some found
    rw [freeBlock, found, Option.getD_some, List.map_map]
    exact (List.map_congr_left fun c isMem =>
      reveal_disguise (List.mem_of_find?_eq_some found) (free c isMem)).trans (List.map_id t)

/-- The value of an expression, or the words of its fault. -/
def calculate (expression : Text) : Except Text Float :=
  let block := freeBlock expression
  (evaluate (expression.map (disguise block))).mapError fun fault => fault.message.toList.map (reveal block)

end ChatService.Calculator
