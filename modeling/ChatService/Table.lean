/-!
# Tables in order of insertion

A table maps keys to values and keeps its keys in the order in which they were first
inserted. No key occurs twice. Its laws are stated through `find?`, `keys` and `values`.
-/

namespace ChatService

/-- Keys with their values, oldest key first. -/
structure Table (κ α : Type) where
  entries : List (κ × α)
  distinct : (entries.map (·.1)).Nodup
deriving Repr

namespace Table

variable {κ α : Type} [DecidableEq κ]

def empty : Table κ α := ⟨[], List.nodup_nil⟩

instance : Inhabited (Table κ α) := ⟨empty⟩

/-- The value of a key in a list of entries. -/
def findIn (k : κ) : List (κ × α) → Option α
  | [] => none
  | (k', a) :: rest => if k' = k then some a else findIn k rest

/-- Entries with the value of a key set. -/
def insertIn (k : κ) (a : α) : List (κ × α) → List (κ × α)
  | [] => [(k, a)]
  | (k', b) :: rest => if k' = k then (k, a) :: rest else (k', b) :: insertIn k a rest

theorem keys_insertIn (k : κ) (a : α) (l : List (κ × α)) :
    (insertIn k a l).map (·.1) = if k ∈ l.map (·.1) then l.map (·.1) else l.map (·.1) ++ [k] := by
  induction l with
  | nil => simp [insertIn]
  | cons e rest ih =>
    by_cases same : e.1 = k
    · simp [insertIn, same]
    · simp only [insertIn, if_neg same, List.map_cons, ih, List.mem_cons]
      have : k ≠ e.1 := Ne.symm same
      simp only [this, false_or]
      split <;> simp

theorem nodup_keys_insertIn (k : κ) (a : α) {l : List (κ × α)} (distinct : (l.map (·.1)).Nodup) :
    ((insertIn k a l).map (·.1)).Nodup := by
  rw [keys_insertIn]
  split
  · exact distinct
  · next absent =>
    rw [List.nodup_append]
    refine ⟨distinct, by simp, ?_⟩
    intro x member y last equal
    rw [List.mem_singleton] at last
    exact absent (last ▸ equal ▸ member)

def find? (t : Table κ α) (k : κ) : Option α := findIn k t.entries

def contains (t : Table κ α) (k : κ) : Bool := (t.find? k).isSome

/-- The table with the value of a key set; a new key goes to the end. -/
def insert (t : Table κ α) (k : κ) (a : α) : Table κ α :=
  ⟨insertIn k a t.entries, nodup_keys_insertIn k a t.distinct⟩

def erase (t : Table κ α) (k : κ) : Table κ α :=
  ⟨t.entries.filter fun e => e.1 ≠ k, (List.filter_sublist.map _).nodup t.distinct⟩

def keys (t : Table κ α) : List κ := t.entries.map (·.1)

/-- The values in the order of their keys. -/
def values (t : Table κ α) : List α := t.entries.map (·.2)

@[simp] theorem find?_empty (k : κ) : (empty : Table κ α).find? k = none := rfl

theorem findIn_insertIn_self (k : κ) (a : α) (l : List (κ × α)) : findIn k (insertIn k a l) = some a := by
  induction l with
  | nil => simp [insertIn, findIn]
  | cons e rest ih => by_cases h : e.1 = k <;> simp [insertIn, findIn, h, ih]

theorem findIn_insertIn_of_ne {k k' : κ} (a : α) (l : List (κ × α)) (h : k' ≠ k) :
    findIn k' (insertIn k a l) = findIn k' l := by
  induction l with
  | nil => simp [insertIn, findIn, Ne.symm h]
  | cons e rest ih =>
    by_cases same : e.1 = k
    · simp [insertIn, findIn, same, Ne.symm h]
    · simp only [insertIn, if_neg same, findIn, ih]

theorem find?_insert (t : Table κ α) (k k' : κ) (a : α) :
    (t.insert k a).find? k' = if k' = k then some a else t.find? k' := by
  split
  · next h => subst h; exact findIn_insertIn_self k' a t.entries
  · next h => exact findIn_insertIn_of_ne a t.entries h

theorem findIn_filter_ne {k k' : κ} (l : List (κ × α)) :
    findIn k' (l.filter fun e => decide (e.1 ≠ k)) = if k' = k then none else findIn k' l := by
  induction l with
  | nil => simp [findIn]
  | cons e rest ih =>
    by_cases same : e.1 = k
    · by_cases h : k' = k
      · subst h; simpa [findIn, same] using ih
      · simp only [ne_eq, same, not_true_eq_false, decide_false, Bool.false_eq_true, not_false_eq_true,
          List.filter_cons_of_neg, findIn, Ne.symm h, ite_false]
        simpa [h] using ih
    · by_cases h : k' = k
      · subst h; simpa [findIn, same] using ih
      · by_cases o : e.1 = k'
        · simp [findIn, o, h]
        · simp only [ne_eq, same, not_false_eq_true, decide_true, List.filter_cons_of_pos, findIn, o, ite_false]
          simpa using ih

theorem find?_erase (t : Table κ α) (k k' : κ) :
    (t.erase k).find? k' = if k' = k then none else t.find? k' :=
  findIn_filter_ne t.entries

theorem find?_of_find?_erase {t : Table κ α} {k k' : κ} {a : α} (found : (t.erase k).find? k' = some a) :
    t.find? k' = some a := by
  rw [find?_erase] at found
  exact (Option.ite_none_left_eq_some.1 found).2

/-- A known key keeps its place and a new one goes to the end. -/
theorem keys_insert (t : Table κ α) (k : κ) (a : α) :
    (t.insert k a).keys = if k ∈ t.keys then t.keys else t.keys ++ [k] :=
  keys_insertIn k a t.entries

theorem insertIn_of_new {k : κ} (a : α) {l : List (κ × α)} (new : findIn k l = none) :
    insertIn k a l = l ++ [(k, a)] := by
  induction l with
  | nil => rfl
  | cons e rest ih =>
    by_cases same : e.1 = k
    · simp [findIn, same] at new
    · rw [findIn, if_neg same] at new
      rw [insertIn, if_neg same, ih new, List.cons_append]

/-- The value of a new key goes to the end. -/
theorem values_insert_of_new {t : Table κ α} {k : κ} (a : α) (new : t.find? k = none) :
    (t.insert k a).values = t.values ++ [a] := by
  simp only [values, insert, insertIn_of_new a new, List.map_append, List.map_cons, List.map_nil]

theorem findIn_eq_some_iff {k : κ} {a : α} {l : List (κ × α)} (distinct : (l.map (·.1)).Nodup) :
    findIn k l = some a ↔ (k, a) ∈ l := by
  induction l with
  | nil => simp [findIn]
  | cons e rest ih =>
    obtain ⟨fresh, distinct⟩ := List.nodup_cons.1 distinct
    by_cases same : e.1 = k
    · simp only [findIn, if_pos same, Option.some.injEq, List.mem_cons]
      constructor
      · rintro rfl
        exact .inl (Prod.ext same.symm rfl)
      · rintro (rfl | later)
        · rfl
        · have repeated : e.1 ∈ rest.map (·.1) := same ▸ List.mem_map_of_mem later
          exact absurd repeated fresh
    · have other : (k, a) ≠ e := fun equal => same (equal ▸ rfl)
      simp only [findIn, if_neg same, ih distinct, List.mem_cons, other, false_or]

/-- The entries of a table are its keys with their values. -/
theorem mem_entries_iff {t : Table κ α} {k : κ} {a : α} : (k, a) ∈ t.entries ↔ t.find? k = some a :=
  (findIn_eq_some_iff t.distinct).symm

theorem mem_values_iff {t : Table κ α} {a : α} : a ∈ t.values ↔ ∃ k, t.find? k = some a := by
  simp only [values, List.mem_map, Prod.exists, exists_eq_right, mem_entries_iff]

/-! ## Equal tables -/

omit [DecidableEq κ] in
theorem ext {t t' : Table κ α} (same : t.entries = t'.entries) : t = t' := by
  cases t
  cases t'
  cases same
  rfl

theorem insertIn_insertIn (k : κ) (a b : α) (l : List (κ × α)) :
    insertIn k b (insertIn k a l) = insertIn k b l := by
  induction l with
  | nil => simp [insertIn]
  | cons e rest ih => by_cases same : e.1 = k <;> simp [insertIn, same, ih]

theorem insertIn_of_findIn {k : κ} {a : α} {l : List (κ × α)} (found : findIn k l = some a) :
    insertIn k a l = l := by
  induction l with
  | nil => cases found
  | cons e rest ih =>
    by_cases same : e.1 = k
    · simp only [findIn, if_pos same, Option.some.injEq] at found
      rw [insertIn, if_pos same, ← same, ← found]
    · rw [findIn, if_neg same] at found
      rw [insertIn, if_neg same, ih found]

theorem filter_insertIn (k : κ) (a : α) (l : List (κ × α)) :
    (insertIn k a l).filter (fun e => decide (e.1 ≠ k)) = l.filter fun e => decide (e.1 ≠ k) := by
  induction l with
  | nil => simp [insertIn]
  | cons e rest ih =>
    by_cases same : e.1 = k
    · simp [insertIn, same]
    · simpa [insertIn, same] using ih

/-- What is the same for the old and the new value of a key is the same for the table. -/
theorem map_insertIn {β : Type} {f : κ × α → β} {k : κ} {a b : α} {l : List (κ × α)} (found : findIn k l = some b)
    (same : f (k, a) = f (k, b)) : (insertIn k a l).map f = l.map f := by
  induction l with
  | nil => cases found
  | cons e rest ih =>
    by_cases here : e.1 = k
    · simp only [findIn, if_pos here, Option.some.injEq] at found
      subst here found
      simp [insertIn, same]
    · rw [findIn, if_neg here] at found
      rw [insertIn, if_neg here, List.map_cons, ih found, List.map_cons]

theorem insert_insert (t : Table κ α) (k : κ) (a b : α) : (t.insert k a).insert k b = t.insert k b :=
  ext (insertIn_insertIn k a b t.entries)

theorem insert_of_find? {t : Table κ α} {k : κ} {a : α} (found : t.find? k = some a) : t.insert k a = t :=
  ext (insertIn_of_findIn found)

theorem erase_of_new {t : Table κ α} {k : κ} (new : t.find? k = none) : t.erase k = t := by
  refine ext (List.filter_eq_self.2 fun e member => decide_eq_true ?_)
  rintro rfl
  cases new.symm.trans (mem_entries_iff.1 member)

theorem erase_insert (t : Table κ α) (k : κ) (a : α) : (t.insert k a).erase k = t.erase k :=
  ext (filter_insertIn k a t.entries)

/-! ## Changed values -/

section

variable {β : Type} (f : κ → α → β)

omit [DecidableEq κ] in
theorem keys_changed (l : List (κ × α)) : (l.map fun e => (e.1, f e.1 e.2)).map (·.1) = l.map (·.1) := by
  rw [List.map_map]
  rfl

/-- The table with every value changed. -/
def map (t : Table κ α) : Table κ β :=
  ⟨t.entries.map fun e => (e.1, f e.1 e.2), (keys_changed f t.entries).symm ▸ t.distinct⟩

omit [DecidableEq κ] in
@[simp] theorem keys_map (t : Table κ α) : (t.map f).keys = t.keys := keys_changed f t.entries

@[simp] theorem find?_map (t : Table κ α) (k : κ) : (t.map f).find? k = (t.find? k).map (f k) := by
  show findIn k (t.entries.map fun e => (e.1, f e.1 e.2)) = (findIn k t.entries).map (f k)
  induction t.entries with
  | nil => rfl
  | cons e rest ih =>
    by_cases here : e.1 = k
    · simp [findIn, here]
    · simpa [findIn, here] using ih

theorem map_insert (t : Table κ α) (k : κ) (a : α) : (t.insert k a).map f = (t.map f).insert k (f k a) := by
  apply ext
  show (insertIn k a t.entries).map (fun e => (e.1, f e.1 e.2)) =
    insertIn k (f k a) (t.entries.map fun e => (e.1, f e.1 e.2))
  induction t.entries with
  | nil => rfl
  | cons e rest ih =>
    by_cases here : e.1 = k
    · simp [insertIn, here]
    · simpa [insertIn, here] using ih

theorem map_erase (t : Table κ α) (k : κ) : (t.erase k).map f = (t.map f).erase k := by
  apply ext
  simp only [map, erase, List.filter_map]
  rfl

omit [DecidableEq κ] in
theorem map_map {γ : Type} (g : κ → β → γ) (t : Table κ α) :
    (t.map f).map g = t.map fun k a => g k (f k a) := by
  apply ext
  simp only [map, List.map_map]
  rfl

omit [DecidableEq κ] in
/-- The values in their order, changed without regard to their keys. -/
theorem values_map (g : α → β) (t : Table κ α) : (t.map fun _ => g).values = t.values.map g := by
  simp only [values, map, List.map_map]
  rfl

/-- Only the entries of a table matter for what it is changed to. -/
theorem map_congr {f g : κ → α → β} {t : Table κ α} (same : ∀ k a, t.find? k = some a → f k a = g k a) :
    t.map f = t.map g := by
  apply ext
  refine List.map_congr_left fun e member => ?_
  rw [same e.1 e.2 (mem_entries_iff.1 member)]

end

end Table

end ChatService
