import ChatService.Proofs.Json.Tokens

/-!
# Written values read back

A value without doubles is read back from the line that it is written on, and the line holds
printable ASCII characters only. A reading that meets the text of a value ends up where it
would be if the value had been one token.
-/

namespace ChatService.Json

/-! ## Values -/

/-- A value that can be read back: it holds no doubles, its whole numbers are not too long to be read, no two
halves that make up a character stand together in its texts, and the keys of an object are different. -/
inductive Readable : Json → Prop
  | null : Readable .null
  | bool (b : Bool) : Readable (.bool b)
  | int {n : Int} (short : Legible n.natAbs) : Readable (.int n)
  | str {s : Text} (apart : Apart s) : Readable (.str s)
  | arr {items : List Json} (all : ∀ v ∈ items, Readable v) : Readable (.arr items)
  | obj {fields : List (Text × Json)} (distinct : (fields.map Prod.fst).Nodup)
      (apart : ∀ f ∈ fields, Apart f.1) (all : ∀ f ∈ fields, Readable f.2) : Readable (.obj fields)

theorem put_of_new {key : Text} {done : List (Text × Json)} (new : key ∉ done.map Prod.fst) (v : Json) :
    put key v done = done ++ [(key, v)] := by
  induction done with
  | nil => rfl
  | cons field done ih =>
    rw [List.map_cons, List.mem_cons, not_or] at new
    rw [put, if_neg (Ne.symm new.1), ih new.2, List.cons_append]

theorem forall_put {p : Text × Json → Prop} {key : Text} {v : Json} {fields : List (Text × Json)}
    (holds : p (key, v)) (all : ∀ f ∈ fields, p f) : ∀ f ∈ put key v fields, p f := by
  induction fields with
  | nil => simpa [put] using holds
  | cons field fields ih =>
    obtain ⟨first, others⟩ := List.forall_mem_cons.1 all
    rw [put]
    split
    · next same => exact List.forall_mem_cons.2 ⟨same ▸ holds, others⟩
    · exact List.forall_mem_cons.2 ⟨first, ih others⟩

/-- Setting a field keeps the keys, or adds the key at the end when it is new. -/
theorem keys_put (key : Text) (v : Json) (fields : List (Text × Json)) :
    (put key v fields).map Prod.fst =
      fields.map Prod.fst ++ if key ∈ fields.map Prod.fst then [] else [key] := by
  induction fields with
  | nil => rfl
  | cons field fields ih =>
    rw [put]
    split
    · next same => simp [same]
    · next other =>
      rw [List.map_cons, ih, List.map_cons, List.cons_append]
      simp only [List.mem_cons, Ne.symm other, false_or]

theorem nodup_put {key : Text} {v : Json} {fields : List (Text × Json)}
    (distinct : (fields.map Prod.fst).Nodup) : ((put key v fields).map Prod.fst).Nodup := by
  rw [keys_put]
  split
  · simpa using distinct
  · next new =>
    refine List.nodup_append.2 ⟨distinct, by simp, ?_⟩
    rintro k old k' last rfl
    cases List.mem_singleton.1 last
    exact new old

namespace Reading

theorem run_of_takes {s rest : List Char} {t : Token} (takes : Takes s t rest) {r r' : Reading}
    (stepped : r.step t = .ok r') : r.run s = r'.run rest := by
  rw [Takes] at takes
  rw [run]
  split
  · next found => rw [found] at takes; cases takes
  · next found => rw [found] at takes; cases takes
  · next found =>
    rw [found] at takes
    cases takes
    simp only [stepped]

theorem run_eq (r : Reading) {s bare : List Char} (skipped : s.dropWhile isSpace = bare) :
    r.run s = match scanToken bare with
      | .done => r.result
      | .bad => .error (r.stop s)
      | .token t rest _ =>
        match r.step t with
        | .ok r' => r'.run rest
        | .error .unexpected => .error (r.stop s)
        | .error (.oversized digits) => .error (.oversized digits) := by
  subst skipped
  rw [run, nextToken]
  cases scanToken (s.dropWhile isSpace) <;> rfl

theorem run_space (r : Reading) (s : List Char) : r.run (' ' :: s) = r.run s := by
  have skipped : (' ' :: s).dropWhile isSpace = s.dropWhile isSpace := rfl
  have stopped : r.stop (' ' :: s) = r.stop s := congrArg (fun t => ReadError.malformed ⟨r.phase.expected, t⟩) skipped
  rw [run_eq r skipped, run_eq r rfl, stopped]

/-- A reading that awaits a value, or a value or the close bracket. -/
def Awaits (phase : Phase) : Prop := phase = .value ∨ phase = .itemOrClose

theorem step_scalar {phase : Phase} (awaits : Awaits phase) (v : Json) (stack : List Frame) :
    step ⟨phase, stack⟩ (.scalar v) = finish v stack := by
  rcases awaits with rfl | rfl <;> rfl

theorem step_openBracket {phase : Phase} (awaits : Awaits phase) (stack : List Frame) :
    step ⟨phase, stack⟩ .openBracket = .ok ⟨.itemOrClose, .items [] :: stack⟩ := by
  rcases awaits with rfl | rfl <;> rfl

theorem step_openBrace {phase : Phase} (awaits : Awaits phase) (stack : List Frame) :
    step ⟨phase, stack⟩ .openBrace = .ok ⟨.keyOrClose, .fields [] :: stack⟩ := by
  rcases awaits with rfl | rfl <;> rfl

/-- What stands for a value in a text: where the value is awaited, the reading goes on behind it as if the
value had been one token. -/
def StandsFor (text : List Char) (v : Json) : Prop :=
  ∀ ⦃phase : Phase⦄ ⦃stack : List Frame⦄ ⦃r : Reading⦄ ⦃rest : List Char⦄, Awaits phase →
    finish v stack = .ok r → Ends rest → run ⟨phase, stack⟩ (text ++ rest) = r.run rest

theorem standsFor_of_takes {text : List Char} {v : Json}
    (takes : ∀ {rest}, Ends rest → Takes (text ++ rest) (.scalar v) rest) : StandsFor text v := by
  intro phase stack r rest awaits finished ends
  exact run_of_takes (takes ends) ((step_scalar awaits v stack).trans finished)

theorem ends_writeItems (items : List Json) (rest : List Char) : Ends (writeItems .ascii items ++ rest) := by
  intro c head
  cases items with
  | nil =>
    cases head
    exact .inr (.inl rfl)
  | cons v items =>
    cases head
    exact .inl rfl

theorem ends_writeFields (fields : List (Text × Json)) (rest : List Char) :
    Ends (writeFields .ascii fields ++ rest) := by
  intro c head
  cases fields with
  | nil =>
    cases head
    exact .inr (.inr rfl)
  | cons field fields =>
    cases head
    exact .inl rfl

/-- The items behind the first one are read one by one, up to the close bracket. -/
theorem run_writeItems {items : List Json} (all : ∀ v ∈ items, StandsFor (write .ascii v) v) {done : List Json}
    {stack : List Frame} {r : Reading} (finished : finish (.arr (done.reverse ++ items)) stack = .ok r)
    (rest : List Char) :
    run ⟨.commaOrClose, .items done :: stack⟩ (writeItems .ascii items ++ rest) = r.run rest := by
  induction items generalizing done with
  | nil =>
    have closed : step ⟨.commaOrClose, .items done :: stack⟩ .closeBracket = .ok r := by
      rwa [List.append_nil] at finished
    exact run_of_takes (takes_punctuation rfl rest) closed
  | cons v items ih =>
    have next : finish v (.items done :: stack) = .ok ⟨.commaOrClose, .items (v :: done) :: stack⟩ := rfl
    have separated : step ⟨.commaOrClose, .items done :: stack⟩ .comma = .ok ⟨.value, .items done :: stack⟩ := rfl
    have read := all v (List.mem_cons_self ..) (.inl rfl) next (ends_writeItems items rest)
    rw [writeItems, List.cons_append, List.cons_append, List.append_assoc,
      run_of_takes (takes_punctuation rfl _) separated, run_space, read]
    exact ih (fun w member => all w (List.mem_cons_of_mem _ member)) (by simpa using finished)

/-- A key with its value becomes a field. -/
theorem run_member {v : Json} (stands : StandsFor (write .ascii v) v) {phase : Phase}
    (awaits : phase = .keyOrClose ∨ phase = .key) {key : Text} (apart : Apart key) (done : List (Text × Json))
    (stack : List Frame) {rest : List Char} (ends : Ends rest) :
    run ⟨phase, .fields done :: stack⟩ (writeText .ascii key ++ ':' :: ' ' :: write .ascii v ++ rest) =
      run ⟨.commaOrClose, .fields (put key v done) :: stack⟩ rest := by
  have named : step ⟨phase, .fields done :: stack⟩ (.scalar (.str key)) =
      .ok ⟨.colon key, .fields done :: stack⟩ := by
    rcases awaits with rfl | rfl <;> rfl
  have next : finish v (.member done key :: stack) = .ok ⟨.commaOrClose, .fields (put key v done) :: stack⟩ := rfl
  have separated : step ⟨.colon key, .fields done :: stack⟩ .colon = .ok ⟨.value, .member done key :: stack⟩ := rfl
  rw [List.append_assoc, run_of_takes (takes_text apart _) named, List.cons_append, List.cons_append,
    run_of_takes (takes_punctuation rfl _) separated, run_space]
  exact stands (.inl rfl) next ends

/-- The fields behind the first one are read one by one, up to the close brace. -/
theorem run_writeFields {fields : List (Text × Json)} (apart : ∀ f ∈ fields, Apart f.1)
    (all : ∀ f ∈ fields, StandsFor (write .ascii f.2) f.2) {done : List (Text × Json)}
    (distinct : ((done ++ fields).map Prod.fst).Nodup) {stack : List Frame} {r : Reading}
    (finished : finish (.obj (done ++ fields)) stack = .ok r) (rest : List Char) :
    run ⟨.commaOrClose, .fields done :: stack⟩ (writeFields .ascii fields ++ rest) = r.run rest := by
  induction fields generalizing done with
  | nil =>
    have closed : step ⟨.commaOrClose, .fields done :: stack⟩ .closeBrace = .ok r := by
      rwa [List.append_nil] at finished
    exact run_of_takes (takes_punctuation rfl rest) closed
  | cons field fields ih =>
    obtain ⟨key, v⟩ := field
    have new : key ∉ done.map Prod.fst := by
      rw [List.map_append, List.nodup_append] at distinct
      exact fun old => distinct.2.2 key old key (List.mem_cons_self ..) rfl
    have separated : step ⟨.commaOrClose, .fields done :: stack⟩ .comma = .ok ⟨.key, .fields done :: stack⟩ := rfl
    have read := run_member (all (key, v) (List.mem_cons_self ..)) (.inr rfl)
      (apart (key, v) (List.mem_cons_self ..)) done stack
      (ends_writeFields fields rest)
    rw [writeFields, List.cons_append, List.cons_append, List.append_assoc,
      run_of_takes (takes_punctuation rfl _) separated, run_space, read, put_of_new new]
    have same : done ++ (key, v) :: fields = (done ++ [(key, v)]) ++ fields := by simp
    rw [same] at distinct finished
    exact ih (fun f member => apart f (List.mem_cons_of_mem _ member))
      (fun f member => all f (List.mem_cons_of_mem _ member)) distinct finished

/-- A written value stands for itself. -/
theorem standsFor_write {v : Json} (readable : Readable v) : StandsFor (write .ascii v) v := by
  induction readable with
  | null => exact standsFor_of_takes fun _ => takes_null _
  | bool b => exact standsFor_of_takes fun _ => takes_bool b _
  | int short => exact standsFor_of_takes (takes_int short)
  | str apart => exact standsFor_of_takes fun _ => takes_text apart _
  | @arr items _ ih =>
    intro phase stack r rest awaits finished _
    cases items with
    | nil =>
      have closed : step ⟨.itemOrClose, .items [] :: stack⟩ .closeBracket = .ok r := finished
      rw [write, List.cons_append, run_of_takes (takes_punctuation rfl _) (step_openBracket awaits stack)]
      exact run_of_takes (takes_punctuation rfl rest) closed
    | cons v items =>
      have first : finish v (.items [] :: stack) = .ok ⟨.commaOrClose, .items [v] :: stack⟩ := rfl
      have last : finish (.arr ([v].reverse ++ items)) stack = .ok r := finished
      rw [write, List.cons_append, run_of_takes (takes_punctuation rfl _) (step_openBracket awaits stack),
        List.append_assoc, ih v (List.mem_cons_self ..) (.inr rfl) first (ends_writeItems items rest)]
      exact run_writeItems (fun w member => ih w (List.mem_cons_of_mem _ member)) last rest
  | @obj fields distinct apart _ ih =>
    intro phase stack r rest awaits finished _
    cases fields with
    | nil =>
      have closed : step ⟨.keyOrClose, .fields [] :: stack⟩ .closeBrace = .ok r := finished
      rw [write, List.cons_append, run_of_takes (takes_punctuation rfl _) (step_openBrace awaits stack)]
      exact run_of_takes (takes_punctuation rfl rest) closed
    | cons field fields =>
      obtain ⟨key, v⟩ := field
      have first := ih (key, v) (List.mem_cons_self ..)
      rw [write, List.cons_append, run_of_takes (takes_punctuation rfl _) (step_openBrace awaits stack),
        List.append_assoc,
        run_member first (.inl rfl) (apart (key, v) (List.mem_cons_self ..)) [] stack (ends_writeFields fields rest)]
      exact run_writeFields (fun f member => apart f (List.mem_cons_of_mem _ member))
        (fun f member => ih f (List.mem_cons_of_mem _ member)) distinct finished rest

end Reading

/-- A written value is read back. -/
theorem read_write {v : Json} (readable : Readable v) : read (write .ascii v) = .ok v := by
  have read : Reading.run ⟨.value, []⟩ (write .ascii v ++ []) = Reading.run ⟨.complete v, []⟩ [] :=
    Reading.standsFor_write readable (.inl rfl) rfl (by simp [Ends])
  rw [List.append_nil] at read
  rw [Json.read, Reading.start, read, Reading.run_eq _ rfl]
  rfl

/-! ## Characters -/

/-- Only printable ASCII characters. -/
def Printable (s : List Char) : Prop := ∀ c ∈ s, 32 ≤ c.toNat ∧ c.toNat < 127

instance (s : List Char) : Decidable (Printable s) := List.decidableBAll _ s

namespace Printable

theorem append {s t : List Char} (first : Printable s) (second : Printable t) : Printable (s ++ t) := by
  intro c member
  rcases List.mem_append.1 member with member | member
  · exact first c member
  · exact second c member

theorem cons {c : Char} {s : List Char} (first : 32 ≤ c.toNat ∧ c.toNat < 127) (others : Printable s) :
    Printable (c :: s) :=
  List.forall_mem_cons.2 ⟨first, others⟩

theorem unitEscape (n : Nat) : Printable (unitEscape n) := by
  have digit : ∀ d < 16, 32 ≤ (Nat.digitChar d).toNat ∧ (Nat.digitChar d).toNat < 127 := by decide
  have hex : ∀ m, 32 ≤ (hexDigit m).toNat ∧ (hexDigit m).toNat < 127 := fun m =>
    digit (m % 16) (Nat.mod_lt m (by decide))
  exact .cons (by decide) (.cons (by decide) (.cons (hex _) (.cons (hex _) (.cons (hex _) (.cons (hex _) nofun)))))

theorem numericEscape (c : Char) : Printable (numericEscape c) := by
  unfold Json.numericEscape
  split
  · exact unitEscape _
  · exact (unitEscape _).append (unitEscape _)

theorem escape (c : Char) : Printable (escape .ascii c) := by
  unfold Json.escape
  split
  · decide
  split
  · decide
  split
  · decide
  split
  · decide
  split
  · decide
  split
  · decide
  split
  · decide
  split
  · exact numericEscape c
  split
  · exact numericEscape c
  · next low high =>
    simp only [true_and] at high
    exact .cons (by omega) nofun

theorem escapePoint (c : CodePoint) : Printable (escapePoint .ascii c) := by
  cases c with
  | char c => exact escape c
  | half n => exact unitEscape _

theorem writeText (s : Text) : Printable (writeText .ascii s) := by
  refine .cons (by decide) (.append ?_ (by decide))
  intro d member
  obtain ⟨c, -, inside⟩ := List.mem_flatMap.1 member
  exact escapePoint c d inside

theorem writeInt (n : Int) : Printable (writeInt n) := by
  have digits : Printable (Nat.toDigits 10 n.natAbs) := by
    intro c member
    have range := Char.isDigit_iff_toNat.1 (isDigit_of_mem member)
    simp only [Char.reduceToNat] at range
    omega
  unfold Json.writeInt Binary64.withSign
  split
  · exact .cons (by decide) digits
  · exact digits

theorem writeItems {items : List Json} (all : ∀ v ∈ items, Printable (write .ascii v)) :
    Printable (writeItems .ascii items) := by
  induction items with
  | nil => exact (by decide : Printable [']'])
  | cons v items ih =>
    rw [Json.writeItems]
    exact .cons (by decide) (.cons (by decide) ((all v (List.mem_cons_self ..)).append
      (ih fun w member => all w (List.mem_cons_of_mem _ member))))

theorem member (key : Text) {value behind : List Char} (written : Printable value) (others : Printable behind) :
    Printable (Json.writeText .ascii key ++ ':' :: ' ' :: value ++ behind) :=
  ((writeText key).append (.cons (by decide) (.cons (by decide) written))).append others

theorem writeFields {fields : List (Text × Json)} (all : ∀ f ∈ fields, Printable (write .ascii f.2)) :
    Printable (writeFields .ascii fields) := by
  induction fields with
  | nil => exact (by decide : Printable ['}'])
  | cons field fields ih =>
    obtain ⟨key, v⟩ := field
    rw [Json.writeFields]
    exact .cons (by decide) (.cons (by decide) (.member key (all (key, v) (List.mem_cons_self ..))
      (ih fun f member => all f (List.mem_cons_of_mem _ member))))

end Printable

/-- What is written is printable. -/
theorem printable_write {v : Json} (readable : Readable v) : Printable (write .ascii v) := by
  induction readable with
  | null => exact (by decide : Printable ['n', 'u', 'l', 'l'])
  | bool b =>
    cases b with
    | true => exact (by decide : Printable ['t', 'r', 'u', 'e'])
    | false => exact (by decide : Printable ['f', 'a', 'l', 's', 'e'])
  | int _ => exact .writeInt _
  | str _ => exact .writeText _
  | @arr items _ ih =>
    cases items with
    | nil => exact (by decide : Printable ['[', ']'])
    | cons v items =>
      rw [write]
      exact .cons (by decide) ((ih v (List.mem_cons_self ..)).append
        (.writeItems fun w member => ih w (List.mem_cons_of_mem _ member)))
  | @obj fields _ _ _ ih =>
    cases fields with
    | nil => exact (by decide : Printable ['{', '}'])
    | cons field fields =>
      obtain ⟨key, v⟩ := field
      rw [write]
      exact .cons (by decide) (.member key (ih (key, v) (List.mem_cons_self ..))
        (.writeFields fun f member => ih f (List.mem_cons_of_mem _ member)))

end ChatService.Json
