import ChatService.Client.Input
import ChatService.Proofs.Text.Case

/-!
# Quoted words

Any text can be typed as one word: in single quotes, where each single quote of its own is
put between double quotes. What follows is that every request that carries texts can be
typed, whatever the texts are.
-/

namespace ChatService.Client

/-- What stands inside the single quotes for a character. A single quote closes them, stands between double
quotes, and opens them again. -/
def quotedChar (c : Char) : List Char := if c = '\'' then ['\'', '"', '\'', '"', '\''] else [c]

def quotedChars (text : List Char) : List Char := '\'' :: (text.flatMap quotedChar ++ ['\''])

/-- A text as one word of a typed line. -/
def quoted (text : String) : String := String.ofList (quotedChars text.toList)

/-- The line of a command with texts: a colon, the command word, and each text in quotes behind a space. -/
def commandLine (word : String) (texts : List String) : String := " ".intercalate ((":" ++ word) :: texts.map quoted)

/-! ## Splitting what is quoted -/

theorem splitFrom_quotedChar (c : Char) (word : List Char) (done : List (List Char)) (rest : List Char) :
    splitFrom .single word done (quotedChar c ++ rest) = splitFrom .single (c :: word) done rest := by
  by_cases quote : c = '\''
  · subst quote
    rfl
  · rw [quotedChar, if_neg quote, List.singleton_append, splitFrom, if_neg quote]

/-- Inside single quotes the word grows by the text, up to the quote that closes them. -/
theorem splitFrom_inside (text word : List Char) (done : List (List Char)) (rest : List Char) :
    splitFrom .single word done (text.flatMap quotedChar ++ '\'' :: rest) =
      splitFrom .bare (text.reverse ++ word) done rest := by
  induction text generalizing word with
  | nil => rfl
  | cons c text ih =>
    rw [List.flatMap_cons, List.append_assoc, splitFrom_quotedChar, ih, List.reverse_cons, List.append_assoc]
    rfl

/-- A quoted text begins a word and is the whole of it so far. -/
theorem splitFrom_quotedChars (text : List Char) (done : List (List Char)) (rest : List Char) :
    splitFrom .between [] done (quotedChars text ++ rest) = splitFrom .bare text.reverse done rest := by
  have opened : quotedChars text ++ rest = '\'' :: (text.flatMap quotedChar ++ '\'' :: rest) := by
    simp [quotedChars]
  have inside := splitFrom_inside text [] done rest
  rw [List.append_nil] at inside
  rw [opened, ← inside]
  rfl

/-- Quoted texts behind a word, each after a space. -/
def quotedTail (texts : List (List Char)) : List Char := texts.flatMap fun text => ' ' :: quotedChars text

theorem splitFrom_quotedTail (word : List Char) (done texts : List (List Char)) :
    splitFrom .bare word done (quotedTail texts) = some (done.reverse ++ word.reverse :: texts) := by
  induction texts generalizing word done with
  | nil => simp [quotedTail, splitFrom]
  | cons text texts ih =>
    have space : splitFrom .bare word done (quotedTail (text :: texts)) =
        splitFrom .between [] (word.reverse :: done) (quotedChars text ++ quotedTail texts) := rfl
    rw [space, splitFrom_quotedChars, ih, List.reverse_reverse, List.reverse_cons, List.append_assoc]
    rfl

/-! ## Splitting a command word -/

/-- A character that stands for itself outside quotes. -/
def StandsForItself (c : Char) : Prop := isSeparator c = false ∧ c ≠ '\'' ∧ c ≠ '"' ∧ c ≠ '\\'

theorem splitFrom_bare {c : Char} (plain : StandsForItself c) (word : List Char) (done : List (List Char))
    (rest : List Char) : splitFrom .bare word done (c :: rest) = splitFrom .bare (c :: word) done rest := by
  obtain ⟨inWord, single, double, escape⟩ := plain
  rw [splitFrom]
  simp only [inWord, Bool.false_eq_true, if_false, if_neg single, if_neg double, if_neg escape]

theorem splitFrom_plain {command : List Char} (plain : ∀ c ∈ command, StandsForItself c) (word : List Char)
    (done : List (List Char)) (rest : List Char) :
    splitFrom .bare word done (command ++ rest) = splitFrom .bare (command.reverse ++ word) done rest := by
  induction command generalizing word with
  | nil => rfl
  | cons c command ih =>
    rw [List.cons_append, splitFrom_bare (plain c (List.mem_cons_self ..)),
      ih fun d mem => plain d (List.mem_cons_of_mem _ mem), List.reverse_cons, List.append_assoc]
    rfl

/-- A line of a plain word and quoted texts splits into just these. -/
theorem splitWords?_quoted {command : List Char} (solid : command ≠ []) (plain : ∀ c ∈ command, StandsForItself c)
    (texts : List (List Char)) : splitWords? (command ++ quotedTail texts) = some (command :: texts) := by
  obtain ⟨c, rest, rfl⟩ := List.exists_cons_of_ne_nil solid
  have first := plain c (List.mem_cons_self ..)
  have started : splitFrom .between [] [] ((c :: rest) ++ quotedTail texts) =
      splitFrom .bare [] [] ((c :: rest) ++ quotedTail texts) := by
    obtain ⟨inWord, single, double, escape⟩ := first
    rw [List.cons_append, splitFrom, splitFrom]
    simp only [inWord, Bool.false_eq_true, if_false, if_neg single, if_neg double, if_neg escape]
  rw [splitWords?, started, splitFrom_plain plain, splitFrom_quotedTail, List.append_nil, List.reverse_reverse]
  rfl

/-! ## Typed commands -/

/-- A letter of ASCII is a character of a word, and neither white space nor the sign of a command. -/
theorem standsForItself_of_letter {c : Char} (letter : (65 ≤ c.toNat ∧ c.toNat ≤ 90) ∨ Text.IsSmallLetter c) :
    StandsForItself c ∧ c.toNat < 128 := by
  unfold Text.IsSmallLetter at letter
  have other (d : Char) (apart : ¬(65 ≤ d.toNat ∧ d.toNat ≤ 90) ∧ ¬(97 ≤ d.toNat ∧ d.toNat ≤ 122)) : c ≠ d := by
    rintro rfl
    omega
  refine ⟨⟨?_, other _ (by decide), other _ (by decide), other _ (by decide)⟩, by omega⟩
  simp [isSeparator, other ' ' (by decide), other '\t' (by decide), other '\r' (by decide), other '\n' (by decide)]

theorem toList_commandLine (word : String) (texts : List String) :
    (commandLine word texts).toList = ':' :: (word.toList ++ quotedTail (texts.map String.toList)) := by
  have tail (first : String) : (" ".intercalate (first :: texts.map quoted)).toList =
      first.toList ++ quotedTail (texts.map String.toList) := by
    induction texts generalizing first with
    | nil => simp [quotedTail]
    | cons text texts ih =>
      have rest := ih (quoted text)
      rw [String.toList_intercalate, List.map_cons] at rest
      rw [String.toList_intercalate, List.map_cons, List.map_cons, List.map_cons,
        List.intercalate_cons_cons, rest, quoted, String.toList_ofList]
      simp [quotedTail]
  rw [commandLine, tail, String.toList_append]
  rfl

/-- A typed command ends with a quote, so nothing is stripped off it. -/
theorem strip_quoted (word : List Char) {texts : List (List Char)} (given : texts ≠ []) :
    Text.strip (':' :: (word ++ quotedTail texts)) = ':' :: (word ++ quotedTail texts) := by
  obtain ⟨front, last, rfl⟩ : ∃ front last, texts = front ++ [last] :=
    ⟨_, _, (List.dropLast_concat_getLast given).symm⟩
  have ending : ':' :: (word ++ quotedTail (front ++ [last])) =
      (':' :: (word ++ quotedTail front ++ ' ' :: '\'' :: last.flatMap quotedChar)) ++ ['\''] := by
    simp [quotedTail, quotedChars]
  rw [Text.strip_eq_self_iff]
  constructor
  · intro c first
    cases first
    decide
  · intro c final
    rw [ending, List.getLast?_concat] at final
    cases final
    decide

/-- A command word in any letter case with quoted texts asks for the command with these texts. -/
theorem parseInput_commandLine {word command : String} (spelled : word.toLower = command) (solid : command ≠ "")
    (letters : Text.SmallLetters command.toList) {texts : List String} (given : texts ≠ []) :
    parseInput (commandLine word texts) = requestOf? command (texts.map Text.ofString) := by
  have lowered : word.toList.map Char.toLower = command.toList := by
    rw [← spelled]
    exact String.toList_map.symm
  have each (c : Char) (mem : c ∈ word.toList) : StandsForItself c ∧ c.toNat < 128 :=
    standsForItself_of_letter (Text.letter_of_toLower (letters _ (lowered ▸ List.mem_map_of_mem mem)))
  have filled : word.toList ≠ [] := by
    intro nothing
    rw [nothing] at lowered
    exact solid (String.toList_inj.1 lowered.symm)
  have same : String.ofList (Text.lower word.toList) = command := by
    rw [Text.lower_of_ascii fun c mem => (each c mem).2, lowered, String.ofList_toList]
  have split := splitWords?_quoted filled (fun c mem => (each c mem).1) (texts.map String.toList)
  have back : (texts.map String.toList).map Text.ofChars = texts.map Text.ofString := List.map_map
  rw [parseInput, toList_commandLine, strip_quoted word.toList (by simpa using given)]
  simp only [split, same, back]

/-- Every request that carries texts can be typed with exactly these texts: each text is quoted, and the
command is spelled in any letter case. The texts of a private message are joined by single spaces. -/
theorem requests_can_be_typed (now : Instant) (username email password other : String) (texts : List String) :
    (∀ word, word.toLower = "register" →
      (parseInput (commandLine word [username, email, password])).map (Request.toJson now) =
        some (.obj [("type", .str "register"), ("username", .str username), ("email", .str email),
          ("password", .str password)])) ∧
    (∀ word, word.toLower = "login" →
      (parseInput (commandLine word [username, password])).map (Request.toJson now) =
        some (.obj [("type", .str "login"), ("username", .str username), ("password", .str password)])) ∧
    (∀ word, word.toLower = "pm" → texts ≠ [] →
      (parseInput (commandLine word (other :: texts))).map (Request.toJson now) =
        some (.obj [("type", .str "private_message"), ("to", .str other),
          ("text", .str (Text.join " " (texts.map Text.ofString)))])) ∧
    (∀ word, word.toLower = "history" →
      (parseInput (commandLine word [other])).map (Request.toJson now) =
        some (.obj [("type", .str "get_private_history"), ("with", .str other)])) ∧
    (∀ word, word.toLower = "add" →
      (parseInput (commandLine word [other])).map (Request.toJson now) =
        some (.obj [("type", .str "add_contact"), ("username", .str other)])) := by
  refine ⟨?register, ?login, ?pm, ?history, ?add⟩
  case register =>
    intro word spelled
    rw [parseInput_commandLine spelled (by decide) (by decide) (by simp)]
    rfl
  case login =>
    intro word spelled
    rw [parseInput_commandLine spelled (by decide) (by decide) (by simp)]
    rfl
  case pm =>
    intro word spelled given
    obtain ⟨first, others, rfl⟩ := List.exists_cons_of_ne_nil given
    rw [parseInput_commandLine spelled (by decide) (by decide) (by simp)]
    rfl
  case history =>
    intro word spelled
    rw [parseInput_commandLine spelled (by decide) (by decide) (by simp)]
    rfl
  case add =>
    intro word spelled
    rw [parseInput_commandLine spelled (by decide) (by decide) (by simp)]
    rfl

/-- Quotes of both kinds, a backslash, a line feed, a number sign, white space at an end and an empty text. -/
theorem requests_can_be_typed_of_marks :
    let texts := ["it's", "", "\\\n#", " \"\u3000"]
    let line := ":Pm 'o'\"'\"'x' 'it'\"'\"'s' '' '\\\n#' ' \"\u3000'"
    "ReGister".toLower = "register" ∧ "LOGIN".toLower = "login" ∧ "Pm".toLower = "pm" ∧
      "history".toLower = "history" ∧ "Add".toLower = "add" ∧ texts ≠ [] ∧ commandLine "Pm" ("o'x" :: texts) = line ∧
      (parseInput line).map (Request.toJson ⟨0⟩) =
        some (.obj [("type", .str "private_message"), ("to", .str "o'x"), ("text", .str "it's  \\\n#  \"\u3000")]) ∧
      (parseInput (commandLine "ReGister" ["'", "", "\\"])).map (Request.toJson ⟨0⟩) =
        some (.obj [("type", .str "register"), ("username", .str "'"), ("email", .str ""),
          ("password", .str "\\")]) := by
  intro texts line
  have spelled : "ReGister".toLower = "register" ∧ "LOGIN".toLower = "login" ∧ "Pm".toLower = "pm" ∧
      "history".toLower = "history" ∧ "Add".toLower = "add" := by decide +kernel
  have written : commandLine "Pm" ("o'x" :: texts) = line := by decide +kernel
  obtain ⟨register, -, pm, -, -⟩ := requests_can_be_typed ⟨0⟩ "'" "" "\\" "o'x" texts
  refine ⟨spelled.1, spelled.2.1, spelled.2.2.1, spelled.2.2.2.1, spelled.2.2.2.2, by decide, written, ?_, ?_⟩
  · rw [← written, pm "Pm" spelled.2.2.1 (by decide)]
    rfl
  · exact register "ReGister" spelled.1

end ChatService.Client
