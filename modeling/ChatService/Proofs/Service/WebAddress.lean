import ChatService.Text.Blank

/-!
# The parts of a web address

What decides where a request goes and what it carries. A web address is cut at the first
number sign into the rest and a fragment, the rest at the first question mark into a place
and a query, and the place into scheme, authority and path. An address that is put together
from parts without these marks is cut into the same parts.
-/

namespace ChatService

structure WebAddress where
  scheme : Option (List Char)
  /-- The host, with a user in front of it and a port behind it if they are given. -/
  authority : Option (List Char)
  path : List Char
  query : Option (List Char)
  fragment : Option (List Char)
deriving DecidableEq, Repr

namespace WebAddress

/-- What stands before the first occurrence of a mark, and what stands behind it. -/
def cut (mark : Char) (s : List Char) : List Char × Option (List Char) :=
  (s.takeWhile (· != mark), (s.dropWhile (· != mark)).tail?)

/-- The name before a colon, and the rest. A colon behind a slash belongs to a path. -/
def takeScheme (s : List Char) : Option (List Char) × List Char :=
  match s.takeWhile fun c => c != ':' && c != '/', s.dropWhile fun c => c != ':' && c != '/' with
  | c :: name, ':' :: rest => (some (c :: name), rest)
  | _, _ => (none, s)

/-- What stands behind two slashes up to the next one, and the rest. -/
def takeAuthority : List Char → Option (List Char) × List Char
  | '/' :: '/' :: rest => (some (rest.takeWhile (· != '/')), rest.dropWhile (· != '/'))
  | s => (none, s)

def ofText (s : List Char) : WebAddress :=
  let (front, fragment) := cut '#' s
  let (place, query) := cut '?' front
  let (scheme, rest) := takeScheme place
  let (authority, path) := takeAuthority rest
  ⟨scheme, authority, path, query, fragment⟩

/-- The parameters of the query: their names, with the values that are given. -/
def parameters (a : WebAddress) : List (List Char × Option (List Char)) :=
  match a.query with
  | none => []
  | some query => (query.splitOn '&').map (cut '=')

/-! ## Texts without certain marks -/

/-- None of the marks stands in the text. -/
def Free (marks s : List Char) : Prop := ∀ mark ∈ marks, mark ∉ s

instance (marks s : List Char) : Decidable (Free marks s) := List.decidableBAll (· ∉ s) marks

theorem Free.append {marks s t : List Char} (first : Free marks s) (second : Free marks t) : Free marks (s ++ t) := by
  intro mark known member
  rcases List.mem_append.1 member with front | back
  · exact first mark known front
  · exact second mark known back

theorem Free.of_subset {marks fewer s : List Char} (free : Free marks s) (less : fewer ⊆ marks) : Free fewer s :=
  fun mark known => free mark (less known)

/-- A text without a mark is passed up to the mark. -/
theorem Free.passed {marks s : List Char} (free : Free marks s) {mark : Char} (known : mark ∈ marks) :
    ∀ c ∈ s, (c != mark) = true := by
  intro c member
  rw [bne_iff_ne]
  rintro rfl
  exact free c known member

/-! ## Cutting -/

theorem cut_free {mark : Char} {s : List Char} (free : Free [mark] s) : cut mark s = (s, none) := by
  obtain ⟨before, behind⟩ := Text.span_append [] (free.passed (List.mem_singleton_self mark)) (by simp)
  rw [List.append_nil] at before behind
  rw [cut, before, behind]
  rfl

theorem cut_append {mark : Char} {s : List Char} (free : Free [mark] s) (rest : List Char) :
    cut mark (s ++ mark :: rest) = (s, some rest) := by
  obtain ⟨before, behind⟩ := Text.span_append (mark :: rest) (free.passed (List.mem_singleton_self mark)) (by simp)
  rw [cut, before, behind]
  rfl

theorem takeScheme_append {scheme : List Char} (named : scheme ≠ []) (free : Free [':', '/'] scheme)
    (rest : List Char) : takeScheme (scheme ++ ':' :: rest) = (some scheme, rest) := by
  have passed : ∀ c ∈ scheme, (c != ':' && c != '/') = true := by
    intro c member
    rw [Bool.and_eq_true]
    exact ⟨free.passed (by simp) c member, free.passed (by simp) c member⟩
  obtain ⟨before, behind⟩ := Text.span_append (':' :: rest) passed (by simp)
  obtain ⟨c, name, rfl⟩ := List.exists_cons_of_ne_nil named
  simp only [takeScheme, before, behind]

theorem takeAuthority_append {authority : List Char} (free : Free ['/'] authority) (path : List Char) :
    takeAuthority ('/' :: '/' :: (authority ++ '/' :: path)) = (some authority, '/' :: path) := by
  obtain ⟨before, behind⟩ := Text.span_append ('/' :: path) (free.passed (List.mem_singleton_self '/')) (by simp)
  rw [takeAuthority, before, behind]

/-- An address put together from parts is cut into them. -/
theorem ofText_parts {scheme authority path query : List Char} (named : scheme ≠ [])
    (freeScheme : Free [':', '/', '?', '#'] scheme) (freeAuthority : Free ['/', '?', '#'] authority)
    (freePath : Free ['?', '#'] path) (freeQuery : Free ['#'] query) :
    ofText (scheme ++ ':' :: '/' :: '/' :: (authority ++ '/' :: path) ++ '?' :: query) =
      ⟨some scheme, some authority, '/' :: path, some query, none⟩ := by
  -- Fragment and query are cut off first, so what stands before them must be free of both marks as a whole.
  have noMark : Free ['?', '#'] scheme := freeScheme.of_subset (by simp)
  have noQuestion : Free ['?', '#'] authority := freeAuthority.of_subset (by simp)
  have slashed : Free ['?', '#'] ('/' :: path) := Free.append (s := ['/']) (by decide) freePath
  have behind : Free ['?', '#'] (':' :: '/' :: '/' :: (authority ++ '/' :: path)) :=
    Free.append (s := [':', '/', '/']) (by decide) (noQuestion.append slashed)
  have place := noMark.append behind
  have noQuery : Free ['?'] (scheme ++ ':' :: '/' :: '/' :: (authority ++ '/' :: path)) := place.of_subset (by simp)
  have noFragment : Free ['#'] (scheme ++ ':' :: '/' :: '/' :: (authority ++ '/' :: path) ++ '?' :: query) :=
    (place.of_subset (by simp)).append (Free.append (s := ['?']) (by decide) freeQuery)
  have isName : Free [':', '/'] scheme := freeScheme.of_subset (by simp)
  have noSlash : Free ['/'] authority := freeAuthority.of_subset (by simp)
  rw [ofText, cut_free noFragment]
  simp only [cut_append noQuery, takeScheme_append named isName, takeAuthority_append noSlash]

end WebAddress

end ChatService
