import Mathlib.Data.List.Lex
import Mathlib.Data.List.Sort
import Mathlib.Data.Prod.Lex
import TokenBank.Core.Redaction
import TokenBank.Url.Hosts
import TokenBank.Url.Paths

/-!
# Canonical URLs

A URL is put in a form for comparison and hashing: scheme and host in lower case, without the
default port, its path normalised and quoted, its query in order, and without a fragment or the
name of a user.
-/

namespace TokenBank

namespace Canonical

open Url

/-! ## Definitions -/

/-- A text without the blanks around it. -/
def strip (text : List Char) : List Char :=
  ((text.dropWhile Redaction.blank).reverse.dropWhile Redaction.blank).reverse

/-- The port is the one that the scheme has without saying so. -/
def defaultPort (scheme : List Char) (port : Nat) : Bool :=
  (scheme = "http".toList && port = 80) || (scheme = "https".toList && port = 443)

/-- The host, with the port if it must be said. -/
def canonicalNetloc (scheme hostname : List Char) : Option Nat → List Char
  | none => hostname
  | some port =>
    if defaultPort scheme port then hostname else hostname ++ ':' :: Nat.toDigits 10 port

/-- A path that is rooted and normalised; a slash behind it is kept. -/
def normalizedPath (rawPath : List Char) : List Char :=
  let path := normpath rawPath
  let closed := if rawPath.getLast? = some '/' ∧ path.getLast? ≠ some '/' then path ++ ['/']
    else path
  if closed.head? ≠ some '/' then '/' :: closed else closed

/-- Characters of a path that are not quoted. -/
def pathSafe : List Char := ['/', ':', '@', '%']

/-- The normalised and quoted path. -/
def canonicalPath (path : List Char) : List Char :=
  quote pathSafe (normalizedPath (if path = [] then ['/'] else path))

/-- The fields of a query are ordered by their names, then by their values. -/
def sortedFields (fields : List (List Char × List Char)) : List (List Char × List Char) :=
  fields.insertionSort (fun left right => toLex left ≤ toLex right)

/-- The query with its fields in order. -/
def canonicalQuery (query : List Char) : List Char := urlencode (sortedFields (parseQsl query))

section Library

variable (library : Library)

/-- The parts that a canonical URL is put together of. -/
def canonicalParts (parts : SplitResult) (port : Option Nat) : SplitResult :=
  let scheme := library.lower parts.scheme
  let hostname := library.lower ((hostname library parts).getD [])
  { scheme := scheme
    netloc := canonicalNetloc scheme hostname port
    path := canonicalPath parts.path
    query := canonicalQuery parts.query
    fragment := [] }

/-- The form of a URL for comparison and hashing. -/
def canonicalUrl (url : List Char) : Except UrlError (List Char) := do
  let parts ← urlsplit library (strip url)
  let port ← port parts
  return urlunsplit (canonicalParts library parts port)

end Library

/-! ## Paths -/

/-- A path that is rooted and normalised. -/
structure Normalized (path : List Char) : Prop where
  formed : ∃ slashes segments closing, (slashes = 1 ∨ slashes = 2) ∧
    (∀ segment ∈ segments, Kept segment) ∧ (closing = [] ∨ closing = ['/'] ∧ segments ≠ []) ∧
      path = joinedPath slashes segments ++ closing

/-- A normalised path is rooted. -/
theorem Normalized.rooted (path : List Char) (normalized : Normalized path) :
    ∃ rest, path = '/' :: rest := by
  obtain ⟨slashes, segments, closing, counted, -, -, rfl⟩ := normalized.formed
  exact joinedPath_head slashes segments (by omega) closing

/-- A rooted path is normalised. -/
theorem normalizedPath_normalized (rest : List Char) :
    Normalized (normalizedPath ('/' :: rest)) := by
  obtain ⟨slashes, segments, counted, areKept, same⟩ := normpath_rooted rest
  have rooted : 0 < slashes := by omega
  have headed (behind : List Char) :
      ¬ (joinedPath slashes segments ++ behind).head? ≠ some '/' := by
    obtain ⟨later, begins⟩ := joinedPath_head slashes segments rooted behind
    simp [begins]
  rw [normalizedPath]
  simp only [same]
  split_ifs with closes headless headless
  · exact absurd headless (headed ['/'])
  · refine ⟨slashes, segments, ['/'], counted, areKept, Or.inr ⟨rfl, ?_⟩, rfl⟩
    exact fun empty => closes.2 ((joinedPath_last slashes segments rooted areKept).mpr empty)
  · rw [← List.append_nil (joinedPath slashes segments)] at headless
    exact absurd headless (headed [])
  · exact ⟨slashes, segments, [], counted, areKept, Or.inl rfl, (List.append_nil _).symm⟩

/-- A normalised path is normalised as itself. -/
theorem normalizedPath_same (path : List Char) (normalized : Normalized path) :
    normalizedPath path = path := by
  obtain ⟨rest, begins⟩ := normalized.rooted
  have headed : ¬ path.head? ≠ some '/' := by simp [begins]
  obtain ⟨slashes, segments, closing, counted, areKept, isClosing, formed⟩ := normalized.formed
  have rooted : 0 < slashes := by omega
  rw [normalizedPath]
  rcases isClosing with rfl | ⟨rfl, filled⟩
  · rw [List.append_nil] at formed
    have same : normpath path = path := by
      rw [formed, normpath_joinedPath slashes segments counted areKept]
    have unclosed : ¬ (path.getLast? = some '/' ∧ path.getLast? ≠ some '/') :=
      fun closes => closes.2 closes.1
    simp only [same]
    rw [if_neg unclosed, if_neg headed]
  · have opened : normpath path = joinedPath slashes segments := by
      rw [formed, normpath_joinedPath_slash slashes segments counted areKept filled]
    have closes : path.getLast? = some '/' ∧ (joinedPath slashes segments).getLast? ≠ some '/' := by
      constructor
      · rw [formed, List.getLast?_append]
        rfl
      · exact fun closed => filled ((joinedPath_last slashes segments rooted areKept).mp closed)
    simp only [opened]
    rw [if_pos closes, ← formed, if_neg headed]

/-- The characters that are not quoted are of ASCII. -/
theorem pathSafe_ascii : ∀ character ∈ pathSafe, character.toNat < 128 :=
  forall_of_all pathSafe _ (by decide)

/-- A normalised path is one when it is quoted. -/
theorem normalized_quote (path : List Char) (normalized : Normalized path) :
    Normalized (quote pathSafe path) := by
  obtain ⟨slashes, segments, closing, counted, areKept, isClosing, rfl⟩ := normalized.formed
  refine ⟨slashes, segments.map (quote pathSafe), closing, counted, ?_, ?_, ?_⟩
  · intro segment member
    obtain ⟨given, inSegments, rfl⟩ := List.mem_map.mp member
    exact kept_quote pathSafe pathSafe_ascii given (areKept given inSegments)
  · rw [ne_eq, List.map_eq_nil_iff]
    exact isClosing
  · rw [quote_append, quote_joinedPath pathSafe (by decide)]
    rcases isClosing with rfl | ⟨rfl, -⟩ <;> rfl

/-- The path behind a network location becomes a normalised one. -/
theorem canonicalPath_normalized (path : List Char)
    (rooted : path = [] ∨ ∃ rest, path = '/' :: rest) : Normalized (canonicalPath path) := by
  rw [canonicalPath]
  apply normalized_quote
  split_ifs with empty
  · exact normalizedPath_normalized []
  · rcases rooted with absent | ⟨rest, rfl⟩
    · exact absurd absent empty
    · exact normalizedPath_normalized rest

/-- The path of a canonical URL begins with a slash. -/
theorem canonicalPath_rooted (path : List Char) : ∃ rest, canonicalPath path = '/' :: rest := by
  have rooted (closed : List Char) :
      ∃ rest, (if closed.head? ≠ some '/' then '/' :: closed else closed) = '/' :: rest := by
    split_ifs with headless
    · exact ⟨closed, rfl⟩
    · obtain ⟨rest, begins⟩ := List.head?_eq_some_iff.mp (not_not.mp headless)
      exact ⟨rest, begins⟩
  have headed (given : List Char) : ∃ rest, normalizedPath given = '/' :: rest := rooted _
  obtain ⟨rest, begins⟩ := headed (if path = [] then ['/'] else path)
  rw [canonicalPath, begins, quote_kept pathSafe '/' rest (by decide) (by decide)]
  exact ⟨_, rfl⟩

/-- The path of a canonical URL remains what it is. -/
theorem canonicalPath_same (path : List Char) (rooted : path = [] ∨ ∃ rest, path = '/' :: rest) :
    canonicalPath (canonicalPath path) = canonicalPath path := by
  have normalized := canonicalPath_normalized path rooted
  obtain ⟨rest, begins⟩ := normalized.rooted
  have filled : canonicalPath path ≠ [] := by
    rw [begins]
    exact List.cons_ne_nil _ _
  conv_lhs => rw [canonicalPath]
  rw [if_neg filled, normalizedPath_same _ normalized, canonicalPath,
    quote_quote pathSafe _ pathSafe_ascii (by decide)]

/-- The characters of the path of a canonical URL. -/
theorem canonicalPath_plain (path : List Char) :
    ∀ character ∈ canonicalPath path, Url.plain pathSafe character = true :=
  quote_plain pathSafe _ pathSafe_ascii

/-! ## Queries -/

/-- Fields in order remain in order. -/
theorem sortedFields_same (fields : List (List Char × List Char)) :
    sortedFields (sortedFields fields) = sortedFields fields := by
  have transitive : IsTrans (List Char × List Char) (fun left right => toLex left ≤ toLex right) :=
    ⟨fun _ _ _ first second => le_trans first second⟩
  have total : Std.Total (fun left right : List Char × List Char => toLex left ≤ toLex right) :=
    ⟨fun first second => le_total (toLex first) (toLex second)⟩
  rw [sortedFields, sortedFields]
  exact (List.pairwise_insertionSort _ fields).insertionSort_eq

/-- The query of a canonical URL remains what it is. -/
theorem canonicalQuery_same (query : List Char) :
    canonicalQuery (canonicalQuery query) = canonicalQuery query := by
  rw [canonicalQuery, canonicalQuery, parseQsl_urlencode, sortedFields_same]

/-! ## Blanks -/

/-- A character of ASCII that is shown is not a blank. -/
theorem blank_shown (character : Char) (shown : 32 < character.toNat)
    (ascii : character.toNat < 128) : Redaction.blank character = false := by
  simp only [Redaction.blank, Bool.or_eq_false_iff, Bool.and_eq_false_iff, decide_eq_false_iff_not,
    List.contains_eq_mem, List.mem_cons, List.not_mem_nil, or_false]
  omega

/-- A text that neither begins nor ends with a blank has no blanks around it. -/
theorem strip_same (text : List Char)
    (begins : ∀ character, text.head? = some character → Redaction.blank character = false)
    (ends : ∀ character, text.getLast? = some character → Redaction.blank character = false) :
    strip text = text := by
  have kept (given : List Char)
      (first : ∀ character, given.head? = some character → Redaction.blank character = false) :
      given.dropWhile Redaction.blank = given := by
    cases given with
    | nil => rfl
    | cons character rest =>
      rw [List.dropWhile_cons_of_neg]
      rw [first character rfl]
      exact Bool.false_ne_true
  rw [strip, kept text begins, kept text.reverse, List.reverse_reverse]
  intro character last
  exact ends character (by rw [← List.head?_reverse, last])

/-- What is dropped in front of a character that is kept, is dropped in front of it alone. -/
theorem dropWhile_kept (dropped : Char → Bool) (front rest : List Char) (character : Char)
    (kept : dropped character = false) : (front ++ character :: rest).dropWhile dropped =
      front.dropWhile dropped ++ character :: rest := by
  induction front with
  | nil => rw [List.nil_append, List.dropWhile_cons_of_neg (by simp [kept]), List.dropWhile_nil]; rfl
  | cons first later inductionHypothesis =>
    by_cases isDropped : dropped first = true
    · rw [List.cons_append, List.dropWhile_cons_of_pos isDropped,
        List.dropWhile_cons_of_pos isDropped, inductionHypothesis]
    · rw [List.cons_append, List.dropWhile_cons_of_neg isDropped,
        List.dropWhile_cons_of_neg isDropped]
      rfl

/-- A letter is shown, and is no blank. -/
theorem letter_shown (character : Char) (isLetter : letter character = true) :
    32 < character.toNat ∧ character.toNat < 128 := by
  simp only [letter, Bool.or_eq_true, Bool.and_eq_true, decide_eq_true_eq, Char.le_def,
    UInt32.le_iff_toNat_le] at isLetter
  have code : character.val.toNat = character.toNat := rfl
  have lowerA : ('a' : Char).val.toNat = 97 := rfl
  have lowerZ : ('z' : Char).val.toNat = 122 := rfl
  have upperA : ('A' : Char).val.toNat = 65 := rfl
  have upperZ : ('Z' : Char).val.toNat = 90 := rfl
  omega

/-- A URL that has a scheme begins, as far as it is not cleaned away, with a letter. -/
theorem scheme_letter (url : List Char) (named : (splitScheme url).1 ≠ []) :
    ':' ∈ url ∧ ∃ first rest, url = first :: rest ∧ letter first = true := by
  rw [splitScheme] at named
  split_ifs at named with found
  · obtain ⟨coloned, begins, -⟩ := found
    refine ⟨coloned, ?_⟩
    cases url with
    | nil => cases coloned
    | cons given rest =>
      refine ⟨given, rest, rfl, ?_⟩
      rw [before, List.takeWhile_cons] at begins
      split_ifs at begins
      · exact begins
      · cases begins
  · exact absurd rfl named

/-- Of a URL that has a scheme, cleaning leaves the same without the blanks around it, up to
blanks behind it. -/
theorem cleaned_strip (url : List Char) (named : (splitScheme (cleaned url)).1 ≠ []) :
    ∃ blanks, (∀ character ∈ blanks, Redaction.blank character = true) ∧
      cleaned url = cleaned (strip url) ++ blanks := by
  obtain ⟨-, first, rest, begins, isLetter⟩ := scheme_letter (cleaned url) named
  have shown := letter_shown first isLetter
  have low : (decide (first.toNat ≤ 32)) = false := decide_eq_false (by omega)
  have unblank := blank_shown first shown.1 shown.2
  -- The letter is the first character that is not dropped in front.
  obtain ⟨more, opens⟩ : ∃ more, url.dropWhile (fun character => character.toNat ≤ 32) =
      first :: more := by
    cases dropped : url.dropWhile (fun character => character.toNat ≤ 32) with
    | nil =>
      rw [cleaned, dropped] at begins
      cases begins
    | cons given more =>
      have stopped := List.head?_dropWhile_not (fun character => character.toNat ≤ 32) url
      rw [dropped] at stopped
      have high : 32 < given.toNat := by simpa using stopped
      rw [cleaned, dropped, List.filter_cons, if_pos (decide_eq_true (kept_shown given high))] at begins
      rw [(List.cons.inj begins).1]
      exact ⟨more, rfl⟩
  -- So blanks are dropped in front of it and behind the URL apart.
  have split : url.takeWhile (fun character => decide (character.toNat ≤ 32)) ++
      url.dropWhile (fun character => decide (character.toNat ≤ 32)) = url :=
    List.takeWhile_append_dropWhile
  rw [opens] at split
  generalize isFront : url.takeWhile (fun character => decide (character.toNat ≤ 32)) = front at split
  have lows : ∀ character ∈ front, character.toNat ≤ 32 := by
    intro character member
    rw [← isFront] at member
    have dropped := List.mem_takeWhile_imp member
    exact of_decide_eq_true dropped
  have stripped : strip url = front.dropWhile Redaction.blank ++
      first :: (more.reverse.dropWhile Redaction.blank).reverse := by
    rw [strip, ← split, dropWhile_kept Redaction.blank front more first unblank,
      List.reverse_append, List.reverse_cons, List.append_assoc, List.singleton_append,
      dropWhile_kept Redaction.blank more.reverse _ first unblank, List.reverse_append,
      List.reverse_cons, List.reverse_reverse, List.append_assoc]
    rfl
  have dropped : (strip url).dropWhile (fun character => character.toNat ≤ 32) =
      first :: (more.reverse.dropWhile Redaction.blank).reverse := by
    rw [stripped, dropWhile_kept _ _ _ first low]
    have emptied : (front.dropWhile Redaction.blank).dropWhile
        (fun character => decide (character.toNat ≤ 32)) = [] := by
      rw [List.dropWhile_eq_nil_iff]
      intro character member
      exact decide_eq_true (lows character ((List.dropWhile_suffix _).subset member))
    rw [emptied]
    rfl
  have behind : more = (more.reverse.dropWhile Redaction.blank).reverse ++
      (more.reverse.takeWhile Redaction.blank).reverse := by
    rw [← List.reverse_append, List.takeWhile_append_dropWhile, List.reverse_reverse]
  refine ⟨(more.reverse.takeWhile Redaction.blank).reverse.filter
    (fun character => character ∉ ['\t', '\r', '\n']), ?_, ?_⟩
  · intro character member
    exact List.mem_takeWhile_imp (List.mem_reverse.mp (List.mem_filter.mp member).1)
  · rw [cleaned, cleaned, opens, dropped, ← List.filter_append, List.cons_append, ← behind]

/-- The blanks around a URL that has a scheme do not matter for it. -/
theorem scheme_strip (url : List Char) (named : (splitScheme (cleaned url)).1 ≠ []) :
    (splitScheme (cleaned (strip url))).1 = (splitScheme (cleaned url)).1 := by
  obtain ⟨blanks, areBlank, same⟩ := cleaned_strip url named
  have coloned := (scheme_letter (cleaned url) named).1
  rw [same] at coloned ⊢
  have uncoloned : ':' ∉ blanks := fun member => absurd (areBlank ':' member) (by decide)
  have within : ':' ∈ cleaned (strip url) := (List.mem_append.mp coloned).resolve_right uncoloned
  obtain ⟨front, rest, split, absent⟩ := List.eq_append_cons_of_mem within
  rw [splitScheme, splitScheme, split, List.append_assoc, List.cons_append,
    before_append ':' front rest absent, before_append ':' front _ absent]
  simp only [List.mem_append, List.mem_cons, true_or, or_true, true_and]
  split_ifs <;> rfl

end Canonical

end TokenBank
