import TokenBank.Core.Remains
import TokenBank.Router.PrivacyPreflight
import TokenBank.Text.Occurrences
import TokenBank.Verifier.Checks

/-!
# What the scanners find in a redacted value

Redaction, the verifier and the privacy scan each have patterns of their own for what a secret
looks like. What redaction leaves of a text never has a key or a lease token. It may have the
opening of another token before a hyphen, an authorization header whose credential is gone or
starts with another character, and shapes that redaction does not know.
-/

namespace TokenBank

open Text Redaction Checks PrivacyPreflight

namespace Scanning

/-! ## Texts between markers -/

/-- What is found in a text and in what follows a marker is found in texts with markers between
them: in each but the last as before a marker, and in the last. -/
theorem joined_any (found before : List Char → Bool)
    (split : ∀ text more, found (text ++ redactedSecret.toList ++ more) =
      (before text || found more)) (texts : List (List Char)) (some : texts ≠ []) :
    found (redactedSecret.toList.intercalate texts) =
      (texts.dropLast.any before || texts.getLast?.any found) := by
  induction texts with
  | nil => exact absurd rfl some
  | cons text rest inductionHypothesis =>
    cases rest with
    | nil => simp
    | cons next later =>
      rw [List.intercalate_cons_cons, split, inductionHypothesis (by simp), List.dropLast_cons_cons,
        List.any_cons, List.getLast?_cons_cons, Bool.or_assoc]

/-- What is found before a marker as it is at the end is found in texts with markers between
them exactly if it is found in one. -/
theorem joined_same (found : List Char → Bool)
    (split : ∀ text more, found (text ++ redactedSecret.toList ++ more) =
      (found text || found more)) (texts : List (List Char)) (some : texts ≠ []) :
    found (redactedSecret.toList.intercalate texts) = texts.any found := by
  induction texts with
  | nil => exact absurd rfl some
  | cons text rest inductionHypothesis =>
    cases rest with
    | nil => simp
    | cons next later =>
      rw [List.intercalate_cons_cons, split, inductionHypothesis (by simp), List.any_cons (a := text)]

/-- A pattern matches somewhere exactly if it matches at the start of an ending. -/
theorem searches_iff (pattern : List Char → Bool) (text : List Char) :
    searches pattern text = true ↔ ∃ rest, rest <:+ text ∧ pattern rest = true := by
  induction text with
  | nil => simp [searches, List.suffix_nil]
  | cons character rest inductionHypothesis =>
    rw [searches, Bool.or_eq_true, inductionHypothesis]
    constructor
    · rintro (here | ⟨ending, within, later⟩)
      · exact ⟨_, List.suffix_rfl, here⟩
      · exact ⟨ending, within.trans (List.suffix_cons _ _), later⟩
    · rintro ⟨ending, within, matched⟩
      rcases List.suffix_cons_iff.mp within with rfl | inner
      · exact .inl matched
      · exact .inr ⟨ending, inner, matched⟩

/-- A search goes on behind a marker in which nothing matches. -/
theorem searches_split (pattern before : List Char → Bool)
    (stops : ∀ text more, pattern (text ++ '[' :: more) = before text)
    (unmarked : ∀ marked, marked ≠ [] → marked <:+ redactedSecret.toList → ∀ more,
      pattern (marked ++ more) = false) (text more : List Char) :
    searches pattern (text ++ redactedSecret.toList ++ more) =
      (searches before text || searches pattern more) := by
  obtain ⟨others, opened⟩ : ∃ others, redactedSecret.toList = '[' :: others := ⟨_, rfl⟩
  have skipped (marked : List Char) (within : marked <:+ redactedSecret.toList) :
      searches pattern (marked ++ more) = searches pattern more := by
    induction marked with
    | nil => rfl
    | cons character rest inductionHypothesis =>
      have here := unmarked (character :: rest) (by simp) within more
      rw [List.cons_append] at here ⊢
      rw [searches, here, Bool.false_or, inductionHypothesis ((List.suffix_cons _ _).trans within)]
  induction text with
  | nil =>
    have empty : before [] = false := by
      rw [← stops [] (others ++ more), List.nil_append, ← List.cons_append, ← opened]
      exact unmarked _ (by decide) List.suffix_rfl more
    rw [List.nil_append, skipped _ List.suffix_rfl, searches, empty, Bool.false_or]
  | cons character rest inductionHypothesis =>
    have here : pattern (character :: (rest ++ redactedSecret.toList ++ more)) =
        before (character :: rest) := by
      rw [opened, List.append_assoc]
      exact stops (character :: rest) (others ++ more)
    rw [List.cons_append, List.cons_append, searches, here, inductionHypothesis, searches,
      Bool.or_assoc]

/-- The text does not start with two characters of two classes, nor end with the first. -/
def foreign (first second : Char → Bool) : List Char → Bool
  | [] => true
  | [one] => !first one
  | one :: two :: _ => !(first one && second two)

/-- Nothing that starts with a non-empty ending of the marker starts with two characters of two
classes that no ending starts with. -/
theorem foreign_pair {first second : Char → Bool}
    (apart : redactedSecret.toList.tails.all (foreign first second) = true) (marked : List Char)
    (filled : marked ≠ []) (within : marked <:+ redactedSecret.toList) (more : List Char)
    (one two : Char) (later : List Char) (same : marked ++ more = one :: two :: later)
    (here : first one = true) (there : second two = true) : False := by
  have none := List.all_eq_true.mp apart marked ((List.mem_tails _ _).mpr within)
  match marked with
  | [] => exact filled rfl
  | [character] =>
    obtain ⟨rfl, -⟩ := List.cons.inj same
    simp [foreign, here] at none
  | character :: next :: rest =>
    obtain ⟨rfl, after⟩ := List.cons.inj same
    obtain ⟨rfl, -⟩ := List.cons.inj after
    simp [foreign, here, there] at none

/-! ## Tokens -/

/-- A token is found in texts with markers between them exactly if it is found in one. -/
theorem token_joined (opening : String) (first : Char) (others : List Char)
    (starts : opening.toList = first :: others) (unmarked : first ∉ redactedSecret.toList)
    (open_ : '[' ∉ opening.toList) (texts : List (List Char)) (some : texts ≠ []) :
    searches (fun text => (literalThen opening tokenCharacter text).isSome)
        (redactedSecret.toList.intercalate texts) =
      texts.any (searches (fun text => (literalThen opening tokenCharacter text).isSome)) := by
  have sealed := literalThen_sealed opening tokenCharacter first others starts unmarked open_
    (by decide)
  refine joined_same _ (searches_split _ _ (fun text more => by rw [sealed.stops]) ?_) texts some
  intro marked filled within more
  obtain ⟨character, rest, rfl⟩ := List.exists_cons_of_ne_nil filled
  rw [List.cons_append, sealed.unopened character (within.subset List.mem_cons_self)]
  rfl

/-- A token whose pattern matches nowhere is not found. -/
theorem token_absent (opening : String) (text : List Char)
    (absent : Absent (literalThen opening tokenCharacter) text) :
    searches (fun text => (literalThen opening tokenCharacter text).isSome) text = false := by
  rw [← Bool.not_eq_true, searches_iff]
  rintro ⟨rest, within, matched⟩
  rw [absent rest within] at matched
  cases matched

/-- Where the pattern of redaction matches nowhere, a token is found exactly if its opening stands
before a hyphen. -/
theorem token_hyphen_iff (opening : String) (text : List Char)
    (absent : Absent (literalThen opening (fun c => alphanumeric c || c = '_')) text) :
    searches (fun text => (literalThen opening tokenCharacter text).isSome) text = true ↔
      opening.toList ++ ['-'] <:+: text := by
  simp only [searches_iff, literalThen_isSome_iff]
  constructor
  · rintro ⟨_, ⟨before, whole⟩, character, rest, rfl, member⟩
    have hyphen : character = '-' := by
      by_contra other
      have matched : (literalThen opening (fun c => alphanumeric c || c = '_')
          (opening.toList ++ character :: rest)).isSome = true :=
        (literalThen_isSome_iff _ _ _).mpr ⟨character, rest, rfl, by
          simpa [tokenCharacter, other] using member⟩
      rw [absent _ ⟨before, whole⟩] at matched
      cases matched
    exact ⟨before, rest, by rw [← whole, hyphen]; simp⟩
  · rintro ⟨before, after, whole⟩
    exact ⟨opening.toList ++ '-' :: after, ⟨before, by rw [← whole]; simp⟩, '-', after, rfl, by decide⟩

/-- A token whose pattern matches in none of some texts is not found with markers between them. -/
theorem token_nowhere (opening : String) (first : Char) (others : List Char)
    (starts : opening.toList = first :: others) (unmarked : first ∉ redactedSecret.toList)
    (open_ : '[' ∉ opening.toList) (texts : List (List Char)) (some : texts ≠ [])
    (absent : ∀ text ∈ texts, Absent (literalThen opening tokenCharacter) text) :
    searches (fun text => (literalThen opening tokenCharacter text).isSome)
      (redactedSecret.toList.intercalate texts) = false := by
  rw [token_joined opening first others starts unmarked open_ texts some, List.any_eq_false]
  intro text member
  rw [token_absent opening text (absent text member)]
  decide

/-- A token whose pattern of redaction matches in none of some texts is not found with markers
between them exactly if its opening stands before a hyphen in none. -/
theorem token_opened_iff (opening : String) (first : Char) (others : List Char)
    (starts : opening.toList = first :: others) (unmarked : first ∉ redactedSecret.toList)
    (open_ : '[' ∉ opening.toList) (texts : List (List Char)) (some : texts ≠ [])
    (absent : ∀ text ∈ texts,
      Absent (literalThen opening (fun c => alphanumeric c || c = '_')) text) :
    searches (fun text => (literalThen opening tokenCharacter text).isSome)
      (redactedSecret.toList.intercalate texts) = false ↔
        ∀ text ∈ texts, ¬ opening.toList ++ ['-'] <:+: text := by
  rw [token_joined opening first others starts unmarked open_ texts some, List.any_eq_false]
  exact forall₂_congr (fun text member =>
    not_congr (token_hyphen_iff opening text (absent text member)))

/-! ## Headers -/

/-- The text starts with an authorization header, and nothing but a credential is missing. -/
def authorizationOpen (text : List Char) : Bool :=
  match afterWord "authorization:".toList text with
  | none => false
  | some scheme =>
    match afterWord "bearer".toList (scheme.dropWhile blank) with
    | none => false
    | some credential => (credential.dropWhile blank).length < credential.length

/-- A word is followed by what follows it in a text that goes on with a bracket. -/
theorem afterWord_stop (word : List Char) (apart : ∀ letter ∈ word, ignoringCase letter '[' = false)
    (text more : List Char) : afterWord word (text ++ '[' :: more) =
      (afterWord word text).map (fun after => after ++ '[' :: more) := by
  induction word generalizing text with
  | nil => rfl
  | cons letter rest inductionHypothesis =>
    obtain ⟨here, later⟩ := List.forall_mem_cons.mp apart
    cases text with
    | nil => simp [afterWord, here]
    | cons character after =>
      rw [List.cons_append, afterWord, afterWord, inductionHypothesis later]
      split <;> rfl

/-- Blanks end before a bracket. -/
theorem dropWhile_stop (text more : List Char) : (text ++ '[' :: more).dropWhile blank =
    text.dropWhile blank ++ '[' :: more := by
  induction text with
  | nil => rfl
  | cons character rest inductionHypothesis =>
    rw [List.cons_append, List.dropWhile_cons, List.dropWhile_cons, inductionHypothesis]
    split <;> rfl

/-- Before a bracket a header bears a credential, whatever else is missing. -/
theorem authorizationBearer_stop (text more : List Char) :
    authorizationBearer (text ++ '[' :: more) = authorizationOpen text := by
  rw [authorizationBearer, authorizationOpen, afterWord_stop _ (by decide)]
  cases afterWord "authorization:".toList text with
  | none => rfl
  | some scheme =>
    simp only [Option.map_some, dropWhile_stop]
    rw [afterWord_stop _ (by decide)]
    cases afterWord "bearer".toList (scheme.dropWhile blank) with
    | none => rfl
    | some credential => simp [dropWhile_stop]

/-- A header starts with the first two letters of its name. -/
theorem authorizationBearer_head (text : List Char) (bears : authorizationBearer text = true) :
    ∃ first second rest, text = first :: second :: rest ∧ ignoringCase 'a' first = true ∧
      ignoringCase 'u' second = true := by
  have word : "authorization:".toList = 'a' :: 'u' :: "thorization:".toList := by decide +kernel
  rw [authorizationBearer, word] at bears
  cases text with
  | nil => cases bears
  | cons first after =>
    cases after with
    | nil => cases same : ignoringCase 'a' first <;> simp [afterWord, same] at bears
    | cons second rest =>
      refine ⟨first, second, rest, rfl, ?_⟩
      by_contra other
      rw [not_and_or] at other
      simp only [afterWord] at bears
      rcases other with other | other <;> simp [other] at bears

/-- A header is found in texts with markers between them: in each but the last as before a
marker, and in the last. -/
theorem header_joined (texts : List (List Char)) (some : texts ≠ []) :
    searches authorizationBearer (redactedSecret.toList.intercalate texts) =
      (texts.dropLast.any (searches authorizationOpen) ||
        texts.getLast?.any (searches authorizationBearer)) := by
  refine joined_any _ _ (searches_split _ _ authorizationBearer_stop ?_) texts some
  intro marked filled within more
  by_contra bears
  rw [Bool.not_eq_false] at bears
  obtain ⟨first, second, rest, same, here, there⟩ := authorizationBearer_head _ bears
  exact foreign_pair (by decide) marked filled within more first second rest same here there

/-! ## Shapes -/

section Shapes

variable {word : Char → Bool}

/-- A pattern that starts with two characters, after a boundary or not, matches nothing else. -/
theorem matchLength_pair (bounded : Bool) (first second : Char → Bool) (rest : List Element)
    (previous : Option Char) (text : List Char)
    (matched : (matchLength word ((if bounded then [.boundary] else []) ++
      .one first :: .one second :: rest) previous text).isSome = true) :
    ∃ one two later, text = one :: two :: later ∧ first one = true ∧ second two = true := by
  have pair (matched : (matchLength word (.one first :: .one second :: rest) previous text).isSome =
      true) : ∃ one two later, text = one :: two :: later ∧ first one = true ∧ second two = true := by
    obtain ⟨one, after, rfl, here, matched⟩ := (matchLength_one _ _ _ _).mp matched
    obtain ⟨two, later, rfl, there, -⟩ := (matchLength_one _ _ _ _).mp matched
    exact ⟨one, two, later, rfl, here, there⟩
  cases bounded with
  | false => exact pair matched
  | true => exact pair (matchLength_boundary _ _ _ matched)

/-- A pattern that starts with two characters of which no ending of the marker starts, and takes
no bracket, occurs in texts with markers between them exactly if it occurs in one. -/
theorem shape_joined (open_ : word '[' = false) (close : word ']' = false) (bounded : Bool)
    (first second : Char → Bool) (rest : List Element)
    (foreign : redactedSecret.toList.tails.all (foreign first second) = true)
    (rejects : ∀ element ∈ ((if bounded then [.boundary] else []) ++
      .one first :: .one second :: rest), element.Rejects '[')
    (texts : List (List Char)) (some : texts ≠ []) :
    occurs word ((if bounded then [.boundary] else []) ++ .one first :: .one second :: rest) none
        (redactedSecret.toList.intercalate texts) =
      texts.any (occurs word ((if bounded then [.boundary] else []) ++
        .one first :: .one second :: rest) none) := by
  generalize shape : ((if bounded then [Element.boundary] else []) ++
    .one first :: .one second :: rest) = pattern at rejects ⊢
  have unmarked (marked : List Char) (filled : marked ≠ []) (within : marked <:+ redactedSecret.toList)
      (previous : Option Char) (more : List Char) :
      (matchLength word pattern previous (marked ++ more)).isSome = false := by
    by_contra matched
    rw [Bool.not_eq_false, ← shape] at matched
    obtain ⟨one, two, later, same, here, there⟩ := matchLength_pair bounded first second rest _ _ matched
    exact foreign_pair foreign marked filled within more one two later same here there
  have skipped (marked : List Char) (filled : marked ≠ []) (within : marked <:+ redactedSecret.toList)
      (previous : Option Char) (more : List Char) :
      occurs word pattern previous (marked ++ more) = occurs word pattern (Option.some ']') more := by
    induction marked generalizing previous with
    | nil => exact absurd rfl filled
    | cons character later inductionHypothesis =>
      have here := unmarked (character :: later) filled within previous more
      rw [List.cons_append] at here ⊢
      rw [occurs, here, Bool.false_or]
      cases later with
      | nil =>
        have last := within.getLast (by simp)
        have ended : redactedSecret.toList.getLast (by decide) = ']' := by decide
        rw [List.getLast_singleton, ended] at last
        rw [List.nil_append, last]
      | cons next after =>
        exact inductionHypothesis (by simp) ((List.suffix_cons _ _).trans within) _
  obtain ⟨others, opened⟩ : ∃ others, redactedSecret.toList = '[' :: others := ⟨_, rfl⟩
  refine joined_same _ (fun text more => ?_) texts some
  have behind := skipped redactedSecret.toList (by decide) List.suffix_rfl (text.getLast?.or none) more
  rw [opened, List.cons_append] at behind
  rw [opened, List.append_assoc, List.cons_append, occurs_stop '[' open_ rejects, behind,
    occurs_previous (Option.some ']') none (by simp [close])]

/-- A key is only taken for one of the privacy scan where the verifier takes it for one. -/
theorem key_occurs (previous : Option Char) (text : List Char)
    (found : occurs word ([.boundary] ++ literal "sk-" ++
      [.many 12 (alphanumericOr "_-"), .boundary]) previous text = true) :
    searches (fun text => (literalThen "sk-" tokenCharacter text).isSome) text = true := by
  induction text generalizing previous with
  | nil => cases found
  | cons character rest inductionHypothesis =>
    rw [occurs, Bool.or_eq_true] at found
    rw [searches, Bool.or_eq_true]
    rcases found with here | later
    · refine .inl ((literalThen_isSome_iff _ _ _).mpr ?_)
      obtain ⟨_, after, whole, first, matched⟩ :=
        (matchLength_one _ _ _ _).mp (matchLength_boundary _ _ _ here)
      obtain ⟨_, after, rfl, second, matched⟩ := (matchLength_one _ _ _ _).mp matched
      obtain ⟨_, after, rfl, third, matched⟩ := (matchLength_one _ _ _ _).mp matched
      have enough := matchLength_many _ _ _ _ _ matched
      rw [decide_eq_true_eq] at first second third
      cases after with
      | nil => simp at enough
      | cons member later =>
        refine ⟨member, later, by rw [whole, first, second, third]; rfl, ?_⟩
        cases inClass : alphanumericOr "_-" member with
        | false => simp [inClass] at enough
        | true => simpa [alphanumericOr, tokenCharacter, or_assoc] using inClass
    · exact .inr (inductionHypothesis _ later)

end Shapes

/-- What keeps texts with markers between them from looking like secrets: no token of which only the
opening and a hyphen are left, no header that bears a credential or stands before a marker, and no
shape that redaction does not know. -/
structure Unflagged (runtime : PythonRuntime) (texts : List (List Char)) : Prop where
  tokens : ∀ text ∈ texts, ∀ opening ∈ ["tbk_h_", "tbk_w_", "tbk_i_"],
    ¬ opening.toList ++ ['-'] <:+: text
  opened : ∀ text ∈ texts.dropLast, searches authorizationOpen text = false
  headers : ∀ text ∈ texts.getLast?, searches authorizationBearer text = false
  shapes : ∀ text ∈ texts, ∀ pattern ∈ rawSecretPatterns.tail,
    occurs runtime.wordCharacter pattern.2 none text = false

/-- The verifier or the privacy scan takes a text for a secret. -/
def flagged (runtime : PythonRuntime) (text : List Char) : Bool :=
  secretPatterns.any (fun pattern => searches pattern text) ||
    rawSecretPatterns.any (fun pattern => occurs runtime.wordCharacter pattern.2 none text)

/-- The shapes that redaction does not know occur in texts with markers between them exactly if they
occur in one. -/
theorem shapes_joined (runtime : PythonRuntime) (texts : List (List Char)) (some : texts ≠ []) :
    ∀ pattern ∈ rawSecretPatterns.tail,
      occurs runtime.wordCharacter pattern.2 none (redactedSecret.toList.intercalate texts) =
        texts.any (occurs runtime.wordCharacter pattern.2 none) := by
  have open_ : runtime.wordCharacter '[' = false := by simp [PythonRuntime.wordCharacter]; decide
  have close : runtime.wordCharacter ']' = false := by simp [PythonRuntime.wordCharacter]; decide
  simp only [rawSecretPatterns, List.tail_cons, List.forall_mem_cons, List.not_mem_nil,
    false_implies, implies_true, and_true]
  refine ⟨?_, ?_, ?_, ?_⟩
  · exact shape_joined open_ close true (fun c => c = 'g') (fun c => c = 'h') _ (by decide)
      (by decide) texts some
  · exact shape_joined open_ close true (fun c => c = 'A') (fun c => c = 'K') _ (by decide)
      (by decide) texts some
  · exact shape_joined open_ close true (fun c => c = 'x') (fun c => c = 'o') _ (by decide)
      (by decide) texts some
  · exact shape_joined open_ close false (fun c => c = '-') (fun c => c = '-') _ (by decide)
      (by decide) texts some

/-- Texts in which no pattern of redaction matches are not flagged with markers between them exactly
if nothing makes them look like secrets. -/
theorem flagged_joined_iff (runtime : PythonRuntime) (texts : List (List Char)) (some : texts ≠ [])
    (absent : ∀ text ∈ texts, ∀ pattern ∈ secretValuePatterns, Absent pattern text) :
    flagged runtime (redactedSecret.toList.intercalate texts) = false ↔ Unflagged runtime texts := by
  simp only [secretValuePatterns, List.forall_mem_cons, List.not_mem_nil, false_implies,
    implies_true, and_true] at absent
  have key := token_nowhere "sk-" 's' ['k', '-'] (by decide) (by decide) (by decide) texts some
    (fun text member => (absent text member).1)
  have lease := token_nowhere "tbk_l_" 't' ['b', 'k', '_', 'l', '_'] (by decide) (by decide)
    (by decide) texts some (fun text member => (absent text member).2.2.2.2.2)
  have host := token_opened_iff "tbk_h_" 't' ['b', 'k', '_', 'h', '_'] (by decide) (by decide)
    (by decide) texts some (fun text member => (absent text member).2.2.1)
  have worker := token_opened_iff "tbk_w_" 't' ['b', 'k', '_', 'w', '_'] (by decide) (by decide)
    (by decide) texts some (fun text member => (absent text member).2.2.2.1)
  have internal := token_opened_iff "tbk_i_" 't' ['b', 'k', '_', 'i', '_'] (by decide) (by decide)
    (by decide) texts some (fun text member => (absent text member).2.2.2.2.1)
  have openai : occurs runtime.wordCharacter ([.boundary] ++ literal "sk-" ++
      [.many 12 (alphanumericOr "_-"), .boundary]) none (redactedSecret.toList.intercalate texts) =
        false := by
    by_contra found
    rw [Bool.not_eq_false] at found
    rw [key_occurs _ _ found] at key
    cases key
  have shapes : rawSecretPatterns.tail.any (fun pattern => occurs runtime.wordCharacter pattern.2 none
      (redactedSecret.toList.intercalate texts)) = false ↔ ∀ text ∈ texts,
        ∀ pattern ∈ rawSecretPatterns.tail,
          occurs runtime.wordCharacter pattern.2 none text = false := by
    rw [List.any_eq_false]
    constructor
    · intro none text member pattern listed
      have found := none pattern listed
      rw [shapes_joined runtime texts some pattern listed, Bool.not_eq_true, List.any_eq_false]
        at found
      exact Bool.not_eq_true _ ▸ found text member
    · intro none pattern listed
      rw [shapes_joined runtime texts some pattern listed, List.any_eq_true]
      rintro ⟨text, member, found⟩
      rw [none text member pattern listed] at found
      cases found
  have ends : texts.getLast?.any (searches authorizationBearer) = false ↔
      ∀ text ∈ texts.getLast?, searches authorizationBearer text = false := by
    cases texts.getLast? <;> simp
  have patterns : rawSecretPatterns = rawSecretPatterns.head (by decide) :: rawSecretPatterns.tail :=
    rfl
  rw [flagged, patterns, List.any_cons]
  simp only [secretPatterns, List.map_cons, List.map_nil, List.cons_append, List.nil_append,
    List.any_cons, List.any_nil, Bool.or_false, Bool.or_eq_false_iff]
  rw [header_joined texts some, host, worker, internal, shapes, Bool.or_eq_false_iff, ends]
  constructor
  · rintro ⟨⟨-, host, worker, internal, -, opened, header⟩, -, shapes⟩
    refine ⟨fun text member => ?_, ?_, ?_, shapes⟩
    · simpa only [List.forall_mem_cons, List.not_mem_nil, false_implies, implies_true, and_true]
        using ⟨host text member, worker text member, internal text member⟩
    · simpa only [List.any_eq_false, Bool.not_eq_true] using opened
    · exact header
  · intro quiet
    have tokens := quiet.tokens
    simp only [List.forall_mem_cons, List.not_mem_nil, false_implies, implies_true, and_true]
      at tokens
    refine ⟨⟨key, fun text member => (tokens text member).1, fun text member =>
      (tokens text member).2.1, fun text member => (tokens text member).2.2, lease, ?_, ?_⟩, openai,
      quiet.shapes⟩
    · simpa only [List.any_eq_false, Bool.not_eq_true] using quiet.opened
    · exact quiet.headers

/-- The marker is not flagged. -/
theorem redactedSecret_unflagged (runtime : PythonRuntime) :
    flagged runtime redactedSecret.toList = false := by
  have empty : ∀ text ∈ [([] : List Char), []], text = [] := by decide
  have unflagged : Unflagged runtime [[], []] := by
    refine ⟨?_, by decide, by decide, fun text member pattern listed => ?_⟩
    · decide
    · rw [empty text member]
      rfl
  refine (flagged_joined_iff runtime [[], []] (by decide) (fun text member pattern listed => ?_)).mpr
    unflagged
  intro rest ending
  rw [empty text member, List.suffix_nil] at ending
  rw [ending]
  exact (secretValuePatterns_sealed pattern listed).nil

/-! ## Values -/

mutual
/-- Every string that is a value at any depth and not that of a credential-like key. -/
def exposed : Json → List String
  | .str text => [text]
  | .arr items => exposedItems items
  | .obj fields => exposedFields fields
  | _ => []

/-- The exposed strings of the items of an array. -/
def exposedItems : List Json → List String
  | [] => []
  | item :: rest => exposed item ++ exposedItems rest

/-- The exposed strings of the values of an object's members. -/
def exposedFields : List (String × Json) → List String
  | [] => []
  | (key, value) :: rest =>
    (if secretKey key then [] else exposed value) ++ exposedFields rest
end

mutual
/-- The verifier finds no path exactly if no string looks like a secret to it. -/
theorem secretPaths_nil_iff (path : String) (value : Json) :
    secretPaths path value = [] ↔ ∀ text ∈ stringValues value, secretLike text = false := by
  cases value with
  | str text => cases found : secretLike text <;> simp [secretPaths, stringValues, found]
  | arr items =>
    rw [secretPaths, stringValues]
    exact secretItems_nil_iff path 0 items
  | obj fields =>
    rw [secretPaths, stringValues]
    exact secretFields_nil_iff path fields
  | null => simp [secretPaths, stringValues]
  | bool value => simp [secretPaths, stringValues]
  | int value => simp [secretPaths, stringValues]
  | float text => simp [secretPaths, stringValues]

/-- The verifier finds no path in items exactly if no string of theirs looks like a secret to it. -/
theorem secretItems_nil_iff (path : String) (index : Nat) (items : List Json) :
    secretItems path index items = [] ↔ ∀ text ∈ stringItems items, secretLike text = false := by
  cases items with
  | nil => simp [secretItems, stringItems]
  | cons item rest =>
    rw [secretItems, stringItems, List.append_eq_nil_iff, List.forall_mem_append,
      secretPaths_nil_iff _ item, secretItems_nil_iff path (index + 1) rest]

/-- The verifier finds no path in members exactly if no string of theirs looks like a secret to
it. -/
theorem secretFields_nil_iff (path : String) (fields : List (String × Json)) :
    secretFields path fields = [] ↔ ∀ text ∈ stringFields fields, secretLike text = false := by
  cases fields with
  | nil => simp [secretFields, stringFields]
  | cons field rest =>
    obtain ⟨key, value⟩ := field
    rw [secretFields, stringFields, List.append_eq_nil_iff, List.forall_mem_append,
      secretPaths_nil_iff _ value, secretFields_nil_iff path rest]
end

mutual
/-- What holds of the marker holds of every string of a redacted value exactly if it holds of every
exposed string when that is redacted. -/
theorem stringValues_redacted {holds : String → Prop} (marker : holds redactedSecret) (value : Json) :
    (∀ text ∈ stringValues (redactSensitiveValue value), holds text) ↔
      ∀ text ∈ exposed value, holds (redactText text) := by
  cases value with
  | str text => simp [redactSensitiveValue, stringValues, exposed]
  | arr items =>
    rw [redactSensitiveValue, stringValues, exposed]
    exact stringItems_redacted marker items
  | obj fields =>
    rw [redactSensitiveValue, stringValues, exposed]
    exact stringFields_redacted marker fields
  | null => simp [redactSensitiveValue, stringValues, exposed]
  | bool value => simp [redactSensitiveValue, stringValues, exposed]
  | int value => simp [redactSensitiveValue, stringValues, exposed]
  | float text => simp [redactSensitiveValue, stringValues, exposed]

/-- What holds of the marker holds of every string of redacted items exactly if it holds of every
exposed string when that is redacted. -/
theorem stringItems_redacted {holds : String → Prop} (marker : holds redactedSecret)
    (items : List Json) : (∀ text ∈ stringItems (redactItems items), holds text) ↔
      ∀ text ∈ exposedItems items, holds (redactText text) := by
  cases items with
  | nil => simp [redactItems, stringItems, exposedItems]
  | cons item rest =>
    rw [redactItems, stringItems, exposedItems, List.forall_mem_append, List.forall_mem_append,
      stringValues_redacted marker item, stringItems_redacted marker rest]

/-- What holds of the marker holds of every string of redacted members exactly if it holds of every
exposed string when that is redacted. -/
theorem stringFields_redacted {holds : String → Prop} (marker : holds redactedSecret)
    (fields : List (String × Json)) : (∀ text ∈ stringFields (redactFields fields), holds text) ↔
      ∀ text ∈ exposedFields fields, holds (redactText text) := by
  cases fields with
  | nil => simp [redactFields, stringFields, exposedFields]
  | cons field rest =>
    obtain ⟨key, value⟩ := field
    rw [redactFields, stringFields, exposedFields, List.forall_mem_append, List.forall_mem_append,
      stringFields_redacted marker rest]
    cases hidden : secretKey key with
    | true => simp [stringValues, marker]
    | false =>
      simp only [Bool.false_eq_true, if_false]
      rw [stringValues_redacted marker value]
end

/-- The privacy scan detects no raw secret exactly if none of its shapes occurs in a string. -/
theorem rawSecretDetected_false_iff (runtime : PythonRuntime) (value : Json) :
    (scanPrivacy runtime value).rawSecretDetected = false ↔ ∀ text ∈ stringValues value,
      rawSecretPatterns.any (fun pattern =>
        occurs runtime.wordCharacter pattern.2 none text.toList) = false := by
  have counted (pattern : String × List Element) :
      0 < ((stringValues value).map (fun text => count runtime.wordCharacter pattern.2 text)).sum ↔
        ∃ text ∈ stringValues value,
          occurs runtime.wordCharacter pattern.2 none text.toList = true := by
    simp only [List.sum_pos_iff_exists_pos_nat, List.mem_map, exists_exists_and_eq_and, count,
      occurrences_pos_iff]
  simp only [scanPrivacy, detected, patternCounts, List.any_map, List.any_eq_false,
    Function.comp_apply, decide_eq_true_eq, counted, not_exists, not_and]
  exact ⟨fun none text member pattern listed => none pattern listed text member,
    fun none pattern listed text member => none text member pattern listed⟩

/-- Neither scanner finds anything in a value exactly if no string of it is flagged. -/
theorem unscanned_iff (runtime : PythonRuntime) (value : Json) :
    (secretPaths "$" value = [] ∧ (scanPrivacy runtime value).rawSecretDetected = false) ↔
      ∀ text ∈ stringValues value, flagged runtime text.toList = false := by
  rw [secretPaths_nil_iff, rawSecretDetected_false_iff, ← forall₂_and]
  exact forall₂_congr (fun text _ => by rw [flagged, Bool.or_eq_false_iff, secretLike])

/-- The stretches of a text that the patterns of redaction, one after the other, do not match. -/
def stretches (text : String) : List (List Char) := (remains text.toList).map Text.Part.text

/-- A redacted text is flagged exactly if something makes the stretches that redaction leaves of it
look like secrets. -/
theorem redactText_flagged_iff (runtime : PythonRuntime) (text : String) :
    flagged runtime (redactText text).toList = false ↔ Unflagged runtime (stretches text) := by
  rw [redactText_remains]
  have some : remains text.toList ≠ [] := cutAll_ne_nil _ _ (by simp)
  refine flagged_joined_iff runtime _ (by simpa [stretches] using some) ?_
  intro part member
  obtain ⟨outer, left, rfl⟩ := List.mem_map.mp member
  exact cutAll_absent _ (fun pattern listed => (secretValuePatterns_sealed pattern listed).toReads)
    _ outer left

end Scanning

/-- The verifier and the privacy scan find nothing in a redacted value exactly if no exposed string
of the value has a stretch that the patterns of redaction do not match and that looks like a secret:
a token's opening and a hyphen, an authorization header, or a shape that redaction does not know. -/
theorem redaction_unflagged_iff (runtime : PythonRuntime) (value : Json) :
    (Checks.secretPaths "$" (Redaction.redactSensitiveValue value) = [] ∧
      (PrivacyPreflight.scanPrivacy runtime
        (Redaction.redactSensitiveValue value)).rawSecretDetected = false) ↔
      ∀ text ∈ Scanning.exposed value, Scanning.Unflagged runtime (Scanning.stretches text) := by
  have marker := Scanning.redactedSecret_unflagged runtime
  rw [Scanning.unscanned_iff, Scanning.stringValues_redacted marker]
  exact forall₂_congr (fun text _ => Scanning.redactText_flagged_iff runtime text)

/-- A host token whose body starts with a hyphen is kept, and so is a token of another service. -/
theorem redaction_flagged :
    Checks.secretPaths "$" (Redaction.redactSensitiveValue
      (.obj [("note", .str "use tbk_h_-a now")])) = ["$.note"] ∧
    (PrivacyPreflight.scanPrivacy ⟨fun _ => false, fun _ => false, fun _ => "", fun _ => none⟩
      (Redaction.redactSensitiveValue
        (.obj [("note", .str "ghp_0123456789abcdefghij")]))).rawSecretDetected = true := by
  decide +kernel

end TokenBank
