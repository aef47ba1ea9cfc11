import TokenBank.Core.Remains
import TokenBank.Text.Covering

/-!
# Credentials in redacted texts

A credential between blanks is redacted as a whole only if no bearer pattern in front of it runs
into it, if no pattern before its own stops inside it or leaves nothing of its body, and if its own
pattern takes all that is left. The tokens of the control plane are drawn over an alphabet with a
hyphen, which the patterns of three of them stop at.
-/

namespace TokenBank

open Text Redaction

/-- The kinds of tokens the API accepts. -/
inductive TokenKind : Type
  | host
  | worker
  | internal

/-- What a token of each kind starts with. -/
def tokenPrefixes : TokenKind → String
  | .host => "tbk_h_"
  | .worker => "tbk_w_"
  | .internal => "tbk_i_"

/-- A token of the API, a lease token, or a bearer header's value. -/
inductive CredentialKind : Type
  | token (kind : TokenKind)
  | lease
  | bearer

namespace CredentialKind

/-- What a credential of each kind starts with. -/
def opening : CredentialKind → String
  | .token kind => tokenPrefixes kind
  | .lease => "tbk_l_"
  | .bearer => "Bearer "

/-- The characters of the body of a credential. -/
def alphabet : CredentialKind → Char → Bool
  | .bearer => fun c => alphanumeric c || "._~+/=-".toList.contains c
  | _ => fun c => alphanumeric c || c = '_' || c = '-'

/-- The place of the pattern for each kind. -/
def index : CredentialKind → Nat
  | .bearer => 1
  | .token .host => 2
  | .token .worker => 3
  | .token .internal => 4
  | .lease => 5

/-- The pattern for each kind. -/
def own : CredentialKind → List Char → Option Nat
  | .token kind => literalThen (tokenPrefixes kind) (fun c => alphanumeric c || c = '_')
  | .lease => literalThen "tbk_l_" (fun c => alphanumeric c || c = '_' || c = '-')
  | .bearer => bearerThen bearerCharacter

/-- The patterns before that for each kind. -/
def earlier (kind : CredentialKind) : List (List Char → Option Nat) :=
  secretValuePatterns.take kind.index

/-- The patterns after that for each kind. -/
def later (kind : CredentialKind) : List (List Char → Option Nat) :=
  secretValuePatterns.drop (kind.index + 1)

/-- Every kind has one of the patterns. -/
theorem patterns_split (kind : CredentialKind) :
    secretValuePatterns = kind.earlier ++ kind.own :: kind.later := by
  cases kind with
  | token kind => cases kind <;> rfl
  | lease => rfl
  | bearer => rfl

end CredentialKind

/-- A credential has a body of characters of its kind. -/
structure Credential where
  kind : CredentialKind
  body : List Char
  filled : body ≠ []
  within : ∀ character ∈ body, kind.alphabet character = true

/-- The text of a credential. -/
def Credential.text (credential : Credential) : List Char :=
  credential.kind.opening.toList ++ credential.body

namespace Redaction

/-! ## Where matches end -/

/-- What follows a run is not of the class. -/
theorem head_dropWhile {inClass : Char → Bool} {text : List Char} {character : Char}
    (first : character ∈ (text.dropWhile inClass).head?) : inClass character = false := by
  have apart := List.head?_dropWhile_not inClass text
  rwa [Option.mem_def.mp first] at apart

/-- A literal and a run with all letters and digits stop before anything else, and match nothing that
starts with anything else. -/
theorem literalThen_halts (opening : String) (inClass : Char → Bool) (first : Char)
    (others : List Char) (starts : opening.toList = first :: others)
    (plain : alphanumeric first = true)
    (wide : ∀ character, alphanumeric character = true → inClass character = true) :
    Halts (fun character => !alphanumeric character) (literalThen opening inClass) where
  toReads := literalThen_reads opening inClass (by simp [starts])
  halts := by
    intro text length matched character next
    unfold literalThen at matched
    split at matched
    · rename_i within
      obtain ⟨-, rfl⟩ := (runAfter_eq_some_iff _ _ _ _).mp matched
      rw [← List.drop_drop, drop_takeWhile] at next
      have apart := head_dropWhile next
      cases member : alphanumeric character with
      | false => rfl
      | true => rw [wide character member] at apart; cases apart
    · cases matched
  refuses := by
    intro character rest held
    refine literalThen_unopened opening inClass first others starts character rest ?_
    rintro rfl
    rw [plain] at held
    cases held

/-- A word and blanks and a run with all letters and digits stop before anything else, and match
nothing that starts with anything else. -/
theorem bearerThen_halts (inClass : Char → Bool)
    (visible : ∀ character, inClass character = true → blank character = false)
    (wide : ∀ character, alphanumeric character = true → inClass character = true) :
    Halts (fun character => !alphanumeric character) (bearerThen inClass) where
  toReads := bearerThen_reads inClass visible
  halts := by
    intro text length matched character next
    obtain ⟨-, -, -, rfl⟩ := (bearerThen_eq_some_iff _ _ _).mp matched
    rw [← List.drop_drop, ← List.drop_drop, drop_takeWhile, drop_takeWhile] at next
    have apart := head_dropWhile next
    cases member : alphanumeric character with
    | false => rfl
    | true => rw [wide character member] at apart; cases apart
  refuses := by
    intro character rest held
    refine bearerThen_unopened inClass character rest (fun head => ?_)
    have plain : alphanumeric character = true := by
      unfold lowerCharacter at head
      split_ifs at head with upper kelvin dotted
      · simp [alphanumeric, upper]
      · cases head
      · cases head
      · cases head
        rfl
    rw [plain] at held
    cases held

/-- Every pattern stops before what is no letter or digit. -/
theorem secretValuePatterns_halt : ∀ pattern ∈ secretValuePatterns,
    Halts (fun character => !alphanumeric character) pattern := by
  simp only [secretValuePatterns, List.forall_mem_cons, List.not_mem_nil, false_implies,
    implies_true, and_true]
  refine ⟨?_, bearerThen_halts _ bearerCharacter_visible ?_, ?_, ?_, ?_, ?_⟩
  · exact literalThen_halts "sk-" _ 's' ['k', '-'] (by decide) (by decide) (by simp +contextual)
  · simp +contextual [bearerCharacter]
  · exact literalThen_halts "tbk_h_" _ 't' ['b', 'k', '_', 'h', '_'] (by decide) (by decide)
      (by simp +contextual)
  · exact literalThen_halts "tbk_w_" _ 't' ['b', 'k', '_', 'w', '_'] (by decide) (by decide)
      (by simp +contextual)
  · exact literalThen_halts "tbk_i_" _ 't' ['b', 'k', '_', 'i', '_'] (by decide) (by decide)
      (by simp +contextual)
  · exact literalThen_halts "tbk_l_" _ 't' ['b', 'k', '_', 'l', '_'] (by decide) (by decide)
      (by simp +contextual)

/-- A literal matches nothing that starts as a text of which neither starts with the other. -/
theorem literalThen_foreign (opening : List Char) (other : String) (inClass : Char → Bool)
    (apart : ¬ Comparable opening other.toList) (text : List Char)
    (opens : Comparable opening text) : literalThen other inClass text = none := by
  by_contra matched
  obtain ⟨character, rest, rfl, -⟩ :=
    (literalThen_isSome_iff other inClass text).mp (Option.isSome_iff_ne_none.mpr matched)
  exact apart (opens.front (List.prefix_append _ _))

/-- The bearer pattern matches nothing that starts as a text with another letter. -/
theorem bearerThen_foreign (inClass : Char → Bool) (first : Char) (others text : List Char)
    (apart : (lowerCharacter first).head? ≠ some 'b') (filled : text ≠ [])
    (opens : Comparable (first :: others) text) : bearerThen inClass text = none := by
  obtain ⟨character, rest, rfl⟩ := List.exists_cons_of_ne_nil filled
  have same : first = character := by
    rcases opens with longer | shorter
    · exact (List.cons_prefix_cons.mp longer).1
    · exact (List.cons_prefix_cons.mp shorter).1.symm
  exact bearerThen_unopened inClass character rest (same ▸ apart)

/-- No pattern but its own matches anything that starts as a credential. -/
theorem foreign_to_credential (kind : CredentialKind) : ∀ pattern ∈ kind.earlier ++ kind.later,
    ∀ text, text ≠ [] → Comparable kind.opening.toList text → pattern text = none := by
  have literal (other : String) (inClass : Char → Bool)
      (apart : ¬ Comparable kind.opening.toList other.toList) (text : List Char) (_ : text ≠ [])
      (opens : Comparable kind.opening.toList text) : literalThen other inClass text = none :=
    literalThen_foreign _ other inClass apart text opens
  have bearer (others : List Char) (starts : kind.opening.toList = 't' :: others) (text : List Char)
      (filled : text ≠ []) (opens : Comparable kind.opening.toList text) :
      bearerThen bearerCharacter text = none :=
    bearerThen_foreign _ 't' others text (by decide) filled (starts ▸ opens)
  have others : kind.earlier ++ kind.later = secretValuePatterns.eraseIdx kind.index :=
    (List.eraseIdx_eq_take_drop_succ _ _).symm
  rw [others]
  -- Each kind has four other literals or five, and the tokens have the bearer pattern.
  cases kind with
  | token kind =>
    cases kind <;>
      refine List.forall_mem_cons.mpr ⟨literal "sk-" _ (by decide), List.forall_mem_cons.mpr
        ⟨bearer _ rfl, ?_⟩⟩ <;>
      simp only [List.eraseIdx_cons_succ, List.eraseIdx_cons_zero, List.forall_mem_cons,
        List.not_mem_nil, false_implies, implies_true, and_true] <;>
      exact ⟨literal _ _ (by decide), literal _ _ (by decide), literal _ _ (by decide)⟩
  | lease =>
    refine List.forall_mem_cons.mpr ⟨literal "sk-" _ (by decide), List.forall_mem_cons.mpr
      ⟨bearer _ rfl, ?_⟩⟩
    simp only [List.eraseIdx_cons_succ, List.eraseIdx_cons_zero, List.forall_mem_cons,
      List.not_mem_nil, false_implies, implies_true, and_true]
    exact ⟨literal _ _ (by decide), literal _ _ (by decide), literal _ _ (by decide)⟩
  | bearer =>
    refine List.forall_mem_cons.mpr ⟨literal "sk-" _ (by decide), ?_⟩
    simp only [List.eraseIdx_cons_zero, List.forall_mem_cons,
      List.not_mem_nil, false_implies, implies_true, and_true]
    exact ⟨literal _ _ (by decide), literal _ _ (by decide), literal _ _ (by decide),
      literal _ _ (by decide)⟩

/-! ## Blanks -/

/-- A blank stops a literal and a run that have none. -/
theorem literalThen_splits (opening : String) (inClass : Char → Bool)
    (filled : opening.toList ≠ []) (shown : ∀ character ∈ opening.toList, blank character = false)
    (visible : ∀ character, inClass character = true → blank character = false) :
    SplitsAt blank (literalThen opening inClass) where
  toReads := literalThen_reads opening inClass filled
  splits := by
    intro text character more delimits
    refine literalThen_stop opening inClass character (fun listed => ?_) ?_ text more
    · rw [shown character listed] at delimits
      cases delimits
    · cases member : inClass character with
      | false => rfl
      | true =>
        rw [visible character member] at delimits
        cases delimits

/-- Blanks are no letters, whatever the case. -/
theorem lowerCharacter_blank (character : Char) (hidden : blank character = true) :
    lowerCharacter character = [character] := by
  unfold lowerCharacter
  split_ifs with upper kelvin dotted
  · have range : 65 ≤ character.toNat ∧ character.toNat ≤ 90 := upper
    simp only [blank, List.contains_eq_mem, List.mem_cons, List.not_mem_nil, or_false,
      Bool.or_eq_true, decide_eq_true_eq, Bool.and_eq_true] at hidden
    omega
  · simp [blank, kelvin] at hidden
  · simp [blank, dotted] at hidden
  · rfl

/-- A word that is bearer in lower case has no blank. -/
theorem bearer_visible (word : List Char) (spelled : word.flatMap lowerCharacter = "bearer".toList) :
    ∀ character ∈ word, blank character = false := by
  intro character listed
  by_contra hidden
  rw [Bool.not_eq_false] at hidden
  have inWord : character ∈ word.flatMap lowerCharacter :=
    List.mem_flatMap.mpr ⟨character, listed, by simp [lowerCharacter_blank character hidden]⟩
  rw [spelled] at inWord
  have visible : ∀ character ∈ "bearer".toList, blank character = false := by decide
  rw [visible character inWord] at hidden
  cases hidden

/-- A bearer pattern that runs on from a delimited text takes the run that follows it. -/
theorem bearerThen_past (inClass : Char → Bool)
    (visible : ∀ character, inClass character = true → blank character = false)
    (text more : List Char) (filled : text ≠ []) (delimited : Delimited blank text)
    (first : Char) (others : List Char) (starts : more = first :: others)
    (shown : blank first = false) (length : Nat)
    (matched : bearerThen inClass (text ++ more) = some length) (past : text.length < length) :
    length = text.length + (more.takeWhile inClass).length := by
  obtain ⟨spelled, -, -, rfl⟩ := (bearerThen_eq_some_iff _ _ _).mp matched
  have wordless := bearer_visible _ spelled
  have last : ∃ front stop, text = front ++ [stop] ∧ blank stop = true := by
    obtain ⟨front, stop, rfl⟩ := (List.eq_nil_or_concat text).resolve_left filled
    exact ⟨front, stop, List.concat_eq_append, delimited stop (by simp)⟩
  have long : 6 < text.length := by
    by_contra short
    obtain ⟨front, stop, rfl, hidden⟩ := last
    have listed : stop ∈ (front ++ [stop] ++ more).take 6 := by
      rw [List.take_append]
      exact List.mem_append_left _ (by rw [List.take_of_length_le (by omega)]; simp)
    rw [wordless stop listed] at hidden
    cases hidden
  have after : (text ++ more).drop 6 = text.drop 6 ++ more :=
    List.drop_append_of_le_length (by omega)
  have whole := congrArg List.length
    (List.takeWhile_append_dropWhile (p := blank) (l := text.drop 6))
  rw [List.length_append, List.length_drop] at whole
  rw [after] at past ⊢
  by_cases all : ∀ character ∈ text.drop 6, blank character = true
  · have ended : more.takeWhile blank = [] := by rw [starts]; simp [shown]
    have left : more.dropWhile blank = more := by rw [starts]; simp [shown]
    rw [List.takeWhile_append_of_pos all, List.dropWhile_append_of_pos all, ended, left,
      List.append_nil, List.length_drop]
    omega
  · exfalso
    have left : (text.drop 6).dropWhile blank ≠ [] :=
      fun none => all (List.dropWhile_eq_nil_iff.mp none)
    obtain ⟨front, stop, same⟩ := (List.eq_nil_or_concat _).resolve_left left
    rw [List.concat_eq_append] at same
    have hidden : blank stop = true := delimited.ending
      ((List.dropWhile_suffix blank).trans (List.drop_suffix 6 text)) stop (by rw [same]; simp)
    have stops : inClass stop = false := by
      cases member : inClass stop with
      | false => rfl
      | true => rw [visible stop member] at hidden; cases hidden
    have short : ((text.drop 6).takeWhile blank).length ≠ (text.drop 6).length := by
      rw [List.length_drop]
      have some := List.length_pos_iff.mpr left
      omega
    have run := (List.takeWhile_prefix inClass (l := front)).length_le
    rw [List.takeWhile_append, if_neg short, List.dropWhile_append, if_neg (by simpa using left), same,
      List.append_assoc, List.singleton_append, takeWhile_stop inClass stop stops] at past
    rw [same, List.length_append, List.length_singleton] at whole
    omega

/-! ## Credentials -/

/-- The pattern of keys, which comes first. -/
def keyPattern : List Char → Option Nat :=
  literalThen "sk-" (fun c => alphanumeric c || c = '_' || c = '-')

/-- The patterns for tokens, which come after that for bearer credentials. -/
def tokenPatterns : List (List Char → Option Nat) := secretValuePatterns.drop 2

/-- Keys come first, then bearer credentials. -/
theorem patterns_first :
    secretValuePatterns = keyPattern :: bearerThen bearerCharacter :: tokenPatterns := rfl

/-- How much of a text a bearer match takes that begins in front of it, where keys are cut. -/
def ledBy (before more : List Char) : Nat :=
  overrun (bearerThen bearerCharacter) (stretch keyPattern more) 0 (ending keyPattern more 0 before)

/-- No place of a span of a text is in what redaction leaves of it. -/
def Covered (text : List Char) (start length : Nat) : Prop :=
  ∀ place, start ≤ place → place < start + length → ¬ Kept (remains text) place

/-- Letters, digits, underscores and hyphens are no blanks. -/
theorem urlSafe_visible (character : Char)
    (member : (alphanumeric character || character = '_' || character = '-') = true) :
    blank character = false := by
  simp only [Bool.or_eq_true, decide_eq_true_eq] at member
  rcases member with (plain | rfl) | rfl
  · exact bearerCharacter_visible character (by simp [bearerCharacter, plain])
  · decide
  · decide

/-- A blank stops the patterns of keys and tokens. -/
theorem literals_split : ∀ pattern ∈ keyPattern :: tokenPatterns, SplitsAt blank pattern := by
  have narrow (character : Char) (member : (alphanumeric character || character = '_') = true) :
      blank character = false := urlSafe_visible character (by rw [member, Bool.true_or])
  simp only [tokenPatterns, secretValuePatterns, List.drop_succ_cons, List.drop_zero,
    List.forall_mem_cons, List.not_mem_nil, false_implies, implies_true, and_true]
  refine ⟨?_, ?_, ?_, ?_, ?_⟩
  · exact literalThen_splits "sk-" _ (by decide) (by decide) urlSafe_visible
  · exact literalThen_splits "tbk_h_" _ (by decide) (by decide) narrow
  · exact literalThen_splits "tbk_w_" _ (by decide) (by decide) narrow
  · exact literalThen_splits "tbk_i_" _ (by decide) (by decide) narrow
  · exact literalThen_splits "tbk_l_" _ (by decide) (by decide) urlSafe_visible

/-- A text behind a delimited one is redacted as if nothing stood in front of it, if no bearer match
runs into it. -/
theorem remains_behind (before more : List Char) (delimited : Delimited blank before)
    (unled : ledBy before more = 0) (place : Nat) (from_ : before.length ≤ place) :
    Kept (remains (before ++ more)) place ↔
      Kept (cutAll secretValuePatterns [⟨before.length, more⟩]) place := by
  obtain ⟨splits_key, splits_tokens⟩ := List.forall_mem_cons.mp literals_split
  have after_key : Delimited blank (ending keyPattern more 0 before) :=
    delimited.ending (ending_suffix _ _ _ _)
  have step := kept_behind_cons (bearerThen bearerCharacter :: tokenPatterns) 0 before more
    (overrun_delimited splits_key more before delimited) place (by omega) (fun start ends => ?_)
  · rwa [Nat.zero_add] at step
  have further := kept_behind_cons tokenPatterns start (ending keyPattern more 0 before)
    (stretch keyPattern more) unled place (by omega) (fun other meets => ?_)
  · rwa [ends] at further
  have last := kept_behind tokenPatterns splits_tokens other _
    (stretch (bearerThen bearerCharacter) (stretch keyPattern more))
    (after_key.ending (ending_suffix (bearerThen bearerCharacter)
      (stretch keyPattern more) 0 _)) place (by omega)
  rwa [meets] at last

/-- The pattern of keys passes over what a credential starts with. -/
theorem keyPattern_passes (kind : CredentialKind) (after : List Char) :
    Passes keyPattern kind.opening.toList after := by
  have keyless : 's' ∉ kind.opening.toList := by
    cases kind with
    | token kind => cases kind <;> decide
    | lease => decide
    | bearer => decide
  intro ending some within
  obtain ⟨character, rest, rfl⟩ := List.exists_cons_of_ne_nil some
  refine literalThen_unopened "sk-" _ 's' ['k', '-'] (by decide) character (rest ++ after) ?_
  rintro rfl
  exact keyless (within.subset List.mem_cons_self)

/-- A bearer match that runs into a text behind a delimited one takes the run that the text starts
with, and the rest is redacted as if nothing stood in front of it. -/
theorem remains_led (before more : List Char) (delimited : Delimited blank before)
    (led : ledBy before more ≠ 0) (first : Char) (others : List Char)
    (starts : stretch keyPattern more = first :: others) (shown : blank first = false) :
    ∃ behind : List (Text.Part Char),
      cut keyPattern 0 before.length more = ⟨before.length, stretch keyPattern more⟩ :: behind ∧
      ∀ place, before.length ≤ place → (Kept (remains (before ++ more)) place ↔
        Kept (cutAll (bearerThen bearerCharacter :: tokenPatterns)
          [⟨before.length + ((stretch keyPattern more).takeWhile bearerCharacter).length,
            (stretch keyPattern more).dropWhile bearerCharacter⟩]) place ∨
        Kept (cutAll (bearerThen bearerCharacter :: tokenPatterns) behind) place) := by
  obtain ⟨splits_key, -⟩ := List.forall_mem_cons.mp literals_split
  have after_key : Delimited blank (ending keyPattern more 0 before) :=
    delimited.ending (ending_suffix _ _ _ _)
  have shorter := (ending_suffix keyPattern more 0 before).length_le
  have taken := Nat.pos_of_ne_zero led
  obtain ⟨front, filled, within, matched⟩ := overrun_match _ 0 _ (Nat.zero_le _) taken
  have run := bearerThen_past bearerCharacter bearerCharacter_visible front _ filled
    (after_key.ending within) first others starts shown _ matched (Nat.lt_add_of_pos_right taken)
  have size : overrun (bearerThen bearerCharacter) (stretch keyPattern more) 0
      (ending keyPattern more 0 before) =
        ((stretch keyPattern more).takeWhile bearerCharacter).length := by omega
  obtain ⟨behind, left⟩ := cut_stretch keyPattern before.length more
  refine ⟨behind, left, fun place from_ => ?_⟩
  obtain ⟨parts, same, step⟩ := kept_behind_step (bearerThen bearerCharacter :: tokenPatterns) 0
    before more (overrun_delimited splits_key more before delimited) place (by omega)
  have reads := bearerThen_reads bearerCharacter bearerCharacter_visible
  rw [Nat.zero_add] at same step
  rw [left] at same
  obtain ⟨-, rfl⟩ := List.cons.inj same
  rw [remains, patterns_first, step, kept_overrun reads tokenPatterns _ _ _ taken place (by omega),
    size, drop_takeWhile, Nat.sub_add_cancel (by omega)]

/-- A bearer match that runs into another bearer credential leaves the blank in it. -/
theorem bearer_led (before after : List Char) (delimited : Delimited blank before)
    (led : ledBy before ("Bearer ".toList ++ after) ≠ 0) :
    Kept (remains (before ++ ("Bearer ".toList ++ after))) (before.length + 6) := by
  have opened : "Bearer ".toList = "Bearer".toList ++ [' '] := by decide
  have left := stretch_passes _ after (keyPattern_passes .bearer after)
  change stretch keyPattern ("Bearer ".toList ++ after) = "Bearer ".toList ++ _ at left
  rw [opened, List.append_assoc, List.append_assoc, List.singleton_append, List.singleton_append]
    at left
  rw [opened, List.append_assoc, List.singleton_append] at led ⊢
  obtain ⟨behind, -, step⟩ := remains_led before _ delimited led 'B' _ left (by decide)
  have letters : ∀ character ∈ "Bearer".toList, bearerCharacter character = true := by decide
  have stops : bearerCharacter ' ' = false := by decide
  rw [step _ (by omega), left, takeWhile_stop _ ' ' stops, List.dropWhile_append_of_pos letters,
    List.dropWhile_cons_of_neg (by simp [stops]), List.takeWhile_eq_self_iff.mpr letters]
  have halts : ∀ pattern ∈ bearerThen bearerCharacter :: tokenPatterns,
      Halts (fun character => !alphanumeric character) pattern := fun pattern listed =>
    secretValuePatterns_halt pattern (patterns_first ▸ List.mem_cons_of_mem _ listed)
  exact .inl (kept_stuck _ halts _ ' ' _ (by decide))

/-- A run takes all of a front of its class. -/
theorem literalThen_takes (opening : String) (inClass : Char → Bool) (front after : List Char)
    (length : Nat) (matched : literalThen opening inClass (front ++ after) = some length)
    (member : ∀ character ∈ front, inClass character = true) : front.length ≤ length := by
  unfold literalThen at matched
  split at matched
  · obtain ⟨-, rfl⟩ := (runAfter_eq_some_iff _ _ _ _).mp matched
    by_contra short
    rw [Nat.not_le] at short
    obtain ⟨character, listed, next⟩ : ∃ character ∈ front, character ∈ ((front ++ after).drop
        (opening.length +
          (((front ++ after).drop opening.length).takeWhile inClass).length)).head? := by
      refine ⟨_, List.getElem_mem short, ?_⟩
      rw [Option.mem_def, List.head?_drop, List.getElem?_append_left short,
        List.getElem?_eq_getElem short]
    rw [← List.drop_drop, drop_takeWhile] at next
    have apart := head_dropWhile next
    rw [member character listed] at apart
    cases apart
  · cases matched

/-- A bearer match that runs into a token takes it. -/
theorem token_led (before text after : List Char) (delimited : Delimited blank before)
    (filled : text ≠ [])
    (alphabet : ∀ character ∈ text,
      (alphanumeric character || character = '_' || character = '-') = true)
    (led : ledBy before (text ++ after) ≠ 0) :
    Covered (before ++ (text ++ after)) before.length text.length := by
  have reads_key : Reads keyPattern := literalThen_reads "sk-" _ (by decide)
  have wide (character : Char)
      (member : (alphanumeric character || character = '_' || character = '-') = true) :
      bearerCharacter character = true := by
    simp only [Bool.or_eq_true, decide_eq_true_eq] at member
    rcases member with (plain | rfl) | rfl
    · simp [bearerCharacter, plain]
    · decide
    · decide
  intro place from_ below kept
  rcases passes_or_matches keyPattern text after with
    passes | ⟨front, taken, length, rfl, someTaken, passes, matched⟩
  · have left := stretch_passes text after passes
    obtain ⟨first, others, same⟩ := List.exists_cons_of_ne_nil filled
    obtain ⟨behind, cutting, step⟩ := remains_led before _ delimited led first
      (others ++ stretch keyPattern after) (by rw [left, same]; rfl)
      (urlSafe_visible first (alphabet first (by simp [same])))
    obtain ⟨later, cut_after⟩ := cut_stretch keyPattern (before.length + text.length) after
    rw [cut_passes _ _ _ passes _ _ cut_after] at cutting
    obtain ⟨-, rfl⟩ := List.cons.inj cutting
    have run : text.length ≤ ((stretch keyPattern (text ++ after)).takeWhile bearerCharacter).length := by
      rw [left, List.takeWhile_append_of_pos (fun character listed =>
        wide character (alphabet character listed)), List.length_append]
      exact Nat.le_add_right _ _
    rcases (step place from_).mp kept with here | there
    · have range := kept_range _ _ _ _ here
      omega
    · have range := cut_from _ keyPattern (before.length + text.length) after place (by
        rw [cut_after, kept_cons]
        exact .inr there)
      omega
  · have inside := fun character listed => alphabet character (List.mem_append_right front listed)
    have enough := literalThen_takes "sk-" _ taken after length matched inside
    have cutting := cut_match reads_key before.length front (taken ++ after) length passes matched
    rw [← List.append_assoc] at cutting
    have left := stretch_of_cut cutting
    cases front with
    | nil =>
      have reads := bearerThen_reads bearerCharacter bearerCharacter_visible
      have none := overrun_le reads (stretch keyPattern (([] ++ taken) ++ after))
        (ending keyPattern (([] ++ taken) ++ after) 0 before)
      have empty : (stretch keyPattern (([] ++ taken) ++ after)).length = 0 := by rw [left]; rfl
      exact led (Nat.le_zero.mp (empty ▸ none))
    | cons first others =>
      obtain ⟨behind, cut_whole, step⟩ := remains_led before _ delimited led first others left
        (urlSafe_visible first (alphabet first (by simp)))
      rw [cutting] at cut_whole
      obtain ⟨-, rfl⟩ := List.cons.inj cut_whole
      have run : (first :: others).takeWhile bearerCharacter = first :: others :=
        List.takeWhile_eq_self_iff.mpr (fun character listed =>
          wide character (alphabet character (List.mem_append_left taken listed)))
      have none : (first :: others).dropWhile bearerCharacter = [] := by
        rw [← drop_takeWhile, run, List.drop_length]
      rw [left, run, none] at step
      rw [List.length_append] at below
      rcases (step place from_).mp kept with here | there
      · have range := kept_range _ _ _ _ here
        rw [List.length_nil] at range
        omega
      · have range := cut_from _ _ _ _ _ there
        omega

/-- A credential that no bearer match runs into is covered exactly if it is consumed. -/
theorem unled_covered_iff (credential : Credential) (before after : List Char)
    (delimited : Delimited blank before) (unled : ledBy before (credential.text ++ after) = 0) :
    Covered (before ++ (credential.text ++ after)) before.length credential.text.length ↔
      Consumed credential.kind.own credential.kind.earlier credential.text after := by
  have some : credential.text ≠ [] := by simp [Credential.text, credential.filled]
  have opens : Comparable credential.kind.opening.toList (credential.text ++ after) :=
    .inl ⟨credential.body ++ after, by rw [Credential.text, List.append_assoc]⟩
  have halts : ∀ pattern ∈ credential.kind.earlier ++ credential.kind.own :: credential.kind.later,
      Halts (fun character => !alphanumeric character) pattern := by
    rw [← credential.kind.patterns_split]
    exact secretValuePatterns_halt
  rw [← covered_iff_consumed _ _ _ _ halts (foreign_to_credential credential.kind) before.length _ _
    some opens, ← credential.kind.patterns_split]
  exact forall₃_congr (fun place from_ _ =>
    not_congr (remains_behind before _ delimited unled place from_))

/-- A credential that a bearer match runs into is covered exactly if it is a token. -/
theorem led_covered_iff (credential : Credential) (before after : List Char)
    (delimited : Delimited blank before) (led : ledBy before (credential.text ++ after) ≠ 0) :
    Covered (before ++ (credential.text ++ after)) before.length credential.text.length ↔
      credential.kind ≠ .bearer := by
  have some : credential.text ≠ [] := by simp [Credential.text, credential.filled]
  have token (opening : ∀ character ∈ credential.kind.opening.toList,
      (alphanumeric character || character = '_' || character = '-') = true)
      (body : ∀ character ∈ credential.body,
        (alphanumeric character || character = '_' || character = '-') = true) :
      Covered (before ++ (credential.text ++ after)) before.length credential.text.length :=
    token_led before credential.text after delimited some
      (List.forall_mem_append.mpr ⟨opening, body⟩) led
  obtain ⟨kind, body, filled, within⟩ := credential
  cases kind with
  | token kind =>
    have prefixes : ∀ character ∈ (tokenPrefixes kind).toList,
        (alphanumeric character || character = '_' || character = '-') = true := by
      cases kind <;> decide
    exact iff_of_true (token prefixes within) (by simp)
  | lease =>
    have opening : ∀ character ∈ "tbk_l_".toList,
        (alphanumeric character || character = '_' || character = '-') = true := by decide
    exact iff_of_true (token opening within) (by simp)
  | bearer =>
    refine iff_of_false (fun covered => ?_) (by simp)
    have left := bearer_led before (body ++ after) delimited (by
      rw [← List.append_assoc]
      exact led)
    rw [← List.append_assoc "Bearer ".toList] at left
    refine covered (before.length + 6) (Nat.le_add_right _ _) (Nat.add_lt_add_left ?_ _) left
    rw [Credential.text, List.length_append]
    exact Nat.lt_of_lt_of_le (by decide : 6 < "Bearer ".toList.length) (Nat.le_add_right _ _)

/-! ## What is left for the pattern of a credential -/

/-- A literal and a run take a text in front of a blank exactly if this is the literal and a body of
the class. -/
theorem takes_literal_iff (opening : String) (inClass : Char → Bool) (left rest : List Char)
    (visible : ∀ character, inClass character = true → blank character = false)
    (shown : ∀ character ∈ opening.toList, blank character = false)
    (parted : ∀ character ∈ rest.head?, blank character = true) :
    Takes (literalThen opening inClass) left rest ↔ ∃ body, left = opening.toList ++ body ∧
      body ≠ [] ∧ ∀ character ∈ body, inClass character = true := by
  constructor
  · rintro ⟨length, matched, enough⟩
    obtain ⟨run, after, whole, ⟨filled, within⟩, -, rfl⟩ :=
      (literalThen_eq_some_iff _ _ _ _).mp matched
    rw [← List.append_assoc] at whole
    have inside : left <+: opening.toList ++ run :=
      List.prefix_of_prefix_length_le (List.prefix_append left rest)
        (whole ▸ List.prefix_append _ _) (by rwa [List.length_append])
    obtain ⟨more, same⟩ := inside
    -- What the match takes behind the text would start with a blank.
    have nothing : more = [] := by
      cases more with
      | nil => rfl
      | cons next more =>
        rw [← same, List.append_assoc] at whole
        have behind := List.append_cancel_left whole
        have hidden : blank next = true := parted next (by rw [behind]; rfl)
        have listed : next ∈ opening.toList ++ run := same ▸ (by simp)
        have seen : blank next = false := by
          rcases List.mem_append.mp listed with here | here
          · exact shown next here
          · exact visible next (within next here)
        rw [seen] at hidden
        cases hidden
    subst nothing
    exact ⟨run, by rw [← same, List.append_nil], filled, within⟩
  · rintro ⟨body, rfl, filled, within⟩
    refine ⟨_, (literalThen_eq_some_iff _ _ _ _).mpr
      ⟨body, rest, List.append_assoc _ _ _, ⟨filled, within⟩, ?_, rfl⟩, List.length_append.le⟩
    intro character first
    cases member : inClass character with
    | false => rfl
    | true =>
      have hidden := parted character first
      rw [visible character member] at hidden
      cases hidden

/-- The bearer pattern takes the word with a body, if something is left of this or nothing follows,
exactly if something is left. -/
theorem takes_bearer_iff (body rest : List Char)
    (within : ∀ character ∈ body, bearerCharacter character = true)
    (apart : body ≠ [] ∨ rest = []) :
    Takes (bearerThen bearerCharacter) ("Bearer ".toList ++ body) rest ↔ body ≠ [] := by
  constructor
  · rintro ⟨length, matched, -⟩ rfl
    obtain rfl := apart.resolve_left (by simp)
    have unmatched : bearerThen bearerCharacter ("Bearer ".toList ++ [] ++ []) = none := by decide
    rw [unmatched] at matched
    cases matched
  · intro filled
    obtain ⟨first, others, rfl⟩ := List.exists_cons_of_ne_nil filled
    have seen : ∀ character ∈ (first :: others ++ rest).head?, blank character = false := by
      rintro character ⟨rfl⟩
      exact bearerCharacter_visible _ (within _ List.mem_cons_self)
    obtain ⟨gap, behind⟩ := takeWhile_run blank [' '] (first :: others ++ rest) (by decide) seen
    have split : "Bearer ".toList ++ (first :: others) ++ rest =
        "Bearer".toList ++ ([' '] ++ (first :: others ++ rest)) := by
      have opened : "Bearer ".toList = "Bearer".toList ++ [' '] := by decide
      rw [opened, List.append_assoc, List.append_assoc]
    have run : (first :: others ++ rest).takeWhile bearerCharacter =
        first :: others ++ rest.takeWhile bearerCharacter :=
      List.takeWhile_append_of_pos within
    have six : "Bearer".toList.length = 6 := by decide
    have word (more : List Char) : ("Bearer".toList ++ more).take 6 = "Bearer".toList :=
      List.take_left' six
    have left (more : List Char) : ("Bearer".toList ++ more).drop 6 = more := List.drop_left' six
    rw [Takes, split]
    refine ⟨_, (bearerThen_eq_some_iff _ _ _).mpr ⟨?_, ?_, ?_, rfl⟩, ?_⟩
    · rw [word]
      decide
    · rw [left, gap]
      exact List.cons_ne_nil _ _
    · rw [left, behind, run]
      exact List.cons_ne_nil _ _
    · have seven : "Bearer ".toList.length = 7 := by decide
      rw [left, gap, behind, run]
      simp only [List.length_append, List.length_cons, List.length_nil, seven]
      omega

/-- What the pattern of keys leaves of a bearer header's value starts with the word. -/
theorem leaves_bearer (body after left rest : List Char) (filled : body ≠ [])
    (leaves : Leaves left rest [keyPattern] ("Bearer ".toList ++ body) after) :
    ∃ kept, left = "Bearer ".toList ++ kept ∧ (kept ≠ [] ∨ rest = []) := by
  rcases leaves with ⟨-, rfl, -⟩ | ⟨kept, taken, whole, some, -, ⟨length, matched, -⟩, rfl, rfl⟩
  · exact ⟨body, rfl, .inl filled⟩
  · obtain ⟨key, others, starts, -⟩ :=
      (literalThen_isSome_iff _ _ _).mp (by rw [keyPattern] at matched; rw [matched]; rfl)
    obtain ⟨first, taken, rfl⟩ := List.exists_cons_of_ne_nil some
    have opens : 's' = first := (List.cons.inj starts).1.symm
    subst opens
    rcases List.append_eq_append_iff.mp whole with ⟨more, rfl, -⟩ | ⟨more, opening, same⟩
    · exact ⟨more, rfl, .inr rfl⟩
    · cases more with
      | nil => exact ⟨[], by rw [opening, List.append_nil, List.append_nil], .inr rfl⟩
      | cons letter more =>
        obtain ⟨rfl, -⟩ := List.cons.inj same
        have listed : 's' ∈ "Bearer ".toList := by rw [opening]; simp
        exact absurd listed (by decide)

/-- The pattern of a credential takes what the earlier ones leave of it exactly if that has some of
the body, and no hyphen in a token of the API. -/
theorem own_takes_iff (credential : Credential) (after left rest : List Char)
    (parted : ∀ character ∈ after.head?, blank character = true)
    (leaves : Leaves left rest credential.kind.earlier credential.text after) :
    Takes credential.kind.own left rest ↔
      ∃ body, left = credential.kind.opening.toList ++ body ∧ body ≠ [] ∧
        ∀ token, credential.kind = .token token → '-' ∉ body := by
  obtain ⟨inside, behind⟩ := leaves_front _ _ _ _ _ leaves
  have parted_rest : ∀ character ∈ rest.head?, blank character = true := by
    obtain ⟨more, rfl⟩ := behind
    intro character first
    cases rest with
    | nil => cases first
    | cons other others => exact parted character first
  have body_within (body : List Char) (whole : left = credential.kind.opening.toList ++ body) :
      ∀ character ∈ body, credential.kind.alphabet character = true := by
    intro character listed
    rw [whole, Credential.text] at inside
    exact credential.within character
      (((List.prefix_append_right_inj _).mp inside).subset listed)
  obtain ⟨kind, body, filled, within⟩ := credential
  cases kind with
  | token kind =>
    have shown : ∀ character ∈ (tokenPrefixes kind).toList, blank character = false := by
      cases kind <;> decide
    have visible (character : Char) (member : (alphanumeric character || character = '_') = true) :
        blank character = false := urlSafe_visible character (by rw [member]; rfl)
    refine (takes_literal_iff _ _ left rest visible shown parted_rest).trans
      (exists_congr (fun body => and_congr_right (fun whole => and_congr_right (fun _ => ?_))))
    have listed := body_within body whole
    constructor
    · rintro plain - - hyphen
      exact absurd (plain '-' hyphen) (by decide)
    · intro unhyphened character here
      have apart : character ≠ '-' := by
        rintro rfl
        exact unhyphened kind rfl here
      have safe : (alphanumeric character || character = '_' || character = '-') = true :=
        listed character here
      simpa [apart] using safe
  | lease =>
    have shown : ∀ character ∈ "tbk_l_".toList, blank character = false := by decide
    refine (takes_literal_iff _ _ left rest urlSafe_visible shown parted_rest).trans
      (exists_congr (fun body => and_congr_right (fun whole => and_congr_right (fun _ => ?_))))
    exact iff_of_true (body_within body whole) (by rintro token ⟨⟩)
  | bearer =>
    obtain ⟨kept, rfl, apart⟩ := leaves_bearer body after left rest filled leaves
    have wide : ∀ character ∈ kept, bearerCharacter character = true := by
      intro character listed
      have member : (alphanumeric character || "._~+/=-".toList.contains character) = true :=
        body_within kept rfl character listed
      rw [bearerCharacter, member]
      rfl
    refine (takes_bearer_iff kept rest wide apart).trans ?_
    constructor
    · exact fun some => ⟨kept, rfl, some, by rintro token ⟨⟩⟩
    · rintro ⟨other, whole, some, -⟩
      rwa [List.append_cancel_left whole]

end Redaction

/-- A credential behind a delimited text is redacted as a whole exactly if a bearer match in front of
it runs into it and it is a token, or none does and the patterns up to its own consume it. The
redacted text has markers between the parts that are left, each of which stands at its place in the
text. -/
theorem credential_covered_iff (credential : Credential) (before after : List Char)
    (delimited : Delimited blank before) :
    redactSensitiveValue (.str (String.ofList (before ++ (credential.text ++ after)))) =
      .str (String.ofList (redactedSecret.toList.intercalate
        ((remains (before ++ (credential.text ++ after))).map Text.Part.text))) ∧
    (∀ part ∈ remains (before ++ (credential.text ++ after)),
      part.text <+: (before ++ (credential.text ++ after)).drop part.start) ∧
    (Covered (before ++ (credential.text ++ after)) before.length credential.text.length ↔
      (ledBy before (credential.text ++ after) ≠ 0 ∧ credential.kind ≠ .bearer) ∨
      (ledBy before (credential.text ++ after) = 0 ∧
        Consumed credential.kind.own credential.kind.earlier credential.text after)) := by
  refine ⟨?_, ?_, ?_⟩
  · have left := redactText_remains (String.ofList (before ++ (credential.text ++ after)))
    rw [String.toList_ofList] at left
    rw [redactSensitiveValue, ← left, String.ofList_toList]
  · exact cutAll_within _ [⟨0, _⟩] _ (by simp)
  · by_cases led : ledBy before (credential.text ++ after) = 0
    · rw [unled_covered_iff credential before after delimited led]
      simp [led]
    · rw [led_covered_iff credential before after delimited led]
      simp [led]

/-- A credential between blanks is redacted as a whole exactly if a bearer match in front of it runs
into it and it is a token, or none does and what the patterns before its own leave of it has some of
the body, and no hyphen in a token of the API. -/
theorem credential_left_iff (credential : Credential) (before after : List Char)
    (delimited : Delimited blank before)
    (parted : ∀ character ∈ after.head?, blank character = true) :
    Covered (before ++ (credential.text ++ after)) before.length credential.text.length ↔
      (ledBy before (credential.text ++ after) ≠ 0 ∧ credential.kind ≠ .bearer) ∨
      (ledBy before (credential.text ++ after) = 0 ∧ ∃ body rest,
        Leaves (credential.kind.opening.toList ++ body) rest credential.kind.earlier
          credential.text after ∧
        body ≠ [] ∧ ∀ token, credential.kind = .token token → '-' ∉ body) := by
  by_cases led : ledBy before (credential.text ++ after) = 0
  · rw [unled_covered_iff credential before after delimited led, consumed_iff_leaves]
    simp only [led, ne_eq, not_true_eq_false, false_and, false_or, true_and]
    constructor
    · rintro ⟨left, rest, leaves, takes⟩
      obtain ⟨body, rfl, some, unhyphened⟩ :=
        (own_takes_iff credential after left rest parted leaves).mp takes
      exact ⟨body, rest, leaves, some, unhyphened⟩
    · rintro ⟨body, rest, leaves, some, unhyphened⟩
      exact ⟨_, rest, leaves, (own_takes_iff credential after _ rest parted leaves).mpr
        ⟨body, rfl, some, unhyphened⟩⟩
  · rw [led_covered_iff credential before after delimited led]
    simp [led]

/-- A lease token with a hyphen between blanks. -/
def leaseCredential : Credential where
  kind := .lease
  body := "a-b".toList
  filled := by decide
  within := by decide

/-- A lease token with a hyphen is redacted as a whole. -/
theorem credential_covered_lease :
    Covered ("use ".toList ++ (leaseCredential.text ++ " now".toList)) "use ".toList.length
      leaseCredential.text.length := by
  have unled : ledBy "use ".toList (leaseCredential.text ++ " now".toList) = 0 := by decide
  have passes (pattern : List Char → Option Nat) (front after : List Char)
      (nowhere : front.tails.all (fun rest =>
        rest.isEmpty || (pattern (rest ++ after)).isNone) = true) : Passes pattern front after := by
    intro ending some within
    have here := List.all_eq_true.mp nowhere ending ((List.mem_tails _ _).mpr within)
    simpa [some] using here
  have closed : Delimited blank "use ".toList := by
    intro character last
    obtain rfl : ' ' = character := by simpa using last
    exact by decide
  refine (credential_covered_iff leaseCredential "use ".toList " now".toList closed).2.2.mpr
    (.inr ⟨unled, ?_⟩)
  refine .inl ⟨passes _ _ _ (by decide), ?_⟩
  refine .inl ⟨passes _ _ _ (by decide), ?_⟩
  refine .inl ⟨passes _ _ _ (by decide), ?_⟩
  refine .inl ⟨passes _ _ _ (by decide), ?_⟩
  refine .inl ⟨passes _ _ _ (by decide), ?_⟩
  exact ⟨9, by decide, by decide⟩

/-- A host token with a hyphen, which the API accepts, keeps what is behind the hyphen. -/
theorem credential_uncovered :
    redactSensitiveValue (.str "use tbk_h_abc-def now") = .str "use [REDACTED_SECRET]-def now" ∧
      redactSensitiveValue (.str "use tbk_h_-def now") = .str "use tbk_h_-def now" ∧
      redactSensitiveValue (.str "Bearer sk-abc") = .str "Bearer [REDACTED_SECRET]" := by
  simp only [redactSensitiveValue, Json.str.injEq]
  decide

end TokenBank
