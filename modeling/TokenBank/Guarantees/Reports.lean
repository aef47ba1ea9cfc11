import TokenBank.Observability.Spelled

/-!
# Reports redacted as text

A report comes back with the same shape and the same keys, and with each text redacted by itself,
exactly if the rules find in what JSON writes for its texts what they find in the texts, and nothing
in what JSON writes for its keys. A tab in front of the rest of a token breaks the report; bearer
credentials with other blanks are not found; and some characters start bearer credentials that are
none.
-/

namespace TokenBank

namespace ReportGenerator

open Redaction Text Canonical

/-- A text of a report redacted by itself. -/
def redactString (text : String) : String := String.ofList (redactText text.toList)

/-- A report is redacted without an error: its shape and its keys are kept, each text of it is
redacted by itself, and none has a token, a key or a bearer credential. The members of objects come
back in the order of their keys. -/
def RedactsTexts (report : Json) : Prop :=
  ∃ redacted, redactReport report = some redacted ∧
    redacted = ordered (mapTexts redactString report) ∧
    ∀ text ∈ texts redacted, Clean text.toList

/-! ## Texts as they are read back -/

/-- A rule rewrites what JSON writes for a text as it rewrites the text where the matches are alike,
and breaks it otherwise. -/
def Strict (rule : Rule Char) : Prop := ∀ text,
  (rule.agrees (asWritten rule) 0 text = true ∧
    rule.apply (asciiText text) = asciiText (rule.apply text)) ∨
  (¬ rule.agrees (asWritten rule) 0 text = true ∧ Broken (rule.apply (asciiText text)))

/-- The rules for a literal and a run, which come before the one for bearer credentials. -/
def literalRules : List (Rule Char) :=
  defaultTokenPrefixPatterns.map (replacing redactedToken) ++ [keyRule]

/-- The rules for a literal and a run are strict. -/
theorem literalRules_strict : ∀ rule ∈ literalRules, Strict rule := by
  simp only [literalRules, defaultTokenPrefixPatterns, keyRule, List.map_cons, List.map_nil,
    List.cons_append, List.nil_append, List.forall_mem_cons, List.not_mem_nil, false_implies,
    implies_true, and_true]
  refine ⟨fun text => ?_, fun text => ?_, fun text => ?_, fun text => ?_⟩
  · exact replacing_written ⟨by decide, tokenCharacter_plain⟩ 't' _ rfl (by decide) ⟨_, rfl⟩
      (by decide) _ rfl text
  · exact replacing_written ⟨by decide, tokenCharacter_plain⟩ 't' _ rfl (by decide) ⟨_, rfl⟩
      (by decide) _ rfl text
  · exact replacing_written ⟨by decide, tokenCharacter_plain⟩ 't' _ rfl (by decide) ⟨_, rfl⟩
      (by decide) _ rfl text
  · exact replacing_written ⟨by decide, keyCharacter_plain⟩ 's' _ rfl (by decide) ⟨_, rfl⟩
      (by decide) _ rfl text

/-- A strict rule writes what JSON writes, or breaks it. -/
theorem Strict.writes {rule : Rule Char} (strict : Strict rule) : Writes rule := fun text =>
  (strict text).imp (fun alike => ⟨_, alike.2⟩) And.right

/-- Strict rules, one after the other, rewrite what JSON writes for a text as they rewrite the text
where the matches are alike, and break it otherwise. -/
theorem strict_foldl (some : List (Rule Char)) (sound : ∀ rule ∈ some, Sound rule)
    (strict : ∀ rule ∈ some, Strict rule) (text : List Char) :
    (writtenAlike some text = true ∧
      some.foldl (fun redacted rule => rule.apply redacted) (asciiText text) =
        asciiText (some.foldl (fun redacted rule => rule.apply redacted) text)) ∨
    (¬ writtenAlike some text = true ∧
      Broken (some.foldl (fun redacted rule => rule.apply redacted) (asciiText text))) := by
  have stays (some : List (Rule Char)) (sound : ∀ rule ∈ some, Sound rule)
      (strict : ∀ rule ∈ some, Strict rule) (text : List Char) (broken : Broken text) :
      Broken (some.foldl (fun redacted rule => rule.apply redacted) text) := by
    induction some generalizing text with
    | nil => exact broken
    | cons rule rest inductionHypothesis =>
      obtain ⟨sound_here, sound_later⟩ := List.forall_mem_cons.mp sound
      obtain ⟨strict_here, strict_later⟩ := List.forall_mem_cons.mp strict
      exact inductionHypothesis sound_later strict_later _
        (broken.apply sound_here strict_here.writes)
  induction some generalizing text with
  | nil => exact .inl ⟨rfl, rfl⟩
  | cons rule rest inductionHypothesis =>
    obtain ⟨sound_here, sound_later⟩ := List.forall_mem_cons.mp sound
    obtain ⟨strict_here, strict_later⟩ := List.forall_mem_cons.mp strict
    simp only [List.foldl_cons, writtenAlike, Bool.and_eq_true]
    rcases strict_here text with ⟨agree, same⟩ | ⟨differ, broken⟩
    · rw [same]
      exact (inductionHypothesis sound_later strict_later (rule.apply text)).imp
        (fun alike => ⟨⟨agree, alike.1⟩, alike.2⟩)
        (fun other => ⟨fun alike => other.1 alike.2, other.2⟩)
    · exact .inr ⟨fun alike => differ alike.1, stays rest sound_later strict_later _ broken⟩

/-- Rules that come after others look at what these leave. -/
theorem writtenAlike_append (early late : List (Rule Char)) (text : List Char) :
    writtenAlike (early ++ late) text = (writtenAlike early text &&
      writtenAlike late (early.foldl (fun redacted rule => rule.apply redacted) text)) := by
  induction early generalizing text with
  | nil => rfl
  | cons rule rest inductionHypothesis =>
    rw [List.cons_append, writtenAlike, writtenAlike, inductionHypothesis, Bool.and_assoc]
    rfl

/-- What redaction makes of the text that JSON writes for a text: that of another text, which is the
redacted one exactly if the matches are alike, or one that is refused. -/
theorem redactText_asciiText (text : List Char) :
    (∃ left, redactText (asciiText text) = asciiText left ∧
      (left = redactText text ↔ writtenAlike rules text = true)) ∨
    (Broken (redactText (asciiText text)) ∧ ¬ writtenAlike rules text = true) := by
  have listed : rules = literalRules ++ [bearerRule] := rfl
  have literal : ∀ rule ∈ literalRules, rule ∈ rules := fun rule member =>
    listed ▸ List.mem_append_left _ member
  have sound := fun rule member => rules_sound rule (literal rule member)
  have last (text : List Char) : redactText text = bearerRule.apply
      (literalRules.foldl (fun redacted rule => rule.apply redacted) text) := rfl
  rw [listed, writtenAlike_append, last, last]
  simp only [writtenAlike, Bool.and_true, Bool.and_eq_true]
  rcases strict_foldl literalRules sound literalRules_strict text with
    ⟨alike, same⟩ | ⟨other, broken⟩
  · rw [same, bearerRule_written]
    refine .inl ⟨_, rfl, ?_⟩
    rw [bearerRule_alike_iff]
    exact ⟨fun agree => ⟨alike, agree⟩, And.right⟩
  · have writes : Writes bearerRule := fun text => .inl ⟨_, bearerRule_written text⟩
    exact .inr ⟨broken.apply bearerRule_sound writes, fun alike => other alike.1⟩

/-- What is read for a text from what redaction makes of what JSON writes for it. -/
def readBack (text : String) : Option String :=
  (readString (redactText (asciiText text.toList) ++ ['"'])).map
    (fun found => String.ofList found.1)

/-- A text is read alike whatever follows its closing quote. -/
theorem readAs_readBack : ReadAs (fun text => redactText (asciiText text.toList)) readBack := by
  intro text rest
  rcases redactText_asciiText text.toList with ⟨left, same, -⟩ | ⟨broken, -⟩
  · simp only [readBack, same]
    rw [readString_asciiText, readString_asciiText]
    simp
  · simp only [readBack]
    rw [broken.refused, broken.refused]
    rfl

/-- A text is read back redacted exactly if the matches are alike. -/
theorem readBack_text (text : String) :
    readBack text = some (redactString text) ↔ writtenAlike rules text.toList = true := by
  rcases redactText_asciiText text.toList with ⟨left, same, alike⟩ | ⟨broken, other⟩
  · rw [← alike, readBack, same, readString_asciiText, Option.map_some, Option.some.injEq,
      redactString]
    exact ⟨fun read => String.ofList_injective read, fun read => congrArg String.ofList read⟩
  · rw [readBack, broken.refused]
    exact ⟨fun read => (by cases read), fun alike => absurd alike other⟩

/-- A key is read back as it is exactly if what JSON writes for it has no match. -/
theorem readBack_key (key : String) : readBack key = some key ↔ Clean (asciiText key.toList) := by
  rw [← redactText_eq_self_iff]
  constructor
  · intro read
    rcases redactText_asciiText key.toList with ⟨left, same, -⟩ | ⟨broken, -⟩
    · rw [readBack, same, readString_asciiText, Option.map_some, Option.some.injEq] at read
      rw [same, ← read, String.toList_ofList]
    · rw [readBack, broken.refused] at read
      cases read
  · intro kept
    rw [readBack, kept, readString_asciiText, Option.map_some, String.ofList_toList]

/-! ## Reports -/

/-- A report is redacted as its texts and its keys are read back. -/
theorem redactReport_reread (report : Json) (plain : Canonical.plain report = true) :
    redactReport report = reread readBack (ordered report) := by
  rw [redactReport, redactText_jsonDumps report plain]
  exact jsonLoads_written readAs_readBack _ (plain_ordered report plain)

/-- A report is redacted text by text exactly if each text of it is read back redacted, and each key
as it is. -/
theorem redacts_read_iff (report : Json) (plain : Canonical.plain report = true) :
    RedactsTexts report ↔
      (∀ text ∈ texts report, readBack text = some (redactString text)) ∧
        ∀ key ∈ keys report, readBack key = some key := by
  have whole : RedactsTexts report ↔
      reread readBack (ordered report) = some (mapTexts redactString (ordered report)) := by
    rw [mapTexts_ordered]
    constructor
    · rintro ⟨redacted, same, rfl, -⟩
      rwa [← redactReport_reread report plain]
    · intro same
      refine ⟨_, (redactReport_reread report plain).trans same, rfl, fun text member => ?_⟩
      rw [← mapTexts_ordered, texts_mapTexts] at member
      obtain ⟨original, -, rfl⟩ := List.mem_map.mp member
      rw [redactString, String.toList_ofList]
      exact redactText_clean _
  obtain ⟨same_texts, same_keys⟩ := ordered_contents report
  rw [whole, reread_eq_iff _ (plain_ordered report plain)]
  simp only [same_texts, same_keys]

/-- A report is redacted text by text exactly if the rules find in what JSON writes for each text
what they find in the text, and nothing in what JSON writes for each key. -/
theorem redacts_texts_iff (report : Json) (plain : Canonical.plain report = true) :
    RedactsTexts report ↔
      (∀ text ∈ texts report, writtenAlike rules text.toList = true) ∧
        ∀ key ∈ keys report, Clean (asciiText key.toList) := by
  rw [redacts_read_iff report plain]
  simp only [readBack_text, readBack_key]

/-- A report is redacted text by text exactly if in no text a tab stands before the rest of a token,
the bearer credentials are printable and no escape completes another one, each in what the rules
before leave, and nothing matches in what JSON writes for each key. -/
theorem redacts_undisturbed_iff (report : Json) (plain : Canonical.plain report = true) :
    RedactsTexts report ↔ (∀ text ∈ texts report, Undisturbed text.toList) ∧
      ∀ key ∈ keys report, Clean (asciiText key.toList) := by
  rw [redacts_read_iff report plain]
  simp only [readBack_text, readBack_key, writtenAlike_rules_iff]

/-! ## Printable texts -/

/-- Rules find in what JSON writes for a text of characters that are written as they are what they
find in the text. -/
theorem agrees_plain (rule : Rule Char) (text : List Char)
    (plain : ∀ character ∈ text, asciiEscaped character = [character]) :
    rule.agrees (asWritten rule) 0 text = true := by
  rw [Rule.agrees_iff]
  intro place listed
  obtain ⟨within, filled⟩ := Rule.places_within 0 text place listed
  obtain ⟨character, rest, rfl⟩ := List.exists_cons_of_ne_nil filled
  have later : asciiText rest = rest := asciiText_self rest (fun other member =>
    plain other (within.subset (List.mem_cons_of_mem _ member)))
  rw [asWritten, plain character (within.subset List.mem_cons_self), later, matchWithin,
    List.cons_append, List.nil_append]
  cases rule.pattern (character :: rest) with
  | none => rfl
  | some found => rfl

/-- A text of characters that are written as they are is one after it is redacted. -/
theorem writtenAlike_plain (some : List (Rule Char)) (listed : ∀ rule ∈ some, rule ∈ rules)
    (text : List Char) (plain : ∀ character ∈ text, asciiEscaped character = [character]) :
    writtenAlike some text = true := by
  induction some generalizing text with
  | nil => rfl
  | cons rule rest inductionHypothesis =>
    obtain ⟨here, later⟩ := List.forall_mem_cons.mp listed
    rw [writtenAlike, agrees_plain rule text plain, Bool.true_and]
    apply inductionHypothesis later
    intro character member
    rcases Rule.apply_subset (rules_sound rule here).bounded text member with inside | marked
    · exact plain character inside
    · have markers : ∀ character ∈ redactedToken.toList ++ redactedSecret.toList,
          asciiEscaped character = [character] := by decide
      apply markers
      rcases rules_marker rule here with same | same
      · exact List.mem_append_left _ (same ▸ marked)
      · exact List.mem_append_right _ (same ▸ marked)

/-- A report whose texts are printable, with no quotes and no backslashes, is redacted text by text
if what JSON writes for its keys has no match. -/
theorem printable_redacted (report : Json) (plain : Canonical.plain report = true)
    (printable : ∀ text ∈ texts report, ∀ character ∈ text.toList,
      asciiEscaped character = [character])
    (clean : ∀ key ∈ keys report, Clean (asciiText key.toList)) : RedactsTexts report :=
  (redacts_read_iff report plain).mpr
    ⟨fun text member => (readBack_text text).mpr
      (writtenAlike_plain rules (fun _ => id) text.toList (printable text member)),
    fun key member => (readBack_key key).mpr (clean key member)⟩

end ReportGenerator

namespace Reports

open Canonical ReportGenerator

section Scenario

/-- A report with a note. -/
def noteReport (note : String) : Json := .obj [("note", .str note)]

end Scenario

/-- Tokens, keys and bearer credentials are redacted where they stand, behind a line break and a
letter beyond ASCII. -/
theorem note_redacted : RedactsTexts (noteReport "\u00e9\ntbk_h_x sk-a Bearer  b.c") ∧
    (redactReport (noteReport "\u00e9\ntbk_h_x sk-a Bearer  b.c")).map canonicalJsonDumps =
      some "\x7b\"note\":\"\u00e9\\n[REDACTED_TOKEN] [REDACTED_SECRET] Bearer  [REDACTED_SECRET]\"\x7d" :=
  ⟨(redacts_texts_iff _ (by decide)).mpr ⟨by decide +kernel, by
    intro key listed
    obtain rfl := List.mem_singleton.mp listed
    exact (redactText_eq_self_iff _).mp (by decide +kernel)⟩, by decide +kernel⟩

/-- A tab in front of the rest of a token leaves a text that is no JSON. -/
theorem tab_refused : ¬ ∀ report, plain report = true → RedactsTexts report := by
  intro redacts
  obtain ⟨redacted, same, -⟩ := redacts (noteReport "\tbk_h_x") (by decide)
  have refused : (redactReport (noteReport "\tbk_h_x")).isNone = true := by decide +kernel
  rw [same] at refused
  cases refused

/-- A bearer credential behind a tab is left in the report. -/
example : (redactReport (noteReport "bearer\tx")).map canonicalJsonDumps =
    some (canonicalJsonDumps (noteReport "bearer\tx")) := by decide +kernel

end Reports

end TokenBank
