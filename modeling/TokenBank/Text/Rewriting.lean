import TokenBank.Text.Cutting

/-!
# Rewriting matches from left to right

A rule answers with how much of its match at the start of a text is kept and how long the match is.
Matches are rewritten from left to right, none of which overlaps the one before it: what is kept
stays, and a marker takes the place of the rest. A stop, which no match has, parts a text into two
that are rewritten by themselves. What was rewritten differs from the text, and rules leave no
matches behind them where markers are inert.
-/

namespace Text

variable {α : Type}

/-- A pattern that keeps the front of its match, with the marker for the rest of it. A match is
given by how much of it is kept and how long it is. -/
structure Rule (α : Type) where
  marker : List α
  pattern : List α → Option (Nat × Nat)

namespace Rule

/-- A text with the matches of a rule rewritten, after what remains of a match. -/
def rewrite (rule : Rule α) : Nat → List α → List α
  | _, [] => []
  | skipped + 1, _ :: rest => rewrite rule skipped rest
  | 0, element :: rest =>
    match rule.pattern (element :: rest) with
    | some (kept, length) =>
      (element :: rest).take kept ++ rule.marker ++ rewrite rule (length - 1) rest
    | none => element :: rewrite rule 0 rest

/-- A text with the matches of a rule rewritten. -/
def apply (rule : Rule α) (text : List α) : List α := rule.rewrite 0 text

/-- A rule matches nowhere in a text. -/
def Unmatched (rule : Rule α) (text : List α) : Prop :=
  ∀ rest, rest <:+ text → rule.pattern rest = none

/-- A rule takes a part of a text, and not only what it keeps. -/
def Bounded (rule : Rule α) : Prop :=
  ∀ text kept length, rule.pattern text = some (kept, length) →
    kept < length ∧ length ≤ text.length

/-- An element that no match of a rule has. -/
def StopsAt (rule : Rule α) (stop : α) : Prop :=
  ∀ text more, rule.pattern (text ++ stop :: more) = rule.pattern text

/-! ## One match after the other -/

section Steps

variable {rule : Rule α}

/-- Nothing is rewritten of no text. -/
theorem apply_nil : rule.apply [] = [] := rfl

/-- What remains of a match is dropped. -/
theorem rewrite_drop (skipped : Nat) (text : List α) :
    rule.rewrite skipped text = rule.apply (text.drop skipped) := by
  induction text generalizing skipped with
  | nil => simp [rewrite, apply]
  | cons element rest inductionHypothesis =>
    cases skipped with
    | zero => rfl
    | succ skipped => exact inductionHypothesis skipped

/-- A match is rewritten, and then what follows it. -/
theorem apply_matched (bounded : rule.Bounded) (text : List α) (kept length : Nat)
    (matched : rule.pattern text = some (kept, length)) :
    rule.apply text = text.take kept ++ rule.marker ++ rule.apply (text.drop length) := by
  have takes := bounded _ _ _ matched
  cases text with
  | nil =>
    rw [List.length_nil] at takes
    omega
  | cons element rest =>
    obtain ⟨later, rfl⟩ : ∃ later, length = later + 1 := ⟨length - 1, by omega⟩
    rw [apply, rewrite, matched]
    simp only [Nat.add_sub_cancel, List.drop_succ_cons, rewrite_drop]

/-- An element where no match starts is kept. -/
theorem apply_unmatched (element : α) (rest : List α)
    (unmatched : rule.pattern (element :: rest) = none) :
    rule.apply (element :: rest) = element :: rule.apply rest := by
  rw [apply, rewrite, unmatched]
  rfl

/-- A part of a text where no match starts is kept. -/
theorem apply_front (front rest : List α)
    (unmatched : ∀ tail, tail <:+ front → tail ≠ [] → rule.pattern (tail ++ rest) = none) :
    rule.apply (front ++ rest) = front ++ rule.apply rest := by
  induction front with
  | nil => rfl
  | cons element front inductionHypothesis =>
    have here : rule.pattern (element :: (front ++ rest)) = none :=
      unmatched (element :: front) List.suffix_rfl (by simp)
    rw [List.cons_append, apply_unmatched element _ here, inductionHypothesis (fun tail within some =>
      unmatched tail (within.trans (List.suffix_cons _ _)) some), List.cons_append]

/-- A text without matches is kept. -/
theorem Unmatched.apply {text : List α} (unmatched : rule.Unmatched text) :
    rule.apply text = text := by
  have kept : rule.apply (text ++ []) = text ++ rule.apply [] :=
    apply_front text [] (fun tail within _ => by
      rw [List.append_nil]
      exact unmatched tail within)
  rwa [List.append_nil, apply_nil, List.append_nil] at kept

/-- No match starts where a text ends. -/
theorem pattern_nil (bounded : rule.Bounded) : rule.pattern [] = none := by
  cases matched : rule.pattern [] with
  | none => rfl
  | some found =>
    have takes := bounded [] found.1 found.2 matched
    rw [List.length_nil] at takes
    omega

/-- No match starts at a stop. -/
theorem StopsAt.unopened (bounded : rule.Bounded) {stop : α} (stops : rule.StopsAt stop)
    (more : List α) : rule.pattern (stop :: more) = none :=
  (stops [] more).trans (pattern_nil bounded)

/-- The two sides of a stop are rewritten by themselves. -/
theorem apply_stop (bounded : rule.Bounded) {stop : α} (stops : rule.StopsAt stop)
    (text more : List α) :
    rule.apply (text ++ stop :: more) = rule.apply text ++ stop :: rule.apply more := by
  induction size : text.length using Nat.strong_induction_on generalizing text with
  | _ size inductionHypothesis =>
    cases text with
    | nil => exact apply_unmatched stop more (stops.unopened bounded more)
    | cons element rest =>
      have same := stops (element :: rest) more
      cases matched : rule.pattern (element :: rest) with
      | none =>
        rw [matched, List.cons_append] at same
        rw [List.cons_append, apply_unmatched _ _ same, apply_unmatched _ _ matched,
          inductionHypothesis rest.length (by rw [← size]; simp) rest rfl, List.cons_append]
      | some found =>
        obtain ⟨kept, length⟩ := found
        have takes := bounded _ _ _ matched
        rw [apply_matched bounded _ kept length (same.trans matched),
          apply_matched bounded _ kept length matched,
          List.take_append_of_le_length (by omega), List.drop_append_of_le_length takes.2,
          inductionHypothesis _ (by rw [← size, List.length_drop]; omega) _ rfl]
        simp only [List.append_assoc]

/-- If every match keeps some elements at least, a rewritten text starts with as many of the text. -/
theorem apply_take (bounded : rule.Bounded) (least : Nat)
    (keeps : ∀ text kept length, rule.pattern text = some (kept, length) → least ≤ kept)
    (text : List α) : (rule.apply text).take least = text.take least := by
  induction text generalizing least with
  | nil => rfl
  | cons element rest inductionHypothesis =>
    cases matched : rule.pattern (element :: rest) with
    | none =>
      rw [apply_unmatched _ _ matched]
      cases least with
      | zero => rfl
      | succ least =>
        rw [List.take_succ_cons, List.take_succ_cons, inductionHypothesis least
          (fun text kept length here => Nat.le_of_succ_le (keeps text kept length here))]
    | some found =>
      obtain ⟨kept, length⟩ := found
      have enough := keeps _ _ _ matched
      have takes := bounded _ _ _ matched
      rw [apply_matched bounded _ kept length matched, List.append_assoc,
        List.take_append_of_le_length (by rw [List.length_take]; omega), List.take_take,
        Nat.min_eq_left enough]

/-- A rewritten text has elements of the text and of the marker. -/
theorem apply_subset (bounded : rule.Bounded) (text : List α) :
    ∀ {element}, element ∈ rule.apply text → element ∈ text ∨ element ∈ rule.marker := by
  induction size : text.length using Nat.strong_induction_on generalizing text with
  | _ size inductionHypothesis =>
    intro element member
    cases text with
    | nil => exact .inl member
    | cons first rest =>
      cases matched : rule.pattern (first :: rest) with
      | none =>
        rw [apply_unmatched _ _ matched] at member
        rcases List.mem_cons.mp member with rfl | later
        · exact .inl List.mem_cons_self
        · exact (inductionHypothesis rest.length (by rw [← size]; simp) rest rfl later).imp_left
            (List.mem_cons_of_mem first)
      | some found =>
        have takes := bounded _ found.1 found.2 matched
        rw [apply_matched bounded _ found.1 found.2 matched] at member
        rcases List.mem_append.mp member with front | later
        · exact (List.mem_append.mp front).imp_left List.mem_of_mem_take
        · exact (inductionHypothesis _ (by rw [← size, List.length_drop]; omega) _ rfl later).imp_left
            List.mem_of_mem_drop

end Steps

/-! ## What was rewritten differs -/

/-- Another text differs from a text first where it has a mark. -/
def DiffersBy (mark : α) (text other : List α) : Prop :=
  ∃ front element rest after, text = front ++ element :: rest ∧ other = front ++ mark :: after ∧
    element ≠ mark

/-- Texts that differ are not one. -/
theorem DiffersBy.ne {mark : α} {text other : List α} (differs : DiffersBy mark text other) :
    other ≠ text := by
  obtain ⟨front, element, rest, after, rfl, rfl, apart⟩ := differs
  intro same
  have heads := List.append_cancel_left same
  exact apart (List.cons.inj heads).1.symm

/-- A text that differs still does behind another one. -/
theorem DiffersBy.behind {mark : α} {text other : List α} (differs : DiffersBy mark text other)
    (before : List α) : DiffersBy mark (before ++ text) (before ++ other) := by
  obtain ⟨front, element, rest, after, rfl, rfl, apart⟩ := differs
  exact ⟨before ++ front, element, rest, after, by simp, by simp, apart⟩

/-- A text that differs still does in front of another one. -/
theorem DiffersBy.before {mark : α} {text other : List α} (differs : DiffersBy mark text other)
    (more others : List α) : DiffersBy mark (text ++ more) (other ++ others) := by
  obtain ⟨front, element, rest, after, rfl, rfl, apart⟩ := differs
  exact ⟨front, element, rest ++ more, after ++ others, by simp, by simp, apart⟩

/-- A rule takes an element that is not the first one of its marker. -/
def Marks (mark : α) (rule : Rule α) : Prop :=
  (∃ others, rule.marker = mark :: others) ∧
    ∀ text kept length, rule.pattern text = some (kept, length) → text[kept]? ≠ some mark

section Differences

variable {rule : Rule α} {mark : α}

/-- A text with a match differs from what it is rewritten to. -/
theorem apply_differs (bounded : rule.Bounded) (marks : rule.Marks mark) (text : List α)
    (some_match : ¬ rule.Unmatched text) : DiffersBy mark text (rule.apply text) := by
  induction text with
  | nil =>
    refine absurd ?_ some_match
    rintro rest ⟨front, empty⟩
    obtain ⟨-, rfl⟩ := List.append_eq_nil_iff.mp empty
    exact pattern_nil bounded
  | cons element rest inductionHypothesis =>
    cases matched : rule.pattern (element :: rest) with
    | none =>
      rw [apply_unmatched _ _ matched]
      refine (inductionHypothesis ?_).behind [element]
      intro later
      refine some_match (fun tail within => ?_)
      rcases List.suffix_cons_iff.mp within with rfl | within
      · exact matched
      · exact later tail within
    | some found =>
      obtain ⟨kept, length⟩ := found
      obtain ⟨others, marker⟩ := marks.1
      have takes := bounded _ _ _ matched
      have inside : kept < (element :: rest).length := by omega
      refine ⟨(element :: rest).take kept, (element :: rest)[kept],
        (element :: rest).drop (kept + 1), others ++ rule.apply ((element :: rest).drop length),
        ?_, ?_, ?_⟩
      · rw [List.getElem_cons_drop, List.take_append_drop]
      · rw [apply_matched bounded _ kept length matched, marker]
        simp
      · intro same
        exact marks.2 _ _ _ matched (by rw [List.getElem?_eq_getElem inside, same])

/-- What differs from a text still does when it is rewritten. -/
theorem DiffersBy.apply (bounded : rule.Bounded) (marks : rule.Marks mark)
    (stops : rule.StopsAt mark) {text other : List α} (differs : DiffersBy mark text other) :
    DiffersBy mark text (rule.apply other) := by
  obtain ⟨front, element, rest, after, rfl, rfl, apart⟩ := differs
  rw [apply_stop bounded stops]
  by_cases unmatched : rule.Unmatched front
  · rw [unmatched.apply]
    exact ⟨front, element, rest, _, rfl, rfl, apart⟩
  · exact (apply_differs bounded marks front unmatched).before _ _

end Differences

/-! ## No matches are left -/

/-- No match of a rule runs into a marker or starts in it, and a text that has a match at its start
has one however it goes on. -/
structure Inert (marker : List α) (rule : Rule α) : Prop where
  stops : ∀ mark others, marker = mark :: others → rule.StopsAt mark
  unopened : ∀ element ∈ marker, ∀ more, rule.pattern (element :: more) = none
  extends_ : ∀ text more, (rule.pattern text).isSome = true →
    (rule.pattern (text ++ more)).isSome = true

section Remainders

variable {rule other : Rule α}

/-- A part of a text without matches has none. -/
theorem Unmatched.suffix {text rest : List α} (unmatched : rule.Unmatched text)
    (within : rest <:+ text) : rule.Unmatched rest :=
  fun tail inside => unmatched tail (inside.trans within)

/-- A text without matches has none in front of it either. -/
theorem Unmatched.front {marker text more : List α} (inert : Inert marker rule)
    (unmatched : rule.Unmatched (text ++ more)) : rule.Unmatched text := by
  rintro rest ⟨front, rfl⟩
  cases matched : rule.pattern rest with
  | none => rfl
  | some found =>
    have longer := inert.extends_ rest more (by rw [matched]; rfl)
    rw [unmatched (rest ++ more) ⟨front, by simp⟩] at longer
    cases longer

/-- Two texts after one another have no match if the second one has none and no match starts in the
first one. -/
theorem unmatched_append {front more : List α} (later : rule.Unmatched more)
    (here : ∀ tail, tail <:+ front → tail ≠ [] → rule.pattern (tail ++ more) = none) :
    rule.Unmatched (front ++ more) := by
  induction front with
  | nil => exact later
  | cons element front inductionHypothesis =>
    intro tail within
    rcases List.suffix_cons_iff.mp within with rfl | within
    · exact here (element :: front) List.suffix_rfl (by simp)
    · exact inductionHypothesis (fun tail inside =>
        here tail (inside.trans (List.suffix_cons _ _))) tail within

/-- A rewritten text starts with the front of the text, and goes on with a marker if at all. -/
theorem apply_starts (bounded : rule.Bounded) (text : List α) :
    ∃ front, front <+: text ∧
      (rule.apply text = front ∨ ∃ more, rule.apply text = front ++ rule.marker ++ more) := by
  induction text with
  | nil => exact ⟨[], List.prefix_rfl, .inl rfl⟩
  | cons element rest inductionHypothesis =>
    cases matched : rule.pattern (element :: rest) with
    | none =>
      obtain ⟨front, within, ends⟩ := inductionHypothesis
      refine ⟨element :: front, List.prefix_cons_inj element |>.mpr within, ?_⟩
      rw [apply_unmatched _ _ matched]
      rcases ends with here | ⟨more, here⟩
      · exact .inl (by rw [here])
      · exact .inr ⟨more, by rw [here, List.cons_append, List.cons_append]⟩
    | some found =>
      exact ⟨_, List.take_prefix found.1 _, .inr ⟨_, apply_matched bounded _ _ found.2 matched⟩⟩

/-- A rule matches at the start of a rewritten text only if it matches at the start of the text. -/
theorem pattern_apply (bounded : rule.Bounded) (inert : Inert rule.marker other)
    (marked : rule.marker ≠ []) (text : List α) (unmatched : other.pattern text = none) :
    other.pattern (rule.apply text) = none := by
  obtain ⟨front, ⟨more, rfl⟩, ends⟩ := apply_starts bounded text
  have here : other.pattern front = none := by
    cases matched : other.pattern front with
    | none => rfl
    | some found =>
      have longer := inert.extends_ front more (by rw [matched]; rfl)
      rw [unmatched] at longer
      cases longer
  rcases ends with same | ⟨after, same⟩
  · rw [same, here]
  · obtain ⟨mark, others, marker⟩ := List.exists_cons_of_ne_nil marked
    rw [same, marker, List.append_assoc, List.cons_append, inert.stops mark others marker, here]

/-- A rule leaves no matches of another one behind if that has none where the rule has none, and
none in what the rule keeps. -/
theorem unmatched_apply (bounded : rule.Bounded) (inert : Inert rule.marker other)
    (marked : rule.marker ≠ []) (text : List α)
    (apart : ∀ rest, rest <:+ text → (rule.pattern rest = none → other.pattern rest = none) ∧
      ∀ kept length, rule.pattern rest = some (kept, length) → other.Unmatched (rest.take kept)) :
    other.Unmatched (rule.apply text) := by
  induction size : text.length using Nat.strong_induction_on generalizing text with
  | _ size inductionHypothesis =>
    cases text with
    | nil =>
      rw [apply_nil]
      rintro rest ⟨front, empty⟩
      obtain ⟨-, rfl⟩ := List.append_eq_nil_iff.mp empty
      exact (apart [] List.suffix_rfl).1 (pattern_nil bounded)
    | cons element rest =>
      have later (length : Nat) (some : 0 < length) :
          other.Unmatched (rule.apply ((element :: rest).drop length)) :=
        inductionHypothesis _ (by rw [← size, List.length_drop, List.length_cons]; omega) _
          (fun tail within => apart tail (within.trans (List.drop_suffix _ _))) rfl
      obtain ⟨unmatched, within_kept⟩ := apart (element :: rest) List.suffix_rfl
      cases matched : rule.pattern (element :: rest) with
      | none =>
        have here := pattern_apply bounded inert marked _ (unmatched matched)
        rw [apply_unmatched _ _ matched] at here ⊢
        intro tail within
        rcases List.suffix_cons_iff.mp within with rfl | within
        · exact here
        · exact later 1 Nat.one_pos tail within
      | some found =>
        obtain ⟨kept, length⟩ := found
        have takes := bounded _ _ _ matched
        rw [apply_matched bounded _ kept length matched, List.append_assoc]
        obtain ⟨mark, others, marker⟩ := List.exists_cons_of_ne_nil marked
        apply unmatched_append
        · apply unmatched_append (later length (by omega))
          intro tail within some
          obtain ⟨head, tail, rfl⟩ := List.exists_cons_of_ne_nil some
          exact inert.unopened head (within.subset (by simp)) _
        · intro tail within some
          rw [marker, List.cons_append, inert.stops mark others marker]
          exact within_kept kept length matched tail within

/-- A rule leaves no matches of another one behind that had none, and none of its own if what it
keeps has none. -/
theorem apply_leaves (bounded : rule.Bounded) (inert : Inert rule.marker other)
    (marked : rule.marker ≠ [])
    (keeps : ∀ text kept length, other.pattern text = some (kept, length) →
      other.Unmatched (text.take kept)) (text : List α)
    (absent : other = rule ∨ other.Unmatched text) : other.Unmatched (rule.apply text) := by
  apply unmatched_apply bounded inert marked
  intro rest within
  rcases absent with rfl | absent
  · exact ⟨id, fun kept length matched => keeps rest kept length matched⟩
  · refine ⟨fun _ => absent rest within, fun kept length _ => ?_⟩
    have whole : other.Unmatched (rest.take kept ++ rest.drop kept) := by
      rw [List.take_append_drop]
      exact absent.suffix within
    exact whole.front inert

/-- Rules that are applied one after another leave no matches behind of one of them whose matches
keep none, or of a rule that had none. -/
theorem foldl_leaves (rules : List (Rule α)) (text : List α)
    (listed : ∀ rule ∈ rules, rule.Bounded ∧ rule.marker ≠ [] ∧ Inert rule.marker other)
    (keeps : ∀ text kept length, other.pattern text = some (kept, length) →
      other.Unmatched (text.take kept))
    (absent : other ∈ rules ∨ other.Unmatched text) :
    other.Unmatched (rules.foldl (fun rewritten rule => rule.apply rewritten) text) := by
  induction rules generalizing text with
  | nil => exact absent.resolve_left List.not_mem_nil
  | cons rule rest inductionHypothesis =>
    obtain ⟨⟨bounded, marked, inert⟩, later⟩ := List.forall_mem_cons.mp listed
    apply inductionHypothesis (rule.apply text) later
    rcases absent with member | absent
    · rcases List.mem_cons.mp member with same | member
      · exact .inr (apply_leaves bounded inert marked keeps text (.inl same))
      · exact .inl member
    · exact .inr (apply_leaves bounded inert marked keeps text (.inr absent))

end Remainders

/-! ## Rules that find the same matches -/

/-- At each place where a rule looks for a match, after what remains of a match, a pattern finds the
match that the rule finds. -/
def agrees (rule : Rule α) (pattern : List α → Option (Nat × Nat)) : Nat → List α → Bool
  | _, [] => true
  | skipped + 1, _ :: rest => agrees rule pattern skipped rest
  | 0, element :: rest =>
    pattern (element :: rest) == rule.pattern (element :: rest) &&
      agrees rule pattern (((rule.pattern (element :: rest)).map (fun found => found.2 - 1)).getD 0)
        rest

/-- What is left of a text at each place where a rule looks for a match, after what remains of a
match. -/
def places (rule : Rule α) : Nat → List α → List (List α)
  | _, [] => []
  | skipped + 1, _ :: rest => places rule skipped rest
  | 0, element :: rest => (element :: rest) ::
      places rule (((rule.pattern (element :: rest)).map (fun found => found.2 - 1)).getD 0) rest

section Agreement

variable {rule : Rule α} {pattern : List α → Option (Nat × Nat)}

/-- What remains of a match is not looked at. -/
theorem agrees_drop (skipped : Nat) (text : List α) :
    rule.agrees pattern skipped text = rule.agrees pattern 0 (text.drop skipped) := by
  induction text generalizing skipped with
  | nil => simp [agrees]
  | cons element rest inductionHypothesis =>
    cases skipped with
    | zero => rfl
    | succ skipped => exact inductionHypothesis skipped

/-- Where a rule has no match, the pattern has none, and they agree about what follows. -/
theorem agrees_unmatched (element : α) (rest : List α)
    (unmatched : rule.pattern (element :: rest) = none) :
    rule.agrees pattern 0 (element :: rest) = true ↔
      pattern (element :: rest) = none ∧ rule.agrees pattern 0 rest = true := by
  rw [agrees, unmatched, Bool.and_eq_true, beq_iff_eq]
  rfl

/-- Where a rule has a match, the pattern has it too, and they agree about what follows it. -/
theorem agrees_matched (bounded : rule.Bounded) (text : List α) (kept length : Nat)
    (matched : rule.pattern text = some (kept, length)) :
    rule.agrees pattern 0 text = true ↔
      pattern text = some (kept, length) ∧ rule.agrees pattern 0 (text.drop length) = true := by
  have takes := bounded _ _ _ matched
  cases text with
  | nil =>
    rw [List.length_nil] at takes
    omega
  | cons element rest =>
    obtain ⟨later, rfl⟩ : ∃ later, length = later + 1 := ⟨length - 1, by omega⟩
    rw [agrees, matched, Bool.and_eq_true, beq_iff_eq, Option.map_some, Option.getD_some,
      Nat.add_sub_cancel, agrees_drop, List.drop_succ_cons]

/-- A pattern agrees with a rule exactly if it finds the rule's match at each place where the rule
looks for one. -/
theorem agrees_iff (skipped : Nat) (text : List α) : rule.agrees pattern skipped text = true ↔
    ∀ place ∈ rule.places skipped text, pattern place = rule.pattern place := by
  induction text generalizing skipped with
  | nil => simp [agrees, places]
  | cons element rest inductionHypothesis =>
    cases skipped with
    | succ skipped => exact inductionHypothesis skipped
    | zero =>
      rw [agrees, places, Bool.and_eq_true, beq_iff_eq, inductionHypothesis, List.forall_mem_cons]

/-- A place of a text is what is left of the text there, and not nothing. -/
theorem places_within (skipped : Nat) (text place : List α)
    (listed : place ∈ rule.places skipped text) : place <:+ text ∧ place ≠ [] := by
  induction text generalizing skipped with
  | nil => cases listed
  | cons element rest inductionHypothesis =>
    have later {skipped : Nat} (listed : place ∈ rule.places skipped rest) :
        place <:+ element :: rest ∧ place ≠ [] :=
      (inductionHypothesis skipped listed).imp_left (·.trans (List.suffix_cons _ _))
    cases skipped with
    | succ skipped => exact later listed
    | zero =>
      rcases List.mem_cons.mp listed with rfl | listed
      · exact ⟨List.suffix_rfl, List.cons_ne_nil _ _⟩
      · exact later listed

/-- A rule looks for a match at each element of a text that remains of no match and that no match
takes. -/
theorem place_or_taken (skipped : Nat) (text : List α) (element : α) (rest : List α)
    (within : element :: rest <:+ text) :
    text.length < skipped + (element :: rest).length ∨
      (element :: rest) ∈ rule.places skipped text ∨
      ∃ place ∈ rule.places skipped text, ∃ kept length, rule.pattern place = some (kept, length) ∧
        element ∈ place.take length := by
  induction text generalizing skipped with
  | nil => exact absurd (List.suffix_nil.mp within) (by simp)
  | cons first others inductionHypothesis =>
    have size := within.length_le
    cases skipped with
    | succ skipped =>
      rcases List.suffix_cons_iff.mp within with same | within
      · left
        rw [same]
        omega
      · refine (inductionHypothesis skipped within).imp_left (fun remains => ?_)
        simp only [List.length_cons] at remains ⊢
        omega
    | zero =>
      rcases List.suffix_cons_iff.mp within with same | within
      · exact .inr (.inl (List.mem_cons.mpr (.inl same)))
      · right
        rcases inductionHypothesis
            (((rule.pattern (first :: others)).map (fun found => found.2 - 1)).getD 0) within with
          remains | looked | ⟨place, listed, taken⟩
        · right
          refine ⟨first :: others, List.mem_cons_self, ?_⟩
          cases matched : rule.pattern (first :: others) with
          | none =>
            have short := within.length_le
            rw [matched, Option.map_none, Option.getD_none] at remains
            omega
          | some found =>
            refine ⟨found.1, found.2, rfl, ?_⟩
            rw [matched, Option.map_some, Option.getD_some] at remains
            obtain ⟨before, rfl⟩ := within
            obtain ⟨later, long⟩ : ∃ later, found.2 = before.length + 1 + (later + 1) := by
              simp only [List.length_append, List.length_cons] at remains
              exact ⟨found.2 - (before.length + 2), by omega⟩
            have front : first :: (before ++ element :: rest) =
                first :: before ++ element :: rest := rfl
            rw [front, long, ← List.length_cons (a := first), List.take_length_add_append]
            exact List.mem_append_right _ List.mem_cons_self
        · exact .inl (List.mem_cons_of_mem _ looked)
        · exact .inr ⟨place, List.mem_cons_of_mem _ listed, taken⟩

end Agreement

end Rule

end Text
