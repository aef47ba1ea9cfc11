import TokenBank.Text.Cutting

/-!
# What patterns leave of a part of a text

Patterns cut a text one after another. A place of the text is kept as long as it is in one of the
parts. Nothing is kept of the front of a part exactly if every pattern that matches in it, from its
first match on, takes all that the patterns before it have left, until one takes the front as a
whole. What stands in front of a part matters only if a match that begins there runs into it.
-/

namespace Text

variable {α : Type}

/-- A place is in one of some parts. -/
def Kept (parts : List (Part α)) (place : Nat) : Prop :=
  ∃ part ∈ parts, part.start ≤ place ∧ place < part.start + part.text.length

/-- What a text starts with, up to the first match of a pattern. -/
def stretch (pattern : List α → Option Nat) : List α → List α
  | [] => []
  | character :: rest =>
    match pattern (character :: rest) with
    | some _ => []
    | none => character :: stretch pattern rest

/-- A pattern matches at no place of a text that another one follows. -/
def Passes (pattern : List α → Option Nat) (front after : List α) : Prop :=
  ∀ ending, ending ≠ [] → ending <:+ front → pattern (ending ++ after) = none

/-- A pattern takes a text, and perhaps some of what follows it. -/
def Takes (pattern : List α → Option Nat) (front after : List α) : Prop :=
  ∃ length, pattern (front ++ after) = some length ∧ front.length ≤ length

/-- Each of some patterns passes over what is left of a text or, from its first match on, takes all
of it, and one more pattern takes what is then left. -/
def Consumed (own : List α → Option Nat) :
    List (List α → Option Nat) → List α → List α → Prop
  | [], front, after => Takes own front after
  | pattern :: later, front, after =>
    (Passes pattern front after ∧ Consumed own later front (stretch pattern after)) ∨
      ∃ kept taken, front = kept ++ taken ∧ taken ≠ [] ∧ Passes pattern kept (taken ++ after) ∧
        Takes pattern taken after ∧ Consumed own later kept []

/-- What patterns leave of a text and of what follows it, if each of them passes over it or, from its
first match on, takes all of it. -/
def Leaves (left rest : List α) : List (List α → Option Nat) → List α → List α → Prop
  | [], front, after => left = front ∧ rest = after
  | pattern :: later, front, after =>
    (Passes pattern front after ∧ Leaves left rest later front (stretch pattern after)) ∨
      ∃ kept taken, front = kept ++ taken ∧ taken ≠ [] ∧ Passes pattern kept (taken ++ after) ∧
        Takes pattern taken after ∧ Leaves left rest later kept []

/-- How much of a text a match takes that begins in what stands in front of it, after the
characters that remain of a match. -/
def overrun (pattern : List α → Option Nat) (more : List α) : Nat → List α → Nat
  | skipped, [] => skipped
  | skipped + 1, _ :: rest => overrun pattern more skipped rest
  | 0, character :: rest =>
    match pattern (character :: rest ++ more) with
    | some length => overrun pattern more (length - 1) rest
    | none => overrun pattern more 0 rest

/-- What a text ends with behind the last match that begins in it. -/
def ending (pattern : List α → Option Nat) (more : List α) : Nat → List α → List α
  | _, [] => []
  | skipped + 1, _ :: rest => ending pattern more skipped rest
  | 0, character :: rest =>
    match pattern (character :: rest ++ more) with
    | some length => ending pattern more (length - 1) rest
    | none =>
      if (ending pattern more 0 rest).length = rest.length then character :: rest
      else ending pattern more 0 rest

/-- A pattern never matches at a stuck character, and its matches end at the end of a text or before
a stuck character. -/
structure Halts (stuck : α → Bool) (pattern : List α → Option Nat) : Prop extends Reads pattern where
  halts : ∀ text length, pattern text = some length →
    ∀ character ∈ (text.drop length).head?, stuck character = true
  refuses : ∀ character rest, stuck character = true → pattern (character :: rest) = none

/-- One of two texts starts with the other. -/
def Comparable (first second : List α) : Prop := first <+: second ∨ second <+: first

instance [DecidableEq α] (first second : List α) : Decidable (Comparable first second) :=
  inferInstanceAs (Decidable (_ ∨ _))

/-! ## Parts and places -/

/-- A place is in parts exactly if it is in some of them. -/
theorem kept_append (parts others : List (Part α)) (place : Nat) :
    Kept (parts ++ others) place ↔ Kept parts place ∨ Kept others place := by
  simp only [Kept, List.mem_append, or_and_right, exists_or]

/-- Parts are cut one by one. -/
theorem cutAll_append (patterns : List (List α → Option Nat)) (parts others : List (Part α)) :
    cutAll patterns (parts ++ others) = cutAll patterns parts ++ cutAll patterns others := by
  induction patterns generalizing parts others with
  | nil => rfl
  | cons pattern rest inductionHypothesis =>
    have split : (parts ++ others).flatMap (fun part => cut pattern 0 part.start part.text) =
        parts.flatMap (fun part => cut pattern 0 part.start part.text) ++
          others.flatMap (fun part => cut pattern 0 part.start part.text) := List.flatMap_append
    exact (congrArg (cutAll rest) split).trans (inductionHypothesis _ _)

/-- A place is kept of parts exactly if it is kept of the first or of the others. -/
theorem kept_cons (patterns : List (List α → Option Nat)) (part : Part α) (others : List (Part α))
    (place : Nat) : Kept (cutAll patterns (part :: others)) place ↔
      Kept (cutAll patterns [part]) place ∨ Kept (cutAll patterns others) place := by
  rw [← kept_append, ← cutAll_append, List.singleton_append]

/-- The first pattern cuts a text before the others do. -/
theorem cutAll_single (pattern : List α → Option Nat) (later : List (List α → Option Nat))
    (start : Nat) (text : List α) :
    cutAll (pattern :: later) [⟨start, text⟩] = cutAll later (cut pattern 0 start text) :=
  congrArg (cutAll later) (List.flatMap_singleton _ _)

/-- A place that is kept was in a part before. -/
theorem kept_of_cutAll (patterns : List (List α → Option Nat)) (parts : List (Part α)) (place : Nat)
    (kept : Kept (cutAll patterns parts) place) : Kept parts place := by
  induction patterns generalizing parts with
  | nil => exact kept
  | cons pattern rest inductionHypothesis =>
    obtain ⟨part, left, from_, below⟩ := inductionHypothesis _ kept
    obtain ⟨outer, inParts, inCut⟩ := List.mem_flatMap.mp left
    obtain ⟨after, within⟩ := cut_within 0 outer.start outer.text part inCut
    have counted := within.length_le
    rw [List.length_drop] at counted
    exact ⟨outer, inParts, by omega, by omega⟩

/-- A place that is kept of a text is in it. -/
theorem kept_range (patterns : List (List α → Option Nat)) (start : Nat) (text : List α)
    (place : Nat) (kept : Kept (cutAll patterns [⟨start, text⟩]) place) :
    start ≤ place ∧ place < start + text.length := by
  obtain ⟨part, listed, within⟩ := kept_of_cutAll patterns _ place kept
  rwa [List.mem_singleton.mp listed] at within

/-- No place before a text is kept of its parts. -/
theorem cut_from (patterns : List (List α → Option Nat)) (pattern : List α → Option Nat)
    (start : Nat) (text : List α) (place : Nat)
    (kept : Kept (cutAll patterns (cut pattern 0 start text)) place) :
    start ≤ place ∧ place < start + text.length := by
  rw [← cutAll_single] at kept
  exact kept_range _ _ _ _ kept

/-! ## One pattern -/

section Cut

variable {pattern : List α → Option Nat}

/-- Skipped characters are cut off. -/
theorem cut_skip (skipped start : Nat) (text : List α) (enough : skipped ≤ text.length) :
    cut pattern skipped start text = cut pattern 0 (start + skipped) (text.drop skipped) := by
  induction skipped generalizing start text with
  | zero => rfl
  | succ skipped inductionHypothesis =>
    cases text with
    | nil => exact absurd enough (Nat.not_succ_le_zero skipped)
    | cons character rest =>
      rw [cut, inductionHypothesis (start + 1) rest (Nat.le_of_succ_le_succ enough),
        List.drop_succ_cons, Nat.add_right_comm, Nat.add_assoc]

/-- The first part of a text is what it starts with, up to the first match. -/
theorem cut_stretch (pattern : List α → Option Nat) (start : Nat) (text : List α) :
    ∃ later, cut pattern 0 start text = ⟨start, stretch pattern text⟩ :: later := by
  induction text generalizing start with
  | nil => exact ⟨[], rfl⟩
  | cons character rest inductionHypothesis =>
    rw [cut, stretch]
    cases pattern (character :: rest) with
    | some length => exact ⟨_, rfl⟩
    | none =>
      obtain ⟨later, left⟩ := inductionHypothesis (start + 1)
      simp only [left, grown]
      exact ⟨later, rfl⟩

/-- What a text starts with up to the first match is its first part. -/
theorem stretch_of_cut {start : Nat} {text : List α} {first : Part α} {later : List (Part α)}
    (left : cut pattern 0 start text = first :: later) : stretch pattern text = first.text := by
  obtain ⟨others, same⟩ := cut_stretch pattern start text
  rw [left] at same
  rw [(List.cons.inj same).1]

/-- A text starts with what it starts with up to the first match. -/
theorem stretch_front (text : List α) : stretch pattern text <+: text := by
  obtain ⟨later, left⟩ := cut_stretch pattern 0 text
  exact (cut_head 0 text _ later left).2

/-- A pattern passes over an empty front. -/
theorem passes_nil (after : List α) : Passes pattern [] after :=
  fun _ some inside => absurd (List.suffix_nil.mp inside) some

/-- A front that a pattern passes over stays in front of the first part of what follows it. -/
theorem cut_passes (start : Nat) (front after : List α) (passes : Passes pattern front after)
    (first : Part α) (later : List (Part α))
    (left : cut pattern 0 (start + front.length) after = first :: later) :
    cut pattern 0 start (front ++ after) = ⟨start, front ++ first.text⟩ :: later := by
  induction front generalizing start with
  | nil =>
    obtain ⟨here, -⟩ := cut_head _ _ _ _ left
    rw [List.nil_append, List.nil_append]
    exact left.trans (by rw [← show first.start = start from here])
  | cons character rest inductionHypothesis =>
    have unmatched := passes (character :: rest) (by simp) List.suffix_rfl
    have within : Passes pattern rest after := fun ending some inside =>
      passes ending some (inside.trans (List.suffix_cons _ _))
    rw [List.cons_append] at unmatched ⊢
    rw [cut, unmatched]
    simp only [inductionHypothesis (start + 1) within (by
      rw [← left, List.length_cons, Nat.add_right_comm, Nat.add_assoc]), grown, List.cons_append]

/-- What a pattern passes over is in front of what follows it up to the first match. -/
theorem stretch_passes (front after : List α) (passes : Passes pattern front after) :
    stretch pattern (front ++ after) = front ++ stretch pattern after := by
  obtain ⟨later, left⟩ := cut_stretch pattern front.length after
  rw [← Nat.zero_add front.length] at left
  have cutting := cut_passes 0 front after passes _ _ left
  exact stretch_of_cut cutting

/-- A match behind a front that a pattern passes over is cut out. -/
theorem cut_match (reads : Reads pattern) (start : Nat) (front rest : List α) (length : Nat)
    (passes : Passes pattern front rest) (matched : pattern rest = some length) :
    cut pattern 0 start (front ++ rest) =
      ⟨start, front⟩ :: cut pattern 0 (start + front.length + length) (rest.drop length) := by
  obtain ⟨positive, enough⟩ := reads.bounded rest length matched
  obtain ⟨more, rfl⟩ : ∃ more, length = more + 1 := ⟨length - 1, by omega⟩
  cases rest with
  | nil => exact absurd enough (Nat.not_succ_le_zero more)
  | cons character rest =>
    have left : cut pattern 0 (start + front.length) (character :: rest) =
        ⟨start + front.length, []⟩ ::
          cut pattern 0 (start + front.length + (more + 1)) ((character :: rest).drop (more + 1)) := by
      rw [cut, matched]
      simp only [Nat.add_sub_cancel]
      rw [cut_skip more _ rest (Nat.le_of_succ_le_succ enough), List.drop_succ_cons,
        Nat.add_assoc _ 1 more, Nat.add_comm 1 more]
    rw [cut_passes start front _ passes _ _ left, List.append_nil]

/-- A pattern passes over a front, or there is a first place of the front at which it matches. -/
theorem passes_or_matches (pattern : List α → Option Nat) (front after : List α) :
    Passes pattern front after ∨ ∃ kept taken length, front = kept ++ taken ∧ taken ≠ [] ∧
      Passes pattern kept (taken ++ after) ∧ pattern (taken ++ after) = some length := by
  induction front with
  | nil => exact .inl (fun ending some inside => absurd (List.suffix_nil.mp inside) some)
  | cons character rest inductionHypothesis =>
    cases matched : pattern (character :: rest ++ after) with
    | some length =>
      exact .inr ⟨[], character :: rest, length, rfl, by simp, passes_nil _, matched⟩
    | none =>
      rcases inductionHypothesis with passes | ⟨kept, taken, length, rfl, some, passes, here⟩
      · refine .inl (fun ending some inside => ?_)
        rcases List.suffix_cons_iff.mp inside with rfl | inner
        · exact matched
        · exact passes ending some inner
      · refine .inr ⟨character :: kept, taken, length, rfl, some, fun ending filled inside => ?_, here⟩
        rcases List.suffix_cons_iff.mp inside with rfl | inner
        · rw [List.cons_append, List.append_assoc] at matched
          exact matched
        · exact passes ending filled inner

end Cut

/-! ## What is kept -/

/-- The start of a text is kept if no pattern matches what it starts with. -/
theorem kept_held (holds : List α → Prop)
    (fronts : ∀ text front, holds text → front ≠ [] → front <+: text → holds front)
    (patterns : List (List α → Option Nat))
    (unmatched : ∀ pattern ∈ patterns, ∀ text, text ≠ [] → holds text → pattern text = none)
    (start : Nat) (text : List α) (some : text ≠ []) (here : holds text) :
    Kept (cutAll patterns [⟨start, text⟩]) start := by
  induction patterns generalizing text with
  | nil =>
    have filled := List.length_pos_iff.mpr some
    exact ⟨_, List.mem_singleton_self _, Nat.le_refl _, Nat.lt_add_of_pos_right filled⟩
  | cons pattern rest inductionHypothesis =>
    obtain ⟨unmatched_here, unmatched_later⟩ := List.forall_mem_cons.mp unmatched
    obtain ⟨character, after, rfl⟩ := List.exists_cons_of_ne_nil some
    obtain ⟨first, later, -, left⟩ :=
      cut_grown start character after (unmatched_here _ some here)
    obtain ⟨-, within⟩ := cut_head start _ _ _ left
    rw [cutAll_single, left, kept_cons]
    exact .inl (inductionHypothesis unmatched_later _ (by simp) (fronts _ _ here (by simp) within))

/-- A stuck character at the start of a text is kept. -/
theorem kept_stuck {stuck : α → Bool} (patterns : List (List α → Option Nat))
    (halts : ∀ pattern ∈ patterns, Halts stuck pattern) (start : Nat) (character : α)
    (rest : List α) (held : stuck character = true) :
    Kept (cutAll patterns [⟨start, character :: rest⟩]) start := by
  refine kept_held (fun text => ∃ more, text = character :: more) ?_ patterns ?_ start _ (by simp)
    ⟨rest, rfl⟩
  · rintro _ front ⟨more, rfl⟩ some within
    obtain ⟨first, others, rfl⟩ := List.exists_cons_of_ne_nil some
    exact ⟨others, by rw [(List.cons_prefix_cons.mp within).1]⟩
  · rintro pattern listed _ - ⟨more, rfl⟩
    exact (halts pattern listed).refuses character more held

/-- What a match leaves of a front is kept. -/
theorem kept_leftover {stuck : α → Bool} {pattern : List α → Option Nat}
    (patterns : List (List α → Option Nat))
    (halts : ∀ other ∈ pattern :: patterns, Halts stuck other) (start : Nat)
    (front after : List α) (length : Nat) (matched : pattern (front ++ after) = some length)
    (short : length < front.length) :
    Kept (cutAll patterns (cut pattern 0 start (front ++ after))) (start + length) := by
  have halts_here := halts pattern List.mem_cons_self
  obtain ⟨character, rest, left⟩ := List.exists_cons_of_ne_nil
    (List.ne_nil_of_length_pos (l := (front ++ after).drop length)
      (by rw [List.length_drop, List.length_append]; omega))
  have held := halts_here.halts _ length matched character (by rw [left]; rfl)
  have cutting := cut_match halts_here.toReads start [] (front ++ after) length
    (passes_nil _) matched
  rw [List.nil_append, List.length_nil, Nat.add_zero, left] at cutting
  have again : cutAll patterns (cut pattern 0 (start + length) (character :: rest)) =
      cutAll (pattern :: patterns) [⟨start + length, character :: rest⟩] :=
    (cutAll_single _ _ _ _).symm
  rw [cutting, kept_cons, again]
  exact .inr (kept_stuck (pattern :: patterns) halts _ character rest held)

/-- What a text starts with starts as the text does. -/
theorem Comparable.front {opening text front : List α} (opens : Comparable opening text)
    (within : front <+: text) : Comparable opening front := by
  rcases opens with longer | shorter
  · exact List.prefix_or_prefix_of_prefix longer within
  · exact .inr (within.trans shorter)

/-- The first match of a pattern in a front is the only one that it passes over nothing before. -/
theorem match_unique {pattern : List α → Option Nat} {kept taken others more after : List α}
    (same : kept ++ taken = others ++ more) (some : more ≠ [])
    (passes : Passes pattern kept (taken ++ after))
    (matched : (pattern (more ++ after)).isSome = true) : kept.length ≤ others.length := by
  by_contra longer
  have inside : others <+: kept :=
    List.prefix_of_prefix_length_le ⟨more, same.symm⟩ (List.prefix_append kept taken) (by omega)
  obtain ⟨ending, rfl⟩ := inside
  rw [List.append_assoc] at same
  obtain rfl := List.append_cancel_left same
  have filled : ending ≠ [] := by
    rintro rfl
    simp at longer
  rw [List.append_assoc, passes ending filled (List.suffix_append _ _)] at matched
  cases matched

section Consumed

variable {own pattern : List α → Option Nat} {later : List (List α → Option Nat)}

/-- What a pattern passes over is consumed exactly if the later ones consume it. -/
theorem consumed_passes_iff (front after : List α) (passes : Passes pattern front after) :
    Consumed own (pattern :: later) front after ↔
      Consumed own later front (stretch pattern after) := by
  rw [Consumed]
  constructor
  · rintro (⟨-, consumed⟩ | ⟨kept, taken, rfl, some, -, ⟨length, matched, -⟩, -⟩)
    · exact consumed
    · rw [passes taken some (List.suffix_append _ _)] at matched
      cases matched
  · exact fun consumed => .inl ⟨passes, consumed⟩

/-- What a pattern matches in is consumed exactly if the match takes the rest of it and the later
ones consume what is in front of the match. -/
theorem consumed_match_iff (kept taken after : List α) (length : Nat) (some : taken ≠ [])
    (passes : Passes pattern kept (taken ++ after)) (matched : pattern (taken ++ after) = Option.some length) :
    Consumed own (pattern :: later) (kept ++ taken) after ↔
      taken.length ≤ length ∧ Consumed own later kept [] := by
  rw [Consumed]
  constructor
  · rintro (⟨passesAll, -⟩ | ⟨others, more, same, someMore, passesOthers, ⟨size, found, enough⟩, consumed⟩)
    · rw [passesAll taken some (List.suffix_append _ _)] at matched
      cases matched
    · have shorter := match_unique same someMore passes (by rw [found]; rfl)
      have longer := match_unique same.symm some passesOthers (by rw [matched]; rfl)
      obtain ⟨rfl, rfl⟩ := List.append_inj same (Nat.le_antisymm shorter longer)
      cases matched.symm.trans found
      exact ⟨enough, consumed⟩
  · exact fun ⟨enough, consumed⟩ =>
      .inr ⟨kept, taken, rfl, some, passes, ⟨length, matched, enough⟩, consumed⟩

/-- A text is consumed exactly if one more pattern takes what the others leave of it. -/
theorem consumed_iff_leaves (patterns : List (List α → Option Nat)) (front after : List α) :
    Consumed own patterns front after ↔
      ∃ left rest, Leaves left rest patterns front after ∧ Takes own left rest := by
  induction patterns generalizing front after with
  | nil => simp [Consumed, Leaves]
  | cons pattern later inductionHypothesis =>
    simp only [Consumed, Leaves, inductionHypothesis]
    constructor
    · rintro (⟨passes, left, rest, leaves, takes⟩ |
        ⟨kept, taken, whole, some, passes, first, left, rest, leaves, takes⟩)
      · exact ⟨left, rest, .inl ⟨passes, leaves⟩, takes⟩
      · exact ⟨left, rest, .inr ⟨kept, taken, whole, some, passes, first, leaves⟩, takes⟩
    · rintro ⟨left, rest, ⟨passes, leaves⟩ |
        ⟨kept, taken, whole, some, passes, first, leaves⟩, takes⟩
      · exact .inl ⟨passes, left, rest, leaves, takes⟩
      · exact .inr ⟨kept, taken, whole, some, passes, first, left, rest, leaves, takes⟩

/-- What patterns leave of a text is in front of it, and what they leave of what follows it starts as
that or is nothing. -/
theorem leaves_front (patterns : List (List α → Option Nat)) (front after left rest : List α)
    (leaves : Leaves left rest patterns front after) : left <+: front ∧ rest <+: after := by
  induction patterns generalizing front after with
  | nil =>
    obtain ⟨rfl, rfl⟩ := leaves
    exact ⟨List.prefix_rfl, List.prefix_rfl⟩
  | cons pattern later inductionHypothesis =>
    rcases leaves with ⟨-, leaves⟩ | ⟨kept, taken, rfl, -, -, -, leaves⟩
    · exact (inductionHypothesis _ _ leaves).imp_right (·.trans (stretch_front after))
    · obtain ⟨inside, behind⟩ := inductionHypothesis _ _ leaves
      exact ⟨inside.trans (List.prefix_append _ _), behind.trans List.nil_prefix⟩

end Consumed

section Covered

variable {stuck : α → Bool} (opening : List α)

/-- The front of a text that starts as no pattern but the first one matches is kept nowhere exactly
if that takes it. -/
theorem covered_iff_takes (own : List α → Option Nat) (later : List (List α → Option Nat))
    (halts : ∀ pattern ∈ own :: later, Halts stuck pattern)
    (foreign : ∀ pattern ∈ later, ∀ text, text ≠ [] → Comparable opening text → pattern text = none)
    (start : Nat) (front after : List α) (some : front ≠ [])
    (opens : Comparable opening (front ++ after)) :
    (∀ place, start ≤ place → place < start + front.length →
      ¬ Kept (cutAll (own :: later) [⟨start, front ++ after⟩]) place) ↔ Takes own front after := by
  have reads := (halts own List.mem_cons_self).toReads
  have filled := List.length_pos_iff.mpr some
  rw [cutAll_single]
  constructor
  · intro covered
    cases matched : own (front ++ after) with
    | none =>
      exfalso
      refine covered start (Nat.le_refl _) (by omega) ?_
      obtain ⟨character, rest, same⟩ := List.exists_cons_of_ne_nil
        (List.append_ne_nil_of_left_ne_nil some after)
      rw [same] at matched opens ⊢
      obtain ⟨first, more, -, left⟩ := cut_grown start character rest matched
      obtain ⟨-, within⟩ := cut_head start _ _ _ left
      rw [left, kept_cons]
      exact .inl (kept_held (Comparable opening) (fun _ _ holds _ inside => holds.front inside) later
        foreign start _ (by simp) (opens.front within))
    | some length =>
      refine ⟨length, matched, ?_⟩
      by_contra short
      exact covered (start + length) (by omega) (by omega)
        (kept_leftover later halts start front after length matched (by omega))
  · rintro ⟨length, matched, enough⟩ place from_ below kept
    have cutting := cut_match reads start [] (front ++ after) length (passes_nil _) matched
    rw [List.nil_append] at cutting
    rw [cutting, kept_cons] at kept
    rcases kept with kept | kept
    · have range := kept_range _ _ _ _ kept
      rw [List.length_nil] at range
      omega
    · have range := cut_from _ _ _ _ _ kept
      rw [List.length_nil] at range
      omega

/-- The front of a text that starts as no pattern but its own matches is kept nowhere exactly if it
is consumed. -/
theorem covered_iff_consumed (own : List α → Option Nat)
    (earlier later : List (List α → Option Nat))
    (halts : ∀ pattern ∈ earlier ++ own :: later, Halts stuck pattern)
    (foreign : ∀ pattern ∈ earlier ++ later, ∀ text, text ≠ [] → Comparable opening text →
      pattern text = none)
    (start : Nat) (front after : List α) (some : front ≠ [])
    (opens : Comparable opening (front ++ after)) :
    (∀ place, start ≤ place → place < start + front.length →
      ¬ Kept (cutAll (earlier ++ own :: later) [⟨start, front ++ after⟩]) place) ↔
    Consumed own earlier front after := by
  induction earlier generalizing front after with
  | nil => exact covered_iff_takes opening own later halts foreign start front after some opens
  | cons pattern rest inductionHypothesis =>
    have halts_later := fun other listed => halts other (List.mem_cons_of_mem pattern listed)
    obtain ⟨foreign_here, foreign_later⟩ := List.forall_mem_cons.mp foreign
    have reads := (halts pattern List.mem_cons_self).toReads
    have filled := List.length_pos_iff.mpr some
    rw [List.cons_append, cutAll_single]
    rcases passes_or_matches pattern front after with
      passes | ⟨kept, taken, length, rfl, someTaken, passes, matched⟩
    · obtain ⟨others, left⟩ := cut_stretch pattern (start + front.length) after
      have behind (place : Nat) (below : place < start + front.length) :
          ¬ Kept (cutAll (rest ++ own :: later) others) place := fun kept => by
        have range := cut_from (rest ++ own :: later) pattern (start + front.length) after place (by
          rw [left, kept_cons]
          exact .inr kept)
        omega
      have here := inductionHypothesis halts_later foreign_later front (stretch pattern after) some
        (opens.front ((List.prefix_append_right_inj front).mpr (stretch_front after)))
      rw [consumed_passes_iff front after passes, ← here,
        cut_passes start front after passes _ _ left]
      refine forall₃_congr (fun place _ below => not_congr ?_)
      rw [kept_cons, or_iff_left (behind place below)]
    · have someKept : kept ≠ [] := by
        rintro rfl
        rw [foreign_here _ (List.append_ne_nil_of_left_ne_nil someTaken after) opens] at matched
        cases matched
      have cutting := cut_match reads start kept (taken ++ after) length passes matched
      rw [consumed_match_iff kept taken after length someTaken passes matched, List.append_assoc,
        cutting, List.length_append]
      have behind (place : Nat) (kept_ : Kept (cutAll (rest ++ own :: later)
          (cut pattern 0 (start + kept.length + length) ((taken ++ after).drop length))) place) :=
        cut_from _ _ _ _ place kept_
      by_cases enough : taken.length ≤ length
      · have here := inductionHypothesis halts_later foreign_later kept [] someKept
          (opens.front (by simp))
        rw [List.append_nil] at here
        rw [← here]
        constructor
        · exact fun covered => ⟨enough, fun place from_ below keptAt =>
            covered place from_ (by omega) ((kept_cons _ _ _ _).mpr (.inl keptAt))⟩
        · rintro ⟨-, covered⟩ place from_ below keptAt
          rcases (kept_cons _ _ _ _).mp keptAt with keptAt | keptAt
          · exact covered place from_ (kept_range _ _ _ _ keptAt).2 keptAt
          · have range := behind place keptAt
            omega
      · constructor
        · intro covered
          have left := kept_leftover (rest ++ own :: later) halts (start + kept.length) taken after
            length matched (by omega)
          have again := cut_match reads (start + kept.length) [] (taken ++ after) length
            (passes_nil _) matched
          rw [List.nil_append, List.length_nil, Nat.add_zero] at again
          rw [again, kept_cons] at left
          rcases left with left | left
          · have range := kept_range _ _ _ _ left
            rw [List.length_nil] at range
            omega
          · exact absurd ((kept_cons _ _ _ _).mpr (.inr left)) (covered _ (by omega) (by omega))
        · exact fun consumed => absurd consumed.1 enough

end Covered

/-! ## What stands in front -/

section Behind

variable {pattern : List α → Option Nat}

/-- A text ends with what is behind its last match. -/
theorem ending_suffix (pattern : List α → Option Nat) (more : List α) (skipped : Nat) (text : List α) :
    ending pattern more skipped text <:+ text := by
  induction text generalizing skipped with
  | nil => exact List.suffix_rfl
  | cons character rest inductionHypothesis =>
    cases skipped with
    | succ skipped => exact (inductionHypothesis skipped).trans (List.suffix_cons _ _)
    | zero =>
      rw [ending]
      split
      · exact (inductionHypothesis _).trans (List.suffix_cons _ _)
      · split
        · exact List.suffix_rfl
        · exact (inductionHypothesis 0).trans (List.suffix_cons _ _)

/-- Where no match runs into a text, its first part is put behind what the text in front of it ends
with. -/
theorem cut_apart (more : List α) (skipped start : Nat) (text : List α)
    (apart : overrun pattern more skipped text = 0) (first : Part α) (later : List (Part α))
    (left : cut pattern 0 (start + text.length) more = first :: later) :
    ∃ others : List (Part α), cut pattern skipped start (text ++ more) = others ++
        ⟨start + text.length - (ending pattern more skipped text).length,
          ending pattern more skipped text ++ first.text⟩ :: later ∧
      (∀ part ∈ others, part.start + part.text.length ≤ start + text.length) ∧
      (skipped = 0 → others ≠ [] → (ending pattern more skipped text).length < text.length) := by
  induction text generalizing skipped start with
  | nil =>
    cases skipped with
    | succ skipped => cases apart
    | zero =>
      obtain ⟨here, -⟩ := cut_head _ _ _ _ left
      refine ⟨[], left.trans ?_, by simp, fun _ none => absurd rfl none⟩
      rw [← show first.start = start + [].length from here]
      rfl
  | cons character rest inductionHypothesis =>
    have shifted : cut pattern 0 (start + 1 + rest.length) more = first :: later := by
      rw [← left, List.length_cons, Nat.add_right_comm, Nat.add_assoc]
    have counted : start + (character :: rest).length = start + 1 + rest.length := by
      rw [List.length_cons]
      omega
    rw [counted]
    cases skipped with
    | succ skipped =>
      obtain ⟨others, cutting, before, -⟩ := inductionHypothesis skipped (start + 1) apart shifted
      exact ⟨others, cutting, before, fun none => absurd none (Nat.succ_ne_zero _)⟩
    | zero =>
      cases matched : pattern (character :: rest ++ more) with
      | some length =>
        rw [overrun, matched] at apart
        obtain ⟨others, cutting, before, -⟩ :=
          inductionHypothesis (length - 1) (start + 1) apart shifted
        have shorter := (ending_suffix pattern more (length - 1) rest).length_le
        rw [ending, matched]
        refine ⟨⟨start, []⟩ :: others, ?_, List.forall_mem_cons.mpr ⟨?_, before⟩, fun _ _ => ?_⟩
        · rw [List.cons_append] at matched ⊢
          rw [cut, matched]
          simp only [cutting, List.cons_append]
        · simp only [List.length_nil]
          omega
        · simp only [List.length_cons]
          omega
      | none =>
        rw [overrun, matched] at apart
        obtain ⟨others, cutting, before, further⟩ := inductionHypothesis 0 (start + 1) apart shifted
        have within := ending_suffix pattern more 0 rest
        have shorter := within.length_le
        rw [ending, matched]
        simp only
        rw [List.cons_append] at matched ⊢
        rw [cut, matched]
        simp only [cutting]
        cases others with
        | nil =>
          have here := (cut_head _ _ _ _ cutting).1
          have whole := within.eq_of_length (by simp only at here; omega)
          refine ⟨[], ?_, by simp, fun _ none => absurd rfl none⟩
          rw [if_pos (congrArg List.length whole), List.length_cons, whole,
            show start + 1 + rest.length - (rest.length + 1) = start by omega]
          rfl
        | cons front others =>
          have here := (cut_head _ _ _ _ cutting).1
          have less := further rfl (by simp)
          obtain ⟨before_front, before⟩ := List.forall_mem_cons.mp before
          rw [if_neg (by omega)]
          refine ⟨⟨start, character :: front.text⟩ :: others, rfl,
            List.forall_mem_cons.mpr ⟨?_, before⟩, fun _ _ => ?_⟩
          · simp only [List.length_cons]
            omega
          · simp only [List.length_cons]
            omega

/-- What remains of a match past the end of a text is taken of what follows. -/
theorem overrun_skip (pattern : List α → Option Nat) (more : List α) (skipped : Nat) (text : List α)
    (past : text.length ≤ skipped) :
    overrun pattern more skipped text = skipped - text.length := by
  induction text generalizing skipped with
  | nil => rw [overrun, List.length_nil, Nat.sub_zero]
  | cons character rest inductionHypothesis =>
    rw [List.length_cons] at past
    obtain ⟨skipped, rfl⟩ : ∃ others, skipped = others + 1 := ⟨skipped - 1, by omega⟩
    rw [overrun, inductionHypothesis skipped (by omega), List.length_cons, Nat.add_sub_add_right]

/-- What is taken of a text by what stands in front of it is the end of a match. -/
theorem overrun_match (more : List α) (skipped : Nat) (text : List α)
    (inside : skipped ≤ text.length) (taken : 0 < overrun pattern more skipped text) :
    ∃ ending, ending ≠ [] ∧ ending <:+ text ∧
      pattern (ending ++ more) = some (ending.length + overrun pattern more skipped text) := by
  induction text generalizing skipped with
  | nil =>
    obtain rfl := Nat.le_zero.mp inside
    cases taken
  | cons character rest inductionHypothesis =>
    cases skipped with
    | succ skipped =>
      obtain ⟨ending, filled, within, matched⟩ :=
        inductionHypothesis skipped (Nat.le_of_succ_le_succ inside) taken
      exact ⟨ending, filled, within.trans (List.suffix_cons _ _), matched⟩
    | zero =>
      cases here : pattern (character :: rest ++ more) with
      | none =>
        rw [overrun, here] at taken ⊢
        obtain ⟨ending, filled, within, matched⟩ := inductionHypothesis 0 (Nat.zero_le _) taken
        exact ⟨ending, filled, within.trans (List.suffix_cons _ _), matched⟩
      | some length =>
        rw [overrun, here] at taken ⊢
        by_cases short : length - 1 ≤ rest.length
        · obtain ⟨ending, filled, within, matched⟩ := inductionHypothesis (length - 1) short taken
          exact ⟨ending, filled, within.trans (List.suffix_cons _ _), matched⟩
        · have past := overrun_skip pattern more (length - 1) rest (by omega)
          refine ⟨character :: rest, by simp, List.suffix_rfl, ?_⟩
          simp only [here, past, List.length_cons, Option.some.injEq]
          omega

/-- Nothing is taken of a text if no match that begins in what stands in front of it goes on. -/
theorem overrun_eq_zero (more text : List α) (inside : ∀ ending length, ending ≠ [] →
    ending <:+ text → pattern (ending ++ more) = some length → length ≤ ending.length) :
    overrun pattern more 0 text = 0 := by
  by_contra taken
  obtain ⟨ending, filled, within, matched⟩ :=
    overrun_match more 0 text (Nat.zero_le _) (Nat.pos_of_ne_zero taken)
  have short := inside ending _ filled within matched
  omega

/-- No more is taken of a text than there is. -/
theorem overrun_le (reads : Reads pattern) (more text : List α) :
    overrun pattern more 0 text ≤ more.length := by
  by_contra past
  have taken : 0 < overrun pattern more 0 text := by omega
  obtain ⟨ending, -, -, matched⟩ := overrun_match more 0 text (Nat.zero_le _) taken
  have bounds := (reads.bounded _ _ matched).2
  rw [List.length_append] at bounds
  omega

/-- What is taken of a text is cut off. -/
theorem cut_overrun (more : List α) (skipped start : Nat) (text : List α)
    (taken : 0 < overrun pattern more skipped text) : ∃ others : List (Part α),
      cut pattern skipped start (text ++ more) =
        others ++ cut pattern (overrun pattern more skipped text) (start + text.length) more ∧
      (∀ part ∈ others, part.start + part.text.length ≤ start + text.length) ∧
      (skipped = 0 → others ≠ []) := by
  induction text generalizing skipped start with
  | nil =>
    refine ⟨[], rfl, by simp, fun none => ?_⟩
    rw [none] at taken
    cases taken
  | cons character rest inductionHypothesis =>
    have counted : start + (character :: rest).length = start + 1 + rest.length := by
      rw [List.length_cons]
      omega
    rw [counted]
    cases skipped with
    | succ skipped =>
      obtain ⟨others, cutting, before, -⟩ := inductionHypothesis skipped (start + 1) taken
      exact ⟨others, cutting, before, fun none => absurd none (Nat.succ_ne_zero _)⟩
    | zero =>
      cases matched : pattern (character :: rest ++ more) with
      | some length =>
        rw [overrun, matched] at taken ⊢
        obtain ⟨others, cutting, before, -⟩ := inductionHypothesis (length - 1) (start + 1) taken
        refine ⟨⟨start, []⟩ :: others, ?_, List.forall_mem_cons.mpr ⟨?_, before⟩, fun _ => by simp⟩
        · rw [List.cons_append] at matched ⊢
          rw [cut, matched]
          simp only [cutting, List.cons_append]
        · simp only [List.length_nil]
          omega
      | none =>
        rw [overrun, matched] at taken ⊢
        obtain ⟨others, cutting, before, some⟩ := inductionHypothesis 0 (start + 1) taken
        obtain ⟨front, others, rfl⟩ := List.exists_cons_of_ne_nil (some rfl)
        have here := (cut_head _ _ _ _ cutting).1
        obtain ⟨before_front, before⟩ := List.forall_mem_cons.mp before
        refine ⟨⟨start, character :: front.text⟩ :: others, ?_,
          List.forall_mem_cons.mpr ⟨?_, before⟩, fun _ => by simp⟩
        · rw [List.cons_append] at matched ⊢
          rw [cut, matched]
          simp only [cutting, grown, List.cons_append]
        · simp only [List.length_cons]
          omega

/-- What is taken of a text by what stands in front of it is not kept, and the rest is cut as if
nothing stood in front of it. -/
theorem kept_overrun (reads : Reads pattern) (later : List (List α → Option Nat)) (start : Nat)
    (text more : List α) (taken : 0 < overrun pattern more 0 text) (place : Nat)
    (from_ : start + text.length ≤ place) :
    Kept (cutAll (pattern :: later) [⟨start, text ++ more⟩]) place ↔
      Kept (cutAll (pattern :: later) [⟨start + text.length + overrun pattern more 0 text,
        more.drop (overrun pattern more 0 text)⟩]) place := by
  obtain ⟨others, cutting, before, -⟩ := cut_overrun more 0 start text taken
  have gone : ¬ Kept (cutAll later others) place := fun kept => by
    obtain ⟨part, listed, -, below⟩ := kept_of_cutAll _ _ _ kept
    have range := before part listed
    omega
  rw [cutAll_single, cutting, cut_skip _ _ _ (overrun_le reads more text), cutAll_append, kept_append, or_iff_right gone,
    cutAll_single]

/-- Where no match runs into a text, what one pattern leaves of it is kept by the later ones exactly
if they keep it behind what the text in front of it ends with. -/
theorem kept_behind_step (later : List (List α → Option Nat)) (start : Nat) (text more : List α)
    (apart : overrun pattern more 0 text = 0) (place : Nat) (from_ : start + text.length ≤ place) :
    ∃ behind : List (Part α),
      cut pattern 0 (start + text.length) more =
        ⟨start + text.length, stretch pattern more⟩ :: behind ∧
      (Kept (cutAll (pattern :: later) [⟨start, text ++ more⟩]) place ↔
        Kept (cutAll later [⟨start + text.length - (ending pattern more 0 text).length,
          ending pattern more 0 text ++ stretch pattern more⟩]) place ∨
        Kept (cutAll later behind) place) := by
  obtain ⟨behind, left⟩ := cut_stretch pattern (start + text.length) more
  obtain ⟨others, cutting, before, -⟩ := cut_apart more 0 start text apart _ _ left
  have gone : ¬ Kept (cutAll later others) place := fun kept => by
    obtain ⟨part, listed, -, below⟩ := kept_of_cutAll _ _ _ kept
    have range := before part listed
    omega
  refine ⟨behind, left, ?_⟩
  rw [cutAll_single, cutting, cutAll_append, kept_append, or_iff_right gone, kept_cons]

/-- A text is cut as if nothing stood in front of it, if no match runs into it and the later patterns
cut its first part so. -/
theorem kept_behind_cons (later : List (List α → Option Nat)) (start : Nat) (text more : List α)
    (apart : overrun pattern more 0 text = 0) (place : Nat) (from_ : start + text.length ≤ place)
    (further : ∀ other, other + (ending pattern more 0 text).length = start + text.length →
      (Kept (cutAll later [⟨other, ending pattern more 0 text ++ stretch pattern more⟩]) place ↔
        Kept (cutAll later [⟨start + text.length, stretch pattern more⟩]) place)) :
    Kept (cutAll (pattern :: later) [⟨start, text ++ more⟩]) place ↔
      Kept (cutAll (pattern :: later) [⟨start + text.length, more⟩]) place := by
  obtain ⟨behind, left, step⟩ := kept_behind_step later start text more apart place from_
  have shorter := (ending_suffix pattern more 0 text).length_le
  rw [step, cutAll_single _ _ _ more, left, kept_cons later ⟨start + text.length, _⟩,
    further _ (by omega)]

end Behind

/-- A delimiter stops the matches of a pattern. -/
structure SplitsAt (delimiter : α → Bool) (pattern : List α → Option Nat) : Prop
    extends Reads pattern where
  splits : ∀ text character more, delimiter character = true →
    pattern (text ++ character :: more) = pattern text

/-- A text is empty or ends with a delimiter. -/
def Delimited (delimiter : α → Bool) (text : List α) : Prop :=
  ∀ character ∈ text.getLast?, delimiter character = true

/-- What a delimited text ends with is delimited. -/
theorem Delimited.ending {delimiter : α → Bool} {text ending : List α}
    (delimited : Delimited delimiter text) (within : ending <:+ text) :
    Delimited delimiter ending := by
  obtain ⟨before, rfl⟩ := within
  intro character last
  cases ending with
  | nil => cases last
  | cons first rest => exact delimited character (by rw [List.getLast?_append_of_ne_nil _ (by simp)]; exact last)

/-- No match of a pattern that a delimiter stops runs on from a delimited text. -/
theorem overrun_delimited {delimiter : α → Bool} {pattern : List α → Option Nat}
    (splits : SplitsAt delimiter pattern) (more text : List α) (delimited : Delimited delimiter text) :
    overrun pattern more 0 text = 0 := by
  refine overrun_eq_zero more text (fun ending length filled within matched => ?_)
  obtain ⟨front, last, rfl⟩ := (List.eq_nil_or_concat ending).resolve_left filled
  have stops := delimited.ending within last (by simp)
  rw [List.concat_eq_append, List.append_assoc, List.singleton_append, splits.splits front last more stops] at matched
  have bounds := splits.bounded front length matched
  simp only [List.concat_eq_append, List.length_append]
  omega

/-- A text behind a delimited one is cut as if nothing stood in front of it. -/
theorem kept_behind {delimiter : α → Bool} (patterns : List (List α → Option Nat))
    (splits : ∀ pattern ∈ patterns, SplitsAt delimiter pattern) (start : Nat) (text more : List α)
    (delimited : Delimited delimiter text) (place : Nat) (from_ : start + text.length ≤ place) :
    Kept (cutAll patterns [⟨start, text ++ more⟩]) place ↔
      Kept (cutAll patterns [⟨start + text.length, more⟩]) place := by
  induction patterns generalizing start text more with
  | nil =>
    simp only [cutAll, List.foldl_nil, Kept, List.mem_singleton, exists_eq_left, List.length_append]
    omega
  | cons pattern later inductionHypothesis =>
    obtain ⟨splits_here, splits_later⟩ := List.forall_mem_cons.mp splits
    refine kept_behind_cons later start text more (overrun_delimited splits_here more text delimited)
      place from_ (fun other ends => ?_)
    have further := inductionHypothesis splits_later other (ending pattern more 0 text)
      (stretch pattern more) (delimited.ending (ending_suffix _ _ _ _)) (by omega)
    rwa [ends] at further

end Text
