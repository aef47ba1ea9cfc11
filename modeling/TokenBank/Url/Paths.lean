import Mathlib.Data.List.Basic
import TokenBank.Url.Quoting

/-!
# Paths

A path is normalised segment by segment: empty segments and single dots are left out, and a
double dot takes the segment before it away. One or two slashes in front are kept, more are
one. A rooted path is normalised into slashes and segments none of which is empty or made of
dots alone; normalising that again changes nothing, with or without a slash behind it. Such a
path is quoted segment by segment, and remains one.
-/

namespace Url

open Text

/-! ## Normalising -/

/-- How many slashes in front of a path are kept. -/
def initialSlashes : List Char → Nat
  | '/' :: '/' :: '/' :: _ => 1
  | '/' :: '/' :: _ => 2
  | '/' :: _ => 1
  | _ => 0

/-- The segments that are kept, the last one first, behind one more segment. -/
def keepSegment (rooted : Bool) (kept : List (List Char)) (segment : List Char) :
    List (List Char) :=
  if segment = [] ∨ segment = ['.'] then kept
  else if segment ≠ ['.', '.'] ∨ (rooted = false ∧ kept = []) ∨ kept.head? = some ['.', '.'] then
    segment :: kept
  else kept.tail

/-- Slashes in front of joined segments. -/
def joinedPath (slashes : Nat) (segments : List (List Char)) : List Char :=
  List.replicate slashes '/' ++ ['/'].intercalate segments

/-- A path without empty segments and, as far as they can be resolved, without dots. -/
def normpath (path : List Char) : List Char :=
  if path = [] then ['.']
  else
    let slashes := initialSlashes path
    let segments := (path.splitOn '/').foldl (keepSegment (0 < slashes)) []
    let joined := joinedPath slashes segments.reverse
    if joined = [] then ['.'] else joined

/-- A double dot takes one segment away, and is kept where there is none in a relative path. -/
example : normpath "//a/./b//../c/".toList = "//a/c".toList ∧
    normpath "../a/../..".toList = "../..".toList ∧ normpath "///..".toList = ['/'] := by
  decide

/-! ## Rooted paths -/

/-- A segment that a rooted path keeps. -/
structure Kept (segment : List Char) : Prop where
  filled : segment ≠ []
  nonDot : segment ≠ ['.']
  nonDots : segment ≠ ['.', '.']
  whole : '/' ∉ segment

/-- The segments of a path have no slashes. -/
theorem splitOn_whole (path segment : List Char) (member : segment ∈ path.splitOn '/') :
    '/' ∉ segment := by
  induction path generalizing segment with
  | nil =>
    rw [List.splitOn_nil, List.mem_singleton] at member
    simp [member]
  | cons character rest inductionHypothesis =>
    rw [List.splitOn_cons_eq_if_modifyHead] at member
    split at member
    · cases List.mem_cons.mp member with
      | inl empty => simp [empty]
      | inr later => exact inductionHypothesis segment later
    · rename_i other
      have isOther : character ≠ '/' := by simpa using other
      obtain ⟨first, remaining, parts⟩ := List.exists_cons_of_ne_nil (List.splitOn_ne_nil '/' rest)
      rw [parts, List.modifyHead_cons] at member
      cases List.mem_cons.mp member with
      | inl extended =>
        rw [extended, List.mem_cons, not_or]
        refine ⟨isOther.symm, inductionHypothesis first ?_⟩
        rw [parts]
        exact List.mem_cons_self
      | inr later =>
        apply inductionHypothesis segment
        rw [parts]
        exact List.mem_cons_of_mem first later

/-- One more segment of a rooted path leaves segments that are kept. -/
theorem keepSegment_kept (kept : List (List Char)) (segment : List Char)
    (areKept : ∀ earlier ∈ kept, Kept earlier) (whole : '/' ∉ segment) :
    ∀ found ∈ keepSegment true kept segment, Kept found := by
  intro found member
  rw [keepSegment] at member
  split_ifs at member with skipped pushed
  · exact areKept found member
  · cases List.mem_cons.mp member with
    | inr earlier => exact areKept found earlier
    | inl isSegment =>
      obtain ⟨filled, nonDot⟩ := not_or.mp skipped
      rcases pushed with nonDots | ⟨relative, -⟩ | doubled
      · exact isSegment ▸ ⟨filled, nonDot, nonDots, whole⟩
      · cases relative
      · exact absurd rfl (areKept _ (List.mem_of_mem_head? doubled)).nonDots
  · exact areKept found (List.mem_of_mem_tail member)

/-- The segments that a rooted path keeps. -/
theorem foldl_kept (segments kept : List (List Char))
    (areKept : ∀ earlier ∈ kept, Kept earlier) (whole : ∀ segment ∈ segments, '/' ∉ segment) :
    ∀ found ∈ segments.foldl (keepSegment true) kept, Kept found := by
  induction segments generalizing kept with
  | nil => exact areKept
  | cons segment rest inductionHypothesis =>
    obtain ⟨first, later⟩ := List.forall_mem_cons.mp whole
    exact inductionHypothesis _ (keepSegment_kept kept segment areKept first) later

/-- One or two slashes are in front of a rooted path. -/
theorem initialSlashes_rooted (rest : List Char) :
    initialSlashes ('/' :: rest) = 1 ∨ initialSlashes ('/' :: rest) = 2 := by
  rw [initialSlashes.eq_def]
  split <;> simp_all

/-- A path of slashes and segments is not empty. -/
theorem joinedPath_filled (slashes : Nat) (segments : List (List Char)) (rooted : 0 < slashes) :
    joinedPath slashes segments ≠ [] := by
  obtain ⟨fewer, rfl⟩ := Nat.exists_eq_succ_of_ne_zero (Nat.pos_iff_ne_zero.mp rooted)
  simp [joinedPath, List.replicate_succ]

/-- A rooted path is normalised into slashes and segments that are kept. -/
theorem normpath_rooted (rest : List Char) : ∃ slashes segments, (slashes = 1 ∨ slashes = 2) ∧
    (∀ segment ∈ segments, Kept segment) ∧
      normpath ('/' :: rest) = joinedPath slashes segments := by
  have slashes := initialSlashes_rooted rest
  have rooted : 0 < initialSlashes ('/' :: rest) := by omega
  refine ⟨initialSlashes ('/' :: rest),
    ((('/' :: rest).splitOn '/').foldl (keepSegment true) []).reverse, slashes, ?_, ?_⟩
  · intro segment member
    exact foldl_kept _ [] (by simp) (splitOn_whole _) segment (List.mem_reverse.mp member)
  · rw [normpath, if_neg (List.cons_ne_nil _ _)]
    simp only [rooted, decide_true]
    rw [if_neg (joinedPath_filled _ _ rooted)]

/-! ## Normalised paths -/

/-- Segments that are kept are kept in their order. -/
theorem foldl_same (segments kept : List (List Char)) (areKept : ∀ segment ∈ segments, Kept segment) :
    segments.foldl (keepSegment true) kept = segments.reverse ++ kept := by
  induction segments generalizing kept with
  | nil => rfl
  | cons segment rest inductionHypothesis =>
    obtain ⟨first, later⟩ := List.forall_mem_cons.mp areKept
    have pushed : keepSegment true kept segment = segment :: kept := by
      rw [keepSegment, if_neg (not_or.mpr ⟨first.filled, first.nonDot⟩), if_pos (Or.inl first.nonDots)]
    rw [List.foldl_cons, pushed, inductionHypothesis _ later, List.reverse_cons, List.append_assoc]
    rfl

/-- Empty segments are left out. -/
theorem foldl_empty (count : Nat) (kept : List (List Char)) :
    (List.replicate count []).foldl (keepSegment true) kept = kept := by
  induction count with
  | zero => rfl
  | succ fewer inductionHypothesis =>
    rw [List.replicate_succ, List.foldl_cons, keepSegment, if_pos (Or.inl rfl), inductionHypothesis]

/-- A path of slashes and segments is split into empty segments and these. -/
theorem splitOn_slashes (slashes : Nat) (path : List Char) :
    (List.replicate slashes '/' ++ path).splitOn '/' =
      List.replicate slashes [] ++ path.splitOn '/' := by
  induction slashes with
  | zero => rfl
  | succ fewer inductionHypothesis =>
    rw [List.replicate_succ, List.cons_append, List.splitOn_cons_eq_if_modifyHead, if_pos (by simp),
      inductionHypothesis, List.replicate_succ, List.cons_append]

/-- The segments of a path are those that were joined, and those of what is behind them. -/
theorem splitOn_segments (segments : List (List Char)) (areKept : ∀ segment ∈ segments, Kept segment) :
    (['/'].intercalate segments).splitOn '/' = if segments = [] then [[]] else segments := by
  split_ifs with empty
  · rw [empty, List.intercalate_nil, List.splitOn_nil]
  · exact List.splitOn_intercalate '/' (fun segment member => (areKept segment member).whole) empty

/-- The first character of joined segments is not a slash. -/
theorem intercalate_head (segments : List (List Char)) (areKept : ∀ segment ∈ segments, Kept segment)
    (rest : List Char) : ['/'].intercalate segments ≠ '/' :: rest := by
  cases segments with
  | nil => simp
  | cons segment later =>
    have first := areKept segment List.mem_cons_self
    obtain ⟨character, remaining, isSegment⟩ := List.exists_cons_of_ne_nil first.filled
    have other : character ≠ '/' := by
      intro slash
      exact first.whole (by rw [isSegment, slash]; exact List.mem_cons_self)
    intro rooted
    apply other
    cases later with
    | nil =>
      rw [List.intercalate_singleton, isSegment] at rooted
      exact (List.cons.inj rooted).1
    | cons next _ =>
      rw [List.intercalate_cons_cons, isSegment, List.cons_append, List.cons_append] at rooted
      exact (List.cons.inj rooted).1

/-- Slashes in front of a text that does not begin with one are counted. -/
theorem initialSlashes_counted (slashes : Nat) (body : List Char)
    (counted : slashes = 1 ∨ slashes = 2) (head : ∀ rest, body ≠ '/' :: rest) :
    initialSlashes (List.replicate slashes '/' ++ body) = slashes := by
  cases body with
  | nil => rcases counted with rfl | rfl <;> rfl
  | cons character rest =>
    have other : character ≠ '/' := fun slash => head rest (by rw [slash])
    rcases counted with rfl | rfl <;> simp [List.replicate_succ, initialSlashes, other]

/-- A path of slashes and a text is normalised into these slashes and the segments that are
kept of the text. -/
theorem normpath_slashes (slashes : Nat) (body : List Char) (segments : List (List Char))
    (counted : slashes = 1 ∨ slashes = 2) (head : ∀ rest, body ≠ '/' :: rest)
    (parts : (body.splitOn '/').foldl (keepSegment true) [] = segments.reverse) :
    normpath (List.replicate slashes '/' ++ body) = joinedPath slashes segments := by
  have rooted : 0 < slashes := by omega
  have filled : List.replicate slashes '/' ++ body ≠ [] := by
    obtain ⟨fewer, rfl⟩ := Nat.exists_eq_succ_of_ne_zero (Nat.pos_iff_ne_zero.mp rooted)
    simp [List.replicate_succ]
  rw [normpath, if_neg filled]
  simp only [initialSlashes_counted slashes body counted head, rooted, decide_true,
    splitOn_slashes, List.foldl_append, foldl_empty, parts, List.reverse_reverse]
  rw [if_neg (joinedPath_filled slashes segments rooted)]

/-- The segments of joined segments are kept. -/
theorem foldl_joined (segments : List (List Char)) (areKept : ∀ segment ∈ segments, Kept segment) :
    ((['/'].intercalate segments).splitOn '/').foldl (keepSegment true) [] = segments.reverse := by
  rw [splitOn_segments segments areKept]
  split_ifs with empty
  · rw [empty]
    rfl
  · rw [foldl_same segments [] areKept, List.append_nil]

/-- A path of slashes and segments that are kept is normalised as itself. -/
theorem normpath_joinedPath (slashes : Nat) (segments : List (List Char))
    (counted : slashes = 1 ∨ slashes = 2) (areKept : ∀ segment ∈ segments, Kept segment) :
    normpath (joinedPath slashes segments) = joinedPath slashes segments :=
  normpath_slashes slashes _ segments counted (intercalate_head segments areKept)
    (foldl_joined segments areKept)

/-- A slash behind the last segment of such a path is left out. -/
theorem normpath_joinedPath_slash (slashes : Nat) (segments : List (List Char))
    (counted : slashes = 1 ∨ slashes = 2) (areKept : ∀ segment ∈ segments, Kept segment)
    (filled : segments ≠ []) :
    normpath (joinedPath slashes segments ++ ['/']) = joinedPath slashes segments := by
  rw [joinedPath, List.append_assoc]
  apply normpath_slashes slashes _ segments counted
  · intro rest rooted
    obtain ⟨first, later, isSome⟩ := List.exists_cons_of_ne_nil filled
    obtain ⟨character, remaining, isJoined⟩ : ∃ character remaining,
        ['/'].intercalate segments = character :: remaining := by
      apply List.exists_cons_of_ne_nil
      intro empty
      have parts := splitOn_segments segments areKept
      rw [if_neg filled, empty, List.splitOn_nil, isSome] at parts
      apply (areKept first (by rw [isSome]; exact List.mem_cons_self)).filled
      exact (List.cons.inj parts).1.symm
    rw [isJoined, List.cons_append] at rooted
    apply intercalate_head segments areKept remaining
    rw [isJoined, (List.cons.inj rooted).1]
  · rw [List.splitOn_append_cons_self, List.splitOn_nil, List.foldl_append,
      foldl_joined segments areKept, List.foldl_cons, List.foldl_nil, keepSegment,
      if_pos (Or.inl rfl)]

/-- Segments that are kept do not end with a slash. -/
theorem intercalate_last (segments : List (List Char)) (areKept : ∀ segment ∈ segments, Kept segment)
    (filled : segments ≠ []) : ∃ last, (['/'].intercalate segments).getLast? = some last ∧
      last ≠ '/' := by
  induction segments with
  | nil => exact absurd rfl filled
  | cons segment rest inductionHypothesis =>
    obtain ⟨first, later⟩ := List.forall_mem_cons.mp areKept
    cases rest with
    | nil =>
      rw [List.intercalate_singleton]
      refine ⟨segment.getLast first.filled, List.getLast?_eq_some_getLast first.filled, ?_⟩
      intro slash
      exact first.whole (slash ▸ List.getLast_mem first.filled)
    | cons next others =>
      obtain ⟨last, isLast, unslashed⟩ := inductionHypothesis later (List.cons_ne_nil _ _)
      refine ⟨last, ?_, unslashed⟩
      rw [List.intercalate_cons_cons, List.getLast?_append, isLast]
      rfl

/-- A path with segments that are kept does not end with a slash, one without segments does. -/
theorem joinedPath_last (slashes : Nat) (segments : List (List Char)) (rooted : 0 < slashes)
    (areKept : ∀ segment ∈ segments, Kept segment) :
    (joinedPath slashes segments).getLast? = some '/' ↔ segments = [] := by
  obtain ⟨fewer, rfl⟩ := Nat.exists_eq_succ_of_ne_zero (Nat.pos_iff_ne_zero.mp rooted)
  constructor
  · intro closed
    by_contra filled
    obtain ⟨last, isLast, unslashed⟩ := intercalate_last segments areKept filled
    rw [joinedPath, List.getLast?_append, isLast] at closed
    exact unslashed (Option.some.inj closed)
  · rintro rfl
    rw [joinedPath, List.intercalate_nil, List.append_nil, List.getLast?_replicate]
    rfl

/-- A path of slashes and segments begins with a slash. -/
theorem joinedPath_head (slashes : Nat) (segments : List (List Char)) (rooted : 0 < slashes)
    (behind : List Char) : ∃ rest, joinedPath slashes segments ++ behind = '/' :: rest := by
  obtain ⟨fewer, rfl⟩ := Nat.exists_eq_succ_of_ne_zero (Nat.pos_iff_ne_zero.mp rooted)
  rw [joinedPath, List.replicate_succ]
  exact ⟨_, rfl⟩

/-! ## Quoted paths -/

section Quoted

variable (safe : List Char)

/-- A byte that is not safe is written with a percent sign, and with plain characters. -/
theorem quoteByte_escaped (byte : Nat) (isByte : byte < 256)
    (escaped : (alwaysSafe byte || safe.any (fun given => given.toNat = byte)) = false) :
    '%' ∈ quoteByte safe byte ∧ ∀ written ∈ quoteByte safe byte, plain [] written = true := by
  rw [quoteByte, escaped, if_neg Bool.false_ne_true]
  have high := hexDigit_read (byte / 16) (by omega)
  have low := hexDigit_read (byte % 16) (by omega)
  constructor
  · exact List.mem_cons_self
  · intro written member
    simp only [List.mem_cons, List.not_mem_nil, or_false] at member
    rcases member with rfl | rfl | rfl
    · decide
    · simp [plain, high.2.1, high.2.2.1]
    · simp [plain, low.2.1, low.2.2.1]

/-- A character is kept, or written with a percent sign and plain characters. -/
theorem quoteChar_form (declared : ∀ character ∈ safe, character.toNat < 128) (character : Char) :
    quoteChar safe character = [character] ∨
      ('%' ∈ quoteChar safe character ∧
        ∀ written ∈ quoteChar safe character, plain [] written = true) := by
  have escaping (escaped : ∀ byte ∈ Utf8.encodeChar character,
      (alwaysSafe byte || safe.any (fun given => given.toNat = byte)) = false)
      (filled : Utf8.encodeChar character ≠ []) :
      '%' ∈ quoteChar safe character ∧
        ∀ written ∈ quoteChar safe character, plain [] written = true := by
    have areBytes := Utf8.encodeChar_byte character
    obtain ⟨byte, member⟩ := List.exists_mem_of_ne_nil _ filled
    constructor
    · exact List.mem_flatMap.mpr ⟨byte, member,
        (quoteByte_escaped safe byte (areBytes byte member) (escaped byte member)).1⟩
    · intro written found
      obtain ⟨other, inBytes, isWritten⟩ := List.mem_flatMap.mp found
      exact (quoteByte_escaped safe other (areBytes other inBytes) (escaped other inBytes)).2 written
        isWritten
  by_cases ascii : character.toNat < 128
  · by_cases isSafe : alwaysSafe character.toNat = true ∨ character ∈ safe
    · exact Or.inl (quoteChar_safe safe character ascii isSafe)
    · right
      rw [not_or, Bool.not_eq_true] at isSafe
      apply escaping
      · rw [Utf8.encodeChar_ascii character ascii]
        intro byte member
        rw [List.mem_singleton.mp member, isSafe.1, Bool.false_or, List.any_eq_false]
        intro given listed
        rw [decide_eq_true_eq, Char.toNat_inj]
        exact fun same => isSafe.2 (same ▸ listed)
      · rw [Utf8.encodeChar_ascii character ascii]
        exact List.cons_ne_nil _ _
  · right
    apply escaping
    · intro byte member
      have beyond := Utf8.encodeChar_beyond character ascii byte member
      rw [Bool.or_eq_false_iff, List.any_eq_false]
      constructor
      · rw [← Bool.not_eq_true]
        intro always
        have := alwaysSafe_ascii byte always
        omega
      · intro given listed
        have := declared given listed
        rw [decide_eq_true_eq]
        omega
    · simp only [Utf8.encodeChar]
      split_ifs <;> simp

/-- A text that is quoted without percent signs is kept. -/
theorem quote_unquoted (declared : ∀ character ∈ safe, character.toNat < 128) (text : List Char)
    (unquoted : '%' ∉ quote safe text) : quote safe text = text := by
  rw [quote_flatMap] at unquoted ⊢
  have kept : ∀ character ∈ text, quoteChar safe character = [character] := by
    intro character member
    cases quoteChar_form safe declared character with
    | inl same => exact same
    | inr escaped =>
      exact absurd (List.mem_flatMap.mpr ⟨character, member, escaped.1⟩) unquoted
  rw [List.flatMap_congr kept]
  exact List.flatMap_singleton' _

/-- A slash is in a quoted text only if it was in the text. -/
theorem slash_of_quoted (declared : ∀ character ∈ safe, character.toNat < 128) (text : List Char)
    (member : '/' ∈ quote safe text) : '/' ∈ text := by
  rw [quote_flatMap] at member
  obtain ⟨character, inText, written⟩ := List.mem_flatMap.mp member
  cases quoteChar_form safe declared character with
  | inl same =>
    rw [same, List.mem_singleton] at written
    exact written ▸ inText
  | inr escaped => exact absurd (escaped.2 '/' written) (by decide)

/-- A segment that a rooted path keeps is one when it is quoted. -/
theorem kept_quote (declared : ∀ character ∈ safe, character.toNat < 128) (segment : List Char)
    (kept : Kept segment) : Kept (quote safe segment) where
  filled empty := kept.filled (by rw [← quote_unquoted safe declared segment (by simp [empty]), empty])
  nonDot dot := kept.nonDot (by rw [← quote_unquoted safe declared segment (by simp [dot]), dot])
  nonDots dots := kept.nonDots (by rw [← quote_unquoted safe declared segment (by simp [dots]), dots])
  whole slash := kept.whole (slash_of_quoted safe declared segment slash)

/-- Two texts are quoted one after the other. -/
theorem quote_append (front behind : List Char) :
    quote safe (front ++ behind) = quote safe front ++ quote safe behind := by
  rw [quote_flatMap, quote_flatMap, quote_flatMap, List.flatMap_append]

/-- A character that quoting keeps. -/
theorem quote_kept (character : Char) (rest : List Char) (ascii : character.toNat < 128)
    (listed : character ∈ safe) :
    quote safe (character :: rest) = character :: quote safe rest := by
  rw [quote_flatMap, List.flatMap_cons, quoteChar_safe safe character ascii (Or.inr listed),
    quote_flatMap]
  rfl

variable (slash : '/' ∈ safe)

include slash

/-- Slashes are quoted as themselves. -/
theorem quote_slashes (slashes : Nat) :
    quote safe (List.replicate slashes '/') = List.replicate slashes '/' := by
  induction slashes with
  | zero => rfl
  | succ fewer inductionHypothesis =>
    rw [List.replicate_succ, quote_kept safe '/' _ (by decide) slash, inductionHypothesis]

/-- Joined segments are quoted segment by segment. -/
theorem quote_intercalate (segments : List (List Char)) :
    quote safe (['/'].intercalate segments) = ['/'].intercalate (segments.map (quote safe)) := by
  induction segments with
  | nil => rfl
  | cons segment rest inductionHypothesis =>
    cases rest with
    | nil => rw [List.intercalate_singleton, List.map_singleton, List.intercalate_singleton]
    | cons next later =>
      have single : quote safe ['/'] = ['/'] := quote_kept safe '/' [] (by decide) slash
      rw [List.map_cons] at inductionHypothesis
      rw [List.intercalate_cons_cons, quote_append, quote_append, inductionHypothesis, single]
      simp only [List.map_cons, List.intercalate_cons_cons]

/-- A path of slashes and segments is quoted segment by segment. -/
theorem quote_joinedPath (slashes : Nat) (segments : List (List Char)) :
    quote safe (joinedPath slashes segments) = joinedPath slashes (segments.map (quote safe)) := by
  rw [joinedPath, quote_append, quote_slashes safe slash, quote_intercalate safe slash, joinedPath]

end Quoted

end Url
