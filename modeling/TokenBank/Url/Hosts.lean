import Mathlib.Data.List.Basic
import Mathlib.Tactic.IntervalCases
import TokenBank.Url.Splitting

/-!
# Hosts and ports

The host and the port of a network location without brackets are found again where they were
written. A host in lower case is the same whether or not its zone was left as it was. The parts
of a URL that is not refused have no characters that separate parts or are removed.
-/

namespace Url

/-! ## Characters of parts -/

/-- What is in front of a mark is of the text, and does not have the mark. -/
theorem mem_before (mark : Char) (text : List Char) :
    ∀ character ∈ before mark text, character ∈ text ∧ character ≠ mark := by
  intro character member
  have kept := List.mem_takeWhile_imp member
  exact ⟨(List.takeWhile_prefix _).subset member, of_decide_eq_true kept⟩

/-- What is behind a mark is of the text. -/
theorem mem_after (mark : Char) (text : List Char) :
    ∀ character ∈ after mark text, character ∈ text := by
  intro character member
  exact (List.dropWhile_suffix _).subset (List.mem_of_mem_drop member)

/-- What is behind the last mark is of the text, and does not have the mark. -/
theorem mem_afterLast (mark : Char) (text : List Char) :
    ∀ character ∈ afterLast mark text, character ∈ text ∧ character ≠ mark := by
  intro character member
  have taken := List.mem_reverse.mp member
  have kept := List.mem_takeWhile_imp taken
  exact ⟨List.mem_reverse.mp ((List.takeWhile_prefix _).subset taken), of_decide_eq_true kept⟩

/-- The characters of a host are those of its network location, without at signs. -/
theorem mem_host (netloc : List Char) :
    ∀ character ∈ (hostinfo netloc).1, character ∈ netloc ∧ character ≠ '@' := by
  intro character member
  rw [hostinfo] at member
  split_ifs at member
  · exact mem_afterLast '@' netloc character
      (mem_after '[' _ character (mem_before ']' _ character member).1)
  · exact mem_afterLast '@' netloc character (mem_before ':' _ character member).1

/-- A host does not have both brackets. -/
theorem host_brackets (netloc : List Char) :
    ¬ ('[' ∈ (hostinfo netloc).1 ∧ ']' ∈ (hostinfo netloc).1) := by
  rw [hostinfo]
  split_ifs with bracketed
  · rintro ⟨-, closing⟩
    exact (mem_before ']' _ ']' closing).2 rfl
  · rintro ⟨opening, -⟩
    exact bracketed (mem_before ':' _ '[' opening).1

/-- The characters of the network location of a URL do not separate parts, and are not removed. -/
theorem mem_netloc (url : List Char) : ∀ character ∈ (splitText (cleaned url)).netloc,
    delimiter character = false ∧ character ∉ ['\t', '\r', '\n'] := by
  intro character member
  have inRest : ∀ given ∈ (splitScheme (cleaned url)).2, given ∉ ['\t', '\r', '\n'] := by
    intro given found
    have inCleaned : given ∈ cleaned url := by
      rw [splitScheme] at found
      split_ifs at found
      · exact mem_after ':' _ given found
      · exact found
    exact of_decide_eq_true (List.mem_filter.mp inCleaned).2
  rw [splitText] at member
  simp only at member
  generalize (splitScheme (cleaned url)).2 = rest at member inRest
  rw [splitNetloc.eq_def] at member
  split at member
  · have kept := List.mem_takeWhile_imp member
    have found := (List.takeWhile_prefix _).subset member
    refine ⟨by simpa using kept, inRest character ?_⟩
    exact List.mem_cons_of_mem _ (List.mem_cons_of_mem _ found)
  · cases member

/-- The path behind a network location is empty or begins with a slash. -/
theorem path_rooted (url : List Char) (located : (splitText url).netloc ≠ []) :
    (splitText url).path = [] ∨ ∃ rest, (splitText url).path = '/' :: rest := by
  rw [splitText] at located ⊢
  simp only at located ⊢
  generalize (splitScheme url).2 = behind at located ⊢
  rw [splitNetloc.eq_def] at located ⊢
  split at located
  · rename_i rest
    simp only
    cases remaining : rest.dropWhile (fun character => !delimiter character) with
    | nil => exact Or.inl rfl
    | cons first later =>
      have delimits : delimiter first = true := by
        have stopped := List.head?_dropWhile_not (fun character => !delimiter character) rest
        rw [remaining] at stopped
        simpa using stopped
      simp only [delimiter, List.contains_cons, List.contains_nil, Bool.or_false, Bool.or_eq_true,
        beq_iff_eq] at delimits
      rcases delimits with rfl | rfl | rfl
      · right
        exact ⟨before '?' (before '#' later), by simp [before]⟩
      · left
        simp [before]
      · left
        simp [before]
  · exact absurd rfl located

/-! ## Lower case -/

section Library

variable (library : Library)

/-- A host without a zone is put in lower case as a whole. -/
theorem lowerHost_zoneless (host : List Char) (zoneless : '%' ∉ host) :
    lowerHost library host = library.lower host := by
  have kept : host.dropWhile (fun character => character ≠ '%') = [] := by
    rw [List.dropWhile_eq_nil_iff]
    intro character member
    exact decide_eq_true fun same => zoneless (same ▸ member)
  rw [lowerHost, before_absent '%' host zoneless, kept, List.append_nil]

/-- The zone of a host is left as it is. -/
theorem lowerHost_zone (front zone : List Char) (first : '%' ∉ front) :
    lowerHost library (front ++ '%' :: zone) = library.lower front ++ '%' :: zone := by
  have kept : ∀ character ∈ front, decide (character ≠ '%') = true := by
    intro character member
    exact decide_eq_true fun same => first (same ▸ member)
  rw [lowerHost, before_append '%' front zone first, List.dropWhile_append_of_pos kept]
  simp

/-- The zone of a host does not matter for its lower case. -/
theorem lower_lowerHost (host : List Char) :
    library.lower (lowerHost library host) = library.lower host := by
  by_cases zoned : '%' ∈ host
  · obtain ⟨front, zone, rfl, first⟩ := List.eq_append_cons_of_mem zoned
    rw [lowerHost_zone library front zone first, library.lower_percent, library.lower_percent,
      library.lower_lower]
  · rw [lowerHost_zoneless library host zoned, library.lower_lower]

/-- A host in lower case has the marks of the host. -/
theorem mark_lowerHost (host : List Char) (mark : Char) (isMark : mark ∈ marks) :
    mark ∈ lowerHost library host ↔ mark ∈ host := by
  rw [← library.lower_marks (lowerHost library host) mark isMark, lower_lowerHost,
    library.lower_marks host mark isMark]

end Library

/-! ## Network locations that are found again -/

/-- There is nothing behind the last mark but the text, if it does not have the mark. -/
theorem afterLast_absent (mark : Char) (text : List Char) (absent : mark ∉ text) :
    afterLast mark text = text := by
  have kept : text.reverse.takeWhile (fun character => character ≠ mark) = text.reverse := by
    rw [List.takeWhile_eq_self_iff]
    intro character member
    exact decide_eq_true fun same => absent (same ▸ List.mem_reverse.mp member)
  rw [afterLast, kept, List.reverse_reverse]

/-- A host is found in front of its port. -/
theorem hostinfo_port (host digits : List Char) (uncoloned : ':' ∉ host)
    (unmarked : '@' ∉ host ++ ':' :: digits) (unbracketed : '[' ∉ host ++ ':' :: digits) :
    hostinfo (host ++ ':' :: digits) = (host, digits) := by
  rw [hostinfo]
  simp only [afterLast_absent '@' _ unmarked, if_neg unbracketed, before_append ':' host _ uncoloned,
    after_append ':' host _ uncoloned]

/-- A host without a port is the network location. -/
theorem hostinfo_host (host : List Char) (uncoloned : ':' ∉ host) (unmarked : '@' ∉ host)
    (unbracketed : '[' ∉ host) : hostinfo host = (host, []) := by
  rw [hostinfo]
  simp only [afterLast_absent '@' _ unmarked, if_neg unbracketed, before_absent ':' host uncoloned,
    after_absent ':' host uncoloned]

/-- Without brackets, a host has no colon. -/
theorem host_uncoloned (netloc : List Char) (unbracketed : '[' ∉ netloc) :
    ':' ∉ (hostinfo netloc).1 := by
  rw [hostinfo, if_neg (fun member => unbracketed (mem_afterLast '@' netloc '[' member).1)]
  exact fun member => (mem_before ':' _ ':' member).2 rfl

/-! ## Ports -/

/-- A port is in its range. -/
theorem port_range (parts : SplitResult) (number : Nat) (found : port parts = .ok (some number)) :
    number ≤ 65535 := by
  rw [port] at found
  split_ifs at found with absent letters large
  · cases found
  · have same := Option.some.inj (Except.ok.inj found)
    omega

/-- The digits of a number. -/
theorem toDigits_digits (number : Nat) : ∀ character ∈ Nat.toDigits 10 number,
    digit character = true := by
  intro character member
  have isDigit := Nat.isDigit_of_mem_toDigits (by decide) (by decide) member
  simpa [Char.isDigit, digit, Char.le_def] using isDigit

/-- A port that is written is read back. -/
theorem port_written (parts : SplitResult) (number : Nat)
    (written : (hostinfo parts.netloc).2 = Nat.toDigits 10 number) (inRange : number ≤ 65535) :
    port parts = .ok (some number) := by
  have digits : (Nat.toDigits 10 number).all digit = true :=
    List.all_eq_true.mpr (toDigits_digits number)
  have short : (Nat.toDigits 10 number).length ≤ 5 :=
    (Nat.length_toDigits_le_iff (by decide) (by decide)).mpr (by omega)
  rw [port, written]
  simp only [Nat.toDigits_ne_nil, digits, Nat.ofDigitChars_ten_toDigits, if_false]
  rw [if_neg (by decide), if_neg (by omega)]

end Url
