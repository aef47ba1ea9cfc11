import Mathlib.Data.List.Basic
import Mathlib.Data.List.Chain
import Mathlib.Data.List.Nodup

/-!
# Lists linked backwards

Items have keys, and an item may name the key of another one as its predecessor's. In a list
where each named key is that of an item before it, following the links from any item goes
back through the list, and ends at an item that names none. Two such lists in which items
with one key have one content have the same history behind items with one key.
-/

namespace Links

universe u v w
variable {α : Type u} {κ : Type v} {γ : Type w} (key : α → κ) (link : α → Option κ)

/-- Every link of an item leads to the key of an item before it. -/
def Linked (items : List α) : Prop :=
  ∀ front item behind, items = front ++ item :: behind →
    ∀ target, link item = some target → ∃ earlier ∈ front, key earlier = target

theorem linked_nil : Linked key link [] := by
  intro front item behind placed
  simp at placed

/-- An item behind a linked list keeps it linked if its own link leads into the list. -/
theorem Linked.concat {items : List α} (linked : Linked key link items) (item : α)
    (leads : ∀ target, link item = some target → ∃ earlier ∈ items, key earlier = target) :
    Linked key link (items ++ [item]) := by
  intro front placed behind split target named
  rcases List.eq_nil_or_concat behind with rfl | ⟨others, last, rfl⟩
  · obtain ⟨rfl, ends⟩ := List.append_inj' split rfl
    obtain rfl := List.head_eq_of_cons_eq ends
    exact leads target named
  · rw [List.concat_eq_append, ← List.cons_append, ← List.append_assoc] at split
    exact linked front placed others (List.append_inj' split rfl).1 target named

variable [DecidableEq κ]

/-- The item a link leads to. -/
def predecessor (items : List α) (item : α) : Option α :=
  (link item).bind (fun target => items.find? (fun other => key other = target))

/-- An item and those its links lead back to, over at most some number of links. -/
def history (items : List α) : Nat → α → List α
  | 0, item => [item]
  | steps + 1, item =>
    match predecessor key link items item with
    | none => [item]
    | some earlier => item :: history items steps earlier

variable {key link} {items : List α}

/-- An item without a link is its own history. -/
theorem history_unlinked (steps : Nat) (item : α) (unlinked : link item = none) :
    history key link items steps item = [item] := by
  cases steps with
  | zero => rfl
  | succ steps => simp [history, predecessor, unlinked]

/-- The history of an item begins with it. -/
theorem history_begins (steps : Nat) (item : α) :
    ∃ rest, history key link items steps item = item :: rest := by
  cases steps with
  | zero => exact ⟨[], rfl⟩
  | succ steps =>
    cases leads : predecessor key link items item with
    | none => exact ⟨[], by simp [history, leads]⟩
    | some earlier => exact ⟨history key link items steps earlier, by simp [history, leads]⟩

/-- In a linked list whose items have different keys, a link leads to one item before. -/
theorem predecessor_of_linked (linked : Linked key link items)
    (distinct : (items.map key).Nodup) {front behind : List α} {item : α} {target : κ}
    (placed : items = front ++ item :: behind) (named : link item = some target) :
    ∃ before earlier between, front = before ++ earlier :: between ∧ key earlier = target ∧
      predecessor key link items item = some earlier := by
  obtain ⟨earlier, inFront, same⟩ := linked front item behind placed target named
  have listed : earlier ∈ items := by
    rw [placed]
    exact List.mem_append_left _ inFront
  obtain ⟨before, between, rfl⟩ := List.mem_iff_append.mp inFront
  refine ⟨before, earlier, between, rfl, same, ?_⟩
  rw [predecessor, named, Option.bind_some]
  cases found : items.find? (fun other => decide (key other = target)) with
  | none => simpa [same] using List.find?_eq_none.mp found earlier listed
  | some other =>
    have foundKey : key other = target := by simpa using List.find?_some found
    rw [List.inj_on_of_nodup_map distinct (List.mem_of_find?_eq_some found) listed
      (foundKey.trans same.symm)]

/-- The history of an item goes back through the list from link to link, and ends at an item
without a link.

Induct on the number of links followed. The item that a link leads to is among those before,
of which there are fewer, and its history is put together from these. -/
theorem history_ends (linked : Linked key link items) (distinct : (items.map key).Nodup)
    (steps : Nat) {front behind : List α} {item : α} (placed : items = front ++ item :: behind)
    (enough : front.length ≤ steps) :
    (history key link items steps item).reverse.Sublist (front ++ [item]) ∧
      (history key link items steps item).IsChain (fun later earlier =>
        link later = some (key earlier)) ∧
      ∃ last, (history key link items steps item).getLast? = some last ∧ link last = none := by
  induction steps generalizing front behind item with
  | zero =>
    obtain rfl := List.length_eq_zero_iff.mp (Nat.le_zero.mp enough)
    have unlinked : link item = none := by
      rw [Option.eq_none_iff_forall_not_mem]
      intro target named
      obtain ⟨earlier, inFront, -⟩ := linked [] item behind placed target named
      cases inFront
    exact ⟨List.Sublist.refl _, List.isChain_singleton _, item, rfl, unlinked⟩
  | succ steps inductionHypothesis =>
    cases named : link item with
    | none =>
      rw [history_unlinked _ item named]
      exact ⟨List.sublist_append_right front [item], List.isChain_singleton _, item, rfl, named⟩
    | some target =>
      obtain ⟨before, earlier, between, rfl, same, leads⟩ :=
        predecessor_of_linked linked distinct placed named
      have fewer : before.length ≤ steps := by
        simp only [List.length_append, List.length_cons] at enough
        omega
      have placedEarlier : items = before ++ earlier :: (between ++ item :: behind) := by
        rw [placed, List.append_assoc, List.cons_append]
      obtain ⟨goesBack, chained, last, ends, unlinked⟩ := inductionHypothesis placedEarlier fewer
      obtain ⟨rest, begins⟩ : ∃ rest, history key link items steps earlier = earlier :: rest :=
        history_begins steps earlier
      simp only [history, leads]
      refine ⟨?_, ?_, last, ?_, unlinked⟩
      · rw [List.reverse_cons]
        apply List.Sublist.append_right (goesBack.trans _)
        exact (List.Sublist.refl before).append (List.singleton_sublist.mpr List.mem_cons_self)
      · rw [begins] at chained ⊢
        exact List.isChain_cons_cons.mpr ⟨by rw [named, same], chained⟩
      · rw [begins] at ends ⊢
        rw [List.getLast?_cons_cons]
        exact ends

/-- Where items of two linked lists with one key have one content, which says what they link
to, items with one key have one history.

Induct on the number of links followed. Items with one key either both have no link, or lead
back to items with one key. -/
theorem history_agrees {others : List α} (content : α → γ)
    (linked : Linked key link items) (distinct : (items.map key).Nodup)
    (linkedOthers : Linked key link others) (distinctOthers : (others.map key).Nodup)
    (agree : ∀ item ∈ items, ∀ other ∈ others, key item = key other →
      content item = content other ∧ link item = link other)
    (steps : Nat) {front behind frontOthers behindOthers : List α} {item other : α}
    (placed : items = front ++ item :: behind)
    (placedOther : others = frontOthers ++ other :: behindOthers)
    (enough : front.length ≤ steps) (same : key item = key other) :
    (history key link items steps item).map content =
      (history key link others steps other).map content := by
  induction steps generalizing front behind frontOthers behindOthers item other with
  | zero =>
    have alike := (agree item (by simp [placed]) other (by simp [placedOther]) same).1
    simp [history, alike]
  | succ steps inductionHypothesis =>
    obtain ⟨alike, sameLink⟩ := agree item (by simp [placed]) other (by simp [placedOther]) same
    cases named : link item with
    | none =>
      rw [history_unlinked _ item named, history_unlinked _ other (sameLink.symm.trans named)]
      simp [alike]
    | some target =>
      obtain ⟨before, earlier, between, rfl, sameKey, leads⟩ :=
        predecessor_of_linked linked distinct placed named
      obtain ⟨beforeOther, earlierOther, betweenOther, rfl, sameKeyOther, leadsOther⟩ :=
        predecessor_of_linked linkedOthers distinctOthers placedOther (sameLink.symm.trans named)
      have fewer : before.length ≤ steps := by
        simp only [List.length_append, List.length_cons] at enough
        omega
      have placedEarlier : items = before ++ earlier :: (between ++ item :: behind) := by
        rw [placed, List.append_assoc, List.cons_append]
      have placedEarlierOther :
          others = beforeOther ++ earlierOther :: (betweenOther ++ other :: behindOthers) := by
        rw [placedOther, List.append_assoc, List.cons_append]
      simp only [history, leads, leadsOther, List.map_cons, alike, List.cons.injEq, true_and]
      exact inductionHypothesis placedEarlier placedEarlierOther fewer
        (sameKey.trans sameKeyOther.symm)

end Links
