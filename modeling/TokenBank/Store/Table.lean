import Mathlib.Data.List.Basic
import Mathlib.Data.List.Induction
import Mathlib.Data.List.Nodup
import Mathlib.Data.List.Perm.Subperm

/-!
# Tables with a primary key

A table is a list of rows in insertion order, each row filed under its primary
key. Distinctness of the keys is a field, so no operation can build a table that
holds one key twice: an insertion that would do so is refused, and an update
never touches a key.

Reading by key is the abstract view of a table. Every operation is characterised
by what it does to that view; row order matters only to `first`, the counterpart
of an ordered query with a limit of one row.
-/

namespace Store

universe u v w

/-- Rows filed under pairwise distinct primary keys, in insertion order. -/
structure Table (κ : Type u) (ν : Type v) where
  entries : List (κ × ν)
  distinct : (entries.map Prod.fst).Nodup

/-- The least element under a strict order, the earliest of equal ones: an
ordered query with a limit of one row. -/
def first {α : Type u} (before : α → α → Bool) : List α → Option α
  | [] => none
  | row :: rest => some (rest.foldl (fun best next => if before next best then next else best) row)

/-- The greatest of a list of numbers, zero for the empty list: an aggregate with
a default. -/
def maximum (numbers : List Nat) : Nat := numbers.foldr max 0

/-- No number of the list exceeds its maximum. -/
theorem le_maximum (numbers : List Nat) (number : Nat) (member : number ∈ numbers) :
    number ≤ maximum numbers := by
  induction numbers with
  | nil => cases member
  | cons head rest inductionHypothesis =>
    simp only [maximum, List.foldr_cons]
    rcases List.mem_cons.mp member with rfl | later
    · exact Nat.le_max_left number _
    · exact Nat.le_trans (inductionHypothesis later) (Nat.le_max_right head _)

/-- The maximum is one of the numbers, unless it is the default. -/
theorem maximum_mem (numbers : List Nat) (positive : 0 < maximum numbers) :
    maximum numbers ∈ numbers := by
  induction numbers with
  | nil => simp [maximum] at positive
  | cons head rest inductionHypothesis =>
    have unfolded : maximum (head :: rest) = max head (maximum rest) := rfl
    rw [unfolded] at positive ⊢
    rcases Nat.le_total head (maximum rest) with larger | smaller
    · rw [Nat.max_eq_right larger] at positive ⊢
      exact List.mem_cons_of_mem head (inductionHypothesis positive)
    · rw [Nat.max_eq_left smaller]
      exact List.mem_cons_self

/-- The maximum of two lists together. -/
theorem maximum_append (left right : List Nat) :
    maximum (left ++ right) = max (maximum left) (maximum right) := by
  induction left with
  | nil => simp [maximum]
  | cons head rest inductionHypothesis =>
    have unfolded (numbers : List Nat) : maximum (head :: numbers) = max head (maximum numbers) := rfl
    rw [List.cons_append, unfolded, unfolded, inductionHypothesis, Nat.max_assoc]

/-- The maximum of the numbers from one on is their count. -/
theorem maximum_range' (count : Nat) : maximum (List.range' 1 count) = count := by
  apply Nat.le_antisymm
  · rcases Nat.eq_zero_or_pos (maximum (List.range' 1 count)) with zero | positive
    · omega
    · have member := maximum_mem _ positive
      rw [List.mem_range'_1] at member
      omega
  · rcases Nat.eq_zero_or_pos count with zero | positive
    · omega
    · exact le_maximum _ count (List.mem_range'_1.mpr (by omega))

namespace Table

variable {κ : Type u} {ν : Type v} [DecidableEq κ]

/-- The table with no rows. -/
def empty : Table κ ν := ⟨[], List.nodup_nil⟩

/-- Read the row stored under a key. -/
def find? (table : Table κ ν) (key : κ) : Option ν := table.entries.lookup key

/-- File a row under a new key, after all earlier rows. A key already present is
a violation of the primary key, and nothing is inserted. -/
def insert (table : Table κ ν) (key : κ) (row : ν) : Option (Table κ ν) :=
  if fresh : key ∈ table.entries.map Prod.fst then none
  else some ⟨table.entries ++ [(key, row)], by
    simpa [List.nodup_append, table.distinct] using fun other value stored same =>
      fresh (List.mem_map.mpr ⟨(other, value), stored, same⟩)⟩

/-- Rewrite every row the condition selects; keys and row order stay. -/
def update (table : Table κ ν) (selects : κ → ν → Bool) (rewrite : ν → ν) : Table κ ν :=
  ⟨table.entries.map (fun entry =>
      (entry.1, if selects entry.1 entry.2 then rewrite entry.2 else entry.2)), by
    simpa [List.map_map, Function.comp_def] using table.distinct⟩

/-- Rewrite the row under one key, if there is one. -/
def modify (table : Table κ ν) (key : κ) (rewrite : ν → ν) : Table κ ν :=
  table.update (fun other _ => decide (other = key)) rewrite

/-- File a row under a key, or rewrite the row that is there. -/
def upsert (table : Table κ ν) (key : κ) (row : ν) (rewrite : ν → ν) : Table κ ν :=
  (table.insert key row).getD (table.modify key rewrite)

/-- The rows a condition selects, in insertion order. -/
def select (table : Table κ ν) (selects : κ → ν → Bool) : List (κ × ν) :=
  table.entries.filter (fun entry => selects entry.1 entry.2)

/-- Remove every row the condition selects; the others stay in their order. -/
def delete (table : Table κ ν) (selects : κ → ν → Bool) : Table κ ν :=
  ⟨table.entries.filter (fun entry => !selects entry.1 entry.2),
    table.distinct.sublist (List.filter_sublist.map Prod.fst)⟩

/-- The stored pairs are exactly the readings by key. -/
theorem mem_entries_iff (table : Table κ ν) (key : κ) (row : ν) :
    (key, row) ∈ table.entries ↔ table.find? key = some row := by
  obtain ⟨entries, distinct⟩ := table
  simp only [find?]
  induction entries with
  | nil => simp
  | cons head rest inductionHypothesis =>
    obtain ⟨headKey, headRow⟩ := head
    have split : headKey ∉ rest.map Prod.fst ∧ (rest.map Prod.fst).Nodup := by
      simpa only [List.map_cons, List.nodup_cons] using distinct
    by_cases same : key = headKey
    · subst same
      have absent : (key, row) ∉ rest := fun member =>
        split.1 (List.mem_map.mpr ⟨(key, row), member, rfl⟩)
      simp [absent, eq_comm]
    · have differs : (key == headKey) = false := by simpa using same
      simp only [List.mem_cons, Prod.mk.injEq, same, false_and, false_or, List.lookup_cons,
        differs]
      exact inductionHypothesis split.2

/-- A key reads as absent exactly when no row is filed under it. -/
theorem find?_none_iff (table : Table κ ν) (key : κ) :
    table.find? key = none ↔ key ∉ table.entries.map Prod.fst := by
  constructor
  · intro absent stored
    obtain ⟨entry, member, same⟩ := List.mem_map.mp stored
    have read := (mem_entries_iff table key entry.2).mp (same ▸ member)
    simp [absent] at read
  · intro absent
    cases read : table.find? key with
    | none => rfl
    | some row =>
      have member := (mem_entries_iff table key row).mpr read
      exact absurd (List.mem_map.mpr ⟨(key, row), member, rfl⟩) absent

/-- A table without entries reads as absent everywhere. -/
theorem find?_of_entries_nil (table : Table κ ν) (none : table.entries = []) (key : κ) :
    table.find? key = .none := by
  rw [find?_none_iff, none]
  simp

/-- Insertion succeeds exactly on an absent key, and appends one row. -/
theorem insert_some_iff (table next : Table κ ν) (key : κ) (row : ν) :
    table.insert key row = some next ↔
      table.find? key = none ∧ next.entries = table.entries ++ [(key, row)] := by
  rw [find?_none_iff]
  unfold insert
  split
  · rename_i present
    simp [present]
  · rename_i absent
    obtain ⟨entries, distinct⟩ := next
    simp only [Option.some.injEq, Table.mk.injEq, absent, not_false_eq_true, true_and]
    exact eq_comm

/-- An insertion is refused exactly when the key is present. -/
theorem insert_none_iff (table : Table κ ν) (key : κ) (row : ν) :
    table.insert key row = none ↔ table.find? key ≠ none := by
  rw [ne_eq, find?_none_iff]
  unfold insert
  split <;> simp_all

/-- After an insertion the new key reads as the new row; all other keys read as
before. -/
theorem find?_insert (table next : Table κ ν) (key : κ) (row : ν)
    (inserted : table.insert key row = some next) (asked : κ) :
    next.find? asked = if asked = key then some row else table.find? asked := by
  obtain ⟨absent, appended⟩ := (insert_some_iff table next key row).mp inserted
  simp only [find?] at absent ⊢
  rw [appended, List.lookup_append]
  by_cases same : asked = key
  · subst same
    simp [absent]
  · have differs : (asked == key) = false := by simpa using same
    simp [same, List.lookup_cons, differs]

/-- An update acts on the row read under a key, and only when it is selected. -/
theorem find?_update (table : Table κ ν) (selects : κ → ν → Bool) (rewrite : ν → ν) (asked : κ) :
    (table.update selects rewrite).find? asked =
      (table.find? asked).map (fun row => if selects asked row then rewrite row else row) := by
  obtain ⟨entries, distinct⟩ := table
  simp only [find?, update]
  clear distinct
  induction entries with
  | nil => rfl
  | cons head rest inductionHypothesis =>
    obtain ⟨headKey, headRow⟩ := head
    by_cases same : asked = headKey
    · subst same
      simp
    · have differs : (asked == headKey) = false := by simpa using same
      simp [List.lookup_cons, differs, inductionHypothesis]

/-- Rewriting the row under one key is seen under that key only. -/
theorem find?_modify (table : Table κ ν) (key asked : κ) (rewrite : ν → ν) :
    (table.modify key rewrite).find? asked =
      if asked = key then (table.find? key).map rewrite else table.find? asked := by
  rw [modify, find?_update]
  by_cases same : asked = key
  · subst same
    simp
  · simp [same]

/-- Rewriting the row under one key is a rewriting of every reading. -/
theorem find?_modify_map (table : Table κ ν) (key asked : κ) (rewrite : ν → ν) :
    (table.modify key rewrite).find? asked =
      (table.find? asked).map (fun row => if asked = key then rewrite row else row) := by
  rw [modify, find?_update]
  simp only [decide_eq_true_eq]

/-- The row under a key after it was rewritten. -/
theorem find?_modify_self (table : Table κ ν) (key : κ) (rewrite : ν → ν) :
    (table.modify key rewrite).find? key = (table.find? key).map rewrite := by
  rw [find?_modify, if_pos rfl]

/-- Rewriting the row under one key replaces that row where it stands. -/
theorem entries_modify (table : Table κ ν) (key : κ) (row : ν) (rewrite : ν → ν)
    (before after : List (κ × ν)) (entries : table.entries = before ++ (key, row) :: after) :
    (table.modify key rewrite).entries = before ++ (key, rewrite row) :: after := by
  have distinct := table.distinct
  rw [entries, List.map_append, List.map_cons, List.nodup_middle, List.nodup_cons,
    List.mem_append, not_or] at distinct
  have kept (others : List (κ × ν)) (apart : key ∉ others.map Prod.fst) :
      others.map (fun entry => (entry.1,
        if decide (entry.1 = key) then rewrite entry.2 else entry.2)) = others := by
    conv_rhs => rw [← List.map_id others]
    apply List.map_congr_left
    intro entry member
    have other : entry.1 ≠ key := fun same => apart (List.mem_map.mpr ⟨entry, member, same⟩)
    simp [other]
  simp only [modify, update, entries, List.map_append, List.map_cons, decide_true, if_true]
  rw [kept before distinct.1.1, kept after distinct.1.2]

/-- A key that is absent is filed after all others. -/
theorem upsert_absent (table : Table κ ν) (key : κ) (row : ν) (rewrite : ν → ν)
    (absent : table.find? key = none) :
    table.insert key row = some (table.upsert key row rewrite) := by
  cases inserted : table.insert key row with
  | none => exact absurd absent ((insert_none_iff table key row).mp inserted)
  | some next => rw [upsert, inserted, Option.getD_some]

/-- The row under a key that is present is rewritten in place. -/
theorem upsert_present (table : Table κ ν) (key : κ) (row : ν) (rewrite : ν → ν)
    (present : table.find? key ≠ none) : table.upsert key row rewrite = table.modify key rewrite := by
  rw [upsert, (insert_none_iff table key row).mpr present, Option.getD_none]

/-- Filing or rewriting the row under one key is seen under that key only. -/
theorem find?_upsert (table : Table κ ν) (key asked : κ) (row : ν) (rewrite : ν → ν) :
    (table.upsert key row rewrite).find? asked =
      if asked = key then some (((table.find? key).map rewrite).getD row)
      else table.find? asked := by
  cases found : table.find? key with
  | none =>
    rw [find?_insert table _ key row (table.upsert_absent key row rewrite found) asked]
    rfl
  | some stored =>
    rw [table.upsert_present key row rewrite (by simp [found]), find?_modify, found]
    rfl

/-- Rows with keys that are absent and differ are filed after all others, in their order. -/
theorem entries_foldl_upsert {α : Type w} (key : α → κ) (row : α → ν) (rewrite : α → ν → ν)
    (items : List α) (distinct : (items.map key).Nodup) (table : Table κ ν)
    (absent : ∀ item ∈ items, table.find? (key item) = none) :
    (items.foldl (fun filed item => filed.upsert (key item) (row item) (rewrite item))
        table).entries = table.entries ++ items.map (fun item => (key item, row item)) := by
  induction items generalizing table with
  | nil => simp
  | cons head rest inductionHypothesis =>
    obtain ⟨apart, later⟩ := List.nodup_cons.mp distinct
    have filed := table.upsert_absent (key head) (row head) (rewrite head)
      (absent head List.mem_cons_self)
    have still_absent (item : α) (member : item ∈ rest) :
        (table.upsert (key head) (row head) (rewrite head)).find? (key item) = none := by
      have other : key item ≠ key head := fun same =>
        apart (List.mem_map.mpr ⟨item, member, same⟩)
      rw [find?_upsert, if_neg other]
      exact absent item (List.mem_cons_of_mem head member)
    rw [List.foldl_cons, inductionHypothesis later _ still_absent,
      ((insert_some_iff table _ (key head) (row head)).mp filed).2, List.append_assoc]
    rfl

/-- A row is read after a deletion if it was read before and not selected. -/
theorem find?_delete (table : Table κ ν) (selects : κ → ν → Bool) (asked : κ) :
    (table.delete selects).find? asked =
      (table.find? asked).filter (fun row => !selects asked row) := by
  apply Option.ext
  intro row
  rw [← mem_entries_iff, delete, List.mem_filter, mem_entries_iff, Option.filter_eq_some_iff]

/-- A key that none of the rows filed has reads as before. -/
theorem find?_foldl_upsert_other {α : Type w} (key : α → κ) (row : α → ν) (rewrite : α → ν → ν)
    (items : List α) (table : Table κ ν) (asked : κ) (other : asked ∉ items.map key) :
    (items.foldl (fun filed item => filed.upsert (key item) (row item) (rewrite item))
      table).find? asked = table.find? asked := by
  induction items generalizing table with
  | nil => rfl
  | cons head rest inductionHypothesis =>
    rw [List.map_cons, List.mem_cons, not_or] at other
    rw [List.foldl_cons, inductionHypothesis _ other.2, find?_upsert, if_neg other.1]

/-- Of rows filed under distinct keys each is read under its own, as far as a rewriting of the
row that was there agrees with the new one. -/
theorem find?_foldl_upsert_own {α : Type w} {β : Type*} (key : α → κ) (row : α → ν)
    (rewrite : α → ν → ν) (view : ν → β) (blind : ∀ item old, view (rewrite item old) = view (row item))
    (items : List α) (distinct : (items.map key).Nodup) (table : Table κ ν) (item : α)
    (member : item ∈ items) :
    ((items.foldl (fun filed item => filed.upsert (key item) (row item) (rewrite item))
      table).find? (key item)).map view = some (view (row item)) := by
  induction items generalizing table with
  | nil => cases member
  | cons head rest inductionHypothesis =>
    obtain ⟨apart, later⟩ := List.nodup_cons.mp distinct
    rw [List.foldl_cons]
    rcases List.mem_cons.mp member with rfl | among
    · rw [find?_foldl_upsert_other key row rewrite rest _ _ apart, find?_upsert, if_pos rfl]
      cases table.find? (key item) with
      | none => rfl
      | some old => exact congrArg some (blind item old)
    · exact inductionHypothesis later _ among

/-- Rows filed under distinct keys, over a table that has no others, are the table's rows. -/
theorem entries_replaced {α : Type w} {β : Type*} (key : α → κ) (row : α → ν)
    (rewrite : α → ν → ν) (view : ν → β) (blind : ∀ item old, view (rewrite item old) = view (row item))
    (items : List α) (distinct : (items.map key).Nodup) (table : Table κ ν)
    (only : ∀ asked, asked ∉ items.map key → table.find? asked = none) :
    ((items.foldl (fun filed item => filed.upsert (key item) (row item) (rewrite item))
      table).entries.map (fun entry => (entry.1, view entry.2))).Perm
      (items.map (fun item => (key item, view (row item)))) := by
  generalize replaced : items.foldl (fun filed item =>
    filed.upsert (key item) (row item) (rewrite item)) table = after
  have own (item : α) (member : item ∈ items) :
      (after.find? (key item)).map view = some (view (row item)) :=
    replaced ▸ find?_foldl_upsert_own key row rewrite view blind items distinct table item member
  have none_other (asked : κ) (other : asked ∉ items.map key) : after.find? asked = none :=
    replaced ▸ (find?_foldl_upsert_other key row rewrite items table asked other).trans
      (only asked other)
  have left_distinct : (after.entries.map (fun entry => (entry.1, view entry.2))).Nodup := by
    apply List.Nodup.of_map Prod.fst
    rw [List.map_map]
    exact after.distinct
  have right_distinct : (items.map (fun item => (key item, view (row item)))).Nodup := by
    apply List.Nodup.of_map Prod.fst
    rw [List.map_map]
    exact distinct
  rw [List.perm_ext_iff_of_nodup left_distinct right_distinct]
  rintro ⟨asked, seen⟩
  simp only [List.mem_map, Prod.mk.injEq]
  constructor
  · rintro ⟨⟨stored, found⟩, member, rfl, rfl⟩
    have read := (mem_entries_iff after stored found).mp member
    by_cases among : stored ∈ items.map key
    · obtain ⟨item, inItems, rfl⟩ := List.mem_map.mp among
      have same := own item inItems
      rw [read] at same
      exact ⟨item, inItems, rfl, (Option.some.inj same).symm⟩
    · rw [none_other stored among] at read
      cases read
  · rintro ⟨item, inItems, rfl, rfl⟩
    obtain ⟨found, read, same⟩ := Option.map_eq_some_iff.mp (own item inItems)
    exact ⟨(key item, found), (mem_entries_iff after _ _).mpr read, rfl, same⟩

/-- If every row filed over a table that has no others is kept, their keys are distinct. -/
theorem distinct_of_replaced {α : Type w} (key : α → κ) (row : α → ν) (rewrite : α → ν → ν)
    (items : List α) (table : Table κ ν)
    (only : ∀ asked, asked ∉ items.map key → table.find? asked = none)
    (kept : items.length ≤ (items.foldl (fun filed item =>
      filed.upsert (key item) (row item) (rewrite item)) table).entries.length) :
    (items.map key).Nodup := by
  generalize replaced : items.foldl (fun filed item =>
    filed.upsert (key item) (row item) (rewrite item)) table = after at kept
  have among : after.entries.map Prod.fst ⊆ items.map key := by
    intro asked stored
    by_contra other
    have absent : after.find? asked = none :=
      replaced ▸ (find?_foldl_upsert_other key row rewrite items table asked other).trans
        (only asked other)
    exact (find?_none_iff after asked).mp absent stored
  have permuted : (after.entries.map Prod.fst).Perm (items.map key) :=
    (after.distinct.subperm among).perm_of_length_le (by simpa using kept)
  exact permuted.nodup_iff.mp after.distinct

/-- Of rows filed one after the other the last with a key is read under it. -/
theorem find?_foldl_upsert_last {α : Type w} (key : α → κ) (items : List α) (asked : κ) :
    (items.foldl (fun (filed : Table κ α) item => filed.upsert (key item) item (fun _ => item))
      .empty).find? asked = items.reverse.find? (fun item => key item = asked) := by
  induction items using List.reverseRecOn with
  | nil => rfl
  | append_singleton items last inductionHypothesis =>
    rw [List.foldl_append, List.foldl_cons, List.foldl_nil, find?_upsert, List.reverse_append,
      List.reverse_singleton, List.singleton_append, List.find?_cons]
    by_cases same : asked = key last
    · subst same
      cases (List.foldl _ empty items).find? (key last) <;> simp
    · have apart : ¬ key last = asked := fun equal => same equal.symm
      simp [same, apart, inductionHypothesis]

/-- Two tables with the same rows in another order are read alike. -/
theorem find?_perm (table other : Table κ ν) (permuted : table.entries.Perm other.entries)
    (asked : κ) : table.find? asked = other.find? asked := by
  apply Option.ext
  intro row
  rw [← mem_entries_iff, ← mem_entries_iff, permuted.mem_iff]

/-- A condition that a rewriting does not touch selects the same rows afterwards, rewritten. -/
theorem select_modify (table : Table κ ν) (key : κ) (rewrite : ν → ν) (selects : κ → ν → Bool)
    (blind : ∀ other row, selects other (rewrite row) = selects other row) :
    (table.modify key rewrite).select selects = (table.select selects).map (fun entry =>
      (entry.1, if entry.1 = key then rewrite entry.2 else entry.2)) := by
  have same : (fun entry => selects entry.1 entry.2) ∘ (fun entry : κ × ν => (entry.1,
      if entry.1 = key then rewrite entry.2 else entry.2)) =
        fun entry => selects entry.1 entry.2 := by
    funext entry
    by_cases chosen : entry.1 = key <;> simp [chosen, blind]
  simp only [select, modify, update, decide_eq_true_eq]
  rw [List.filter_map, same]

/-- A row that is filed is selected after all others. -/
theorem select_insert (table next : Table κ ν) (key : κ) (row : ν) (selects : κ → ν → Bool)
    (inserted : table.insert key row = some next) : next.select selects =
      table.select selects ++ if selects key row then [(key, row)] else [] := by
  rw [select, ((insert_some_iff table next key row).mp inserted).2, List.filter_append,
    List.filter_singleton, Bool.cond_eq_ite]
  rfl

omit [DecidableEq κ] in
/-- Two conditions that select the same stored rows make the same update. -/
theorem update_congr (table : Table κ ν) (left right : κ → ν → Bool) (rewrite : ν → ν)
    (agree : ∀ entry ∈ table.entries, left entry.1 entry.2 = right entry.1 entry.2) :
    table.update left rewrite = table.update right rewrite := by
  have same : (table.update left rewrite).entries = (table.update right rewrite).entries := by
    apply List.map_congr_left
    intro entry member
    rw [agree entry member]
  cases leftTable : table.update left rewrite
  cases rightTable : table.update right rewrite
  simp only [leftTable, rightTable] at same
  subst same
  rfl

omit [DecidableEq κ] in
/-- A reading of the rows that the rewriting does not change lists the same
values after an update. -/
theorem filterMap_update {β : Type w} (table : Table κ ν) (selects : κ → ν → Bool)
    (rewrite : ν → ν) (view : κ × ν → Option β)
    (blind : ∀ key row, view (key, rewrite row) = view (key, row)) :
    (table.update selects rewrite).entries.filterMap view = table.entries.filterMap view := by
  simp only [update, List.filterMap_map]
  congr 1
  funext entry
  by_cases chosen : selects entry.1 entry.2 = true <;> simp [chosen, blind]

/-- A condition that names one key and holds of its row makes the same update as
naming the key alone. -/
theorem update_key (table : Table κ ν) (key : κ) (row : ν) (holds : ν → Bool) (rewrite : ν → ν)
    (read : table.find? key = some row) (here : holds row = true) :
    table.update (fun other row => decide (other = key) && holds row) rewrite =
      table.modify key rewrite := by
  apply update_congr
  rintro ⟨other, stored⟩ member
  by_cases same : other = key
  · subst same
    have readStored := (mem_entries_iff table other stored).mp member
    have same_row : row = stored := Option.some.inj (read.symm.trans readStored)
    subst same_row
    simp [here]
  · simp [same]

/-- A condition that names one key selects no row exactly when the row under that
key, if any, fails the rest of the condition. -/
theorem select_key_nil_iff (table : Table κ ν) (key : κ) (holds : ν → Bool) :
    table.select (fun other row => decide (other = key) && holds row) = [] ↔
      ∀ row, table.find? key = some row → holds row = false := by
  simp only [select, List.filter_eq_nil_iff]
  constructor
  · intro none row read
    have member := (mem_entries_iff table key row).mpr read
    simpa using none (key, row) member
  · rintro fails ⟨other, row⟩ member
    by_cases same : other = key
    · subst same
      have read := (mem_entries_iff table other row).mp member
      simp [fails row read]
    · simp [same]

/-- No two rows agree in a column: what a unique index on it would enforce. -/
def Unique {β : Type w} (column : ν → β) (table : Table κ ν) : Prop :=
  ∀ left right leftRow rightRow, table.find? left = some leftRow →
    table.find? right = some rightRow → column leftRow = column rightRow → left = right

/-- A column stays free of duplicates while rows are rewritten without touching it
and at most one row is filed, whose value no stored row has. -/
theorem Unique.grow {β : Type w} {column : ν → β} {before : Table κ ν}
    (unique : before.Unique column) (after : Table κ ν) (filed : κ → Option ν)
    (rewrite : κ → ν → ν)
    (reads : ∀ key, after.find? key = (filed key).or ((before.find? key).map (rewrite key)))
    (blind : ∀ key row, column (rewrite key row) = column row)
    (single : ∀ left right leftRow rightRow, filed left = some leftRow →
      filed right = some rightRow → left = right)
    (unshared : ∀ key row, filed key = some row →
      ∀ other stored, before.find? other = some stored → column stored ≠ column row) :
    after.Unique column := by
  have stored_or_filed (key : κ) (row : ν) (found : after.find? key = some row) :
      filed key = some row ∨
        ∃ stored, before.find? key = some stored ∧ column row = column stored := by
    rw [reads key] at found
    rcases Option.or_eq_some_iff.mp found with new | ⟨-, old⟩
    · exact Or.inl new
    · obtain ⟨stored, read, rfl⟩ := Option.map_eq_some_iff.mp old
      exact Or.inr ⟨stored, read, blind key stored⟩
  intro left right leftRow rightRow foundLeft foundRight same
  rcases stored_or_filed left leftRow foundLeft with newLeft | ⟨oldLeft, readLeft, leftColumn⟩
  · rcases stored_or_filed right rightRow foundRight with
      newRight | ⟨oldRight, readRight, rightColumn⟩
    · exact single left right leftRow rightRow newLeft newRight
    · exact absurd (rightColumn.symm.trans same.symm)
        (unshared left leftRow newLeft right oldRight readRight)
  · rcases stored_or_filed right rightRow foundRight with
      newRight | ⟨oldRight, readRight, rightColumn⟩
    · exact absurd (leftColumn.symm.trans same)
        (unshared right rightRow newRight left oldLeft readLeft)
    · exact unique left right oldLeft oldRight readLeft readRight
        (leftColumn.symm.trans (same.trans rightColumn))

/-- A table without entries has no duplicates. -/
theorem unique_of_entries_nil {β : Type w} (column : ν → β) (table : Table κ ν)
    (none : table.entries = []) : table.Unique column := by
  intro left right leftRow rightRow found
  rw [find?_of_entries_nil table none] at found
  cases found

end Table

end Store
