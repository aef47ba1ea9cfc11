import TokenBank.Models.Revalidation

/-!
# What validated fields say of a document

A field that validates comes from a member that its reading accepts: a text that must not be
empty from a text that is trimmed to it. Readings of flat members do not see the order of
nested members, so that two documents with one text validate alike.
-/

namespace TokenBank

namespace Validation

open Canonical

/-- A text that must not be empty is a text trimmed, and so has a name's form. -/
theorem nonEmptyStr_some {value : Json} {text : String} (read : nonEmptyStr value = some text) :
    (∃ raw, value = .str raw ∧ BaseModel.stripped raw = text) ∧ Named text := by
  obtain ⟨stripped, filled⟩ := Option.filter_eq_some_iff.mp read
  cases value with
  | str raw =>
    have same := Option.some.inj stripped
    subst same
    exact ⟨⟨raw, rfl, rfl⟩, trimmed_stripped raw, by simpa using filled⟩
  | null => cases stripped
  | bool value => cases stripped
  | int value => cases stripped
  | float text => cases stripped
  | arr items => cases stripped
  | obj fields => cases stripped

/-- A named text that was read as an optional one is the text there is. -/
theorem optional_named {given read : Option String} (named : ∀ text ∈ given, Named text)
    (reads : Validation.optional nonEmptyStr (.optional given) = some read) : read = given := by
  have same : Validation.optional nonEmptyStr (.optional given) = some given :=
    optional_text nonEmptyStr given (fun text found => nonEmptyStr_of_named (named text found))
  exact Option.some.inj (reads.symm.trans same)

/-- An optional text that must not be empty is absent or a text. -/
theorem optional_nonEmptyStr_some {value : Json} {read : Option String}
    (reads : Validation.optional nonEmptyStr value = some read) :
    ∃ given, value = .optional given := by
  cases value with
  | null => exact ⟨none, rfl⟩
  | str text => exact ⟨some text, rfl⟩
  | bool value => cases reads
  | int value => cases reads
  | float text => cases reads
  | arr items => cases reads
  | obj fields => cases reads

/-- The members of a document that validates as one of some fields. -/
theorem document_some {names : List String} {fields members : JsonObject}
    (read : document names (.obj fields) = some members) : members = fields := by
  unfold document at read
  simp only [Option.ite_none_right_eq_some, Option.some.injEq] at read
  exact read.2.symm

section Members

variable {α : Type} {read : Json → Option α} {fields : JsonObject} {name : String} {value : Json}
  {result : α}

/-- A required field is read from its member. -/
theorem required_member (here : member fields name = some value)
    (reads : required read fields name = some result) : read value = some result := by
  rw [required, here] at reads
  exact reads

/-- A field with a default is read from its member, if there is one. -/
theorem defaulted_member {default : α} (here : member fields name = some value)
    (reads : defaulted default read fields name = some result) : read value = some result := by
  rw [defaulted, here] at reads
  exact reads

end Members

section Blind

variable {α : Type} {read : Json → Option α}

/-- A reading that does not see the order of members. -/
def Blind (read : Json → Option α) : Prop := ∀ value, read (ordered value) = read value

theorem blind_nonEmptyStr : Blind nonEmptyStr := by
  intro value
  cases value <;> rfl

theorem Blind.optional (blind : Blind read) : Blind (Validation.optional read) := by
  intro value
  cases value with
  | null => rfl
  | bool value => rfl
  | int value => rfl
  | float text => rfl
  | str text => rfl
  | arr items =>
    have same := blind (.arr items)
    rw [ordered] at same ⊢
    simp only [Validation.optional, same]
  | obj fields =>
    have same := blind (.obj fields)
    rw [ordered] at same ⊢
    simp only [Validation.optional, same]

theorem blind_literal (literals : List α) (text : α → String) : Blind (literal literals text) := by
  intro value
  cases value <;> rfl

theorem Blind.listOf (blind : Blind read) : Blind (listOf read) := by
  intro value
  cases value with
  | null => rfl
  | bool value => rfl
  | int value => rfl
  | float text => rfl
  | str text => rfl
  | arr items =>
    rw [ordered, orderedItems_map]
    change (items.map ordered).mapM read = items.mapM read
    induction items with
    | nil => rfl
    | cons item rest inductionHypothesis =>
      rw [List.map_cons, List.mapM_cons, List.mapM_cons, blind item, inductionHypothesis]
  | obj fields => rfl

variable {left right : JsonObject} {name : String}

/-- A required field of two documents with like members. -/
theorem required_alike (blind : Blind read)
    (alike : (member left name).map ordered = (member right name).map ordered) :
    required read left name = required read right name := by
  unfold required
  cases found : member left name with
  | none =>
    rw [found, Option.map_none, eq_comm, Option.map_eq_none_iff] at alike
    rw [alike]
  | some value =>
    rw [found, Option.map_some, eq_comm, Option.map_eq_some_iff] at alike
    obtain ⟨other, there, same⟩ := alike
    rw [there, Option.bind_some, Option.bind_some, ← blind value, ← blind other, same]

/-- A field with a default of two documents with like members. -/
theorem defaulted_alike (blind : Blind read) (default : α)
    (alike : (member left name).map ordered = (member right name).map ordered) :
    defaulted default read left name = defaulted default read right name := by
  unfold defaulted
  cases found : member left name with
  | none =>
    rw [found, Option.map_none, eq_comm, Option.map_eq_none_iff] at alike
    rw [alike]
  | some value =>
    rw [found, Option.map_some, eq_comm, Option.map_eq_some_iff] at alike
    obtain ⟨other, there, same⟩ := alike
    simp only [there, ← blind value, ← blind other, same]

variable {value other : α}

/-- Two documents with like members have one value of a required field. -/
theorem required_agrees (blind : Blind read)
    (alike : (member left name).map ordered = (member right name).map ordered)
    (here : required read left name = some value) (there : required read right name = some other) :
    value = other :=
  Option.some.inj (here.symm.trans ((required_alike blind alike).trans there))

/-- Two documents with like members have one value of a field with a default. -/
theorem defaulted_agrees (blind : Blind read) {default : α}
    (alike : (member left name).map ordered = (member right name).map ordered)
    (here : defaulted default read left name = some value)
    (there : defaulted default read right name = some other) : value = other :=
  Option.some.inj (here.symm.trans ((defaulted_alike blind default alike).trans there))

end Blind

/-- The member of two documents one after the other. -/
theorem member_append (fields others : JsonObject) (name : String) :
    member (fields ++ others) name = (member fields name).or (member others name) := by
  unfold member
  rw [List.find?_append]
  cases fields.find? (fun field => field.1 = name) <;> rfl

/-- A text that must not be empty is read from a plain value. -/
theorem plain_of_nonEmptyStr {value : Json} {text : String}
    (read : nonEmptyStr value = some text) : plain value = true := by
  obtain ⟨⟨raw, rfl, -⟩, -⟩ := nonEmptyStr_some read
  rfl

/-- An optional text that must not be empty is read from a plain value. -/
theorem plain_of_optional {value : Json} {text : Option String}
    (read : Validation.optional nonEmptyStr value = some text) : plain value = true := by
  obtain ⟨given, rfl⟩ := optional_nonEmptyStr_some read
  exact plain_optional given

/-- Plain documents with one text have like members. -/
theorem members_alike (left right : JsonObject) (plainLeft : plain (.obj left) = true)
    (plainRight : plain (.obj right) = true)
    (same : canonicalJsonDumps (.obj left) = canonicalJsonDumps (.obj right)) (name : String) :
    (member left name).map ordered = (member right name).map ordered := by
  have distinct (fields : JsonObject) (written : plain (.obj fields) = true) :
      (fields.map Prod.fst).Nodup := by
    rw [plain, Bool.and_eq_true, decide_eq_true_eq] at written
    exact written.1
  have sameOrder := ordered_of_same_text _ _ plainLeft plainRight same
  rw [ordered_obj, ordered_obj, Json.obj.injEq] at sameOrder
  rw [← member_ordered left (distinct left plainLeft),
    ← member_ordered right (distinct right plainRight)]
  exact congrArg (fun fields => member fields name) sameOrder

end Validation

end TokenBank
