import TokenBank.Observability.Metrics

/-!
# Report summaries conserve totals

Every row counts as exactly one of four things. Each breakdown partitions the rows, so that
every figure of a summary that is added up row by row has the same sum over the groups as in
the totals. The number of work units is not one of these figures: a work unit may have rows
in several groups.
-/

namespace TokenBank

namespace Metrics

variable (runtime : PythonRuntime)

/-- The figures of a summary that are added up row by row. -/
def figures : List (RowsSummary → Nat) :=
  [RowsSummary.successCount, RowsSummary.warningCount, RowsSummary.failureCount,
    RowsSummary.quarantineCount, RowsSummary.backendFailureCount,
    RowsSummary.verifierFailureCount, RowsSummary.durationMs, RowsSummary.costMicros,
    RowsSummary.estimatedCostMicros, RowsSummary.actualCostMicros]

/-- A breakdown has one entry for each group of a partition of the rows, and every figure adds up
over the entries to that of the totals. -/
structure Conserves {κ : Type} [DecidableEq κ] (key : ResultRow → κ) (rows : List ResultRow)
    (entries : List (κ × RowsSummary)) : Prop where
  partitioned : ∃ groups, Grouping.Partition key rows groups ∧
    (groups.flatMap Prod.snd).Perm rows ∧
    entries = groups.map (fun group => (group.1, summaryForRows runtime group.2))
  added : ∀ figure ∈ figures,
    (entries.map (fun entry => figure entry.2)).sum = figure (summarizeTotals runtime rows)

/-- Every figure is added up row by row. -/
theorem figures_additive (figure : RowsSummary → Nat) (listed : figure ∈ figures) :
    ∃ measure : ResultRow → Nat, ∀ rows,
      figure (summaryForRows runtime rows) = (rows.map measure).sum := by
  have counted (passes : ResultRow → Bool) (rows : List ResultRow) :
      rows.countP passes = (rows.map (fun row => if passes row then 1 else 0)).sum := by
    induction rows with
    | nil => rfl
    | cons row rest inductionHypothesis =>
      rw [List.countP_cons, List.map_cons, List.sum_cons, inductionHypothesis, Nat.add_comm]
  simp only [figures, List.mem_cons, List.not_mem_nil, or_false] at listed
  rcases listed with rfl | rfl | rfl | rfl | rfl | rfl | rfl | rfl | rfl | rfl
  · exact ⟨_, counted _⟩
  · exact ⟨_, counted _⟩
  · exact ⟨_, counted _⟩
  · exact ⟨_, counted _⟩
  · exact ⟨_, counted _⟩
  · exact ⟨_, counted _⟩
  · exact ⟨_, fun _ => rfl⟩
  · exact ⟨_, fun _ => rfl⟩
  · exact ⟨_, fun _ => rfl⟩
  · exact ⟨_, fun _ => rfl⟩

/-- A breakdown by groups in the order of their keys conserves the totals. -/
theorem conserves_groups {κ ρ : Type} [DecidableEq κ] [LinearOrder ρ] (key : ResultRow → κ)
    (rank : κ → ρ) (rows : List ResultRow) :
    Conserves runtime key rows ((Grouping.sortedGroups key rank rows).map
      (fun group => (group.1, summaryForRows runtime group.2))) := by
  have partition := Grouping.sortedGroups_partition key rank rows
  refine ⟨⟨_, partition, partition.rearranged key, rfl⟩, ?_⟩
  intro figure listed
  obtain ⟨measure, additive⟩ := figures_additive runtime figure listed
  rw [List.map_map, summarizeTotals, additive, ← partition.sum key measure]
  exact congrArg List.sum (List.map_congr_left fun group _ => additive group.2)

/-- Every row counts as one of four things, and as no other. -/
theorem buckets_count (rows : List ResultRow) :
    inBucket runtime rows .success + inBucket runtime rows .warning +
      inBucket runtime rows .failure + inBucket runtime rows .quarantine = rows.length := by
  induction rows with
  | nil => rfl
  | cons row rest inductionHypothesis =>
    simp only [inBucket, List.countP_cons, List.length_cons, decide_eq_true_eq] at *
    rw [← inductionHypothesis]
    cases bucket runtime row with
    | success => simp; omega
    | warning => simp; omega
    | failure => simp; omega
    | quarantine => simp; omega

/-- The four counts add up to the number of rows, and each breakdown conserves the totals. -/
structure Conserved (rows : List ResultRow) (summaries : RowsSummary × Breakdowns) : Prop where
  counted : summaries.1.successCount + summaries.1.warningCount + summaries.1.failureCount +
    summaries.1.quarantineCount = rows.length
  totals : summaries.1 = summarizeTotals runtime rows
  byTaskType : Conserves runtime (groupValue runtime .taskType) rows summaries.2.byTaskType
  byBackendClass : Conserves runtime (groupValue runtime .backendClass) rows
    summaries.2.byBackendClass
  byWorker : Conserves runtime (groupValue runtime .workerId) rows summaries.2.byWorker
  byCapacityNode : Conserves runtime (capacityNodeOf runtime) rows summaries.2.byCapacityNode

/-- The totals and the breakdowns of rows conserve what is added up. -/
theorem conserved_rows (rows : List ResultRow) : Conserved runtime rows
    (summarizeTotals runtime rows, backendTaskWorkerSummaries runtime rows) where
  counted := buckets_count runtime rows
  totals := rfl
  byTaskType := conserves_groups runtime _ id rows
  byBackendClass := conserves_groups runtime _ id rows
  byWorker := conserves_groups runtime _ id rows
  byCapacityNode := conserves_groups runtime _ toLex rows

/-- Whatever rows there are, their summaries conserve totals, and so do those of a report on the
completed ones among them. -/
theorem summaries_conserve_totals (rows : List ResultRow) :
    Conserved runtime rows
        (summarizeTotals runtime rows, backendTaskWorkerSummaries runtime rows) ∧
      Conserved runtime (ReportGenerator.completedRows rows)
        (ReportGenerator.reportSummaries runtime rows) :=
  ⟨conserved_rows runtime rows, conserved_rows runtime (ReportGenerator.completedRows rows)⟩

end Metrics

end TokenBank
