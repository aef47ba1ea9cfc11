import TokenBank.Guarantees.Rescoring
import TokenBank.Host.Submission

/-!
# The candidate that is executed

Scores are ranked, looked up again by the id of their candidate, and the id of the best one that
passes is selected; the host executes the first candidate of the plan with that id. Where the ids
are distinct, the executed candidate is the best one that passes, every score has a rank of its
own, and the others are the rejected ones. Where two candidates share an id, they share a rank too.
The validator does not look at ids, so it lets such plans through.
-/

namespace TokenBank

namespace RouteScorer

/-! ## Scores and candidates -/

/-- What a candidate that is scored is scored with. -/
theorem candidateTrace_ok (arithmetic : Arithmetic) (routebook : LoadedRoutebook)
    (pack : LoadedRoutebookV1) (registry : BackendRegistry) (comparison : Comparison)
    (candidate : RouteCandidate) (trace : CandidateScoreTrace)
    (scored : candidateTrace arithmetic routebook pack registry comparison candidate = .ok trace) :
    ∃ weights capacity, scoreWeights arithmetic pack = .ok weights ∧
      capacityProfileOf comparison candidate = .ok capacity ∧
      trace.candidateId = candidate.routeCandidateId ∧
      (trace.hardFilterDecision = .pass ↔ hardFiltersPass trace.hardFilterResults = true) ∧
      candidateScore arithmetic candidate trace.hardFilterDecision trace.hardFilterResults
        comparison.taskProfile capacity comparison.taskAnalysisReport weights =
          .ok (trace.score, trace.weightedComponents) := by
  simp only [candidateTrace, Store.bind_ok_iff] at scored
  obtain ⟨weights, weighted, backend, -, capacity, known, scored⟩ := scored
  rw [scoreCandidate] at scored
  obtain ⟨score, computed, returned⟩ := (Store.bind_ok_iff _ _ _).mp scored
  have same_trace := Except.ok.inj returned
  subst same_trace
  refine ⟨weights, capacity, weighted, known, rfl, ?_, computed⟩
  dsimp only
  split <;> simp [*]

/-- The score of a candidate carries its id, and passes exactly if all hard filters do. -/
theorem candidateTrace_spec (arithmetic : Arithmetic) (routebook : LoadedRoutebook)
    (pack : LoadedRoutebookV1) (registry : BackendRegistry) (comparison : Comparison)
    (candidate : RouteCandidate) (trace : CandidateScoreTrace)
    (scored : candidateTrace arithmetic routebook pack registry comparison candidate = .ok trace) :
    trace.candidateId = candidate.routeCandidateId ∧
      (trace.hardFilterDecision = .pass ↔ hardFiltersPass trace.hardFilterResults = true) := by
  obtain ⟨weights, capacity, -, -, named, passes_iff, -⟩ :=
    candidateTrace_ok arithmetic routebook pack registry comparison candidate trace scored
  exact ⟨named, passes_iff⟩

/-- The ids of the scores are those of the candidates. -/
theorem candidateScores_ids (arithmetic : Arithmetic) (routebook : LoadedRoutebook)
    (pack : LoadedRoutebookV1) (registry : BackendRegistry) (comparison : Comparison)
    (scores : List CandidateScoreTrace)
    (scored : candidateScores arithmetic routebook pack registry comparison = .ok scores) :
    scores.map CandidateScoreTrace.candidateId =
      comparison.routePlan.candidates.map RouteCandidate.routeCandidateId := by
  rw [candidateScores, Store.mapM_ok_iff] at scored
  generalize comparison.routePlan.candidates = candidates at scored ⊢
  induction scored with
  | nil => rfl
  | cons first rest inductionHypothesis =>
    rw [List.map_cons, List.map_cons, inductionHypothesis,
      (candidateTrace_spec _ _ _ _ _ _ _ first).1]

/-- Each score is that of a candidate, and each candidate that has a score is among the scored. -/
theorem candidateScores_mem (arithmetic : Arithmetic) (routebook : LoadedRoutebook)
    (pack : LoadedRoutebookV1) (registry : BackendRegistry) (comparison : Comparison)
    (scores : List CandidateScoreTrace)
    (scored : candidateScores arithmetic routebook pack registry comparison = .ok scores) :
    (∀ trace ∈ scores, ∃ candidate ∈ comparison.routePlan.candidates,
      candidateTrace arithmetic routebook pack registry comparison candidate = .ok trace) ∧
    ∀ candidate ∈ comparison.routePlan.candidates, ∀ trace,
      candidateTrace arithmetic routebook pack registry comparison candidate = .ok trace →
        trace ∈ scores := by
  rw [candidateScores, Store.mapM_ok_iff] at scored
  generalize comparison.routePlan.candidates = candidates at scored ⊢
  induction scored with
  | nil => simp
  | @cons candidate trace others traces first rest inductionHypothesis =>
    obtain ⟨origins, listed⟩ := inductionHypothesis
    constructor
    · intro asked member
      rcases List.mem_cons.mp member with rfl | later
      · exact ⟨candidate, List.mem_cons_self, first⟩
      · obtain ⟨origin, inOthers, own⟩ := origins asked later
        exact ⟨origin, List.mem_cons_of_mem _ inOthers, own⟩
    · intro asked member own score
      rcases List.mem_cons.mp member with rfl | later
      · rw [Except.ok.inj (score.symm.trans first)]
        exact List.mem_cons_self
      · exact List.mem_cons_of_mem _ (listed asked later own score)

/-! ## Ranks -/

section Ranks

variable (ranked : List CandidateScoreTrace)

/-- A score with a rank is one at a position, and its rank is the position. -/
theorem mem_withRanks_iff (trace : CandidateScoreTrace) : trace ∈ withRanks ranked ↔
    ∃ position, ∃ own : CandidateScoreTrace,
      ranked[position]? = some own ∧ trace = { own with rank := some (position + 1) } := by
  simp only [withRanks, List.mem_map, Prod.exists, List.mk_mem_zipIdx_iff_getElem?]
  constructor
  · rintro ⟨own, position, here, rfl⟩
    exact ⟨position, own, here, rfl⟩
  · rintro ⟨position, own, here, rfl⟩
    exact ⟨own, position, here, rfl⟩

/-- What is reported for a ranked score is a ranked score with its id. -/
theorem rankedById_spec (trace : CandidateScoreTrace) (member : trace ∈ ranked) :
    rankedById ranked trace ∈ withRanks ranked ∧
      (rankedById ranked trace).candidateId = trace.candidateId := by
  obtain ⟨position, here⟩ := List.getElem?_of_mem member
  have listed := (mem_withRanks_iff ranked _).mpr ⟨position, trace, here, rfl⟩
  unfold rankedById
  cases found : (withRanks ranked).reverse.find?
      (fun other => other.candidateId = trace.candidateId) with
  | none =>
    have missing := List.find?_eq_none.mp found _ (List.mem_reverse.mpr listed)
    exact absurd (decide_eq_true rfl) missing
  | some other =>
    exact ⟨List.mem_reverse.mp (List.mem_of_find?_eq_some found), by
      simpa using List.find?_some found⟩

/-- Scores with one id are reported alike. -/
theorem rankedById_congr (trace other : CandidateScoreTrace) (member : trace ∈ ranked)
    (same : trace.candidateId = other.candidateId) :
    rankedById ranked trace = rankedById ranked other := by
  obtain ⟨position, here⟩ := List.getElem?_of_mem member
  have listed := (mem_withRanks_iff ranked _).mpr ⟨position, trace, here, rfl⟩
  unfold rankedById
  rw [same]
  cases found : (withRanks ranked).reverse.find?
      (fun trace => trace.candidateId = other.candidateId) with
  | none =>
    have missing := List.find?_eq_none.mp found _ (List.mem_reverse.mpr listed)
    exact absurd (decide_eq_true same) missing
  | some reported => rfl

/-- The ranks of ranked scores are the numbers from one on. -/
theorem withRanks_ranks : (withRanks ranked).map CandidateScoreTrace.rank =
    (List.range' 1 ranked.length).map some := by
  have positions : ranked.zipIdx.map Prod.snd = List.range' 0 ranked.length :=
    List.zipIdx_map_snd 0 ranked
  have shifted : List.range' 1 ranked.length = (List.range' 0 ranked.length).map (1 + ·) :=
    (List.map_add_range' 0 ranked.length 1).symm
  rw [withRanks, List.map_map, shifted, ← positions, List.map_map, List.map_map]
  apply List.map_congr_left
  intro entry member
  simp [Nat.add_comm]

/-- Where ids are distinct, every score is reported at its own position. -/
theorem map_rankedById (distinct : (ranked.map CandidateScoreTrace.candidateId).Nodup) :
    ranked.map (rankedById ranked) = withRanks ranked := by
  apply List.ext_getElem?
  intro position
  rw [List.getElem?_map, withRanks, List.getElem?_map, List.getElem?_zipIdx, Nat.zero_add]
  cases here : ranked[position]? with
  | none => rfl
  | some trace =>
    obtain ⟨reported, same⟩ := rankedById_spec ranked trace (List.mem_of_getElem? here)
    obtain ⟨other, own, there, equal⟩ := (mem_withRanks_iff ranked _).mp reported
    rw [equal] at same
    have bound : position < (ranked.map CandidateScoreTrace.candidateId).length := by
      simpa using (List.getElem?_eq_some_iff.mp here).1
    have same_position : position = other := by
      rw [← List.getElem?_inj bound distinct, List.getElem?_map, List.getElem?_map, here, there]
      exact congrArg some same.symm
    subst same_position
    have same_trace := Option.some.inj (here.symm.trans there)
    subst same_trace
    rw [Option.map_some, equal]
    rfl

end Ranks

/-! ## The report -/

/-- What candidates with equal totals are ranked by. -/
def tieKey (candidate : RouteCandidate) : Nat ×ₗ Nat ×ₗ String :=
  toLex (candidate.priority, toLex (candidate.estimatedCostMicros, candidate.routeCandidateId))

/-- The executed candidate passes every hard filter; no other that passes has a higher total, or an
equal total and comes before it; ranks are the numbers from one on, and those that pass have the
lower ones; and the rejected candidates are the others. -/
structure ExecutesBest (arithmetic : Arithmetic) (routebook : LoadedRoutebook)
    (pack : LoadedRoutebookV1) (registry : BackendRegistry) (comparison : Comparison)
    (report : RouteScoringReport) : Prop where
  executed : ∃ candidate trace,
    Host.selectedCandidate (applyScoredSelection comparison.routePlan report) = .ok candidate ∧
    candidateTrace arithmetic routebook pack registry comparison candidate = .ok trace ∧
    hardFiltersPass trace.hardFilterResults = true ∧
    ∀ other ∈ comparison.routePlan.candidates, ∀ score,
      candidateTrace arithmetic routebook pack registry comparison other = .ok score →
      hardFiltersPass score.hardFilterResults = true →
      score.score.total ≤ trace.score.total ∧
        (score.score.total = trace.score.total → tieKey candidate ≤ tieKey other)
  ranks : (report.candidateScores.map CandidateScoreTrace.rank).Perm
    ((List.range' 1 comparison.routePlan.candidates.length).map some)
  passingFirst : ∀ failing ∈ report.candidateScores, ∀ passing ∈ report.candidateScores,
    failing.hardFilterDecision = .fail → passing.hardFilterDecision = .pass →
    ∃ early late, passing.rank = some early ∧ failing.rank = some late ∧ early < late
  rejected : report.rejectedCandidates.map RejectedCandidateTrace.candidateId =
    (comparison.routePlan.candidates.map RouteCandidate.routeCandidateId).erase
      report.selectedCandidateId

/-- What a report that selects a passing candidate says. -/
theorem score_selects (arithmetic : Arithmetic) (routebook : LoadedRoutebook)
    (pack : LoadedRoutebookV1) (registry : BackendRegistry) (comparison : Comparison)
    (report : RouteScoringReport)
    (scored : score arithmetic routebook pack registry comparison = .ok report)
    (selects : report.selectionStatus = .selectedHighestScoringCandidate) :
    ∃ scores best, candidateScores arithmetic routebook pack registry comparison = .ok scores ∧
      firstPassing (rankedScores comparison.routePlan.candidates scores) = some best ∧
      report.selectedCandidateId = best.candidateId ∧
      report.candidateScores =
        scores.map (rankedById (rankedScores comparison.routePlan.candidates scores)) ∧
      report.rejectedCandidates = rejectedCandidates best.candidateId report.candidateScores := by
  simp only [score, Store.bind_ok_iff] at scored
  obtain ⟨weights, -, scores, compared, routebookId, -, version, -, scorerId, -, scorerVersion, -,
    returned⟩ := scored
  have same_report := Except.ok.inj returned
  subst same_report
  refine ⟨scores, ?_⟩
  unfold selection at selects ⊢
  cases found : firstPassing (rankedScores comparison.routePlan.candidates scores) with
  | none =>
    rw [found] at selects
    cases selects
  | some best => exact ⟨best, compared, rfl, rfl, rfl, rfl⟩

/-- Ranking keeps the scores. -/
theorem rankedScores_perm (candidates : List RouteCandidate) (scores : List CandidateScoreTrace) :
    (rankedScores candidates scores).Perm scores :=
  List.perm_insertionSort _ scores

/-- Where ids are distinct, the reported scores are the ranked ones with their ranks. -/
theorem reported_perm (candidates : List RouteCandidate) (scores : List CandidateScoreTrace)
    (distinct : (scores.map CandidateScoreTrace.candidateId).Nodup) :
    (scores.map (rankedById (rankedScores candidates scores))).Perm
      (withRanks (rankedScores candidates scores)) := by
  have same := rankedScores_perm candidates scores
  rw [← map_rankedById _ ((same.map _).nodup_iff.mpr distinct)]
  exact (same.map _).symm

/-- Distinct ranks are those of distinct ids. -/
theorem ids_distinct (candidates : List RouteCandidate) (scores : List CandidateScoreTrace)
    (distinct : ((scores.map (rankedById (rankedScores candidates scores))).map
      CandidateScoreTrace.rank).Nodup) :
    (scores.map CandidateScoreTrace.candidateId).Nodup := by
  rw [List.map_map] at distinct
  refine List.pairwise_map.mpr ((List.pairwise_map.mp distinct).imp_of_mem ?_)
  intro trace other member _ apart same
  exact apart (congrArg CandidateScoreTrace.rank (rankedById_congr _ trace other
    ((rankedScores_perm candidates scores).mem_iff.mpr member) same))

/-- A candidate is found under its id where ids are distinct. -/
theorem candidateById_own (candidates : List RouteCandidate) (candidate : RouteCandidate)
    (distinct : (candidates.map RouteCandidate.routeCandidateId).Nodup)
    (member : candidate ∈ candidates) :
    candidateById candidates candidate.routeCandidateId = some candidate :=
  (Ranking.find?_key_iff RouteCandidate.routeCandidateId candidates.reverse
    (by rw [List.map_reverse]; exact List.nodup_reverse.mpr distinct) _ _).mpr
    ⟨List.mem_reverse.mpr member, rfl⟩

/-- Of two ranked scores the one with the smaller key has the lower rank. -/
theorem ranks_lt (candidates : List RouteCandidate) (scores : List CandidateScoreTrace)
    (first second : CandidateScoreTrace)
    (first_ranked : first ∈ withRanks (rankedScores candidates scores))
    (second_ranked : second ∈ withRanks (rankedScores candidates scores))
    (less : rankKey candidates first < rankKey candidates second) :
    ∃ early late, first.rank = some early ∧ second.rank = some late ∧ early < late := by
  obtain ⟨early, leader, early_here, rfl⟩ := (mem_withRanks_iff _ _).mp first_ranked
  obtain ⟨late, follower, late_here, rfl⟩ := (mem_withRanks_iff _ _).mp second_ranked
  have less : rankKey candidates leader < rankKey candidates follower := less
  refine ⟨early + 1, late + 1, rfl, rfl, ?_⟩
  obtain ⟨early_bound, early_is⟩ := List.getElem?_eq_some_iff.mp early_here
  obtain ⟨late_bound, late_is⟩ := List.getElem?_eq_some_iff.mp late_here
  by_contra after
  have ordered : (rankedScores candidates scores).Pairwise
      (fun left right => rankKey candidates left ≤ rankKey candidates right) :=
    Ranking.ranked_pairwise (rankKey candidates) scores
  have apart : late ≠ early := by
    rintro rfl
    rw [late_is] at early_is
    exact absurd less (early_is ▸ lt_irrefl _)
  have least := List.pairwise_iff_getElem.mp ordered late early late_bound early_bound (by omega)
  rw [late_is, early_is] at least
  exact absurd less least.not_gt

/-- Reported scores that pass have lower ranks than those that fail. -/
theorem passing_before_failing (candidates : List RouteCandidate)
    (scores : List CandidateScoreTrace) (failing passing : CandidateScoreTrace)
    (failing_ranked : failing ∈ withRanks (rankedScores candidates scores))
    (passing_ranked : passing ∈ withRanks (rankedScores candidates scores))
    (fails : failing.hardFilterDecision = .fail) (passes : passing.hardFilterDecision = .pass) :
    ∃ early late, passing.rank = some early ∧ failing.rank = some late ∧ early < late := by
  apply ranks_lt candidates scores passing failing passing_ranked failing_ranked
  simp [rankKey, fails, passes, Prod.Lex.toLex_lt_toLex]

/-- The best of the scores that pass is not exceeded, and comes before those with its total. -/
theorem best_not_exceeded (candidates : List RouteCandidate) (best other : CandidateScoreTrace)
    (candidate rival : RouteCandidate) (best_passes : best.hardFilterDecision = .pass)
    (other_passes : other.hardFilterDecision = .pass)
    (own : candidateById candidates best.candidateId = some candidate)
    (rival_own : candidateById candidates other.candidateId = some rival)
    (named : best.candidateId = candidate.routeCandidateId)
    (rival_named : other.candidateId = rival.routeCandidateId)
    (least : rankKey candidates best ≤ rankKey candidates other) :
    other.score.total ≤ best.score.total ∧
      (other.score.total = best.score.total → tieKey candidate ≤ tieKey rival) := by
  simp only [rankKey, best_passes, other_passes, own, rival_own, Option.map_some, Option.getD_some,
    if_true, Prod.Lex.toLex_le_toLex, lt_self_iff_false, false_or, true_and] at least
  rcases least with less | ⟨same, ordered⟩
  · have greater := neg_lt_neg_iff.mp less
    exact ⟨greater.le, fun equal => absurd equal greater.ne⟩
  · refine ⟨(neg_inj.mp same).ge, fun _ => ?_⟩
    rw [tieKey, tieKey, Prod.Lex.toLex_le_toLex, Prod.Lex.toLex_le_toLex, ← named, ← rival_named]
    exact ordered

/-- Where a passing candidate is selected, the best one is executed exactly if the ids of the
candidates are distinct. -/
theorem executes_best_iff (arithmetic : Arithmetic) (routebook : LoadedRoutebook)
    (pack : LoadedRoutebookV1) (registry : BackendRegistry) (comparison : Comparison)
    (report : RouteScoringReport)
    (scored : score arithmetic routebook pack registry comparison = .ok report)
    (selects : report.selectionStatus = .selectedHighestScoringCandidate) :
    ExecutesBest arithmetic routebook pack registry comparison report ↔
      (comparison.routePlan.candidates.map RouteCandidate.routeCandidateId).Nodup := by
  obtain ⟨scores, best, compared, first, selected, reported, rejected⟩ :=
    score_selects arithmetic routebook pack registry comparison report scored selects
  have ids := candidateScores_ids arithmetic routebook pack registry comparison scores compared
  obtain ⟨origins, listed⟩ :=
    candidateScores_mem arithmetic routebook pack registry comparison scores compared
  constructor
  · intro executes
    have distinct := executes.ranks.nodup_iff.mpr
      (List.Nodup.map (Option.some_injective Nat) List.nodup_range')
    rw [reported] at distinct
    exact ids ▸ ids_distinct _ scores distinct
  · intro distinct
    have distinct_scores : (scores.map CandidateScoreTrace.candidateId).Nodup := ids ▸ distinct
    have permuted := reported_perm comparison.routePlan.candidates scores distinct_scores
    obtain ⟨best_listed, best_passes, least⟩ := Ranking.first_least
      (rankKey comparison.routePlan.candidates) _ scores best first
    obtain ⟨candidate, member, own⟩ := origins best best_listed
    obtain ⟨named, passes_iff⟩ := candidateTrace_spec _ _ _ _ _ _ _ own
    have best_passes : best.hardFilterDecision = .pass := by simpa using best_passes
    refine ⟨⟨candidate, best, ?_, own, passes_iff.mp best_passes, ?_⟩, ?_, ?_, ?_⟩
    · have found := (Ranking.find?_key_iff RouteCandidate.routeCandidateId
        comparison.routePlan.candidates distinct best.candidateId candidate).mpr
        ⟨member, named.symm⟩
      simp only [Host.selectedCandidate, applyScoredSelection, RoutePlan.selecting, selected, found]
    · intro other inPlan otherScore other_own other_filters
      obtain ⟨other_named, other_passes_iff⟩ := candidateTrace_spec _ _ _ _ _ _ _ other_own
      have other_passes := other_passes_iff.mpr other_filters
      refine best_not_exceeded comparison.routePlan.candidates best otherScore candidate other
        best_passes other_passes ?_ ?_ named other_named
        (least otherScore (listed other inPlan otherScore other_own) (by simpa using other_passes))
      · rw [named]
        exact candidateById_own _ candidate distinct member
      · rw [other_named]
        exact candidateById_own _ other distinct inPlan
    · have lengths : (rankedScores comparison.routePlan.candidates scores).length =
          comparison.routePlan.candidates.length := by
        have counted := congrArg List.length ids
        rw [List.length_map, List.length_map] at counted
        rw [(rankedScores_perm _ scores).length_eq, counted]
      rw [reported, ← lengths, ← withRanks_ranks]
      exact permuted.map _
    · intro failing failing_reported passing passing_reported fails passes
      rw [reported] at failing_reported passing_reported
      exact passing_before_failing _ scores failing passing (permuted.mem_iff.mp failing_reported)
        (permuted.mem_iff.mp passing_reported) fails passes
    · have kept : report.candidateScores.map CandidateScoreTrace.candidateId =
          comparison.routePlan.candidates.map RouteCandidate.routeCandidateId := by
        rw [reported, List.map_map, ← ids]
        apply List.map_congr_left
        intro trace inScores
        exact (rankedById_spec _ trace ((rankedScores_perm _ scores).mem_iff.mpr inScores)).2
      rw [rejected, rejectedCandidates, List.map_map, selected, distinct.erase_eq_filter, ← kept,
        List.filter_map]
      refine congrArg _ (List.filter_congr ?_)
      intro trace inReport
      rw [Function.comp_apply, bne, decide_not]
      rfl

end RouteScorer

namespace Selection

open Rescoring (pricedRouter plainPack urlRule urlWorkUnit)

/-- A router with a rule for each of two local tools, the first of which supports no task type. -/
def ruledRouter (first second : String) : RouterService :=
  { pricedRouter (.int 3) with
    routebook :=
      { (pricedRouter (.int 3)).routebook with
        candidateRules := [urlRule first "b1" 1, urlRule second "b2" 2] } }

/-- What is compared for a check of one address, and the report on it. -/
def urlReport (router : RouterService) :
    Except Raised (RouteScorer.Comparison × RouteScoringReport) := do
  let routePlan ← router.baselinePlan urlWorkUnit "2024-01-01T00:00:00Z"
  let comparison ← router.comparison plainPack urlWorkUnit routePlan
  let report ← RouteScorer.score router.arithmetic router.routebook plainPack router.backendRegistry
      comparison
  return (comparison, report)

/-- A report that is made is one on the scores of what is compared. -/
theorem urlReport_scored (router : RouterService) (comparison : RouteScorer.Comparison)
    (report : RouteScoringReport) (reported : urlReport router = .ok (comparison, report)) :
    RouteScorer.score router.arithmetic router.routebook plainPack router.backendRegistry
      comparison = .ok report := by
  simp only [urlReport, Store.bind_ok_iff] at reported
  obtain ⟨routePlan, -, compared, -, made, scored, returned⟩ := reported
  obtain ⟨rfl, rfl⟩ := Prod.mk.inj (Except.ok.inj returned)
  exact scored

/-- The second of two candidates with ids of their own is executed. -/
theorem executes_second : ∃ comparison report,
    urlReport (ruledRouter "r1" "r2") = .ok (comparison, report) ∧
      RouteScorer.ExecutesBest .double (ruledRouter "r1" "r2").routebook plainPack
        (ruledRouter "r1" "r2").backendRegistry comparison report := by
  have made : (urlReport (ruledRouter "r1" "r2")).toOption.any (fun made =>
      made.2.selectionStatus = .selectedHighestScoringCandidate ∧
        (made.1.routePlan.candidates.map RouteCandidate.routeCandidateId).Nodup) = true := by
    decide +kernel
  cases reported : urlReport (ruledRouter "r1" "r2") with
  | error raised => simp [reported, Except.toOption] at made
  | ok pair =>
    obtain ⟨comparison, report⟩ := pair
    obtain ⟨selects, distinct⟩ : report.selectionStatus = .selectedHighestScoringCandidate ∧
        (comparison.routePlan.candidates.map RouteCandidate.routeCandidateId).Nodup := by
      simpa [reported, Except.toOption] using made
    exact ⟨comparison, report, rfl, (RouteScorer.executes_best_iff _ _ _ _ comparison report
      (urlReport_scored _ comparison report reported) selects).mpr distinct⟩

/-- Of two candidates with one id the first is executed, though it fails a hard filter. -/
theorem failing_candidate_executed :
    ¬ ∀ (runtime : PythonRuntime) (routebook : LoadedRoutebook) (pack : LoadedRoutebookV1)
        (registry : BackendRegistry) (comparison : RouteScorer.Comparison)
        (report : RouteScoringReport),
        RoutePlanValidator.validate runtime routebook registry comparison.routePlan =
          .ok comparison.routePlan →
        RouteScorer.score .double routebook pack registry comparison = .ok report →
        report.selectionStatus = .selectedHighestScoringCandidate →
        RouteScorer.ExecutesBest .double routebook pack registry comparison report := by
  intro executes
  have made : (urlReport (ruledRouter "r" "r")).toOption.any (fun made =>
      ((ruledRouter "r" "r").validate made.1.routePlan).isOk ∧
      made.2.selectionStatus = .selectedHighestScoringCandidate ∧
      (Host.selectedCandidate
        (RouteScorer.applyScoredSelection made.1.routePlan made.2)).toOption.all (fun candidate =>
          (RouteScorer.candidateTrace .double (ruledRouter "r" "r").routebook plainPack
            (ruledRouter "r" "r").backendRegistry made.1 candidate).toOption.all (fun trace =>
              !RouteScorer.hardFiltersPass trace.hardFilterResults))) = true := by
    decide +kernel
  cases reported : urlReport (ruledRouter "r" "r") with
  | error raised => simp [reported, Except.toOption] at made
  | ok pair =>
    obtain ⟨comparison, report⟩ := pair
    have scored_report : RouteScorer.score .double (ruledRouter "r" "r").routebook plainPack
        (ruledRouter "r" "r").backendRegistry comparison = .ok report :=
      urlReport_scored (ruledRouter "r" "r") comparison report reported
    rw [reported] at made
    obtain ⟨accepted, selects, fails⟩ := of_decide_eq_true made
    cases validated : (ruledRouter "r" "r").validate comparison.routePlan with
    | error raised => simp [validated, Except.isOk, Except.toBool] at accepted
    | ok valid =>
      have same := Rescoring.validate_ok _ comparison.routePlan valid validated
      subst same
      obtain ⟨candidate, trace, selected, scored, passes, -⟩ := (executes _ _ plainPack _
        comparison report validated scored_report selects).executed
      simp [selected, scored, passes, Except.toOption] at fails

end Selection

end TokenBank
