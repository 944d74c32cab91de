/-
Scheduling candidates and the four selection policies.

Every policy sorts the candidates by a key of its own (`sorted` is stable) and selects the first
`max_candidate_requests` of them. The fairness policy keeps a count of its selections, so a policy is an object with a
state: `evaluate` returns the policy as it is afterwards. Durations and scores are exact rationals.

Every policy selects and skips the candidates it is given, each once: `perm_selected_skipped`.
-/
import InferencePlatform.Schemas

namespace InferencePlatform.Scheduling

/-! ## Candidates -/

structure SchedulingCandidate where
  requestId : UUID
  model : String
  correlationId : String
  queueName : String
  queuePosition : ℕ
  queueWaitDurationMs : ℚ
  enqueuedAt : Time
  maxTokens : ℕ
  estimatedInputTokens : ℕ
  estimatedJobTokens : ℕ
  priorityClass : PriorityClass
  requestAgeMs : ℚ
  deriving DecidableEq, Repr

def milliseconds (since now : Time) : ℚ := ((now : ℤ) - (since : ℤ) : ℤ) / 1000

def estimateInputTokens (item : QueueItem) : ℕ :=
  max 1 ((item.inferenceRequest.messages.map fun message => message.content.length).sum / 4)

def queueItemToCandidate (now : Time) (item : QueueItem) (queuePosition : ℕ) : SchedulingCandidate :=
  { requestId := item.requestId
    model := item.inferenceRequest.model
    correlationId := item.requestContext.traceId
    queueName := item.queueName
    queuePosition
    queueWaitDurationMs := milliseconds item.enqueuedAt now
    enqueuedAt := item.enqueuedAt
    maxTokens := item.inferenceRequest.maxTokens
    estimatedInputTokens := estimateInputTokens item
    estimatedJobTokens := estimateInputTokens item + item.inferenceRequest.maxTokens
    priorityClass := item.inferenceRequest.priorityClass.getD item.priorityClass
    requestAgeMs := milliseconds item.requestContext.arrivalTime now }

def itemsToCandidates (now : Time) (items : List QueueItem) : List SchedulingCandidate :=
  (items.zipIdx 1).map fun p => queueItemToCandidate now p.1 p.2

theorem map_itemsToCandidates (now : Time) (items : List QueueItem) :
    (itemsToCandidates now items).map SchedulingCandidate.requestId = items.map QueueItem.requestId := by
  have key : ∀ n, (items.zipIdx n).map (fun p => p.1.requestId) = items.map QueueItem.requestId := by
    induction items with
    | nil => intro n; rfl
    | cons item items ih =>
      intro n
      rw [List.zipIdx_cons, List.map_cons, List.map_cons, ih]
  rw [itemsToCandidates, List.map_map]
  exact key 1

/-! ## Decisions -/

structure SchedulingDecision where
  requestId : UUID
  correlationId : String
  selected : Bool
  decisionReason : String
  queuePosition : ℕ
  deriving DecidableEq, Repr

structure Evaluation where
  decisions : List SchedulingDecision
  selected : List UUID
  skipped : List UUID
  deriving DecidableEq, Repr

def buildDecisions (ordered : List SchedulingCandidate) (maxCandidateRequests : ℕ)
    (selectedReason skippedReason : String) : Evaluation :=
  { decisions := ordered.mapIdx fun index candidate =>
      { requestId := candidate.requestId, correlationId := candidate.correlationId
        selected := index < maxCandidateRequests
        decisionReason := if index < maxCandidateRequests then selectedReason else skippedReason
        queuePosition := candidate.queuePosition }
    selected := (ordered.take maxCandidateRequests).map SchedulingCandidate.requestId
    skipped := (ordered.drop maxCandidateRequests).map SchedulingCandidate.requestId }

/-! ## Policies -/

/-- `sorted(candidates, key=key)` -/
def sortedBy {κ : Type} [LinearOrder κ] (key : SchedulingCandidate → κ) (candidates : List SchedulingCandidate) :
    List SchedulingCandidate :=
  candidates.insertionSort fun a b => key a ≤ key b

/-- Each policy with its own fields; the fairness policy with its selection counts as well. -/
inductive SchedulerPolicy
  | fifo
  | shortestJobFirst
  | latencyAware (queueObjectiveMs requestAgeObjectiveMs : ℚ)
  | fairness (weights : PriorityClass → ℚ) (selectionCounts : PriorityClass → ℕ)

namespace SchedulerPolicy

def selectedReason : SchedulerPolicy → String
  | fifo => "fifo_selected"
  | shortestJobFirst => "sjf_selected"
  | latencyAware .. => "latency_aware_selected"
  | fairness .. => "fairness_selected"

/-- the candidates in the order the policy prefers them -/
def ordered : SchedulerPolicy → List SchedulingCandidate → List SchedulingCandidate
  | fifo => sortedBy fun c => toLex (c.queuePosition, c.enqueuedAt)
  | shortestJobFirst => sortedBy fun c => toLex (c.estimatedJobTokens, toLex (c.queuePosition, c.enqueuedAt))
  | latencyAware queueObjectiveMs requestAgeObjectiveMs =>
    let score (c : SchedulingCandidate) :=
      c.queueWaitDurationMs / queueObjectiveMs + c.requestAgeMs / requestAgeObjectiveMs
    sortedBy fun c => toLex (-score c, toLex (c.queuePosition, c.enqueuedAt))
  | fairness weights selectionCounts =>
    let ratio (c : SchedulingCandidate) := (selectionCounts c.priorityClass : ℚ) / weights c.priorityClass
    sortedBy fun c => toLex (ratio c, toLex (-c.queueWaitDurationMs, toLex (c.queuePosition, c.enqueuedAt)))

/-- `_record_selections`; the other policies remember nothing -/
def recordSelections (selected : List SchedulingCandidate) : SchedulerPolicy → SchedulerPolicy
  | fairness weights selectionCounts =>
    fairness weights fun c => selectionCounts c + (selected.map SchedulingCandidate.priorityClass).count c
  | policy => policy

def evaluate (policy : SchedulerPolicy) (candidates : List SchedulingCandidate) (maxCandidateRequests : ℕ) :
    Evaluation × SchedulerPolicy :=
  let ordered := policy.ordered candidates
  (buildDecisions ordered maxCandidateRequests policy.selectedReason "max_candidates_reached",
    policy.recordSelections (ordered.take maxCandidateRequests))

end SchedulerPolicy

theorem sortedBy_perm {κ : Type} [LinearOrder κ] (key : SchedulingCandidate → κ)
    (candidates : List SchedulingCandidate) : (sortedBy key candidates).Perm candidates :=
  List.perm_insertionSort _ candidates

theorem ordered_perm (policy : SchedulerPolicy) (candidates : List SchedulingCandidate) :
    (policy.ordered candidates).Perm candidates := by
  cases policy with
  | fifo => exact sortedBy_perm _ candidates
  | shortestJobFirst => exact sortedBy_perm _ candidates
  | latencyAware queueObjectiveMs requestAgeObjectiveMs => exact sortedBy_perm _ candidates
  | fairness weights selectionCounts => exact sortedBy_perm _ candidates

theorem perm_selected_skipped (policy : SchedulerPolicy) (candidates : List SchedulingCandidate) (n : ℕ) :
    ((policy.evaluate candidates n).1.selected ++ (policy.evaluate candidates n).1.skipped).Perm
      (candidates.map SchedulingCandidate.requestId) := by
  simp only [SchedulerPolicy.evaluate, buildDecisions]
  rw [← List.map_append, List.take_append_drop]
  exact (ordered_perm policy candidates).map _

/-- with room for all of them, all are selected -/
theorem skipped_eq_nil (policy : SchedulerPolicy) {candidates : List SchedulingCandidate} {n : ℕ}
    (h : candidates.length ≤ n) : (policy.evaluate candidates n).1.skipped = [] := by
  have hlen : (policy.ordered candidates).length ≤ n := (ordered_perm policy candidates).length_eq ▸ h
  simp only [SchedulerPolicy.evaluate, buildDecisions, List.drop_eq_nil_of_le hlen, List.map_nil]

-- the two shortest jobs of three, the shortest first
example :
    let candidate (r tokens : ℕ) : SchedulingCandidate := ⟨r, "m", "t", "q", r, 0, 0, tokens, 0, tokens, .default, 0⟩
    (SchedulerPolicy.shortestJobFirst.evaluate [candidate 1 9, candidate 2 5, candidate 3 7] 2).1.selected =
      [2, 3] := by
  decide

end InferencePlatform.Scheduling
