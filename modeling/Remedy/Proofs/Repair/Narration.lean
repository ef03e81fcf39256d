import Remedy.Proofs.Repair.Chain

/-!
# What a repair tells

Running programs tells nothing; a round tells the scores of its candidates once all of them ran, that
none of them was worth it if so, and that it ended (`Round.events`). What it tells is what it decided
by (`Round.Reports`): the selection among these scores gives the patch that is applied, or the list
in the reason that none is. By induction over the rounds, a repair tells its beginning, its rounds in
order, and its end (`repair_narrates`).
-/

namespace Remedy

open Repairing

namespace Repairer

variable {r : Repairer} {index : Nat} {label : String} {language : Language} {s t u : Session}

/-! ## What a round tells -/

def Round.calls (round : Round) : List Call := round.closed.calls.drop round.opened.calls.length

/-- The run of the text that a round began with, if it could be run. -/
def Round.baseline? (round : Round) : Option RunResult :=
  round.calls.head?.bind fun call => call.answer.toOption

/-- The candidates of a round by the calls that ran them, scored against the run of its text. -/
def Round.scored (r : Repairer) (language : Language) (round : Round) : List Scored :=
  match round.baseline? with
  | some baseline =>
    List.zipWith (fun c call => .of baseline c (candidateResult language call.answer))
      (round.candidates r language) (round.calls.filter isCandidate)
  | none => []

def Round.selection? (r : Repairer) (language : Language) (round : Round) : Option Selection :=
  round.baseline?.bind fun baseline => Selection.of? baseline (round.scored r language)

/-- What is told of a selection that gave no patch. -/
def Verdict.complaint : Verdict → List Event
  | .failed (.noSuitablePatch scores) => [.selectionFailed scores]
  | _ => []

/-- What a round tells, until its end. -/
def Round.told (r : Repairer) (language : Language) (round : Round) : List Event :=
  (round.scored r language).map tellsScore ++ round.turn.verdict.complaint

/-- What is told of a round. -/
def Round.events (r : Repairer) (language : Language) (round : Round) : List Event :=
  round.told r language ++ [.iterationFinished round.turn.record.index round.turn.record.status
    (round.turn.record.appliedPatch.map (·.id))]

/-- A turn goes by a selection: it applies the best of it for a positive score, and gives the ranked
scores as its reason if none is positive. -/
structure Turn.GoesBy (turn : Turn) (selection? : Option Selection) : Prop where
  applied : ∀ patch, turn.record.appliedPatch = some patch → ∃ selection,
    selection? = some selection ∧ 0 < selection.best.score ∧ patch = .of selection.best
  failed : ∀ scores, turn.verdict = .failed (.noSuitablePatch scores) → ∃ selection,
    selection? = some selection ∧ selection.best.score ≤ 0 ∧ scores = selection.scores

/-- A round tells the scores of the candidates that it evaluated, in the order in which they were
declared, and goes by the selection among them. -/
structure Round.Reports (r : Repairer) (language : Language) (round : Round) : Prop where
  told : round.closed.events = round.opened.events ++ round.told r language
  candidates : (round.scored r language).map Scored.candidate = round.candidates r language
  evaluated : round.evaluated = (round.candidates r language).map Candidate.patched
  goesBy : round.turn.GoesBy (round.selection? r language)

/-! ## Parts of an iteration -/

theorem frame_events : Frame fun s t => t.events = s.events :=
  ⟨fun _ => rfl, fun h h' => h'.trans h, fun _ _ _ _ _ _ => rfl⟩

theorem count_tellsNothing (change : Counters → Counters) :
    Along (fun s t => t.events = s.events) (count change) :=
  fun _ => rfl

theorem events_of_generate {request : Request} {generated : List Candidate}
    (h : generate r.generators language request s = (generated, t)) : t.events = s.events := by
  unfold generate at h
  split at h <;> obtain ⟨-, rfl⟩ := Prod.mk.inj h <;> rfl

theorem Backed.events {p : Progress} (h : Backed r label p s t) : t.events = s.events := by
  obtain ⟨s₁, h₁, h₂⟩ := h
  rw [backUp_eq] at h₁
  obtain ⟨-, rfl⟩ := Prod.mk.inj h₁
  obtain rfl := of_count h₂
  rfl

theorem Commits.events {d : ErrorRecord} {p : Progress} {best : Scored} {turn : Turn}
    (h : Commits r index label language d p best s turn t) :
    t.events = s.events ∧ turn.verdict.complaint = [] := by
  cases h with
  | retrying backed dirty => exact ⟨backed.events, rfl⟩
  | unsettled backed clean check left =>
      exact ⟨((frame_events.logicalDiagnosis r _).of_eq check).trans backed.events, rfl⟩
  | settled backed clean check =>
      exact ⟨((frame_events.logicalDiagnosis r _).of_eq check).trans backed.events, rfl⟩

/-- What the treatment of a diagnosis ran and told, and what it goes by. -/
structure Reported (r : Repairer) (language : Language) (p : Progress) (baseline : RunResult)
    (d : ErrorRecord) (s : Session) (turn : Turn) (t : Session)
    (runs : List (Candidate × RunResult)) : Prop where
  calls : ∃ calls after, Grows r.executor language r.config.limits s t (calls ++ after)
    ∧ (∀ c ∈ after, isHarness c = true) ∧ List.Forall₂ (RunOf language) runs calls
  told : t.events = s.events
    ++ (runs.map fun run => .of baseline run.1 run.2).map tellsScore ++ turn.verdict.complaint
  goesBy : turn.GoesBy (Selection.of? baseline (runs.map fun run => .of baseline run.1 run.2))

theorem Selects.log {p : Progress} {baseline : RunResult} {d : ErrorRecord}
    {candidates : List Candidate} {selection : Selection}
    (h : Selects r language p baseline d s candidates selection t) :
    ∃ runs calls, runs.map Prod.fst = candidates
      ∧ Grows r.executor language r.config.limits s t calls
      ∧ List.Forall₂ (RunOf language) runs calls
      ∧ Selection.of? baseline (runs.map fun run => .of baseline run.1 run.2) = some selection
      ∧ t.events = s.events ++ (runs.map fun run => .of baseline run.1 run.2).map tellsScore := by
  obtain ⟨generated, s₁, h₁, rfl, h₂⟩ := h
  obtain ⟨runs, calls, hmap, hg, hruns, hsel, htold⟩ := selectAgainst_log h₂
  rw [events_of_generate h₁] at htold
  exact ⟨runs, calls, hmap, (Grows.of_generate h₁).trans hg, hruns, hsel.symm, htold⟩

theorem Treats.reported {p : Progress} {baseline : RunResult} {d : ErrorRecord} {turn : Turn}
    (h : Treats r index label language p baseline d s turn t) :
    ∃ runs, Reported r language p baseline d s turn t runs
      ∧ runs.map Prod.fst = Candidate.usable r.config.rules p.current p.tried
        r.config.maxCandidates
          (r.proposals language s.requests ⟨d, p.current, r.config.allowEfficiencyVariants⟩) := by
  cases h with
  | untreated proposed none =>
      rw [eq_proposals_of_generate proposed] at none
      refine ⟨[], ⟨⟨[], [], Grows.of_generate proposed, List.forall_mem_nil _, .nil⟩, ?_, nofun,
        nofun⟩, none.symm⟩
      rw [events_of_generate proposed]
      simp [Verdict.complaint, Turn.failed]
  | unsuitable selects worthless told =>
      obtain ⟨runs, calls, hmap, hg, hruns, hsel, htold⟩ := selects.log
      refine ⟨runs, ⟨⟨calls, [], hg.trans (Grows.of_tell told), List.forall_mem_nil _, hruns⟩, ?_,
        nofun, fun scores hscores => ?_⟩, hmap.trans selects.runs.1⟩
      · obtain rfl := of_tell told
        exact congrArg (· ++ _) htold
      · cases hscores
        exact ⟨_, hsel, worthless, rfl⟩
  | committed selects worth commits =>
      obtain ⟨runs, calls, hmap, hg, hruns, hsel, htold⟩ := selects.log
      obtain ⟨checks, hg', hharness⟩ := commits.grows
      obtain ⟨hevents, hquiet⟩ := commits.events
      obtain ⟨status, verdict, rfl, -⟩ := commits.eq_committed
      refine ⟨runs, ⟨⟨calls, checks, hg.trans hg', hharness, hruns⟩, ?_, fun patch hpatch => ?_,
        fun scores hscores => ?_⟩, hmap.trans selects.runs.1⟩
      · rw [hquiet, List.append_nil, hevents, htold]
      · exact ⟨_, hsel, worth, (Option.some.inj hpatch).symm⟩
      · rw [hscores] at hquiet
        cases hquiet

/-! ## Rounds -/

theorem filter_isCandidate_of_runs {runs : List (Candidate × RunResult)} {calls : List Call}
    (h : List.Forall₂ (RunOf language) runs calls) : calls.filter isCandidate = calls := by
  refine List.filter_eq_self.mpr fun call hcall => ?_
  obtain ⟨run, -, hrun⟩ := exists_of_forall₂ h hcall
  simp [isCandidate, hrun.purpose]

/-- Candidates scored by their calls are scored by their runs. -/
theorem scored_of_runs {baseline : RunResult} {runs : List (Candidate × RunResult)}
    {calls : List Call} (h : List.Forall₂ (RunOf language) runs calls) :
    List.zipWith (fun c call => .of baseline c (candidateResult language call.answer))
      (runs.map Prod.fst) calls = runs.map fun run => Scored.of baseline run.1 run.2 := by
  induction h with
  | nil => rfl
  | @cons run call runs calls hrun hrest ih =>
      rw [List.map_cons, List.zipWith_cons_cons, List.map_cons, ih, hrun.result]

/-- A round without a diagnosis runs no candidate and tells nothing. -/
theorem Idles.reports {p : Progress} {turn : Turn} (h : Idles r language p s turn t)
    (hevents : t.events = s.events) (hquiet : turn.verdict.complaint = []) :
    Round.Reports r language ⟨p, s, turn, t⟩ := by
  have hcandidates : Round.candidates r language ⟨p, s, turn, t⟩ = [] := by
    rw [Round.candidates, Round.proposed, h.diagnosis, Candidate.usable_nil]
  have hscored : Round.scored r language ⟨p, s, turn, t⟩ = [] := by
    rw [Round.scored, hcandidates]
    split <;> rfl
  refine ⟨?_, ?_, h.evaluates.evaluated, fun patch hpatch => ?_, fun scores hscores => ?_⟩
  · rw [Round.told, hscored, hquiet]
    exact hevents.trans (List.append_nil _).symm
  · rw [hscored, hcandidates, List.map_nil]
  · cases h.patch.symm.trans hpatch
  · dsimp only at hscores
    rw [hscores] at hquiet
    cases hquiet

theorem Treats.reports {p : Progress} {baseline : RunResult} {d : ErrorRecord} {turn : Turn}
    (diagnoses : Diagnoses r language p.current s baseline d t)
    (treats : Treats r index label language p baseline d t turn u) :
    Round.Reports r language ⟨p, s, turn, u⟩ := by
  obtain ⟨checks, hg, hharness⟩ := diagnoses.grows
  obtain ⟨runs, ⟨⟨calls, after, hg', hafter, hruns⟩, htold, hgoesBy⟩, hmap⟩ := treats.reported
  have hall := hg.trans hg'
  have hcalls : Round.calls ⟨p, s, turn, u⟩
      = ⟨.current, p.current, .ok baseline⟩ :: checks ++ (calls ++ after) := by
    rw [Round.calls, hall.log, List.drop_left]
  have hbaseline : Round.baseline? ⟨p, s, turn, u⟩ = some baseline := by
    rw [Round.baseline?, hcalls]
    rfl
  -- the generator was asked after the diagnosis, which adds no request of its own
  have hcandidates : Round.candidates r language ⟨p, s, turn, u⟩ = runs.map Prod.fst := by
    rw [hmap, diagnoses.keeps.requests, Round.candidates, Round.proposed, treats.evaluates.1]
  have hfilter : (Round.calls ⟨p, s, turn, u⟩).filter isCandidate = calls := by
    rw [hcalls, List.filter_append, List.filter_append, filter_isCandidate_of_diagnosis hharness,
      filter_isCandidate_of_harness hafter, filter_isCandidate_of_runs hruns, List.nil_append,
      List.append_nil]
  have hscored : Round.scored r language ⟨p, s, turn, u⟩
      = runs.map fun run => .of baseline run.1 run.2 := by
    rw [Round.scored, hbaseline, hcandidates, hfilter]
    exact scored_of_runs hruns
  refine ⟨?_, ?_, (Iterates.treated diagnoses treats).evaluates.evaluated, ?_⟩
  · rw [Round.told, hscored, ← List.append_assoc]
    rw [frame_events.diagnoses count_tellsNothing diagnoses] at htold
    exact htold
  · rw [hscored, hcandidates, List.map_map]
    rfl
  · rw [Round.selection?, hbaseline, hscored]
    exact hgoesBy

theorem Iterates.reports {p : Progress} {turn : Turn}
    (h : Iterates r index label language p s turn t) :
    Round.Reports r language ⟨p, s, turn, t⟩ := by
  cases h with
  | faulted examines =>
      exact examines.idles.reports (frame_events.examines count_tellsNothing examines) rfl
  | notStarted examines spawnFailed =>
      exact examines.idles.reports (frame_events.examines count_tellsNothing examines) rfl
  | checkFaulted starts clean check =>
      exact (starts.idles_of_check check rfl rfl rfl).reports
        (((frame_events.logicalDiagnosis r _).of_eq check).trans
          (frame_events.starts count_tellsNothing starts)) rfl
  | clean starts clean check =>
      exact (starts.idles_of_check check rfl rfl rfl).reports
        (((frame_events.logicalDiagnosis r _).of_eq check).trans
          (frame_events.starts count_tellsNothing starts)) rfl
  | @undiagnosed result _ starts dirty unknown =>
      have idles : Idles r language p s (.failed index none (.undiagnosable result.exitCode) p) t :=
        ⟨rfl, rfl, rfl, starts.keeps, .ok result, [], starts.grows, List.forall_mem_nil _⟩
      exact idles.reports (frame_events.starts count_tellsNothing starts) rfl
  | treated diagnoses treats => exact treats.reports diagnoses

theorem Linked.reports {p last : Progress} {rounds : List Round}
    (h : Linked r label language index p s rounds last t) :
    (∀ round ∈ rounds, round.Reports r language)
      ∧ t.events = s.events ++ rounds.flatMap (Round.events r language) := by
  induction h with
  | done => exact ⟨List.forall_mem_nil _, (List.append_nil _).symm⟩
  | @step index p last turn s t u v rounds iterates told rest ih =>
      obtain ⟨hrest, hevents⟩ := ih
      have hround := iterates.reports
      obtain ⟨calls, -, lawful⟩ := iterates.lawful
      refine ⟨List.forall_mem_cons.mpr ⟨hround, hrest⟩, ?_⟩
      have htold : t.events = s.events ++ Round.told r language ⟨p, s, turn, t⟩ := hround.told
      obtain rfl := of_tell told
      rw [hevents, List.flatMap_cons, Round.events, lawful.index_eq, htold]
      simp only [List.append_assoc]

/-! ## Complaints -/

theorem Verdict.mem_complaint {verdict : Verdict} {scores : List CandidateScore} :
    .selectionFailed scores ∈ verdict.complaint ↔
      verdict = .failed (.noSuitablePatch scores) := by
  unfold complaint
  split <;> simp_all [eq_comm]

theorem Round.mem_events {round : Round} {scores : List CandidateScore} :
    .selectionFailed scores ∈ round.events r language ↔
      round.turn.verdict = .failed (.noSuitablePatch scores) := by
  simp [Round.events, Round.told, tellsScore, Verdict.mem_complaint]

/-- How rounds end is how one of them does. -/
theorem Ends.eq_iff {rounds : List Round} {verdict v : Verdict} (h : Ends rounds verdict)
    (hv : v ≠ .running) : verdict = v ↔ ∃ round ∈ rounds, round.turn.verdict = v := by
  obtain ⟨hrunning, rfl⟩ := h
  rcases List.eq_nil_or_concat rounds with rfl | ⟨rounds, round, rfl⟩
  · simp [hv.symm]
  · rw [List.concat_eq_append] at hrunning ⊢
    rw [List.dropLast_concat] at hrunning
    rw [List.getLast?_concat]
    constructor
    · rintro rfl
      exact ⟨round, by simp, rfl⟩
    · rintro ⟨other, hother, rfl⟩
      rcases List.mem_append.mp hother with hother | hother
      · exact absurd (hrunning other hother) hv
      · rw [List.mem_singleton.mp hother]
        rfl

/-! ## The law of a repair -/

/-- Whether an event tells of a selection that gave no patch. -/
def isComplaint : Event → Bool
  | .selectionFailed _ => true
  | _ => false

/-- A repair tells its beginning, its rounds in order, and its end. -/
structure Narrates (r : Repairer) (label : String) (language : Language) (s : Session)
    (rounds : List Round) (o : RepairOutcome) (t : Session) : Prop where
  events : t.events = s.events
    ++ [.span label, .repairStarted label language r.config.maxIterations]
    ++ rounds.flatMap (Round.events r language)
    ++ [.repairFinished label o.status o.iterations.length,
      .counted t.counters.sandboxRuns t.counters.timeouts t.counters.candidatesEvaluated
        t.counters.patchesCommitted]
  records : o.iterations = rounds.map (·.turn.record)
  reports : ∀ round ∈ rounds, round.Reports r language
  complains_iff : ∀ scores, .selectionFailed scores ∈ rounds.flatMap (Round.events r language) ↔
    o.reason = some (.noSuitablePatch scores)
  complains_last :
    (rounds.dropLast.flatMap (Round.events r language)).countP isComplaint = 0
  complains_once : (rounds.flatMap (Round.events r language)).countP isComplaint ≤ 1

theorem countP_told (round : Round) :
    (round.events r language).countP isComplaint
      = round.turn.verdict.complaint.countP isComplaint := by
  have hscores : ((round.scored r language).map tellsScore).countP isComplaint = 0 := by
    rw [List.countP_map]
    exact List.countP_eq_zero.mpr fun _ _ => Bool.false_ne_true
  rw [Round.events, Round.told, List.countP_append, List.countP_append, hscores, Nat.zero_add]
  rfl

theorem countP_complaint_le (verdict : Verdict) : verdict.complaint.countP isComplaint ≤ 1 := by
  unfold Verdict.complaint
  split
  · exact Nat.le_refl 1
  · exact Nat.zero_le 1

/-- Rounds before the last one do not complain. -/
theorem Ends.countP_earlier {rounds : List Round} {verdict : Verdict} (h : Ends rounds verdict) :
    (rounds.dropLast.flatMap (Round.events r language)).countP isComplaint = 0 := by
  refine List.countP_eq_zero.mpr fun event hevent hcomplaint => ?_
  obtain ⟨round, hround, hevent⟩ := List.mem_flatMap.mp hevent
  cases event with
  | selectionFailed scores =>
      cases (h.running round hround).symm.trans (Round.mem_events.mp hevent)
  | _ => cases hcomplaint

theorem Ends.countP_le {rounds : List Round} {verdict : Verdict} (h : Ends rounds verdict) :
    (rounds.flatMap (Round.events r language)).countP isComplaint ≤ 1 := by
  have hnone : (rounds.dropLast.flatMap (Round.events r language)).countP isComplaint = 0 :=
    h.countP_earlier
  rcases List.eq_nil_or_concat rounds with rfl | ⟨rounds, round, rfl⟩
  · exact Nat.zero_le 1
  · rw [List.concat_eq_append] at hnone ⊢
    rw [List.dropLast_concat] at hnone
    rw [List.flatMap_append, List.countP_append, hnone, Nat.zero_add, List.flatMap_singleton,
      countP_told]
    exact countP_complaint_le _

theorem events_tellStart (s : Session) : (r.tellStart label language s).2.events
    = s.events ++ [.span label, .repairStarted label language r.config.maxIterations] :=
  List.append_assoc s.events [.span label] _

theorem Verdict.reason_eq_iff {budget : Nat} {verdict : Verdict} {scores : List CandidateScore} :
    (verdict.outcome budget).2 = some (.noSuitablePatch scores) ↔
      verdict = .failed (.noSuitablePatch scores) := by
  cases verdict <;> simp [Verdict.outcome]

/-- Every repair tells its history: its beginning, then of each round the scores of the candidates
that it evaluated, in the order in which they were declared, that none of them was worth it if it
stopped for that, and its end; then the end of the repair, and the counters. -/
theorem repair_narrates (r : Repairer) (label : String) (language : Language) (source : String)
    (s : Session) :
    Narrates r label language s (r.rounds label language source s)
      (r.repair label language source s).1 (r.repair label language source s).2 := by
  obtain ⟨verdict, last, t', hlinked, hends, ht, houtcome, -, hrecords⟩ :=
    repair_runs (Prod.eta (r.repair label language source s)).symm
  obtain ⟨hreports, hevents⟩ := hlinked.reports
  refine ⟨?_, hrecords, hreports, fun scores => ?_, hends.countP_earlier, hends.countP_le⟩
  · rw [ht]
    dsimp only [closing]
    rw [hevents, events_tellStart]
  · have hreason := congrArg Prod.snd houtcome
    dsimp only at hreason
    have hv : Verdict.failed (.noSuitablePatch scores) ≠ .running := nofun
    rw [hreason, Verdict.reason_eq_iff, hends.eq_iff hv, List.mem_flatMap]
    exact exists_congr fun round => and_congr_right fun _ => Round.mem_events

end Repairer

end Remedy
