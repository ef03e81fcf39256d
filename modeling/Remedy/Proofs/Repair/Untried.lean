import Remedy.Proofs.Repair.Round

/-!
# No candidate is tried twice

A round runs exactly the candidates that are left of what was proposed in it, and marks exactly these
as tried (`Iterates.evaluates`). By induction over the rounds, what is marked after each of them are
the fingerprints of all texts run as candidates so far, no two of them the same
(`repair_neverRetries`).
-/

namespace Remedy

open Repairing

namespace Repairer

variable {r : Repairer} {index : Nat} {label : String} {language : Language} {s t u : Session}

/-! ## Texts that were run as candidates -/

def isCandidate (call : Call) : Bool := call.purpose = .candidate

/-- The texts that were run as candidates between two points of a log. -/
def evaluations (s t : Session) : List String :=
  ((t.calls.drop s.calls.length).filter isCandidate).map Call.source

theorem evaluations_of_grows {executor : Executor} {limits : Limits} {calls : List Call}
    (h : Grows executor language limits s t calls) :
    evaluations s t = (calls.filter isCandidate).map Call.source := by
  rw [evaluations, h.log, List.drop_left]

theorem evaluations_self (h : t.calls = s.calls) : evaluations s t = [] := by
  rw [evaluations, h, List.drop_length]
  rfl

theorem evaluations_append (h : s.calls <+: t.calls) (h' : t.calls <+: u.calls) :
    evaluations s u = evaluations s t ++ evaluations t u := by
  obtain ⟨a, ha⟩ := h
  obtain ⟨b, hb⟩ := h'
  have hst : t.calls.drop s.calls.length = a := by rw [← ha, List.drop_left]
  have htu : u.calls.drop t.calls.length = b := by rw [← hb, List.drop_left]
  have hsu : u.calls.drop s.calls.length = a ++ b := by
    rw [← hb, ← ha, List.append_assoc, List.drop_left]
  rw [evaluations, evaluations, evaluations, hst, htu, hsu, List.filter_append, List.map_append]

theorem filter_isCandidate_of_harness {calls : List Call} (h : ∀ c ∈ calls, isHarness c = true) :
    calls.filter isCandidate = [] := by
  refine List.filter_eq_nil_iff.mpr fun c hc => ?_
  have hpurpose : c.purpose = .harness := of_decide_eq_true (h c hc)
  simp [isCandidate, hpurpose]

/-- No candidates are run to diagnose a text. -/
theorem filter_isCandidate_of_diagnosis {text : String} {answer : Answer} {checks : List Call}
    (h : ∀ c ∈ checks, isHarness c = true) :
    ((⟨.current, text, answer⟩ : Call) :: checks).filter isCandidate = [] := by
  rw [List.filter_cons_of_neg (by simp [isCandidate]), filter_isCandidate_of_harness h]

theorem sources_of_runs {runs : List (Candidate × RunResult)} {calls : List Call}
    (h : List.Forall₂ (RunOf language) runs calls) :
    (calls.filter isCandidate).map Call.source = (runs.map Prod.fst).map Candidate.patched := by
  induction h with
  | nil => rfl
  | @cons run call runs calls hrun hrest ih =>
      rw [List.filter_cons_of_pos (by simp [isCandidate, hrun.purpose]), List.map_cons, ih,
        hrun.source]
      rfl

/-! ## The candidates of a round -/

/-- What is proposed for a request after earlier ones; nothing without a generator. -/
def proposals (r : Repairer) (language : Language) (earlier : List Request) (request : Request) :
    List Candidate :=
  match r.generators.get? language with
  | some generator => generator earlier request
  | none => []

/-- What was proposed in a round for the diagnosis that it made, if it made one. -/
def Round.proposed (r : Repairer) (language : Language) (round : Round) : List Candidate :=
  match round.turn.record.diagnosis with
  | some d => r.proposals language round.opened.requests
      ⟨d, round.progress.current, r.config.allowEfficiencyVariants⟩
  | none => []

/-- The candidates that are left of what was proposed in a round. -/
def Round.candidates (r : Repairer) (language : Language) (round : Round) : List Candidate :=
  Candidate.usable r.config.rules round.progress.current round.progress.tried
    r.config.maxCandidates (round.proposed r language)

def Round.cutOff (r : Repairer) (language : Language) (round : Round) : List Candidate :=
  Candidate.cutOff r.config.rules round.progress.current round.progress.tried
    r.config.maxCandidates (round.proposed r language)

/-- The texts that were run as candidates in a round. -/
def Round.evaluated (round : Round) : List String := evaluations round.opened round.closed

/-- A round runs the candidates that are left of what was proposed in it, and marks these as
tried. -/
structure Round.Evaluates (r : Repairer) (language : Language) (round : Round) : Prop where
  grows : round.opened.calls <+: round.closed.calls
  evaluated : round.evaluated = (round.candidates r language).map Candidate.patched
  tried : round.turn.progress.tried
    = round.progress.tried ++ (round.candidates r language).map Candidate.fingerprint

theorem eq_proposals_of_generate {request : Request} {generated : List Candidate}
    (h : generate r.generators language request s = (generated, t)) :
    generated = r.proposals language s.requests request := by
  cases hget : r.generators.get? language with
  | none =>
      simp only [generate, hget] at h
      simp only [proposals, hget]
      exact (Prod.mk.inj h).1.symm
  | some generator =>
      simp only [generate, hget] at h
      simp only [proposals, hget]
      exact (Prod.mk.inj h).1.symm

theorem Selects.runs {p : Progress} {baseline : RunResult} {d : ErrorRecord}
    {candidates : List Candidate} {selection : Selection}
    (h : Selects r language p baseline d s candidates selection t) :
    candidates = Candidate.usable r.config.rules p.current p.tried r.config.maxCandidates
        (r.proposals language s.requests ⟨d, p.current, r.config.allowEfficiencyVariants⟩)
      ∧ ∃ calls, Grows r.executor language r.config.limits s t calls
        ∧ (calls.filter isCandidate).map Call.source = candidates.map Candidate.patched := by
  obtain ⟨generated, s₁, h₁, rfl, h₂⟩ := h
  obtain ⟨runs, calls, hmap, hg, hruns, -⟩ := selectAgainst_spec h₂
  rw [eq_proposals_of_generate h₁] at hmap ⊢
  refine ⟨rfl, calls, (Grows.of_generate h₁).trans hg, ?_⟩
  rw [sources_of_runs hruns, hmap]

theorem Treats.evaluates {p : Progress} {baseline : RunResult} {d : ErrorRecord} {turn : Turn}
    (h : Treats r index label language p baseline d s turn t) :
    turn.record.diagnosis = some d ∧ ∃ calls candidates,
      Grows r.executor language r.config.limits s t calls
        ∧ candidates = Candidate.usable r.config.rules p.current p.tried r.config.maxCandidates
          (r.proposals language s.requests ⟨d, p.current, r.config.allowEfficiencyVariants⟩)
        ∧ (calls.filter isCandidate).map Call.source = candidates.map Candidate.patched
        ∧ turn.progress.tried = p.tried ++ candidates.map Candidate.fingerprint := by
  cases h with
  | untreated proposed none =>
      rw [eq_proposals_of_generate proposed] at none
      exact ⟨rfl, [], [], Grows.of_generate proposed, none.symm, rfl, (List.append_nil _).symm⟩
  | @unsuitable candidates selection t u selects worthless told =>
      obtain ⟨hcandidates, calls, hg, hsources⟩ := selects.runs
      refine ⟨rfl, calls, candidates, ?_, hcandidates, hsources, rfl⟩
      simpa only [List.append_nil] using hg.trans (Grows.of_tell told)
  | @committed candidates selection t u turn selects worth commits =>
      obtain ⟨hcandidates, calls, hg, hsources⟩ := selects.runs
      obtain ⟨checks, hg', hharness⟩ := commits.grows
      obtain ⟨status, verdict, rfl, -⟩ := commits.eq_committed
      refine ⟨rfl, calls ++ checks, candidates, hg.trans hg', hcandidates, ?_, rfl⟩
      rw [List.filter_append, filter_isCandidate_of_harness hharness, List.append_nil, hsources]

theorem Idles.evaluates {p : Progress} {turn : Turn} (h : Idles r language p s turn t) :
    Round.Evaluates r language ⟨p, s, turn, t⟩ := by
  obtain ⟨answer, checks, hg, hharness⟩ := h.grows
  have hnone : Round.candidates r language ⟨p, s, turn, t⟩ = [] := by
    rw [Round.candidates, Round.proposed, h.diagnosis, Candidate.usable_nil]
  refine ⟨⟨_, hg.log.symm⟩, ?_, ?_⟩
  · rw [hnone, Round.evaluated, evaluations_of_grows hg,
      filter_isCandidate_of_diagnosis hharness]
    rfl
  · rw [hnone, List.map_nil, List.append_nil]
    exact congrArg Progress.tried h.progress

theorem Iterates.evaluates {p : Progress} {turn : Turn}
    (h : Iterates r index label language p s turn t) :
    Round.Evaluates r language ⟨p, s, turn, t⟩ := by
  rcases h.idles_or_treats with idles | ⟨result, d, u, diagnoses, treats⟩
  · exact idles.evaluates
  · obtain ⟨checks, hg, hharness⟩ := diagnoses.grows
    obtain ⟨hd, calls, candidates, hg', hcandidates, hsources, htried⟩ := treats.evaluates
    -- the generator was asked after the diagnosis, which adds no request of its own
    rw [diagnoses.keeps.requests] at hcandidates
    have heq : Round.candidates r language ⟨p, s, turn, t⟩ = candidates := by
      rw [Round.candidates, Round.proposed, hd, hcandidates]
    have hgrows := hg.trans hg'
    refine ⟨⟨_, hgrows.log.symm⟩, ?_, ?_⟩
    · rw [heq, Round.evaluated, evaluations_of_grows hgrows, List.filter_append,
        filter_isCandidate_of_diagnosis hharness, List.nil_append, hsources]
    · rw [heq]
      exact htried

/-! ## What the rounds run -/

namespace Round.Evaluates

variable {round : Round}

theorem length_le (h : round.Evaluates r language) :
    round.evaluated.length ≤ r.config.maxCandidates := by
  rw [h.evaluated, List.length_map]
  exact Candidate.length_usable_le

theorem tried_eq (h : round.Evaluates r language) :
    round.turn.progress.tried
      = round.progress.tried ++ round.evaluated.map Digest.fingerprint := by
  rw [h.tried, h.evaluated, List.map_map]
  rfl

theorem nodup_tried (h : round.Evaluates r language) (hp : round.progress.tried.Nodup) :
    round.turn.progress.tried.Nodup := by
  rw [h.tried]
  refine hp.append (Candidate.nodup_usable ..) fun fingerprint hold hnew => ?_
  obtain ⟨c, hc, rfl⟩ := List.mem_map.mp hnew
  exact (Candidate.fingerprint_ne_of_mem_usable hc).2 hold

theorem not_mem_tried_of_cutOff (h : round.Evaluates r language) {c : Candidate}
    (hc : c ∈ round.cutOff r language) : c.fingerprint ∉ round.turn.progress.tried := by
  rw [h.tried]
  exact Candidate.fingerprint_not_mem_of_mem_cutOff hc

end Round.Evaluates

theorem Linked.evaluates {p last : Progress} {rounds : List Round}
    (h : Linked r label language index p s rounds last t) :
    ∀ round ∈ rounds, round.Evaluates r language := by
  induction h with
  | done => exact List.forall_mem_nil _
  | step iterates told rest ih => exact List.forall_mem_cons.mpr ⟨iterates.evaluates, ih⟩

/-- The rounds of a linked run make up its log, and what they mark as tried is what they ran. -/
structure TriesAll (p : Progress) (s : Session) (rounds : List Round) (last : Progress)
    (t : Session) : Prop where
  grows : s.calls <+: t.calls
  evaluated : evaluations s t = rounds.flatMap Round.evaluated
  last_tried : last.tried = p.tried ++ (evaluations s t).map Digest.fingerprint
  tried : ∀ round ∈ rounds, s.calls <+: round.closed.calls
    ∧ round.turn.progress.tried
      = p.tried ++ (evaluations s round.closed).map Digest.fingerprint
  nodup : p.tried.Nodup → last.tried.Nodup

theorem Linked.triesAll {p last : Progress} {rounds : List Round}
    (h : Linked r label language index p s rounds last t) : TriesAll p s rounds last t := by
  induction h with
  | @done index p s =>
      have hnone : evaluations s s = [] := evaluations_self rfl
      exact ⟨List.prefix_rfl, hnone, by rw [hnone, List.map_nil, List.append_nil],
        List.forall_mem_nil _, id⟩
  | @step index p last turn s t u v rounds iterates told rest ih =>
      have hround := iterates.evaluates
      have hgrows : s.calls <+: t.calls := hround.grows
      have hevaluated : evaluations s t = Round.evaluated ⟨p, s, turn, t⟩ := rfl
      have htried : turn.progress.tried = p.tried ++ (evaluations s t).map Digest.fingerprint :=
        hround.tried_eq
      obtain rfl := of_tell told
      -- the event at the end of the round leaves the calls as they are
      have hafter {w : Session} (hw : t.calls <+: w.calls) :
          p.tried ++ (evaluations s w).map Digest.fingerprint
            = turn.progress.tried ++ (evaluations t w).map Digest.fingerprint := by
        rw [evaluations_append hgrows hw, List.map_append, ← List.append_assoc, ← htried]
      refine ⟨hgrows.trans ih.grows, ?_, ?_, ?_, fun hp => ih.nodup (hround.nodup_tried hp)⟩
      · rw [evaluations_append hgrows ih.grows, hevaluated, List.flatMap_cons, ← ih.evaluated]
        rfl
      · rw [hafter ih.grows]
        exact ih.last_tried
      · refine List.forall_mem_cons.mpr ⟨⟨hgrows, htried⟩, fun round hr => ?_⟩
        obtain ⟨hlater, heq⟩ := ih.tried round hr
        refine ⟨hgrows.trans hlater, ?_⟩
        rw [hafter hlater]
        exact heq

/-! ## The law of a repair -/

/-- In a repair, from one point of a log to another, no candidate is run twice: the texts that its
rounds ran as candidates have distinct fingerprints, and after each round exactly these are marked as
tried. -/
structure NeverRetries (r : Repairer) (language : Language) (s t : Session) (rounds : List Round) :
    Prop where
  evaluated : evaluations s t = rounds.flatMap Round.evaluated
  fingerprints : ((evaluations s t).map Digest.fingerprint).Nodup
  texts : (evaluations s t).Nodup
  total : (evaluations s t).length ≤ r.config.maxIterations * r.config.maxCandidates
  /-- What a round runs are candidates that were proposed in it, by rules that may be used. -/
  candidates : ∀ round ∈ rounds,
    round.evaluated = (round.candidates r language).map Candidate.patched
      ∧ ∀ c ∈ round.candidates r language,
        c ∈ round.proposed r language ∧ r.config.rules.allows c.id = true
  bounded : ∀ round ∈ rounds, round.evaluated.length ≤ r.config.maxCandidates
  changed : ∀ round ∈ rounds, ∀ text ∈ round.evaluated,
    text ≠ round.progress.current
      ∧ Digest.fingerprint text ≠ Digest.fingerprint round.progress.current
  tried : ∀ round ∈ rounds,
    round.turn.progress.tried = (evaluations s round.closed).map Digest.fingerprint
  cutOff : ∀ round ∈ rounds, ∀ c ∈ round.cutOff r language,
    c.fingerprint ∉ round.turn.progress.tried

theorem length_flatMap_evaluated_le {rounds : List Round}
    (h : ∀ round ∈ rounds, round.evaluated.length ≤ r.config.maxCandidates) :
    (rounds.flatMap Round.evaluated).length ≤ rounds.length * r.config.maxCandidates := by
  induction rounds with
  | nil => exact Nat.zero_le _
  | cons round rounds ih =>
      rw [List.forall_mem_cons] at h
      rw [List.flatMap_cons, List.length_append, List.length_cons, Nat.succ_mul]
      have hrest := ih h.2
      omega

/-- No candidate is ever evaluated twice, whatever the executor and the generators answer. -/
theorem repair_neverRetries (r : Repairer) (label : String) (language : Language) (source : String)
    (s : Session) :
    NeverRetries r language s (r.repair label language source s).2
        (r.rounds label language source s)
      ∧ (r.repair label language source s).1.iterations
        = (r.rounds label language source s).map (·.turn.record) := by
  obtain ⟨s', last, t', hs, -, hlinked, ht, -, -, hrecords⟩ :=
    repair_linked (Prod.eta (r.repair label language source s)).symm
  refine ⟨?_, hrecords⟩
  have hfrom (w : Session) : evaluations s' w = evaluations s w := by
    rw [evaluations, evaluations, hs]
  have hall : evaluations s' t' = evaluations s (r.repair label language source s).2 := by
    rw [evaluations, evaluations, hs, ht]
  have hrounds := hlinked.evaluates
  have htries := hlinked.triesAll
  have hbounded := fun round hr => (hrounds round hr).length_le
  have hfingerprints := htries.nodup List.nodup_nil
  rw [htries.last_tried, List.nil_append, hall] at hfingerprints
  have hevaluated := hall.symm.trans htries.evaluated
  refine ⟨hevaluated, hfingerprints, hfingerprints.of_map _, ?_, fun round hr => ?_, hbounded,
    fun round hr text htext => ?_, fun round hr => ?_, fun round hr c hc => ?_⟩
  · rw [hevaluated]
    exact (length_flatMap_evaluated_le hbounded).trans
      (Nat.mul_le_mul_right _ (length_roundsFrom ..))
  · exact ⟨(hrounds round hr).evaluated, fun c hc => Candidate.mem_generated_of_mem_usable hc⟩
  · rw [(hrounds round hr).evaluated] at htext
    obtain ⟨c, hc, rfl⟩ := List.mem_map.mp htext
    have hne := (Candidate.fingerprint_ne_of_mem_usable hc).1
    exact ⟨fun heq => hne (congrArg Digest.fingerprint heq), hne⟩
  · rw [(htries.tried round hr).2, hfrom]
    rfl
  · exact (hrounds round hr).not_mem_tried_of_cutOff hc

end Repairer

end Remedy
