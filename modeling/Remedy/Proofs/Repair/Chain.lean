import Remedy.Proofs.Repair.Untried

/-!
# The chain of commits

A round that commits takes one backup, of the text that it began with, and carries on the text of the
candidate that it selected; any other round leaves the text and the backups as they are
(`Iterates.commits_or_leaves`). By induction over the rounds, the backups of a repair are its text
and the committed texts but the last, which is its result (`repair_commitChain`). What the sink
answers plays no part in this (`repair_sink`).
-/

namespace Remedy

open Repairing

namespace Repairer

variable {r : Repairer} {index : Nat} {label : String} {language : Language} {s t : Session}

/-! ## Backups of a round -/

theorem backUp_eq (sink : BackupSink) (backup : Backup) (s : Session) :
    backUp sink backup s = ((), { s with backups := s.backups ++ [backup] }) := by
  unfold backUp
  split <;> rfl

theorem Backed.backups {p : Progress} (h : Backed r label p s t) :
    t.backups = s.backups ++ [⟨label, p.current⟩] := by
  obtain ⟨s₁, h₁, h₂⟩ := h
  rw [backUp_eq] at h₁
  obtain ⟨-, rfl⟩ := Prod.mk.inj h₁
  obtain rfl := of_count h₂
  rfl

theorem Commits.backups {d : ErrorRecord} {p : Progress} {best : Scored} {turn : Turn}
    (h : Commits r index label language d p best s turn t) :
    t.backups = s.backups ++ [⟨label, p.current⟩] := by
  cases h with
  | retrying backed dirty => exact backed.backups
  | unsettled backed clean check left =>
      rw [((logicalDiagnosis_onlyRuns r _).keeps check).backups, backed.backups]
  | settled backed clean check =>
      rw [((logicalDiagnosis_onlyRuns r _).keeps check).backups, backed.backups]

theorem backups_of_generate {generators : GeneratorTable} {request : Request}
    {candidates : List Candidate} (h : generate generators language request s = (candidates, t)) :
    t.backups = s.backups := by
  unfold generate at h
  split at h <;> obtain ⟨-, rfl⟩ := Prod.mk.inj h <;> rfl

theorem Selects.backups {p : Progress} {baseline : RunResult} {d : ErrorRecord}
    {candidates : List Candidate} {selection : Selection}
    (h : Selects r language p baseline d s candidates selection t) : t.backups = s.backups := by
  obtain ⟨generated, s₁, h₁, -, h₂⟩ := h
  rw [((selectAgainst_onlyRuns _ _).keeps h₂).backups, backups_of_generate h₁]

/-! ## Rounds that commit and rounds that do not -/

/-- A round made a selection among its candidates, against the run of the text that it began with,
and this candidate is its best. -/
def Round.Selected (r : Repairer) (language : Language) (round : Round) (best : Scored) : Prop :=
  ∃ baseline s₁ selection t₁ before after,
    Grows r.executor language r.config.limits round.opened s₁ before
      ∧ before.head? = some ⟨.current, round.progress.current, .ok baseline⟩
      ∧ selectAgainst r.executor language r.config.limits (round.candidates r language) baseline s₁
        = (some selection, t₁)
      ∧ Grows r.executor language r.config.limits t₁ round.closed after
      ∧ selection.best = best

/-- A round committed a candidate: the best of its selection, for a positive score. The text that it
began with was backed up, and that of the candidate is carried on. -/
structure Round.Committed (r : Repairer) (label : String) (language : Language) (round : Round)
    (best : Scored) : Prop where
  selected : round.Selected r language best
  positive : 0 < best.score
  patch : round.turn.record.appliedPatch = some (.of best)
  status : round.turn.record.status ≠ .failed
  current : round.turn.progress.current = best.candidate.patched
  backups : round.closed.backups = round.opened.backups ++ [⟨label, round.progress.current⟩]

/-- A round committed nothing and left the text and the backups as they were. -/
structure Round.Leaves (round : Round) : Prop where
  patch : round.turn.record.appliedPatch = none
  current : round.turn.progress.current = round.progress.current
  backups : round.closed.backups = round.opened.backups

theorem Treats.commits_or_leaves {p : Progress} {baseline : RunResult} {d : ErrorRecord}
    {turn : Turn} {s₀ : Session} {before : List Call}
    (h : Treats r index label language p baseline d s turn t) (hk : Keeps s₀ s)
    (hg : Grows r.executor language r.config.limits s₀ s before)
    (hhead : before.head? = some ⟨.current, p.current, .ok baseline⟩) :
    (∃ best, Round.Committed r label language ⟨p, s₀, turn, t⟩ best)
      ∨ Round.Leaves ⟨p, s₀, turn, t⟩ := by
  cases h with
  | untreated proposed none =>
      exact .inr ⟨rfl, rfl, (backups_of_generate proposed).trans hk.backups⟩
  | unsuitable selects worthless told =>
      obtain rfl := of_tell told
      exact .inr ⟨rfl, rfl, selects.backups.trans hk.backups⟩
  | @committed candidates selection t₁ _ _ selects worth commits =>
      have hcandidates := selects.runs.1
      have hbackups := commits.backups.trans (congrArg (· ++ _) (selects.backups.trans hk.backups))
      obtain ⟨checks, hg', -⟩ := commits.grows
      obtain ⟨status, verdict, rfl, hstatus⟩ := commits.eq_committed
      refine .inl ⟨selection.best, ?_, worth, rfl, hstatus, rfl, hbackups⟩
      obtain ⟨generated, s₁, h₁, -, h₂⟩ := selects
      refine ⟨baseline, s₁, selection, t₁, before, checks, ?_, hhead, ?_, hg', rfl⟩
      · simpa only [List.append_nil] using hg.trans (Grows.of_generate h₁)
      · rw [hcandidates, hk.requests] at h₂
        exact h₂

theorem Iterates.commits_or_leaves {p : Progress} {turn : Turn}
    (h : Iterates r index label language p s turn t) :
    (∃ best, Round.Committed r label language ⟨p, s, turn, t⟩ best)
      ∨ Round.Leaves ⟨p, s, turn, t⟩ := by
  rcases h.idles_or_treats with idles | ⟨result, d, u, diagnoses, treats⟩
  · exact .inr ⟨idles.patch, congrArg Progress.current idles.progress, idles.keeps.backups⟩
  · obtain ⟨checks, hg, -⟩ := diagnoses.grows
    exact treats.commits_or_leaves diagnoses.keeps hg rfl

/-! ## The chain -/

/-- Whether a round committed a patch, by its record. -/
def Round.patches (round : Round) : Bool := round.turn.record.appliedPatch.isSome

theorem Round.Committed.patches {round : Round} {best : Scored}
    (h : round.Committed r label language best) : round.patches = true := by
  rw [Round.patches, h.patch]
  rfl

theorem Round.Leaves.not_patches {round : Round} (h : round.Leaves) : ¬ round.patches = true := by
  rw [Round.patches, h.patch]
  exact Bool.false_ne_true

/-- The backups of a chain of texts that replace each other. -/
def chainBackups (label source : String) (commits : List Scored) : List Backup :=
  (source :: commits.map (·.candidate.patched)).dropLast.map (⟨label, ·⟩)

/-- The text that a chain of commits leaves. -/
def chainText (source : String) (commits : List Scored) : String :=
  (commits.map (·.candidate.patched)).getLastD source

theorem chainBackups_cons (label source : String) (best : Scored) (commits : List Scored) :
    chainBackups label source (best :: commits)
      = ⟨label, source⟩ :: chainBackups label best.candidate.patched commits := rfl

theorem chainText_cons (source : String) (best : Scored) (commits : List Scored) :
    chainText source (best :: commits) = chainText best.candidate.patched commits := by
  rw [chainText, List.map_cons, List.getLastD_cons]
  rfl

/-- Rounds that begin with a text and a log commit a chain of candidates, each of which replaces the
text that the one before it gave; the text that it replaces is backed up. -/
structure CommitChain (r : Repairer) (label : String) (language : Language) (source : String)
    (s : Session) (rounds : List Round) (final : String) (t : Session) (commits : List Scored) :
    Prop where
  /-- The rounds with an applied patch committed these candidates, one each. -/
  committed : List.Forall₂ (Round.Committed r label language) (rounds.filter Round.patches) commits
  patches : (rounds.map (·.turn.record)).filterMap (·.appliedPatch) = commits.map .of
  final_eq : final = chainText source commits
  backups : t.backups = s.backups ++ chainBackups label source commits
  /-- Each backup is of the text that the round with the patch began with. -/
  in_effect : t.backups
    = s.backups ++ (rounds.filter Round.patches).map fun round => ⟨label, round.progress.current⟩
  failed : ∀ round ∈ rounds, round.turn.record.status = .failed → round.Leaves

theorem Linked.commitChain {p last : Progress} {rounds : List Round}
    (h : Linked r label language index p s rounds last t) :
    ∃ commits, CommitChain r label language p.current s rounds last.current t commits := by
  induction h with
  | done =>
      exact ⟨[], .nil, rfl, rfl, (List.append_nil _).symm, (List.append_nil _).symm,
        List.forall_mem_nil _⟩
  | @step index p last turn s t u v rounds iterates told rest ih =>
      -- the later rounds begin with the text that this one leaves: the same one, or the committed one
      obtain ⟨commits, hcommitted, hpatches, htext, hbackups, heffect, hfailed⟩ := ih
      obtain rfl := of_tell told
      rcases iterates.commits_or_leaves with ⟨best, hround⟩ | hround
      · have hsome : Round.patches ⟨p, s, turn, t⟩ = true := hround.patches
        have hcurrent : turn.progress.current = best.candidate.patched := hround.current
        have hopened : t.backups = s.backups ++ [⟨label, p.current⟩] := hround.backups
        have hpatch : turn.record.appliedPatch = some (.of best) := hround.patch
        refine ⟨best :: commits, ?_, ?_, ?_, ?_, ?_, ?_⟩
        · rw [List.filter_cons_of_pos hsome]
          exact .cons hround hcommitted
        · rw [List.map_cons, List.filterMap_cons_some hpatch, hpatches, List.map_cons]
        · rw [htext, hcurrent, chainText_cons]
        · rw [hbackups, hopened, chainBackups_cons, hcurrent, List.append_assoc]
          rfl
        · rw [heffect, hopened, List.filter_cons_of_pos hsome, List.append_assoc]
          rfl
        · exact List.forall_mem_cons.mpr ⟨fun hs => absurd hs hround.status, hfailed⟩
      · have hnone : ¬ Round.patches ⟨p, s, turn, t⟩ = true := hround.not_patches
        have hcurrent : turn.progress.current = p.current := hround.current
        have hopened : t.backups = s.backups := hround.backups
        have hpatch : turn.record.appliedPatch = none := hround.patch
        refine ⟨commits, ?_, ?_, ?_, ?_, ?_, ?_⟩
        · rw [List.filter_cons_of_neg hnone]
          exact hcommitted
        · rw [List.map_cons, List.filterMap_cons_none hpatch, hpatches]
        · rw [htext, hcurrent]
        · rw [hbackups, ← hopened, ← hcurrent]
        · rw [heffect, ← hopened, List.filter_cons_of_neg hnone]
        · exact List.forall_mem_cons.mpr ⟨fun _ => hround, hfailed⟩

/-! ## The sink -/

theorem backUp_sink (sink sink' : BackupSink) : backUp sink = backUp sink' := by
  funext backup s
  rw [backUp_eq, backUp_eq]

theorem commit_sink (r : Repairer) (sink : BackupSink) :
    ({ r with sink } : Repairer).commit = r.commit := by
  funext index label language d p best
  unfold commit
  rw [backUp_sink sink r.sink]
  rfl

theorem treat_sink (r : Repairer) (sink : BackupSink) :
    ({ r with sink } : Repairer).treat = r.treat := by
  funext index label language p result d
  unfold treat
  rw [commit_sink]

theorem iterate_sink (r : Repairer) (sink : BackupSink) :
    ({ r with sink } : Repairer).iterate = r.iterate := by
  funext index label language p
  unfold iterate
  rw [treat_sink]
  rfl

theorem iterations_sink (r : Repairer) (sink : BackupSink) (left index : Nat) (p : Progress) :
    ({ r with sink } : Repairer).iterations label language left index p
      = r.iterations label language left index p := by
  induction left generalizing index p with
  | zero => rfl
  | succ left ih =>
      unfold iterations
      rw [iterate_sink]
      simp only [ih]

/-- What the sink answers changes nothing at all. -/
theorem repair_sink (r : Repairer) (sink : BackupSink) (label : String) (language : Language)
    (source : String) :
    ({ r with sink } : Repairer).repair label language source = r.repair label language source := by
  unfold repair
  rw [iterations_sink]

/-! ## The law of a repair -/

/-- The commits of a repair are a chain from its text to its result, and no sink has any influence on
the outcome. -/
theorem repair_commitChain (r : Repairer) (label : String) (language : Language) (source : String)
    (s : Session) :
    (∃ commits,
        CommitChain r label language source s (r.rounds label language source s)
            (r.repair label language source s).1.finalSource
            (r.repair label language source s).2 commits
          ∧ (r.repair label language source s).1.appliedPatches = commits.map .of)
      ∧ (r.repair label language source s).1.iterations
        = (r.rounds label language source s).map (·.turn.record)
      ∧ ∀ sink sink' : BackupSink,
        (({ r with sink := sink } : Repairer).repair label language source s).1
          = (({ r with sink := sink' } : Repairer).repair label language source s).1 := by
  obtain ⟨s', last, t', -, hs, hlinked, -, ht, hfinal, hrecords⟩ :=
    repair_linked (Prod.eta (r.repair label language source s)).symm
  obtain ⟨commits, hchain⟩ := hlinked.commitChain
  refine ⟨⟨commits, ⟨hchain.committed, hchain.patches, hfinal.trans hchain.final_eq, ?_, ?_,
    hchain.failed⟩, ?_⟩, hrecords, fun sink sink' => ?_⟩
  · rw [ht, hchain.backups, hs]
  · rw [ht, hchain.in_effect, hs]
  · rw [RepairOutcome.appliedPatches, hrecords, hchain.patches]
  · rw [repair_sink r sink, repair_sink r sink']

end Repairer

end Remedy
