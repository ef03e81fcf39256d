import Remedy.Proofs.Repair.Iteration

/-!
# What running programs leaves alone

A frame is a relation between sessions that holds along every run of a program (`Frame`). It then
holds along the check of a clean run (`Frame.logicalDiagnosis`) and, if counting keeps it too, along
the runs of candidates (`Frame.runCandidates`).

Requests are logged only where candidates are asked for, and backups only where one is taken. All
other parts of an iteration only run programs (`OnlyRuns`), and with them the whole diagnosis of a
text. So an iteration either treats what it diagnosed or has no effect but runs of its text
(`Iterates.idles_or_treats`).
-/

namespace Remedy

open Repairing

/-! ## Frames -/

/-- A relation between sessions that holds where nothing happens, along two parts of a repair if it
holds along each, and along every run of a program. -/
structure Frame (R : Session → Session → Prop) : Prop where
  refl : ∀ s, R s s
  trans : ∀ {s t u}, R s t → R t u → R s u
  run : ∀ executor language limits purpose source s,
    R s (run executor language limits purpose source s).2

/-- A relation holds along a part of a repair. -/
def Along (R : Session → Session → Prop) {α : Type} (p : Repairing α) : Prop := ∀ s, R s (p s).2

theorem Along.of_eq {R : Session → Session → Prop} {α : Type} {p : Repairing α} (hp : Along R p)
    {s t : Session} {a : α} (h : p s = (a, t)) : R s t := by
  have hs := hp s
  rwa [h] at hs

namespace Frame

variable {R : Session → Session → Prop} {α β : Type} {executor : Executor} {language : Language}
  {limits : Limits} {source : String}

theorem pure (frame : Frame R) (a : α) : Along R (pure a : Repairing α) := frame.refl

theorem bind (frame : Frame R) {p : Repairing α} {f : α → Repairing β} (hp : Along R p)
    (hf : ∀ a, Along R (f a)) : Along R (p >>= f) :=
  fun s => frame.trans (hp s) (hf _ _)

theorem runCandidate (frame : Frame R) (hcount : ∀ change, Along R (count change))
    (c : Candidate) : Along R (Repairer.runCandidate executor language limits c) := by
  unfold Repairer.runCandidate
  refine frame.bind (hcount _) fun _ => frame.bind (frame.run _ _ _ _ _) fun answer => ?_
  change Along R (if (Repairer.candidateResult language answer).timedOut = true then _ else _)
  split
  · exact frame.bind (hcount _) fun _ => frame.pure _
  · exact frame.pure _

theorem runCandidates (frame : Frame R) (hcount : ∀ change, Along R (count change))
    (cs : List Candidate) : Along R (Repairer.runCandidates executor language limits cs) := by
  induction cs with
  | nil => exact frame.pure _
  | cons c cs ih =>
      exact frame.bind (frame.runCandidate hcount c) fun _ =>
        frame.bind ih fun _ => frame.pure _

theorem noteTimeout (frame : Frame R) (hcount : ∀ change, Along R (count change))
    (result : RunResult) : Along R (Repairer.noteTimeout result) := by
  unfold Repairer.noteTimeout
  split
  · exact hcount _
  · exact frame.pure _

theorem runCases (frame : Frame R) (cases : List Cases.TestCase) :
    Along R (Repairer.runCases executor language limits source cases) := by
  induction cases with
  | nil => exact frame.pure _
  | cons case cases ih =>
      unfold Repairer.runCases
      split
      · exact ih
      · refine frame.bind (frame.run _ _ _ _ _) fun answer => ?_
        cases answer with
        | error fault => exact frame.pure _
        | ok result =>
            refine frame.bind ih fun rest => ?_
            cases rest <;> exact frame.pure _

theorem caseFindings (frame : Frame R) :
    Along R (Repairer.caseFindings executor language limits source) := by
  unfold Repairer.caseFindings
  split
  · refine frame.bind (frame.runCases _) fun results => ?_
    cases results <;> exact frame.pure _
  · exact frame.pure _

theorem logicalDiagnosis (frame : Frame R) (r : Repairer) (result : RunResult) :
    Along R (r.logicalDiagnosis language source result) := by
  rw [Repairer.logicalDiagnosis_eq]
  refine frame.bind ?_ fun _ => frame.pure _
  unfold Repairer.checkCases
  split
  · exact frame.caseFindings
  · exact frame.pure _

theorem examines (frame : Frame R) (hcount : ∀ change, Along R (count change)) {r : Repairer}
    {text : String} {s t : Session} {answer : Answer}
    (h : Repairer.Examines r language text s answer t) :
    R s t := by
  obtain ⟨s₁, h₁, h₂⟩ := h
  exact frame.trans ((hcount _).of_eq h₁) (Along.of_eq (frame.run _ _ _ _ _) h₂)

theorem starts (frame : Frame R) (hcount : ∀ change, Along R (count change)) {r : Repairer}
    {text : String} {s t : Session} {result : RunResult}
    (h : Repairer.Starts r language text s result t) : R s t := by
  obtain ⟨s₁, h₁, h₂⟩ := h.ran
  exact frame.trans (frame.examines hcount h₁) ((frame.noteTimeout hcount result).of_eq h₂)

theorem diagnoses (frame : Frame R) (hcount : ∀ change, Along R (count change)) {r : Repairer}
    {text : String} {s t : Session} {result : RunResult} {d : ErrorRecord}
    (h : Repairer.Diagnoses r language text s result d t) : R s t := by
  cases h with
  | crash starts dirty known => exact frame.starts hcount starts
  | defect starts clean check =>
      exact frame.trans (frame.starts hcount starts)
        ((frame.logicalDiagnosis r result).of_eq check)

end Frame

/-! ## Requests and backups -/

/-- The log of `t` has the requests and the backups of that of `s`. -/
structure Keeps (s t : Session) : Prop where
  requests : t.requests = s.requests
  backups : t.backups = s.backups

theorem Keeps.refl (s : Session) : Keeps s s := ⟨rfl, rfl⟩

theorem Keeps.trans {s t u : Session} (h : Keeps s t) (h' : Keeps t u) : Keeps s u :=
  ⟨h'.requests.trans h.requests, h'.backups.trans h.backups⟩

theorem frame_keeps : Frame Keeps := ⟨Keeps.refl, Keeps.trans, fun _ _ _ _ _ _ => ⟨rfl, rfl⟩⟩

/-- A part of a repair that asks for no candidates and takes no backup. -/
def OnlyRuns {α : Type} (p : Repairing α) : Prop := ∀ s, Keeps s (p s).2

namespace OnlyRuns

theorem keeps {α : Type} {p : Repairing α} (hp : OnlyRuns p) {s t : Session} {a : α}
    (h : p s = (a, t)) : Keeps s t :=
  Along.of_eq hp h

theorem tell (event : Event) : OnlyRuns (tell event) := fun _ => ⟨rfl, rfl⟩

theorem count (change : Counters → Counters) : OnlyRuns (count change) := fun _ => ⟨rfl, rfl⟩

end OnlyRuns

namespace Repairer

variable {executor : Executor} {language : Language} {limits : Limits} {source text : String}
  {r : Repairer} {index : Nat} {label : String} {s t u : Session}

theorem tellScores_onlyRuns (scored : List Scored) : OnlyRuns (tellScores scored) := by
  induction scored with
  | nil => exact frame_keeps.pure _
  | cons a scored ih => exact frame_keeps.bind (OnlyRuns.tell _) fun _ => ih

theorem selectAgainst_onlyRuns (cs : List Candidate) (baseline : RunResult) :
    OnlyRuns (selectAgainst executor language limits cs baseline) := by
  unfold selectAgainst
  split
  · exact frame_keeps.pure _
  · exact frame_keeps.bind (frame_keeps.runCandidates OnlyRuns.count cs) fun _ =>
      frame_keeps.bind (tellScores_onlyRuns _) fun _ => frame_keeps.pure _

theorem logicalDiagnosis_onlyRuns (r : Repairer) (result : RunResult) :
    OnlyRuns (r.logicalDiagnosis language source result) :=
  frame_keeps.logicalDiagnosis r result

/-! ## The diagnosis of a text -/

theorem Examines.keeps {answer : Answer} (h : Examines r language text s answer t) :
    Keeps s t :=
  frame_keeps.examines OnlyRuns.count h

theorem Starts.keeps {result : RunResult} (h : Starts r language text s result t) :
    Keeps s t :=
  frame_keeps.starts OnlyRuns.count h

theorem Diagnoses.keeps {result : RunResult} {d : ErrorRecord}
    (h : Diagnoses r language text s result d t) : Keeps s t :=
  frame_keeps.diagnoses OnlyRuns.count h

/-! ## Iterations without a diagnosis -/

/-- An iteration made no diagnosis: it ran its text and possibly harnesses, and that is all. -/
structure Idles (r : Repairer) (language : Language) (p : Progress) (s : Session) (turn : Turn)
    (t : Session) : Prop where
  diagnosis : turn.record.diagnosis = none
  patch : turn.record.appliedPatch = none
  progress : turn.progress = p
  keeps : Keeps s t
  grows : ∃ answer checks,
    Grows r.executor language r.config.limits s t (⟨.current, p.current, answer⟩ :: checks)
      ∧ ∀ c ∈ checks, isHarness c = true

theorem Examines.idles {p : Progress} {answer : Answer} {reason : FailureReason}
    (h : Examines r language p.current s answer t) :
    Idles r language p s (.failed index none reason p) t :=
  ⟨rfl, rfl, rfl, h.keeps, answer, [], h.grows, List.forall_mem_nil _⟩

/-- After a check of a clean run, an iteration is idle unless it treats what was found. -/
theorem Starts.idles_of_check {p : Progress} {result : RunResult} {turn : Turn}
    {found : Except RepairFault (Option ErrorRecord)} (h : Starts r language p.current s result t)
    (check : r.logicalDiagnosis language p.current result t = (found, u))
    (hd : turn.record.diagnosis = none) (hpatch : turn.record.appliedPatch = none)
    (hp : turn.progress = p) : Idles r language p s turn u := by
  obtain ⟨checks, hg, hharness, -⟩ := logicalDiagnosis_spec check
  exact ⟨hd, hpatch, hp, h.keeps.trans ((logicalDiagnosis_onlyRuns r result).keeps check),
    .ok result, checks, h.grows.trans hg, hharness⟩

theorem Iterates.idles_or_treats {p : Progress} {turn : Turn}
    (h : Iterates r index label language p s turn t) :
    Idles r language p s turn t
      ∨ ∃ result d u, Diagnoses r language p.current s result d u
        ∧ Treats r index label language p result d u turn t := by
  cases h with
  | faulted examines => exact .inl examines.idles
  | notStarted examines spawnFailed => exact .inl examines.idles
  | checkFaulted starts clean check => exact .inl (starts.idles_of_check check rfl rfl rfl)
  | clean starts clean check => exact .inl (starts.idles_of_check check rfl rfl rfl)
  | @undiagnosed result _ starts dirty unknown =>
      exact .inl ⟨rfl, rfl, rfl, starts.keeps, .ok result, [], starts.grows, List.forall_mem_nil _⟩
  | treated diagnoses treats => exact .inr ⟨_, _, _, diagnoses, treats⟩

end Repairer

end Remedy
