import Remedy.Proofs.Repair.Frame

/-!
# The rounds of a repair

A round is an iteration as it happened, with the log before and after it. The rounds of a repair are
linked, each carrying on what the last one left (`Linked`), and they go on until one has a verdict
(`Ends`); the records of a repair, its status and its final text are theirs (`repair_runs`). A law of
all rounds is an induction over the links.
-/

namespace Remedy

open Repairing

namespace Repairer

/-- An iteration as it happened: what it carried on, the log before it, what it gave, and the log
after it. -/
structure Round where
  progress : Progress
  opened : Session
  turn : Turn
  closed : Session

def tellTurn (index : Nat) (turn : Turn) : Repairing Unit :=
  tell (.iterationFinished index turn.record.status (turn.record.appliedPatch.map (·.id)))

/-- The rounds of up to `left` further iterations, the first of them numbered `index`. -/
def roundsFrom (r : Repairer) (label : String) (language : Language) :
    (left index : Nat) → Progress → Session → List Round
  | 0, _, _, _ => []
  | left + 1, index, p, s =>
    let (turn, t) := r.iterate index label language p s
    ⟨p, s, turn, t⟩ ::
      match turn.verdict with
      | .running =>
        roundsFrom r label language left (index + 1) turn.progress (tellTurn index turn t).2
      | _ => []

def tellStart (r : Repairer) (label : String) (language : Language) : Repairing Unit := do
  tell (.span label)
  tell (.repairStarted label language r.config.maxIterations)

def rounds (r : Repairer) (label : String) (language : Language) (source : String) (s : Session) :
    List Round :=
  r.roundsFrom label language r.config.maxIterations 1 { current := source }
    (r.tellStart label language s).2

variable {r : Repairer} {index : Nat} {label : String} {language : Language} {s t : Session}

theorem length_roundsFrom (left index : Nat) (p : Progress) (s : Session) :
    (r.roundsFrom label language left index p s).length ≤ left := by
  induction left generalizing index p s with
  | zero => exact Nat.le_refl 0
  | succ left ih =>
      obtain ⟨turn, t, hstep⟩ : ∃ turn t, r.iterate index label language p s = (turn, t) :=
        ⟨_, _, rfl⟩
      rw [roundsFrom, hstep]
      dsimp only
      rw [List.length_cons]
      split
      · exact Nat.succ_le_succ (ih ..)
      · exact Nat.succ_le_succ (Nat.zero_le left)

/-! ## Linked rounds -/

/-- Rounds that follow each other, up to what the last one carries on and the log after it. -/
inductive Linked (r : Repairer) (label : String) (language : Language) :
    (index : Nat) → Progress → Session → List Round → Progress → Session → Prop
  | done {index : Nat} {p : Progress} {s : Session} : Linked r label language index p s [] p s
  | step {index : Nat} {p last : Progress} {turn : Turn} {s t u v : Session} {rounds : List Round}
      (iterates : Iterates r index label language p s turn t)
      (told : tellTurn index turn t = ((), u))
      (rest : Linked r label language (index + 1) turn.progress u rounds last v) :
      Linked r label language index p s (⟨p, s, turn, t⟩ :: rounds) last v

theorem iterations_linked {left : Nat} {p last : Progress} {records : List IterationRecord}
    {verdict : Verdict}
    (h : r.iterations label language left index p s = ((records, verdict, last), t)) :
    Linked r label language index p s (r.roundsFrom label language left index p s) last t
      ∧ records = (r.roundsFrom label language left index p s).map (·.turn.record) := by
  induction left generalizing index p s records with
  | zero =>
      obtain ⟨heq, rfl⟩ := of_pure h
      cases heq
      exact ⟨.done, rfl⟩
  | succ left ih =>
      obtain ⟨turn, s₁, h₁, h⟩ := of_bind h
      obtain ⟨_, s₂, h₂, h⟩ := of_bind h
      have step := iterate_iterates h₁
      have told : tellTurn index turn s₁ = ((), s₂) := h₂
      rw [roundsFrom, h₁]
      dsimp only
      rw [told, List.map_cons]
      -- only a verdict that keeps the repair running opens another round
      cases hv : turn.verdict with
      | running =>
          simp only [hv] at h
          obtain ⟨⟨others, v, q⟩, s₃, h₃, h⟩ := of_bind h
          obtain ⟨heq, rfl⟩ := of_pure h
          cases heq
          obtain ⟨hrest, rfl⟩ := ih h₃
          exact ⟨.step step told hrest, rfl⟩
      | succeeded =>
          simp only [hv] at h
          obtain ⟨heq, rfl⟩ := of_pure h
          cases heq
          exact ⟨.step step told .done, rfl⟩
      | failed reason =>
          simp only [hv] at h
          obtain ⟨heq, rfl⟩ := of_pure h
          cases heq
          exact ⟨.step step told .done, rfl⟩

/-! ## The end of the rounds -/

/-- Rounds go on until one of them has a verdict, and that is how they end. -/
structure Ends (rounds : List Round) (verdict : Verdict) : Prop where
  running : ∀ round ∈ rounds.dropLast, round.turn.verdict = .running
  last : verdict = (rounds.getLast?.map (·.turn.verdict)).getD .running

theorem Ends.cons {round : Round} {rounds : List Round} {verdict : Verdict}
    (hround : round.turn.verdict = .running) (h : Ends rounds verdict) :
    Ends (round :: rounds) verdict := by
  cases rounds with
  | nil => exact ⟨List.forall_mem_nil _, h.last.trans hround.symm⟩
  | cons next rounds =>
      refine ⟨?_, ?_⟩
      · rw [List.dropLast_cons_cons]
        exact List.forall_mem_cons.mpr ⟨hround, h.running⟩
      · rw [List.getLast?_cons_cons]
        exact h.last

theorem iterations_ends {left : Nat} {p last : Progress} {records : List IterationRecord}
    {verdict : Verdict}
    (h : r.iterations label language left index p s = ((records, verdict, last), t)) :
    Ends (r.roundsFrom label language left index p s) verdict := by
  induction left generalizing index p s records with
  | zero =>
      obtain ⟨heq, rfl⟩ := of_pure h
      cases heq
      exact ⟨List.forall_mem_nil _, rfl⟩
  | succ left ih =>
      obtain ⟨turn, s₁, h₁, h⟩ := of_bind h
      obtain ⟨_, s₂, h₂, h⟩ := of_bind h
      have told : tellTurn index turn s₁ = ((), s₂) := h₂
      rw [roundsFrom, h₁]
      dsimp only
      rw [told]
      cases hv : turn.verdict with
      | running =>
          simp only [hv] at h
          obtain ⟨⟨others, v, q⟩, s₃, h₃, h⟩ := of_bind h
          obtain ⟨heq, rfl⟩ := of_pure h
          cases heq
          exact .cons hv (ih h₃)
      | succeeded =>
          simp only [hv] at h
          obtain ⟨heq, rfl⟩ := of_pure h
          cases heq
          exact ⟨List.forall_mem_nil _, hv.symm⟩
      | failed reason =>
          simp only [hv] at h
          obtain ⟨heq, rfl⟩ := of_pure h
          cases heq
          exact ⟨List.forall_mem_nil _, hv.symm⟩

/-! ## Repairs -/

/-- What a repair tells when its rounds are over. -/
def closing (label : String) (o : RepairOutcome) (k : Counters) : List Event :=
  [.repairFinished label o.status o.iterations.length,
    .counted k.sandboxRuns k.timeouts k.candidatesEvaluated k.patchesCommitted]

/-- A repair is its rounds, linked from its text on, between its first and its last events. -/
theorem repair_runs {source : String} {o : RepairOutcome}
    (h : r.repair label language source s = (o, t)) :
    ∃ verdict last t',
      Linked r label language 1 { current := source } (r.tellStart label language s).2
          (r.rounds label language source s) last t'
        ∧ Ends (r.rounds label language source s) verdict
        ∧ t = { t' with events := t'.events ++ closing label o t'.counters }
        ∧ (o.status, o.reason) = verdict.outcome r.config.maxIterations
        ∧ o.finalSource = last.current
        ∧ o.iterations = (r.rounds label language source s).map (·.turn.record) := by
  unfold repair at h
  obtain ⟨_, s₁, h₁, h⟩ := of_bind h
  obtain ⟨_, s₂, h₂, h⟩ := of_bind h
  obtain ⟨⟨records, verdict, last⟩, s₃, h₃, h⟩ := of_bind h
  obtain ⟨_, s₄, h₄, h⟩ := of_bind h
  obtain ⟨_, s₅, h₅, h⟩ := of_bind h
  obtain ⟨rfl, rfl⟩ := of_pure h
  obtain rfl := of_tell h₁
  obtain rfl := of_tell h₂
  obtain rfl := of_tell h₄
  obtain rfl := of_tell h₅
  obtain ⟨hlinked, hrecords⟩ := iterations_linked h₃
  refine ⟨verdict, last, s₃, hlinked, iterations_ends h₃, ?_, rfl, rfl, hrecords⟩
  simp only [closing, List.append_assoc, List.cons_append, List.nil_append]

theorem repair_linked {source : String} {o : RepairOutcome}
    (h : r.repair label language source s = (o, t)) :
    ∃ s' last t', s'.calls = s.calls ∧ s'.backups = s.backups
      ∧ Linked r label language 1 { current := source } s' (r.rounds label language source s) last t'
      ∧ t.calls = t'.calls ∧ t.backups = t'.backups ∧ o.finalSource = last.current
      ∧ o.iterations = (r.rounds label language source s).map (·.turn.record) := by
  obtain ⟨verdict, last, t', hlinked, -, rfl, -, hfinal, hrecords⟩ := repair_runs h
  exact ⟨(r.tellStart label language s).2, last, t', rfl, rfl, hlinked, rfl, rfl, hfinal, hrecords⟩

theorem repair_iterations (r : Repairer) (label : String) (language : Language) (source : String)
    (s : Session) : (r.repair label language source s).1.iterations
      = (r.rounds label language source s).map (·.turn.record) := by
  obtain ⟨s', last, t', -, -, -, -, -, -, hrecords⟩ :=
    repair_linked (Prod.eta (r.repair label language source s)).symm
  exact hrecords

end Repairer

end Remedy
