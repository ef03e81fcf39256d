import Remedy.Proofs.Repair.Chain

/-!
# What a repair comes back to

The texts that a repair commits are among those that it ran as candidates, so that no two of them are
the same, and each differs from the one that it replaces (`repair_succession`). The text that the
repair begins with is none of its candidates: it is the only one that can come back, once and after
another one, and it does where a patch and its inverse are proposed in turn (`source_comes_back`).
-/

namespace Remedy

open Repairing

namespace Repairer

variable {r : Repairer} {index : Nat} {label : String} {language : Language} {s t : Session}

/-! ## Successions of texts -/

/-- A text is replaced by one with another fingerprint. -/
def Replaces (old new : String) : Prop := Digest.fingerprint new ≠ Digest.fingerprint old

/-- Texts that replace a first text and each other in turn: no two of them have one fingerprint, and
none has that of the text which it replaces. -/
structure Succession (source : String) (texts : List String) : Prop where
  fingerprints : (texts.map Digest.fingerprint).Nodup
  replaces : (source :: texts).IsChain Replaces

/-- Of a succession only the first text comes back, and not at once. -/
theorem Succession.returns {source : String} {texts : List String} (h : Succession source texts)
    {i j : Nat} {text : String} (hlt : i < j) (hi : (source :: texts)[i]? = some text)
    (hj : (source :: texts)[j]? = some text) : i = 0 ∧ 1 < j := by
  obtain ⟨j, rfl⟩ : ∃ k, j = k + 1 := ⟨j - 1, by omega⟩
  rw [List.getElem?_cons_succ] at hj
  cases i with
  | succ i =>
      rw [List.getElem?_cons_succ] at hi
      have hlen : i < texts.length := (List.getElem?_eq_some_iff.mp hi).1
      have heq : i = j := (List.getElem?_inj hlen h.fingerprints.of_map).mp (hi.trans hj.symm)
      omega
  | zero =>
      refine ⟨rfl, ?_⟩
      cases texts with
      | nil => cases hj
      | cons next texts =>
          cases j with
          | succ j => omega
          | zero =>
              have hsource : source = text := Option.some.inj hi
              have hnext : next = text := Option.some.inj hj
              have hreplaces := (List.isChain_cons_cons.mp h.replaces).1
              exact absurd (by rw [hsource, hnext]) hreplaces

/-! ## The texts that rounds commit -/

/-- The texts that some rounds committed, in order. -/
def committedTexts (rounds : List Round) : List String :=
  (rounds.filter Round.patches).map (·.turn.progress.current)

/-- What a round commits is a candidate of its. -/
theorem Round.Committed.mem_candidates {round : Round} {best : Scored}
    (h : round.Committed r label language best) :
    best.candidate ∈ round.candidates r language := by
  obtain ⟨baseline, s₁, selection, t₁, before, after, -, -, hselect, -, rfl⟩ := h.selected
  obtain ⟨runs, calls, hmap, -, -, run, hrun, hbest⟩ := selectAgainst_spec hselect
  rw [hbest, ← hmap]
  exact List.mem_map_of_mem hrun

theorem Round.Committed.mem_evaluated {round : Round} {best : Scored}
    (h : round.Committed r label language best) (evaluates : round.Evaluates r language) :
    round.turn.progress.current ∈ round.evaluated := by
  rw [h.current, evaluates.evaluated]
  exact List.mem_map_of_mem h.mem_candidates

theorem Round.Committed.replaces {round : Round} {best : Scored}
    (h : round.Committed r label language best) :
    Replaces round.progress.current round.turn.progress.current := by
  rw [h.current]
  exact (Candidate.fingerprint_ne_of_mem_usable h.mem_candidates).1

/-- Rounds that begin with a text commit texts that they ran as candidates, each of which replaces
the one before it, up to a final one. -/
structure Passes (source : String) (rounds : List Round) (final : String) : Prop where
  ran : (committedTexts rounds).Sublist (rounds.flatMap Round.evaluated)
  replaces : (source :: committedTexts rounds).IsChain Replaces
  final_eq : final = (committedTexts rounds).getLastD source

theorem Linked.passes {p last : Progress} {rounds : List Round}
    (h : Linked r label language index p s rounds last t) :
    Passes p.current rounds last.current := by
  induction h with
  | done => exact ⟨List.Sublist.refl [], List.IsChain.singleton _, rfl⟩
  | @step index p last turn s t u v rounds iterates told rest ih =>
      -- the later rounds begin with the text that this one leaves: the same one, or the committed one
      have hevaluates := iterates.evaluates
      rcases iterates.commits_or_leaves with ⟨best, hround⟩ | hround
      · have hcons : committedTexts (⟨p, s, turn, t⟩ :: rounds)
            = turn.progress.current :: committedTexts rounds := by
          rw [committedTexts, List.filter_cons_of_pos hround.patches]
          rfl
        refine ⟨?_, ?_, ?_⟩
        · rw [hcons, List.flatMap_cons]
          exact (List.singleton_sublist.mpr (hround.mem_evaluated hevaluates)).append ih.ran
        · rw [hcons]
          exact List.isChain_cons_cons.mpr ⟨hround.replaces, ih.replaces⟩
        · rw [hcons, List.getLastD_cons]
          exact ih.final_eq
      · have hsame : committedTexts (⟨p, s, turn, t⟩ :: rounds) = committedTexts rounds := by
          rw [committedTexts, List.filter_cons_of_neg hround.not_patches]
          rfl
        have hcurrent : turn.progress.current = p.current := hround.current
        refine ⟨?_, ?_, ?_⟩
        · rw [hsame, List.flatMap_cons]
          exact ih.ran.trans (List.sublist_append_right ..)
        · rw [hsame, ← hcurrent]
          exact ih.replaces
        · rw [hsame, ← hcurrent]
          exact ih.final_eq

/-! ## The law of a repair -/

/-- The current texts of a repair, from its own one to its result, are a succession: none of them
comes back but the first, which does not come back at once, and only once. -/
theorem repair_succession (r : Repairer) (label : String) (language : Language) (source : String)
    (s : Session) :
    Succession source (committedTexts (r.rounds label language source s))
      ∧ (∀ i j text, i < j →
        (source :: committedTexts (r.rounds label language source s))[i]? = some text →
        (source :: committedTexts (r.rounds label language source s))[j]? = some text →
          i = 0 ∧ 1 < j)
      ∧ (r.repair label language source s).1.finalSource
        = (committedTexts (r.rounds label language source s)).getLastD source
      ∧ (r.repair label language source s).1.iterations
        = (r.rounds label language source s).map (·.turn.record) := by
  obtain ⟨s', last, t', -, -, hlinked, -, -, hfinal, hrecords⟩ :=
    repair_linked (Prod.eta (r.repair label language source s)).symm
  have htries := hlinked.triesAll
  have hpasses := hlinked.passes
  have htried : last.tried = ((r.rounds label language source s).flatMap Round.evaluated).map
      Digest.fingerprint := by
    rw [htries.last_tried, htries.evaluated]
    rfl
  have hnodup := htries.nodup List.nodup_nil
  rw [htried] at hnodup
  have hsuccession : Succession source (committedTexts (r.rounds label language source s)) :=
    ⟨hnodup.sublist (hpasses.ran.map _), hpasses.replaces⟩
  exact ⟨hsuccession, fun i j text => hsuccession.returns, hfinal.trans hpasses.final_eq, hrecords⟩

/-- A repairer that proposes to go and to come back, in a place where every program fails. -/
def shuttle : Repairer where
  executor _ language _ _ :=
    .ok { language, status := .completed, exitCode := 127, stdout := ""
          command := ["sh", "main.sh"], stderr := "main.sh: 1: x: not found\n" }
  generators := ⟨[(.shell, fun _ request =>
    [if request.source = "there\n" then
      .of "go" "" "there\n" "back\n" .correctness true
    else .of "return" "" "back\n" "there\n" .correctness true])]⟩
  sink _ _ := .ok ()
  config := {}

theorem source_comes_back :
    "there\n" :: committedTexts (shuttle.rounds "main.sh" .shell "there\n" {})
      = ["there\n", "back\n", "there\n"] := by
  decide +kernel

end Repairer

end Remedy
