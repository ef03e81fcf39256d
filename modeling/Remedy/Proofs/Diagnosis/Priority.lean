import Remedy.Proofs.Diagnosis.NormalForm
import Remedy.Proofs.Order.Stable

/-!
# What is repaired first

The normal form of findings goes by line and leaves the findings of one line in the order in which
they were come upon (`pairwise_normalize`), so that it is its own normal form. The finding to repair
first is the one of the best rank; of those the one on the earliest line, and of those the one that
was come upon first (`settled_normalize`).
-/

namespace Remedy

/-! ## Ranks -/

theorem FindingCategory.rank_of_rank? {c : FindingCategory} {r : Nat} (h : c.rank? = some r) :
    c.rank = r ∧ r < 255 := by
  have hlt : ∀ c : FindingCategory, ∀ r ∈ c.rank?, r < 255 := by
    intro c
    cases c <;> decide
  exact ⟨by rw [rank, h, Option.getD_some], hlt c r h⟩

/-! ## The first of the least -/

section Least

variable {α : Type} {key : α → Nat} {as : List α} {a : α}

theorem split_of_firstLeast? (h : firstLeast? key as = some a) :
    ∃ before after, as = before ++ a :: after ∧ (∀ b ∈ before, key a < key b)
      ∧ ∀ b ∈ after, key a ≤ key b := by
  induction as generalizing a with
  | nil => cases h
  | cons b as ih =>
      rw [firstLeast?] at h
      split at h
      · rename_i hrest
        obtain rfl := firstLeast?_eq_none_iff.mp hrest
        obtain rfl := Option.some.inj h
        exact ⟨[], [], rfl, List.forall_mem_nil _, List.forall_mem_nil _⟩
      · rename_i c hrest
        split at h
        · rename_i hle
          obtain rfl := Option.some.inj h
          refine ⟨[], as, rfl, List.forall_mem_nil _, fun d hd => ?_⟩
          exact Nat.le_trans hle (key_le_of_firstLeast? hrest hd)
        · rename_i hlt
          obtain rfl := Option.some.inj h
          obtain ⟨before, after, rfl, hbefore, hafter⟩ := ih hrest
          exact ⟨b :: before, after, rfl,
            List.forall_mem_cons.mpr ⟨Nat.lt_of_not_le hlt, hbefore⟩, hafter⟩

end Least

/-! ## First occurrences -/

section Distinct

variable {α κ : Type} [DecidableEq κ] {key : α → κ} {seen : List κ} {as : List α}

/-- What is kept stands in the order of the first occurrences. -/
theorem pairwise_idxOf_distinctBy [DecidableEq α] (key : α → κ) (seen : List κ) (as : List α) :
    (distinctBy key seen as).Pairwise fun a b => as.idxOf a < as.idxOf b := by
  induction as generalizing seen with
  | nil => exact .nil
  | cons c as ih =>
      -- what is kept of the rest differs from the head, so its position there is one less
      have hshift {known : List κ} (hc : key c ∈ known) :
          (distinctBy key known as).Pairwise fun a b => (c :: as).idxOf a < (c :: as).idxOf b := by
        have hne {a : α} (ha : a ∈ distinctBy key known as) : c ≠ a := by
          rintro rfl
          exact (mem_distinctBy.mp ha).1 hc
        refine (ih known).imp_of_mem fun ha hb hlt => ?_
        rw [List.idxOf_cons_ne _ (hne ha), List.idxOf_cons_ne _ (hne hb)]
        exact Nat.succ_lt_succ hlt
      rw [distinctBy]
      split
      · rename_i hseen
        exact hshift hseen
      · refine List.pairwise_cons.mpr ⟨fun b hb => ?_, hshift List.mem_cons_self⟩
        have hne : c ≠ b := by
          rintro rfl
          exact (mem_distinctBy.mp hb).1 List.mem_cons_self
        rw [List.idxOf_cons_self, List.idxOf_cons_ne _ hne]
        exact Nat.succ_pos _

theorem distinctBy_eq_self (hnodup : (as.map key).Nodup) (hnew : ∀ a ∈ as, key a ∉ seen) :
    distinctBy key seen as = as := by
  induction as generalizing seen with
  | nil => rfl
  | cons a as ih =>
      obtain ⟨ha, has⟩ := List.forall_mem_cons.mp hnew
      obtain ⟨hfirst, hrest⟩ := List.nodup_cons.mp hnodup
      rw [distinctBy, if_neg ha, ih hrest fun b hb hmem => ?_]
      rcases List.mem_cons.mp hmem with heq | hmem
      · exact hfirst (heq ▸ List.mem_map_of_mem hb)
      · exact has b hb hmem

theorem filter_eq_of_nodup {k : κ} (hnodup : (as.map key).Nodup) :
    as.filter (fun a => key a = k) = (as.find? fun a => key a = k).toList := by
  induction as with
  | nil => rfl
  | cons a as ih =>
      obtain ⟨hfirst, hrest⟩ := List.nodup_cons.mp hnodup
      by_cases hk : key a = k
      · have hnone : as.filter (fun a => key a = k) = [] := by
          refine List.filter_eq_nil_iff.mpr fun b hb heq => hfirst ?_
          rw [hk, ← of_decide_eq_true heq]
          exact List.mem_map_of_mem hb
        rw [List.filter_cons_of_pos (by simpa using hk), List.find?_cons_of_pos (by simpa using hk),
          hnone]
        rfl
      · rw [List.filter_cons_of_neg (by simpa using hk), List.find?_cons_of_neg (by simpa using hk),
          ih hrest]

end Distinct

/-! ## The order of the normal form -/

namespace Finding

variable {f g : Finding} {fs : List Finding}

/-- Of two findings, one stands on an earlier line, or was come upon first on the same line. -/
def Ahead (fs : List Finding) (f g : Finding) : Prop :=
  f.lineKey < g.lineKey ∨ f.lineKey = g.lineKey ∧ fs.idxOf f < fs.idxOf g

/-- The findings of one line are in the order in which they were come upon. -/
theorem filter_lineKey_normalize (fs : List Finding) (k : Nat) :
    (normalize fs).filter (·.lineKey = k) = (distinctBy place [] fs).filter (·.lineKey = k) := by
  refine filter_mergeSort (fun f g : Finding => f.lineKey ≤ g.lineKey) (fun f g hf hg => ?_) _
  rw [of_decide_eq_true hf, of_decide_eq_true hg]

theorem pairwise_normalize (fs : List Finding) : (normalize fs).Pairwise (Ahead fs) := by
  refine List.pairwise_iff_forall_sublist.mpr fun {f g} hfg => ?_
  have hle : f.lineKey ≤ g.lineKey :=
    List.pairwise_iff_forall_sublist.mp (pairwise_lineKey_normalize fs) hfg
  refine (Nat.lt_or_eq_of_le hle).imp_right fun heq => ⟨heq, ?_⟩
  -- findings of one line are as they were before sorting
  have hsub := hfg.filter (·.lineKey = g.lineKey)
  have hline : [f, g].filter (·.lineKey = g.lineKey) = [f, g] := by simp [heq]
  rw [filter_lineKey_normalize, hline] at hsub
  exact List.pairwise_iff_forall_sublist.mp (pairwise_idxOf_distinctBy place [] fs)
    (hsub.trans List.filter_sublist)

theorem normalize_normalize (fs : List Finding) : normalize (normalize fs) = normalize fs := by
  have hsame : distinctBy place [] (normalize fs) = normalize fs :=
    distinctBy_eq_self (nodup_normalize fs) fun _ _ => List.not_mem_nil
  conv_lhs => rw [normalize, hsame]
  exact List.mergeSort_of_pairwise ((pairwise_lineKey_normalize fs).imp decide_eq_true)

/-- Of each category and line the first finding is kept, and nothing else. -/
theorem filter_place_normalize (fs : List Finding) (p : FindingCategory × Option Nat) :
    (normalize fs).filter (·.place = p) = (fs.find? (·.place = p)).toList := by
  rw [filter_eq_of_nodup (nodup_normalize fs), find?_normalize]

/-! ## The finding to repair first -/

/-- A finding leads others: it has the best rank, and among those of its rank the earliest line, and
on that line it was come upon first. -/
structure Leads (fs : List Finding) (f : Finding) : Prop where
  mem : f ∈ fs
  /-- A category without a place in the order of repair gives way to every one that has a place. -/
  rank : ∀ g ∈ fs, ∀ r, g.category.rank? = some r → ∃ q ≤ r, f.category.rank? = some q
  line : ∀ g ∈ fs, g.category.rank? = f.category.rank? → f.lineKey ≤ g.lineKey
  first : ∀ g ∈ fs, g.category.rank? = f.category.rank? → g.lineKey = f.lineKey →
    fs.idxOf f ≤ fs.idxOf g

theorem Leads.rank_eq (hf : Leads fs f) (hg : Leads fs g) :
    f.category.rank? = g.category.rank? := by
  cases hfr : f.category.rank? with
  | some r =>
      obtain ⟨q, hqr, hgq⟩ := hg.rank f hf.mem r hfr
      obtain ⟨t, htq, hft⟩ := hf.rank g hg.mem q hgq
      obtain rfl : r = t := Option.some.inj (hfr.symm.trans hft)
      rw [hgq, Nat.le_antisymm hqr htq]
  | none =>
      cases hgr : g.category.rank? with
      | none => rfl
      | some r =>
          obtain ⟨q, -, hfq⟩ := hf.rank g hg.mem r hgr
          rw [hfr] at hfq
          cases hfq

theorem Leads.unique (hf : Leads fs f) (hg : Leads fs g) : f = g := by
  have hrank := hf.rank_eq hg
  have hline : f.lineKey = g.lineKey :=
    Nat.le_antisymm (hf.line g hg.mem hrank.symm) (hg.line f hf.mem hrank)
  have hidx : fs.idxOf f = fs.idxOf g :=
    Nat.le_antisymm (hf.first g hg.mem hrank.symm hline.symm) (hg.first f hf.mem hrank hline)
  exact (List.idxOf_inj hf.mem).mp hidx

/-- The finding that is kept in place of another one. -/
theorem exists_mem_normalize (hg : g ∈ fs) :
    ∃ kept ∈ normalize fs, kept.place = g.place ∧ fs.idxOf kept ≤ fs.idxOf g := by
  cases hfind : fs.find? fun f => f.place = g.place with
  | none => exact absurd (decide_eq_true rfl) (List.find?_eq_none.mp hfind g hg)
  | some kept =>
      have hplace : kept.place = g.place := key_of_find? hfind
      refine ⟨kept, mem_normalize.mpr ?_, hplace, idxOf_le_of_find? hfind (decide_eq_true rfl)⟩
      rw [hplace]
      exact hfind

theorem lineKey_of_place (h : f.place = g.place) : f.lineKey = g.lineKey := by
  have hline : f.line = g.line := congrArg Prod.snd h
  rw [lineKey, lineKey, hline]

theorem eq_or_ahead_of_topPriority? (h : topPriority? (normalize fs) = some f)
    (hg : g ∈ normalize fs) (hrank : g.category.rank = f.category.rank) :
    g = f ∨ Ahead fs f g := by
  obtain ⟨before, after, hsplit, hbefore, -⟩ := split_of_firstLeast? h
  have hordered := pairwise_normalize fs
  rw [hsplit] at hg hordered
  rcases List.mem_append.mp hg with hg | hg
  · exact absurd hrank (Nat.ne_of_gt (hbefore g hg))
  · refine (List.mem_cons.mp hg).imp_right fun hg => ?_
    exact (List.pairwise_cons.mp (List.pairwise_append.mp hordered).2.1).1 g hg

theorem leads_of_topPriority? (h : topPriority? (normalize fs) = some f) : Leads fs f := by
  have hmem : f ∈ fs := mem_of_mem_normalize (mem_of_firstLeast? h)
  -- each finding has its rank and line from one that is kept, and stands no earlier than that
  have hahead (g : Finding) (hg : g ∈ fs) (hrank : g.category.rank = f.category.rank) :
      f.lineKey < g.lineKey ∨ f.lineKey = g.lineKey ∧ fs.idxOf f ≤ fs.idxOf g := by
    obtain ⟨kept, hkept, hplace, hidx⟩ := exists_mem_normalize hg
    rw [← lineKey_of_place hplace]
    have hcategory : kept.category = g.category := congrArg Prod.fst hplace
    rcases eq_or_ahead_of_topPriority? h hkept (hcategory ▸ hrank) with rfl | hlt | ⟨heq, hlt⟩
    · exact .inr ⟨rfl, hidx⟩
    · exact .inl hlt
    · exact .inr ⟨heq, Nat.le_trans (Nat.le_of_lt hlt) hidx⟩
  refine ⟨hmem, fun g hg r hr => ?_, fun g hg hrank => ?_, fun g hg hrank hline => ?_⟩
  · obtain ⟨kept, hkept, hplace, -⟩ := exists_mem_normalize hg
    have hcategory : kept.category = g.category := congrArg Prod.fst hplace
    have hle := key_le_of_firstLeast? h hkept
    rw [hcategory] at hle
    obtain ⟨hg, hlt⟩ := FindingCategory.rank_of_rank? hr
    cases hf : f.category.rank? with
    | none =>
        rw [FindingCategory.rank, hf, Option.getD_none] at hle
        omega
    | some q =>
        rw [(FindingCategory.rank_of_rank? hf).1, hg] at hle
        exact ⟨q, hle, rfl⟩
  · rcases hahead g hg (congrArg (Option.getD · 255) hrank) with hlt | ⟨heq, -⟩
    · exact Nat.le_of_lt hlt
    · exact Nat.le_of_eq heq
  · rcases hahead g hg (congrArg (Option.getD · 255) hrank) with hlt | ⟨-, hle⟩
    · exact absurd hline (Nat.ne_of_gt hlt)
    · exact hle

theorem topPriority?_normalize_eq_none : topPriority? (normalize fs) = none ↔ fs = [] := by
  rw [topPriority?, firstLeast?_eq_none_iff]
  constructor
  · intro hnil
    refine List.eq_nil_iff_forall_not_mem.mpr fun g hg => ?_
    obtain ⟨kept, hkept, -⟩ := exists_mem_normalize hg
    rw [hnil] at hkept
    exact List.not_mem_nil hkept
  · rintro rfl
    exact List.mergeSort_nil

theorem topPriority?_normalize_eq_some : topPriority? (normalize fs) = some f ↔ Leads fs f := by
  refine ⟨leads_of_topPriority?, fun hf => ?_⟩
  cases htop : topPriority? (normalize fs) with
  | none =>
      have hmem := hf.mem
      rw [topPriority?_normalize_eq_none.mp htop] at hmem
      cases hmem
  | some g => rw [(leads_of_topPriority? htop).unique hf]

/-- Findings in the order in which they are come upon, and what is kept of them: the first of each
category and line, in the order of the lines and on one line in that in which they were come upon;
nothing changes if that is done again, and the finding to repair first leads all that were found. -/
structure Settled (found kept : List Finding) : Prop where
  once : ∀ p, kept.filter (·.place = p) = (found.find? (·.place = p)).toList
  ordered : kept.Pairwise (Ahead found)
  again : normalize kept = kept
  nothing : topPriority? kept = none ↔ found = []
  leader : ∀ f, topPriority? kept = some f ↔ Leads found f

theorem settled_normalize (fs : List Finding) : Settled fs (normalize fs) where
  once := filter_place_normalize fs
  ordered := pairwise_normalize fs
  again := normalize_normalize fs
  nothing := topPriority?_normalize_eq_none
  leader _ := topPriority?_normalize_eq_some

end Finding

end Remedy
