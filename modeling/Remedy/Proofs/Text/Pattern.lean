import Remedy.Text.Pattern

/-!
# The first way to match

Where the first way to match is accepted by what follows, the others do not matter. `Takes p s rest
found` says that this way leads `p` past `s` and remembers `found`; it is put together along the
pattern, each part looking only at the text that comes next. `Fails p rest` says that there is no way
at all.

A pattern that has to start with a certain character passes over a text without it, so the matches in
a text can be read off piece by piece (`findAllFrom_append`, `findAllFrom_of_not_mem`).
-/

namespace Remedy.Text

/-- The place before the rest of a text. -/
def Place.facing (last : Option Char) (rest : List Char) (groups : List (Nat × List Char)) : Place :=
  ⟨last, rest, rest.length, groups⟩

/-- Before `rest`, the first way to match leads past `s` and remembers `found`, the latest group
first. -/
def Takes (p : Pattern) (s rest : List Char) (found : List (Nat × List Char)) : Prop :=
  ∀ before groups, ∃ last, ∀ {α : Type} (done : Place → Option α) (a : α),
    done (.facing last rest (found ++ groups)) = some a →
      p.run (.facing before (s ++ rest) groups) done = some a

/-- There is no way to match before `rest`. -/
def Fails (p : Pattern) (rest : List Char) : Prop :=
  ∀ before groups {α : Type} (done : Place → Option α), p.run (.facing before rest groups) done = none

section

variable {p q : Pattern} {ps : List Pattern} {test : Char → Bool} {s t rest : List Char}
  {found found' : List (Nat × List Char)}

theorem run_char (test : Char → Bool) (before : Option Char) (c : Char) (rest : List Char)
    (groups : List (Nat × List Char)) {α : Type} (done : Place → Option α) :
    (Pattern.char test).run (.facing before (c :: rest) groups) done
      = if test c then done (.facing (some c) rest groups) else none := rfl

theorem run_all_cons (p : Pattern) (ps : List Pattern) (place : Place) {α : Type}
    (done : Place → Option α) :
    (Pattern.all (p :: ps)).run place done = p.run place fun q => (Pattern.all ps).run q done := by
  cases ps <;> rfl

/-! ## Patterns that fail -/

theorem Fails.char (h : ∀ c, rest.head? = some c → test c = false) : Fails (.char test) rest := by
  intro before groups α done
  cases rest with
  | nil => rfl
  | cons c rest => rw [run_char, h c rfl, if_neg Bool.false_ne_true]

theorem Fails.all (h : Fails p rest) (ps : List Pattern) : Fails (.all (p :: ps)) rest := by
  intro before groups α done
  rw [run_all_cons]
  exact h before groups _

/-! ## What a pattern takes -/

theorem takes_nothing (rest : List Char) : Takes .nothing [] rest [] :=
  fun before _ => ⟨before, fun _ _ h => h⟩

theorem takes_char {c : Char} (h : test c = true) (rest : List Char) :
    Takes (.char test) [c] rest [] := by
  intro before groups
  refine ⟨some c, fun done a hdone => ?_⟩
  rw [List.singleton_append, run_char, if_pos h]
  exact hdone

theorem Takes.all (h : Takes p s (t ++ rest) found) (hps : Takes (.all ps) t rest found') :
    Takes (.all (p :: ps)) (s ++ t) rest (found' ++ found) := by
  intro before groups
  obtain ⟨middle, hp⟩ := h before groups
  obtain ⟨last, hps⟩ := hps middle (found ++ groups)
  refine ⟨last, fun done a hdone => ?_⟩
  rw [run_all_cons, List.append_assoc]
  refine hp _ a (hps done a ?_)
  rw [← List.append_assoc]
  exact hdone

theorem Takes.group (h : Takes p s rest found) (number : Nat) :
    Takes (.group number p) s rest ((number, s) :: found) := by
  intro before groups
  obtain ⟨last, hp⟩ := h before groups
  refine ⟨last, fun done a hdone => hp _ a ?_⟩
  have htext : (Place.facing before (s ++ rest) groups).textTo
      (.facing last rest (found ++ groups)) = s := by
    simp [Place.textTo, Place.facing]
  rw [htext]
  exact hdone

theorem Takes.alt_left (h : Takes p s rest found) (q : Pattern) : Takes (.alt p q) s rest found := by
  intro before groups
  obtain ⟨last, hp⟩ := h before groups
  refine ⟨last, fun done a hdone => ?_⟩
  rw [Pattern.run, hp done a hdone]
  rfl

theorem Takes.alt_right (hp : Fails p (s ++ rest)) (h : Takes q s rest found) :
    Takes (.alt p q) s rest found := by
  intro before groups
  obtain ⟨last, hq⟩ := h before groups
  refine ⟨last, fun done a hdone => ?_⟩
  rw [Pattern.run, hp]
  exact hq done a hdone

/-- A repetition goes on while the characters are of its class. -/
theorem iterate_char {fuel : Nat} (hs : ∀ c ∈ s, test c = true)
    (hrest : ∀ c, rest.head? = some c → test c = false) (hfuel : s.length ≤ fuel)
    (before : Option Char) (groups : List (Nat × List Char)) :
    ∃ last, ∀ {α : Type} (done : Place → Option α) (a : α),
      done (.facing last rest groups) = some a →
        Pattern.iterate true (fun place done => (Pattern.char test).run place done) done fuel
          (.facing before (s ++ rest) groups) = some a := by
  induction s generalizing before fuel with
  | nil =>
      refine ⟨before, fun done a hdone => ?_⟩
      cases fuel with
      | zero => exact hdone
      | succ fuel =>
          rw [Pattern.iterate, List.nil_append, Fails.char hrest]
          exact hdone
  | cons c s ih =>
      rw [List.forall_mem_cons] at hs
      obtain ⟨fuel, rfl⟩ : ∃ n, fuel = n + 1 :=
        ⟨fuel - 1, by rw [List.length_cons] at hfuel; omega⟩
      obtain ⟨last, hlast⟩ := ih hs.2 (Nat.le_of_succ_le_succ hfuel) (some c)
      refine ⟨last, fun done a hdone => ?_⟩
      have hprogress : (Place.facing (some c) (s ++ rest) groups).left
          < (Place.facing before (c :: (s ++ rest)) groups).left := Nat.lt_succ_self _
      rw [Pattern.iterate, List.cons_append, run_char, if_pos hs.1, if_pos hprogress,
        hlast done a hdone]
      rfl

theorem takes_many (hs : ∀ c ∈ s, test c = true)
    (hrest : ∀ c, rest.head? = some c → test c = false) :
    Takes (.many (.char test)) s rest [] := by
  intro before groups
  have hfuel : s.length ≤ (s ++ rest).length := by
    rw [List.length_append]
    exact Nat.le_add_right ..
  exact iterate_char hs hrest hfuel before groups

theorem takes_some (hne : s ≠ []) (hs : ∀ c ∈ s, test c = true)
    (hrest : ∀ c, rest.head? = some c → test c = false) :
    Takes (.some (.char test)) s rest [] := by
  cases s with
  | nil => exact absurd rfl hne
  | cons c s =>
      rw [List.forall_mem_cons] at hs
      have hmany : Takes (.all [.many (.char test)]) s rest [] := takes_many hs.2 hrest
      exact (takes_char hs.1 (s ++ rest)).all hmany

theorem takes_chars (s rest : List Char) :
    Takes (.all (s.map fun c => .char (· == c))) s rest [] := by
  induction s with
  | nil => exact takes_nothing rest
  | cons c s ih =>
      have hc : Takes (.char (· == c)) [c] (s ++ rest) [] := takes_char (beq_self_eq_true c) _
      exact hc.all ih

theorem takes_lit (s : String) (rest : List Char) : Takes (.lit s) s.toList rest [] :=
  takes_chars s.toList rest

end

/-! ## The matches in a text -/

namespace Pattern

variable {p : Pattern} {s rest gap : List Char} {found : List (Nat × List Char)} {c : Char}

/-- A pattern only matches before a certain character. -/
def StartsWith (p : Pattern) (c : Char) : Prop := ∀ rest, rest.head? ≠ Option.some c → Fails p rest

theorem matchAt?_of_takes (h : Takes p s rest found) (before : Option Char)
    (groups : List (Nat × List Char)) :
    ∃ m last, p.matchAt? (.facing before (s ++ rest) groups) = Option.some m
      ∧ m.stop = .facing last rest found := by
  obtain ⟨last, hp⟩ := h before []
  rw [List.append_nil] at hp
  exact ⟨_, last, hp _ _ rfl, rfl⟩

theorem findFrom?_of_match {place : Place} {m : Found} (h : p.matchAt? place = Option.some m)
    (fuel : Nat) : p.findFrom? fuel place = Option.some m := by
  unfold findFrom?
  rw [h]

theorem findFrom?_nil (h : Fails p []) (last : Option Char) (groups : List (Nat × List Char)) :
    p.findFrom? 0 (.facing last [] groups) = none := by
  have hmatch : p.matchAt? (.facing last [] groups) = none := h last [] _
  unfold findFrom?
  rw [hmatch]

theorem findFrom?_cons (h : Fails p (c :: rest)) (last : Option Char)
    (groups : List (Nat × List Char)) :
    p.findFrom? (rest.length + 1) (.facing last (c :: rest) groups)
      = p.findFrom? rest.length (.facing (Option.some c) rest groups) := by
  have hmatch : p.matchAt? (.facing last (c :: rest) groups) = none := h last [] _
  rw [findFrom?.eq_def]
  dsimp only
  rw [hmatch]
  rfl

theorem findFrom?_append (hp : p.StartsWith c) (hgap : c ∉ gap) (rest : List Char)
    (before : Option Char) (groups : List (Nat × List Char)) :
    ∃ last, p.findFrom? (gap ++ rest).length (.facing before (gap ++ rest) groups)
      = p.findFrom? rest.length (.facing last rest groups) := by
  induction gap generalizing before with
  | nil => exact ⟨before, rfl⟩
  | cons d gap ih =>
      rw [List.mem_cons, not_or] at hgap
      obtain ⟨last, hlast⟩ := ih hgap.2 (Option.some d)
      have hfails : Fails p (d :: (gap ++ rest)) := hp _ fun hd => hgap.1 (Option.some.inj hd).symm
      exact ⟨last, (findFrom?_cons hfails before groups).trans hlast⟩

/-- The first match in a text behind a piece that no match can start in. -/
theorem findAllFrom_append (hp : p.StartsWith c) (h : Takes p s rest found) (hgap : c ∉ gap)
    (before : Option Char) (groups : List (Nat × List Char)) (fuel : Nat) :
    ∃ m last, p.findAllFrom (fuel + 1) (.facing before (gap ++ (s ++ rest)) groups)
        = m :: p.findAllFrom fuel (.facing last rest found) ∧ m.stop.groups = found := by
  obtain ⟨middle, hskip⟩ := findFrom?_append hp hgap (s ++ rest) before groups
  obtain ⟨m, last, hmatch, hstop⟩ := matchAt?_of_takes h middle groups
  refine ⟨m, last, ?_, by rw [hstop]; rfl⟩
  have hfind : p.findFrom? (gap ++ (s ++ rest)).length (.facing before (gap ++ (s ++ rest)) groups)
      = Option.some m := hskip.trans (findFrom?_of_match hmatch _)
  rw [findAllFrom]
  dsimp only [Place.facing] at hfind ⊢
  rw [hfind, ← Place.facing, ← hstop]

/-- There is no match in a text without the character that matches start with. -/
theorem findAllFrom_of_not_mem (hp : p.StartsWith c) (hgap : c ∉ gap) (before : Option Char)
    (groups : List (Nat × List Char)) (fuel : Nat) :
    p.findAllFrom fuel (.facing before gap groups) = [] := by
  cases fuel with
  | zero => rfl
  | succ fuel =>
      obtain ⟨last, hskip⟩ := findFrom?_append hp hgap [] before groups
      rw [List.append_nil] at hskip
      have hfind : p.findFrom? gap.length (.facing before gap groups) = none :=
        hskip.trans (findFrom?_nil (hp [] nofun) last groups)
      rw [findAllFrom]
      dsimp only [Place.facing] at hfind ⊢
      rw [hfind]

end Pattern

end Remedy.Text
