import Remedy.Edit.Unified
import Remedy.Proofs.Edit.Script

/-!
# Hunks tile a script

The ranges that the hunks of a script cover are in order, apart from each other, within the script
and around all of its changes (`Ranges`); so a script is what is kept between hunks and the edits of
the hunks, in turn (`Tiled`). What is proved about hunks is proved by induction on that.
-/

namespace Remedy.Edit

/-! ## Ranges of a script -/

section Ranges

variable {α : Type} {script : List (Op α)} {first start stop i : Nat}

/-- Nothing is changed from one position of a script up to another. -/
def Kept (script : List (Op α)) (start stop : Nat) : Prop :=
  ∀ i e, start ≤ i → i < stop → script[i]? = some e → e.isKeep = true

theorem Kept.of_le (h : stop ≤ start) : Kept script start stop := by
  intro i e hi hlt
  omega

theorem Kept.mono {start' stop' : Nat} (h : Kept script start stop) (hstart : start ≤ start')
    (hstop : stop' ≤ stop) : Kept script start' stop' :=
  fun i e hi hlt => h i e (Nat.le_trans hstart hi) (Nat.lt_of_lt_of_le hlt hstop)

theorem Kept.succ {e : Op α} (h : Kept script start i) (he : script[i]? = some e)
    (hkeep : e.isKeep = true) : Kept script start (i + 1) := by
  intro j e' hj hlt he'
  rcases Nat.lt_succ_iff_lt_or_eq.mp hlt with hlt | rfl
  · exact h j e' hj hlt he'
  · obtain rfl := Option.some.inj (he.symm.trans he')
    exact hkeep

/-- Ranges of a script from some position on: in order, apart, none of them empty, and with all of
the changes. -/
inductive Ranges (script : List (Op α)) : (first : Nat) → List (Nat × Nat) → Prop
  | last {first : Nat} (kept : Kept script first script.length) : Ranges script first []
  | next {first start stop : Nat} {ranges : List (Nat × Nat)} (ordered : first ≤ start)
      (kept : Kept script first start) (nonempty : start < stop)
      (within : stop ≤ script.length) (rest : Ranges script stop ranges) :
      Ranges script first ((start, stop) :: ranges)

/-- The position where a list is dropped to a head and a tail. -/
theorem getElem?_of_drop_eq_cons {as rest : List α} {a : α} (h : as.drop i = a :: rest) :
    as[i]? = some a ∧ as.drop (i + 1) = rest := by
  constructor
  · rw [← List.head?_drop, h, List.head?_cons]
  · rw [← List.tail_drop, h, List.tail_cons]

/-- The ranges from an open one on, when the script was looked at up to position `i`. -/
theorem ranges_windowsFrom {rest : List (Op α)} (hrest : script.drop i = rest)
    (hordered : first ≤ start) (hkept : Kept script first start) (hstart : start < i)
    (hnonempty : start < stop) (hwithin : stop ≤ script.length) (hgap : Kept script stop i) :
    Ranges script first
      (windowsFrom script.length (start, stop) (changePositions i rest)) := by
  induction rest generalizing i first start stop with
  | nil =>
      have hlength : script.length ≤ i := List.drop_eq_nil_iff.mp hrest
      exact .next hordered hkept hnonempty hwithin (.last (hgap.mono (Nat.le_refl _) hlength))
  | cons e rest ih =>
      obtain ⟨he, hrest⟩ := getElem?_of_drop_eq_cons hrest
      have hi : i < script.length := (List.getElem?_eq_some_iff.mp he).1
      rw [changePositions]
      by_cases hkeep : e.isKeep = true
      · rw [if_pos hkeep, List.nil_append]
        exact ih hrest hordered hkept (by omega) hnonempty hwithin (hgap.succ he hkeep)
      · rw [if_neg hkeep, List.singleton_append, windowsFrom]
        unfold contextLines
        split
        -- the window of the change touches the open range and widens it, or opens the next one
        · exact ih hrest hordered hkept (by omega) (by omega) (by omega) (.of_le (by omega))
        · refine .next hordered hkept hnonempty hwithin ?_
          exact ih hrest (by omega) (hgap.mono (Nat.le_refl _) (by omega)) (by omega) (by omega)
            (by omega) (.of_le (by omega))

/-- The ranges of a script, when nothing was changed up to position `i`. -/
theorem ranges_of_changePositions {rest : List (Op α)} (hrest : script.drop i = rest)
    (hkept : Kept script 0 i) :
    Ranges script 0 (match changePositions i rest with
      | [] => []
      | j :: positions => windowsFrom script.length
        (j - contextLines, min (j + contextLines + 1) script.length) positions) := by
  induction rest generalizing i with
  | nil =>
      have hlength : script.length ≤ i := List.drop_eq_nil_iff.mp hrest
      exact .last (hkept.mono (Nat.le_refl _) hlength)
  | cons e rest ih =>
      obtain ⟨he, hrest⟩ := getElem?_of_drop_eq_cons hrest
      have hi : i < script.length := (List.getElem?_eq_some_iff.mp he).1
      rw [changePositions]
      by_cases hkeep : e.isKeep = true
      · rw [if_pos hkeep, List.nil_append]
        exact ih hrest (hkept.succ he hkeep)
      · rw [if_neg hkeep, List.singleton_append]
        unfold contextLines
        refine ranges_windowsFrom hrest (Nat.zero_le _) (hkept.mono (Nat.le_refl _) ?_) ?_ ?_ ?_ ?_
        · omega
        · omega
        · omega
        · omega
        · exact .of_le (by omega)

theorem ranges_windows (script : List (Op α)) : Ranges script 0 (windows script) :=
  ranges_of_changePositions rfl (.of_le (Nat.le_refl 0))

end Ranges

/-! ## Tilings -/

/-- A script is what is kept between hunks and the edits of the hunks, in turn; `old` and `new`
lines come before it. -/
inductive Tiled : (old new : Nat) → List (Op String) → List Hunk → Prop
  | last {old new : Nat} {script : List (Op String)} (kept : ∀ e ∈ script, e.isKeep = true) :
      Tiled old new script []
  | next {old new : Nat} {gap edits script : List (Op String)} {hunks : List Hunk}
      (kept : ∀ e ∈ gap, e.isKeep = true) (nonempty : edits ≠ [])
      (rest : Tiled (old + (before gap).length + (before edits).length)
        (new + (after gap).length + (after edits).length) script hunks) :
      Tiled old new (gap ++ (edits ++ script))
        (⟨old + (before gap).length, new + (after gap).length, edits⟩ :: hunks)

variable {script : List (Op String)}

theorem Kept.forall_mem {start stop : Nat} (h : Kept script start stop) :
    ∀ e ∈ (script.take stop).drop start, e.isKeep = true := by
  intro e he
  obtain ⟨i, hi⟩ := List.getElem?_of_mem he
  rw [List.getElem?_drop, List.getElem?_take] at hi
  split at hi
  · rename_i hlt
    exact h (start + i) e (Nat.le_add_right start i) hlt hi
  · cases hi

/-- What comes before a position, in two parts. -/
theorem take_eq_append {α : Type} {as : List α} {start stop : Nat} (h : start ≤ stop) :
    as.take stop = as.take start ++ (as.take stop).drop start := by
  have htake : as.take start = (as.take stop).take start := by
    rw [List.take_take, Nat.min_eq_left h]
  rw [htake, List.take_append_drop]

theorem drop_eq_append {α : Type} {as : List α} {start stop : Nat} (h : start ≤ stop) :
    as.drop start = (as.take stop).drop start ++ as.drop stop := by
  have hstop : as.drop stop = (as.drop start).drop (stop - start) := by
    rw [List.drop_drop, Nat.add_sub_cancel' h]
  rw [List.drop_take, hstop, List.take_append_drop]

theorem length_before_take {start stop : Nat} (h : start ≤ stop) :
    (before (script.take stop)).length = (before (script.take start)).length
      + (before ((script.take stop).drop start)).length := by
  rw [take_eq_append h, before_append, List.length_append, ← take_eq_append h]

theorem length_after_take {start stop : Nat} (h : start ≤ stop) :
    (after (script.take stop)).length = (after (script.take start)).length
      + (after ((script.take stop).drop start)).length := by
  rw [take_eq_append h, after_append, List.length_append, ← take_eq_append h]

theorem tiled_of_ranges {first : Nat} {ranges : List (Nat × Nat)}
    (h : Ranges script first ranges) :
    Tiled (before (script.take first)).length (after (script.take first)).length
      (script.drop first) (ranges.map (hunkOf script)) := by
  induction h with
  | @last first kept =>
      refine .last ?_
      have h := kept.forall_mem
      rwa [List.take_length] at h
  | @next first start stop ranges ordered kept nonempty within rest ih =>
      have hslice : (script.take stop).drop start ≠ [] := by
        rw [ne_eq, List.drop_eq_nil_iff, List.length_take]
        omega
      have hstop := Nat.le_of_lt nonempty
      rw [length_before_take hstop, length_before_take ordered, length_after_take hstop,
        length_after_take ordered] at ih
      rw [drop_eq_append ordered, drop_eq_append hstop, List.map_cons, hunkOf,
        length_before_take ordered, length_after_take ordered]
      exact .next kept.forall_mem hslice ih

theorem tiled_hunks (script : List (Op String)) : Tiled 0 0 script (hunks script) :=
  tiled_of_ranges (ranges_windows script)

end Remedy.Edit
