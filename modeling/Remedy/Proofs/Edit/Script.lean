import Mathlib.Data.List.Basic
import Remedy.Edit.Script

/-!
# Scripts lead from the old list to the new one

Whatever a script keeps, what it takes up is the old list and what it yields is the new one
(`before_script`, `after_script`); it changes nothing exactly when they are the same.
-/

namespace Remedy.Edit

variable {α : Type}

/-! ## Before and after -/

section Cons

variable (a : α) (script : List (Op α))

@[simp] theorem before_keep : before (.keep a :: script) = a :: before script := rfl

@[simp] theorem before_delete : before (.delete a :: script) = a :: before script := rfl

@[simp] theorem before_insert : before (.insert a :: script) = before script := rfl

@[simp] theorem after_keep : after (.keep a :: script) = a :: after script := rfl

@[simp] theorem after_delete : after (.delete a :: script) = after script := rfl

@[simp] theorem after_insert : after (.insert a :: script) = a :: after script := rfl

end Cons

theorem before_append (a b : List (Op α)) : before (a ++ b) = before a ++ before b :=
  List.filterMap_append ..

theorem after_append (a b : List (Op α)) : after (a ++ b) = after a ++ after b :=
  List.filterMap_append ..

theorem before_map_keep (as : List α) : before (as.map .keep) = as := by
  induction as with
  | nil => rfl
  | cons a as ih => exact congrArg (List.cons a) ih

theorem after_map_keep (as : List α) : after (as.map .keep) = as := by
  induction as with
  | nil => rfl
  | cons a as ih => exact congrArg (List.cons a) ih

theorem before_map_delete (as : List α) : before (as.map .delete) = as := by
  induction as with
  | nil => rfl
  | cons a as ih => exact congrArg (List.cons a) ih

theorem after_map_delete (as : List α) : after (as.map .delete) = [] := by
  induction as with
  | nil => rfl
  | cons a as ih => exact ih

theorem before_map_insert (as : List α) : before (as.map .insert) = [] := by
  induction as with
  | nil => rfl
  | cons a as ih => exact ih

theorem after_map_insert (as : List α) : after (as.map .insert) = as := by
  induction as with
  | nil => rfl
  | cons a as ih => exact congrArg (List.cons a) ih

/-- Where everything is kept nothing differs. -/
theorem before_eq_after {script : List (Op α)} (h : ∀ e ∈ script, e.isKeep = true) :
    before script = after script := by
  induction script with
  | nil => rfl
  | cons e script ih =>
      rw [List.forall_mem_cons] at h
      cases e with
      | keep a => exact congrArg (List.cons a) (ih h.2)
      | delete a => cases h.1
      | insert a => cases h.1

theorem changes_eq_nil {script : List (Op α)} :
    changes script = [] ↔ ∀ e ∈ script, e.isKeep = true := by
  simp [changes, List.filter_eq_nil_iff]

/-! ## Alignment -/

theorem before_deletionsFirst (pending : List α) (script : List (Op α)) :
    before (deletionsFirst pending script) = before script := by
  induction script generalizing pending with
  | nil => exact before_map_insert pending
  | cons e script ih =>
      cases e with
      | keep a =>
          rw [deletionsFirst, before_append, before_map_insert]
          exact congrArg (List.cons a) (ih [])
      | delete a => exact congrArg (List.cons a) (ih pending)
      | insert a => exact ih (pending ++ [a])

theorem after_deletionsFirst (pending : List α) (script : List (Op α)) :
    after (deletionsFirst pending script) = pending ++ after script := by
  induction script generalizing pending with
  | nil => exact (after_map_insert pending).trans (List.append_nil pending).symm
  | cons e script ih =>
      cases e with
      | keep a =>
          rw [deletionsFirst, after_append, after_map_insert]
          exact congrArg (fun rest => pending ++ a :: rest) (ih [])
      | delete a => exact ih pending
      | insert a => exact (ih (pending ++ [a])).trans (List.append_assoc ..)

variable [DecidableEq α]

theorem before_align (as bs : List α) (rows : List (List Nat)) :
    before (align as bs rows) = as := by
  induction as generalizing bs rows with
  | nil =>
      rw [align]
      exact before_map_insert bs
  | cons a as ih =>
      induction bs generalizing rows with
      | nil =>
          rw [align]
          · exact before_map_delete (a :: as)
          · exact List.cons_ne_nil a as
      | cons b bs ih' =>
          rw [align]
          split
          · exact congrArg (List.cons a) (ih ..)
          · split
            · exact congrArg (List.cons a) (ih ..)
            · exact ih' _

theorem after_align (as bs : List α) (rows : List (List Nat)) :
    after (align as bs rows) = bs := by
  induction as generalizing bs rows with
  | nil =>
      rw [align]
      exact after_map_insert bs
  | cons a as ih =>
      induction bs generalizing rows with
      | nil =>
          rw [align]
          · exact after_map_delete (a :: as)
          · exact List.cons_ne_nil a as
      | cons b bs ih' =>
          rw [align]
          split
          · rename_i hab
            rw [hab]
            exact congrArg (List.cons b) (ih ..)
          · split
            · exact ih ..
            · exact congrArg (List.cons b) (ih' _)

/-! ## Common parts -/

theorem take_commonStart (as bs : List α) :
    as.take (commonStart as bs) = bs.take (commonStart as bs) := by
  induction as generalizing bs with
  | nil => rfl
  | cons a as ih =>
      cases bs with
      | nil => rfl
      | cons b bs =>
          rw [commonStart]
          split
          · rename_i hab
            rw [hab]
            exact congrArg (List.cons b) (ih bs)
          · rfl

theorem commonStart_self (as : List α) : commonStart as as = as.length := by
  induction as with
  | nil => rfl
  | cons a as ih => rw [commonStart, if_pos rfl, ih, List.length_cons]

/-- Two lists end with the same elements as far as their reverses start with the same. -/
theorem drop_commonStop (as bs : List α) :
    as.drop (as.length - commonStart as.reverse bs.reverse)
      = bs.drop (bs.length - commonStart as.reverse bs.reverse) := by
  have h := take_commonStart as.reverse bs.reverse
  rw [List.take_reverse, List.take_reverse] at h
  exact List.reverse_injective h

/-! ## The script of two lists -/

theorem before_script (old new : List α) : before (script old new) = old := by
  simp only [script, before_append, before_map_keep, before_deletionsFirst, before_align,
    List.append_assoc, List.take_append_drop]

theorem after_script (old new : List α) : after (script old new) = new := by
  simp only [script, after_append, after_map_keep, after_deletionsFirst, after_align,
    List.append_assoc, List.nil_append]
  rw [drop_commonStop, take_commonStart, List.take_append_drop, List.take_append_drop]

/-- A script changes nothing exactly when there is nothing to change. -/
theorem changes_script_eq_nil {old new : List α} : changes (script old new) = [] ↔ old = new := by
  constructor
  · intro h
    rw [← before_script old new, before_eq_after (changes_eq_nil.mp h), after_script]
  · rintro rfl
    rw [changes_eq_nil]
    simp [script, commonStart_self, align, deletionsFirst, Op.isKeep]

end Remedy.Edit
