import Remedy.Proofs.Flow.Execution

/-!
# What executions reach, and how they end

The places that executions of a piece of program can reach and the ways they can end, from those of
its parts (`Reaches`, `CanEnd`). An execution of a part that is still under way is one of the whole;
one that has ended may be stopped right there.
-/

namespace Remedy.Flow

open Python

variable {body orelse finalBody rest : List Stmt} {handlers : List Handler} {s : Stmt}
  {place : Place} {ending : Ending} {n k line : Nat} {forever : Bool} {test target iter : Expr}

/-- Some execution of a piece of program ends in a given way. -/
def CanEnd (code : Code) (ending : Ending) : Prop := ∃ reached, Runs code reached ending

/-- Some execution of a piece of program reaches the statement at a place. -/
def Reaches (code : Code) (place : Place) : Prop :=
  ∃ reached ending, Runs code reached ending ∧ place ∈ reached

theorem reaches_here (n : Nat) (s : Stmt) : Reaches (.statement n s) (.here n) := by
  have start : ∃ reached ending, Runs (.statement n s) (.here n :: reached) ending := by
    cases s with
    | simple line what => exact ⟨_, _, .simple⟩
    | branch line test block orelse =>
        by_cases hfalse : test.literal?.map Literal.truthy = some false
        · refine ⟨_, _, .branchElse ?_ .paused⟩
          rw [hfalse]
          nofun
        · exact ⟨_, _, .branchBody hfalse .paused⟩
    | whileLoop line test block orelse => exact ⟨_, _, .whileLoop .paused⟩
    | forLoop line target iter block orelse => exact ⟨_, _, .forLoop .paused⟩
    | function line name params block => exact ⟨_, _, .define rfl⟩
    | classDef line name block => exact ⟨_, _, .define rfl⟩
    | tryBlock line block handlers orelse finalBody => exact ⟨_, _, .tryPaused .paused⟩
    | withBlock line items targets block => exact ⟨_, _, .withBlock .paused⟩
  obtain ⟨reached, ending, run⟩ := start
  exact ⟨_, _, run, List.mem_cons_self ..⟩

theorem mem_map_inside (n : Nat) (part : Part) {reached : List Place} (h : place ∈ reached) :
    Place.inside n part place ∈ reached.map (Place.inside n part) :=
  List.mem_map_of_mem h

/-! ## Branches and `with` -/

theorem Reaches.branchBody (maybe : test.literal?.map Literal.truthy ≠ some false)
    (h : Reaches (.block 0 body) place) :
    Reaches (.statement n (.branch line test body orelse)) (.inside n .body place) := by
  obtain ⟨reached, ending, run, hplace⟩ := h
  exact ⟨_, _, .branchBody maybe run, List.mem_cons_of_mem _ (mem_map_inside n _ hplace)⟩

theorem Reaches.branchElse (maybe : test.literal?.map Literal.truthy ≠ some true)
    (h : Reaches (.block 0 orelse) place) :
    Reaches (.statement n (.branch line test body orelse)) (.inside n .orelse place) := by
  obtain ⟨reached, ending, run, hplace⟩ := h
  exact ⟨_, _, .branchElse maybe run, List.mem_cons_of_mem _ (mem_map_inside n _ hplace)⟩

theorem CanEnd.branchBody (maybe : test.literal?.map Literal.truthy ≠ some false)
    (h : CanEnd (.block 0 body) ending) :
    CanEnd (.statement n (.branch line test body orelse)) ending := by
  obtain ⟨reached, run⟩ := h
  exact ⟨_, .branchBody maybe run⟩

theorem CanEnd.branchElse (maybe : test.literal?.map Literal.truthy ≠ some true)
    (h : CanEnd (.block 0 orelse) ending) :
    CanEnd (.statement n (.branch line test body orelse)) ending := by
  obtain ⟨reached, run⟩ := h
  exact ⟨_, .branchElse maybe run⟩

theorem Reaches.withBlock {items targets : List Expr} (h : Reaches (.block 0 body) place) :
    Reaches (.statement n (.withBlock line items targets body)) (.inside n .body place) := by
  obtain ⟨reached, ending, run, hplace⟩ := h
  exact ⟨_, _, .withBlock run, List.mem_cons_of_mem _ (mem_map_inside n _ hplace)⟩

theorem CanEnd.withBlock {items targets : List Expr} (h : CanEnd (.block 0 body) ending) :
    CanEnd (.statement n (.withBlock line items targets body)) ending := by
  obtain ⟨reached, run⟩ := h
  exact ⟨_, .withBlock run⟩

/-! ## Loops -/

theorem Reaches.loopBody (h : Reaches (.block 0 body) place) :
    Reaches (.loop n forever body orelse) (.inside n .body place) := by
  obtain ⟨reached, ending, run, hplace⟩ := h
  have hmem := mem_map_inside n .body hplace
  cases ending with
  | paused => exact ⟨_, _, .loopLeft run (.inl rfl), hmem⟩
  | raised => exact ⟨_, _, .loopLeft run (.inr (.inl rfl)), hmem⟩
  | returned => exact ⟨_, _, .loopLeft run (.inr (.inr rfl)), hmem⟩
  | broke => exact ⟨_, _, .loopBroken run, hmem⟩
  | normal => exact ⟨_, _, .loopNext run (.inl rfl) .paused, List.mem_append_left _ hmem⟩
  | continued => exact ⟨_, _, .loopNext run (.inr rfl) .paused, List.mem_append_left _ hmem⟩

theorem Reaches.loopElse (h : Reaches (.block 0 orelse) place) :
    Reaches (.loop n false body orelse) (.inside n .orelse place) := by
  obtain ⟨reached, ending, run, hplace⟩ := h
  exact ⟨_, _, .loopExhausted run, mem_map_inside n _ hplace⟩

theorem CanEnd.loopBody (h : CanEnd (.block 0 body) .broke) :
    CanEnd (.loop n forever body orelse) .normal := by
  obtain ⟨reached, run⟩ := h
  exact ⟨_, .loopBroken run⟩

theorem CanEnd.loopElse (h : CanEnd (.block 0 orelse) ending) :
    CanEnd (.loop n false body orelse) ending := by
  obtain ⟨reached, run⟩ := h
  exact ⟨_, .loopExhausted run⟩

def IsLoop (s : Stmt) (forever : Bool) (body orelse : List Stmt) : Prop :=
  ∀ n reached ending, Runs (.loop n forever body orelse) reached ending →
    Runs (.statement n s) (.here n :: reached) ending

theorem IsLoop.reaches (hloop : IsLoop s forever body orelse)
    (h : Reaches (.loop n forever body orelse) place) : Reaches (.statement n s) place := by
  obtain ⟨reached, ending, run, hplace⟩ := h
  exact ⟨_, _, hloop n _ _ run, List.mem_cons_of_mem _ hplace⟩

theorem IsLoop.canEnd (hloop : IsLoop s forever body orelse)
    (h : CanEnd (.loop n forever body orelse) ending) : CanEnd (.statement n s) ending := by
  obtain ⟨reached, run⟩ := h
  exact ⟨_, hloop n _ _ run⟩

/-! ## `try` statements -/

theorem Reaches.triedBody (h : Reaches (.block 0 body) place) :
    Reaches (.tried n body handlers orelse) (.inside n .body place) := by
  obtain ⟨reached, ending, run, hplace⟩ := h
  have hmem := mem_map_inside n .body hplace
  by_cases hnormal : ending = .normal
  · subst hnormal
    exact ⟨_, _, .triedNormal run .paused, List.mem_append_left _ hmem⟩
  · exact ⟨_, _, .triedAbrupt run hnormal, hmem⟩

theorem Reaches.triedElse (hbody : CanEnd (.block 0 body) .normal)
    (h : Reaches (.block 0 orelse) place) :
    Reaches (.tried n body handlers orelse) (.inside n .orelse place) := by
  obtain ⟨before, first⟩ := hbody
  obtain ⟨reached, ending, run, hplace⟩ := h
  exact ⟨_, _, .triedNormal first run, List.mem_append_right _ (mem_map_inside n _ hplace)⟩

theorem Reaches.triedHandler {handler : Handler} (handles : handlers[k]? = some handler)
    (h : Reaches (.block 0 handler.body) place) :
    Reaches (.tried n body handlers orelse) (.inside n (.handler k) place) := by
  obtain ⟨reached, ending, run, hplace⟩ := h
  exact ⟨_, _, .triedCaught .paused (.inr rfl) handles run,
    List.mem_append_right _ (mem_map_inside n _ hplace)⟩

theorem CanEnd.triedBody (h : CanEnd (.block 0 body) ending) (abrupt : ending ≠ .normal) :
    CanEnd (.tried n body handlers orelse) ending := by
  obtain ⟨reached, run⟩ := h
  exact ⟨_, .triedAbrupt run abrupt⟩

theorem CanEnd.triedElse (hbody : CanEnd (.block 0 body) .normal)
    (h : CanEnd (.block 0 orelse) ending) : CanEnd (.tried n body handlers orelse) ending := by
  obtain ⟨before, first⟩ := hbody
  obtain ⟨reached, run⟩ := h
  exact ⟨_, .triedNormal first run⟩

theorem CanEnd.triedHandler {handler : Handler} (handles : handlers[k]? = some handler)
    (h : CanEnd (.block 0 handler.body) ending) :
    CanEnd (.tried n body handlers orelse) ending := by
  obtain ⟨reached, run⟩ := h
  exact ⟨_, .triedCaught .paused (.inr rfl) handles run⟩

theorem Reaches.tryTried (h : Reaches (.tried n body handlers orelse) place) :
    Reaches (.statement n (.tryBlock line body handlers orelse finalBody)) place := by
  obtain ⟨reached, ending, run, hplace⟩ := h
  by_cases hpaused : ending = .paused
  · subst hpaused
    exact ⟨_, _, .tryPaused run, List.mem_cons_of_mem _ hplace⟩
  · exact ⟨_, _, .tryFinally run hpaused .paused,
      List.mem_cons_of_mem _ (List.mem_append_left _ hplace)⟩

/-- An exception may come before anything is executed. -/
theorem canEnd_tried_raised (n : Nat) (body : List Stmt) (handlers : List Handler)
    (orelse : List Stmt) : CanEnd (.tried n body handlers orelse) .raised :=
  ⟨_, .triedInterrupted .paused⟩

theorem Reaches.tryFinal (h : Reaches (.block 0 finalBody) place) :
    Reaches (.statement n (.tryBlock line body handlers orelse finalBody))
      (.inside n .final place) := by
  obtain ⟨before, first⟩ := canEnd_tried_raised n body handlers orelse
  obtain ⟨reached, ending, run, hplace⟩ := h
  exact ⟨_, _, .tryFinally first nofun run,
    List.mem_cons_of_mem _ (List.mem_append_right _ (mem_map_inside n _ hplace))⟩

theorem CanEnd.tryTried (h : CanEnd (.tried n body handlers orelse) ending)
    (ended : ending ≠ .paused) (hfinal : CanEnd (.block 0 finalBody) .normal) :
    CanEnd (.statement n (.tryBlock line body handlers orelse finalBody)) ending := by
  obtain ⟨reached, run⟩ := h
  obtain ⟨later, last⟩ := hfinal
  exact ⟨_, .tryFinally run ended last⟩

theorem CanEnd.tryFinal (h : CanEnd (.block 0 finalBody) ending) (abrupt : ending ≠ .normal) :
    CanEnd (.statement n (.tryBlock line body handlers orelse finalBody)) ending := by
  obtain ⟨before, first⟩ := canEnd_tried_raised n body handlers orelse
  obtain ⟨reached, run⟩ := h
  have whole : Runs (.statement n (.tryBlock line body handlers orelse finalBody)) _
    (Ending.resume .raised ending) := .tryFinally first nofun run
  have hresume : Ending.resume .raised ending = ending := by
    cases ending with
    | normal => exact absurd rfl abrupt
    | paused | raised | returned | broke | continued => rfl
  rw [hresume] at whole
  exact ⟨_, whole⟩

/-! ## Blocks -/

theorem Reaches.blockHead (h : Reaches (.statement n s) place) :
    Reaches (.block n (s :: rest)) place := by
  obtain ⟨reached, ending, run, hplace⟩ := h
  by_cases hnormal : ending = .normal
  · subst hnormal
    exact ⟨_, _, .blockNext run .paused, List.mem_append_left _ hplace⟩
  · exact ⟨_, _, .blockLeft run hnormal, hplace⟩

/-- Some execution of a scope reaches its first statement. -/
theorem reached_first (s : Stmt) (rest : List Stmt) : Reached (s :: rest) (.here 0) :=
  (reaches_here 0 s).blockHead

theorem Reaches.blockTail (hfirst : CanEnd (.statement n s) .normal)
    (h : Reaches (.block (n + 1) rest) place) : Reaches (.block n (s :: rest)) place := by
  obtain ⟨before, first⟩ := hfirst
  obtain ⟨reached, ending, run, hplace⟩ := h
  exact ⟨_, _, .blockNext first run, List.mem_append_right _ hplace⟩

theorem CanEnd.blockHead (h : CanEnd (.statement n s) ending) (abrupt : ending ≠ .normal) :
    CanEnd (.block n (s :: rest)) ending := by
  obtain ⟨reached, run⟩ := h
  exact ⟨_, .blockLeft run abrupt⟩

theorem CanEnd.blockTail (hfirst : CanEnd (.statement n s) .normal)
    (h : CanEnd (.block (n + 1) rest) ending) : CanEnd (.block n (s :: rest)) ending := by
  obtain ⟨before, first⟩ := hfirst
  obtain ⟨reached, run⟩ := h
  exact ⟨_, .blockNext first run⟩

/-! ## What an ending comes from -/

theorem CanEnd.of_simple {what : Simple} (h : CanEnd (.statement n (.simple line what)) ending) :
    ending = .paused ∨ ending = .raised ∨ ending = endingOf what := by
  obtain ⟨reached, run⟩ := h
  cases run with
  | paused => exact .inl rfl
  | simple => exact .inr (.inr rfl)
  | simpleRaises => exact .inr (.inl rfl)
  | define scope => cases scope
  | defineRaises scope => cases scope

theorem CanEnd.of_branch (h : CanEnd (.statement n (.branch line test body orelse)) ending)
    (ended : ending ≠ .paused) : CanEnd (.block 0 body) ending ∨ CanEnd (.block 0 orelse) ending := by
  obtain ⟨reached, run⟩ := h
  cases run with
  | paused => exact absurd rfl ended
  | branchBody _ run => exact .inl ⟨_, run⟩
  | branchElse _ run => exact .inr ⟨_, run⟩
  | define scope => cases scope
  | defineRaises scope => cases scope

/-- A loop that never runs out ends normally only by `break`. -/
theorem CanEnd.of_loop (h : CanEnd (.loop n true body orelse) .normal) :
    CanEnd (.block 0 body) .broke := by
  obtain ⟨reached, run⟩ := h
  generalize hcode : Code.loop n true body orelse = code at run
  generalize hending : Ending.normal = ending at run
  induction run with
  | loopNext _ _ _ _ ih => exact ih hcode hending
  | loopBroken run =>
      cases hcode
      exact ⟨_, run⟩
  | loopExhausted => cases hcode
  | loopLeft _ outward => subst hending; simp at outward
  | paused => cases hending
  | _ => cases hcode

theorem CanEnd.of_whileLoop (h : CanEnd (.statement n (.whileLoop line test body orelse)) ending)
    (ended : ending ≠ .paused) :
    CanEnd (.loop n (test.literal?.any Literal.truthy) body orelse) ending := by
  obtain ⟨reached, run⟩ := h
  cases run with
  | paused => exact absurd rfl ended
  | whileLoop run => exact ⟨_, run⟩
  | define scope => cases scope
  | defineRaises scope => cases scope

/-- Without handlers, what follows the body is only come to through it. -/
theorem CanEnd.of_tried (h : CanEnd (.tried n body [] orelse) .normal) :
    CanEnd (.block 0 body) .normal := by
  obtain ⟨reached, run⟩ := h
  cases run with
  | triedNormal run => exact ⟨_, run⟩
  | triedAbrupt _ abrupt => exact absurd rfl abrupt
  | triedCaught _ _ handles => cases handles

theorem CanEnd.of_tryBlock
    (h : CanEnd (.statement n (.tryBlock line body handlers orelse finalBody)) ending)
    (ended : ending ≠ .paused) :
    (CanEnd (.block 0 finalBody) ending ∧ ending ≠ .normal)
      ∨ CanEnd (.tried n body handlers orelse) ending ∧ CanEnd (.block 0 finalBody) .normal := by
  obtain ⟨reached, run⟩ := h
  cases run with
  | paused => exact absurd rfl ended
  | tryPaused => exact absurd rfl ended
  | @tryFinally _ _ _ _ _ _ _ _ pending last run _ rest =>
      cases last with
      | normal => exact .inr ⟨⟨_, run⟩, _, rest⟩
      | paused | raised | returned | broke | continued => exact .inl ⟨⟨_, rest⟩, nofun⟩
  | define scope => cases scope
  | defineRaises scope => cases scope

theorem CanEnd.of_block (h : CanEnd (.block n (s :: rest)) ending) (ended : ending ≠ .paused) :
    CanEnd (.statement n s) ending
      ∨ CanEnd (.statement n s) .normal ∧ CanEnd (.block (n + 1) rest) ending := by
  obtain ⟨reached, run⟩ := h
  cases run with
  | paused => exact absurd rfl ended
  | blockNext first rest => exact .inr ⟨⟨_, first⟩, _, rest⟩
  | blockLeft first => exact .inl ⟨_, first⟩

theorem CanEnd.of_nil (h : CanEnd (.block n []) ending) (ended : ending ≠ .paused) :
    ending = .normal := by
  obtain ⟨reached, run⟩ := h
  cases run with
  | paused => exact absurd rfl ended
  | blockDone => rfl

end Remedy.Flow
