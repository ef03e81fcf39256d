import Remedy.Proofs.Flow.Outcomes
import Remedy.Proofs.Flow.Pieces

/-!
# Executions that follow the graph

The converse of the simulation. Of the nodes of a piece of program some are live: edges from outside
lead to them, and edges from live nodes lead to live nodes or out of the piece. `Traced` says that
live statements are ones that executions reach, and that where the piece is left or a loop is broken
out of, executions end that way.

The graph takes two things for granted of each `try` statement with a `finally`: that an open end
before the `finally` can be come to if the `finally` is left, and that `break` passes through the
`finally` (`Settled`).
-/

namespace Remedy.Flow

open Python

/-- One of several nodes is entered. -/
def Opened (enter : Nat → Prop) (preds : List Nat) : Prop := ∃ p ∈ preds, enter p

/-- Nodes from `lo` up to `hi` of which some are live, where control may come to the nodes outside
that `enter` names, and jumps lead out of the piece by `exits`. -/
structure Traced (enter : Nat → Prop) (preds : List Nat) (exits : Nat → Prop) (code : Code)
    (lo hi : Nat) (slots : List Slot) (edges : List (Nat × Nat)) (outs : List Nat)
    (live : Nat → Prop) : Prop where
  bounds : lo ≤ hi
  before : ∀ u, enter u → u < lo
  range : ∀ v, live v → lo ≤ v ∧ v < hi
  source : ∀ u v, (u, v) ∈ edges → u < hi
  numbered : ∀ x ∈ slots, lo ≤ x.node ∧ x.node < hi
  left : ∀ v ∈ outs, v < hi
  -- no node is live unless the piece is entered, and edges keep to live nodes
  opened : ∀ v, live v → Opened enter preds
  entry : ∀ u v, (u, v) ∈ edges → enter u → live v
  step : ∀ u v, (u, v) ∈ edges → live u → live v ∨ exits v
  -- executions get where nodes are live
  slot : ∀ x ∈ slots, live x.node → Reaches code x.place
  out : ∀ v ∈ outs, enter v ∨ live v → Opened enter preds ∧ CanEnd code .normal

namespace Traced

variable {enter exits exits' live live' : Nat → Prop} {preds entries outs outs' : List Nat}
  {code code' : Code} {lo mid hi : Nat} {slots slots' : List Slot}
  {edges edges' : List (Nat × Nat)}

/-- The piece of one piece of program as one of another. -/
theorem lift (outs' : List Nat) (h : Traced enter preds exits code lo hi slots edges outs live)
    (hexits : ∀ v, Opened enter preds → exits v → exits' v)
    (hslots : ∀ x ∈ slots', ∃ y ∈ slots, y.node = x.node
      ∧ (Opened enter preds → Reaches code y.place → Reaches code' x.place))
    (houts : ∀ v ∈ outs', v ∈ outs
      ∧ (Opened enter preds → CanEnd code .normal → CanEnd code' .normal)) :
    Traced enter preds exits' code' lo hi slots' edges outs' live where
  bounds := h.bounds
  before := h.before
  range := h.range
  opened := h.opened
  source := h.source
  entry := h.entry
  step u v he hu := (h.step u v he hu).imp_right (hexits v (h.opened u hu))
  numbered x hx := by
    obtain ⟨y, hy, hnode, -⟩ := hslots x hx
    exact hnode ▸ h.numbered y hy
  slot x hx hlive := by
    obtain ⟨y, hy, hnode, hreaches⟩ := hslots x hx
    rw [← hnode] at hlive
    exact hreaches (h.opened _ hlive) (h.slot y hy hlive)
  left v hv := h.left v (houts v hv).1
  out v hv hlive := by
    obtain ⟨hmem, hnormal⟩ := houts v hv
    obtain ⟨hopened, hend⟩ := h.out v hmem hlive
    exact ⟨hopened, hnormal hopened hend⟩

theorem fewer (h : Traced enter preds exits code lo hi slots edges outs live)
    (hsub : edges' ⊆ edges) : Traced enter preds exits code lo hi slots edges' outs live :=
  { h with
    source := fun u v he => h.source u v (hsub he)
    entry := fun u v he => h.entry u v (hsub he)
    step := fun u v he => h.step u v (hsub he) }

/-- What comes after a piece is entered from before the piece or from its live nodes. -/
theorem after (h : Traced enter preds exits code lo hi slots edges outs live) (u : Nat)
    (hu : enter u ∨ live u) : u < hi := by
  rcases hu with hu | hu
  · exact Nat.lt_of_lt_of_le (h.before u hu) h.bounds
  · exact (h.range u hu).2

theorem canEnd_of_opened (h : Traced enter preds exits code lo hi slots edges outs live)
    (hopened : Opened (fun v => enter v ∨ live v) outs) : CanEnd code .normal := by
  obtain ⟨p, hp, hlive⟩ := hopened
  exact (h.out p hp hlive).2

/-- Two pieces side by side; the second is entered from outside or from the first. -/
theorem append (h : Traced enter preds exits code lo mid slots edges outs live)
    (h' : Traced (fun v => enter v ∨ live v) entries exits code mid hi slots' edges' outs' live')
    (hentries : ∀ p ∈ entries, p ∈ preds ∨ lo ≤ p) :
    Traced enter preds exits code lo hi (slots ++ slots') (edges ++ edges') (outs ++ outs')
      fun v => live v ∨ live' v := by
  have hlo := h.bounds
  have hhi := h'.bounds
  have hopened : Opened (fun v => enter v ∨ live v) entries → Opened enter preds := by
    rintro ⟨p, hp, hlive | hlive⟩
    · rcases hentries p hp with hmem | hle
      · exact ⟨p, hmem, hlive⟩
      · exact absurd (h.before p hlive) (Nat.not_lt_of_le hle)
    · exact h.opened p hlive
  constructor
  case bounds => exact Nat.le_trans hlo hhi
  case before => exact h.before
  case range =>
    intro v hv
    rcases hv with hv | hv
    · have := h.range v hv
      omega
    · have := h'.range v hv
      omega
  case opened =>
    intro v hv
    rcases hv with hv | hv
    · exact h.opened v hv
    · exact hopened (h'.opened v hv)
  case source =>
    intro u v he
    rcases List.mem_append.mp he with he | he
    · exact Nat.lt_of_lt_of_le (h.source u v he) hhi
    · exact h'.source u v he
  case entry =>
    intro u v he hu
    rcases List.mem_append.mp he with he | he
    · exact .inl (h.entry u v he hu)
    · exact .inr (h'.entry u v he (.inl hu))
  case step =>
    intro u v he hu
    rcases List.mem_append.mp he with he | he
    · rcases hu with hu | hu
      · exact (h.step u v he hu).imp_left .inl
      · have := h.source u v he
        have := h'.range u hu
        omega
    · rcases hu with hu | hu
      · exact .inl (.inr (h'.entry u v he (.inr hu)))
      · exact (h'.step u v he hu).imp_left .inr
  case numbered =>
    intro x hx
    rcases List.mem_append.mp hx with hx | hx
    · have := h.numbered x hx
      omega
    · have := h'.numbered x hx
      omega
  case slot =>
    intro x hx hlive
    rcases List.mem_append.mp hx with hx | hx
    · rcases hlive with hlive | hlive
      · exact h.slot x hx hlive
      · have := h.numbered x hx
        have := h'.range _ hlive
        omega
    · rcases hlive with hlive | hlive
      · have := h'.numbered x hx
        have := h.range _ hlive
        omega
      · exact h'.slot x hx hlive
  case left =>
    intro v hv
    rcases List.mem_append.mp hv with hv | hv
    · exact Nat.lt_of_lt_of_le (h.left v hv) hhi
    · exact h'.left v hv
  case out =>
    intro v hv hlive
    rw [← or_assoc] at hlive
    rcases List.mem_append.mp hv with hv | hv
    · rcases hlive with hlive | hlive
      · exact h.out v hv hlive
      · have := h.left v hv
        have := h'.range v hlive
        omega
    · obtain ⟨hentered, hend⟩ := h'.out v hv hlive
      exact ⟨hopened hentered, hend⟩

/-- Further edges, to live nodes and out of the piece. -/
theorem extend (exits' : Nat → Prop)
    (h : Traced enter preds exits code lo hi slots edges outs live)
    (hsource : ∀ u v, (u, v) ∈ edges' → u < hi) (hentry : ∀ u v, (u, v) ∈ edges' → enter u → live v)
    (hstep : ∀ u v, (u, v) ∈ edges' → live u → live v ∨ exits' v)
    (hexits : ∀ u v, live u → exits v → live v ∨ exits' v) :
    Traced enter preds exits' code lo hi slots (edges ++ edges') outs live :=
  { h with
    source := fun u v he => (List.mem_append.mp he).elim (h.source u v) (hsource u v)
    entry := fun u v he => (List.mem_append.mp he).elim (h.entry u v) (hentry u v)
    step := fun u v he hu => (List.mem_append.mp he).elim
      (fun he => (h.step u v he hu).elim .inl (hexits u v hu)) fun he => hstep u v he hu }

/-- No nodes: control passes through. -/
theorem pass (henter : ∀ u, enter u → u < lo)
    (houts : ∀ v ∈ outs, v ∈ preds ∧ v < lo ∧ CanEnd code .normal) :
    Traced enter preds exits code lo lo [] [] outs fun _ => False where
  bounds := Nat.le_refl lo
  before := henter
  range _ h := h.elim
  opened _ h := h.elim
  source _ _ he := absurd he List.not_mem_nil
  entry _ _ he := absurd he List.not_mem_nil
  step _ _ he := absurd he List.not_mem_nil
  numbered := List.forall_mem_nil _
  slot := List.forall_mem_nil _
  left v hv := (houts v hv).2.1
  out v hv hlive := by
    obtain ⟨hmem, -, hend⟩ := houts v hv
    exact ⟨⟨v, hmem, hlive.resolve_right id⟩, hend⟩

/-- A node that several others lead to. -/
theorem node (henter : ∀ u, enter u → u < lo) (hpreds : ∀ p ∈ preds, p < lo)
    (hslots : ∀ x ∈ slots, x.node = lo ∧ Reaches code x.place)
    (houts : ∀ v ∈ outs, v = lo ∧ (Opened enter preds → CanEnd code .normal)) :
    Traced enter preds exits code lo (lo + 1) slots (edgesTo preds lo) outs
      fun v => v = lo ∧ Opened enter preds where
  bounds := Nat.le_succ lo
  before := henter
  range v hv := by omega
  opened v hv := hv.2
  source u v he := Nat.lt_succ_of_lt (hpreds u (mem_edgesTo.mp he).1)
  entry u v he hu := ⟨(mem_edgesTo.mp he).2, u, (mem_edgesTo.mp he).1, hu⟩
  step u v he hu := by
    have := hpreds u (mem_edgesTo.mp he).1
    omega
  numbered x hx := by
    have := (hslots x hx).1
    omega
  slot x hx _ := (hslots x hx).2
  left v hv := by
    have := (houts v hv).1
    omega
  out v hv hlive := by
    obtain ⟨rfl, hend⟩ := houts v hv
    rcases hlive with hlive | ⟨-, hopened⟩
    · exact absurd (henter v hlive) (Nat.lt_irrefl v)
    · exact ⟨hopened, hend hopened⟩

/-- A node that is only come to where something holds. -/
theorem pocket (q : Prop) (henter : ∀ u, enter u → u < lo) (hend : q → CanEnd code .normal) :
    Traced enter preds exits code lo (lo + 1) [] [] [lo]
      fun v => v = lo ∧ Opened enter preds ∧ q where
  bounds := Nat.le_succ lo
  before := henter
  range v hv := by omega
  opened v hv := hv.2.1
  source _ _ he := absurd he List.not_mem_nil
  entry _ _ he := absurd he List.not_mem_nil
  step _ _ he := absurd he List.not_mem_nil
  numbered := List.forall_mem_nil _
  slot := List.forall_mem_nil _
  left v hv := by
    obtain rfl := List.mem_singleton.mp hv
    exact Nat.lt_succ_self v
  out v hv hlive := by
    obtain rfl := List.mem_singleton.mp hv
    rcases hlive with hlive | ⟨-, hopened, hq⟩
    · exact absurd (henter v hlive) (Nat.lt_irrefl v)
    · exact ⟨hopened, hend hq⟩

/-- The node of a statement. -/
theorem own (exits : Nat → Prop) (n : Nat) (s : Stmt) (henter : ∀ u, enter u → u < lo)
    (hpreds : ∀ p ∈ preds, p < lo) :
    Traced enter preds exits (.statement n s) lo (lo + 1) [⟨.here n, lo, s⟩] (edgesTo preds lo) []
      fun v => v = lo ∧ Opened enter preds :=
  node henter hpreds (List.forall_mem_singleton.mpr ⟨rfl, reaches_here n s⟩)
    (List.forall_mem_nil _)

/-- The node where the open ends of a piece come together. -/
theorem join (h : Traced enter preds exits code lo hi slots edges outs live)
    (houts : ∀ v ∈ outs, v ∈ preds ∨ lo ≤ v) :
    ∃ live', Traced enter preds exits code lo (hi + 1) slots (edges ++ edgesTo outs hi) [hi]
      live' := by
  have hnode : Traced (fun v => enter v ∨ live v) outs exits code hi (hi + 1) [] (edgesTo outs hi)
      [hi] fun v => v = hi ∧ Opened (fun v => enter v ∨ live v) outs :=
    node h.after h.left (List.forall_mem_nil _)
      (List.forall_mem_singleton.mpr ⟨rfl, h.canEnd_of_opened⟩)
  have hboth := h.append hnode houts
  rw [List.append_nil] at hboth
  refine ⟨_, hboth.lift [hi] (fun _ _ hv => hv) (fun x hx => ⟨x, hx, rfl, fun _ hx => hx⟩)
    fun v hv => ⟨List.mem_append_right _ hv, fun _ hend => hend⟩⟩

/-- The piece of a block as one of the statement that it belongs to. -/
theorem inside {n : Nat} (part : Part) (outs' : List Nat)
    (h : Traced enter preds exits code lo hi slots edges outs live)
    (hexits : ∀ v, Opened enter preds → exits v → exits' v)
    (hreaches : Opened enter preds → ∀ place, Reaches code place →
      Reaches code' (.inside n part place))
    (houts : ∀ v ∈ outs', v ∈ outs
      ∧ (Opened enter preds → CanEnd code .normal → CanEnd code' .normal)) :
    Traced enter preds exits' code' lo hi (under n part slots) edges outs' live := by
  refine h.lift outs' hexits (fun x hx => ?_) houts
  obtain ⟨y, hy, rfl⟩ := List.mem_map.mp hx
  exact ⟨y, hy, rfl, fun hopened => hreaches hopened y.place⟩

end Traced

/-! ## Pieces of program -/

/-- A statement can be traced wherever it stands. -/
def TracedStatement (s : Stmt) : Prop :=
  ∀ (jumps : Targets) (n next : Nat) (enter : Nat → Prop) (preds : List Nat),
    (∀ u, enter u → u < next) → (∀ p ∈ preds, p < next) →
    ∃ live, Traced enter preds (jumps.JumpTo (CanEnd (.statement n s) .broke)) (.statement n s)
      next (next + statementSize s) (statementSlots n next s)
      (Piece.statement jumps next preds s).edges (Piece.statement jumps next preds s).outs live

/-- A block can be traced wherever it stands. -/
def TracedBlock (body : List Stmt) : Prop :=
  ∀ (jumps : Targets) (n next : Nat) (enter : Nat → Prop) (preds : List Nat),
    (∀ u, enter u → u < next) → (∀ p ∈ preds, p < next) →
    ∃ live, Traced enter preds (jumps.JumpTo (CanEnd (.block n body) .broke)) (.block n body)
      next (next + blockSize body) (blockSlots n next body)
      (Piece.block jumps next preds body).edges (Piece.block jumps next preds body).outs live

variable {body orelse finalBody rest : List Stmt} {handlers : List Handler} {s : Stmt}
  {line : Nat} {test target iter : Expr}

theorem tracedStatement_simple {what : Simple} : TracedStatement (.simple line what) := by
  intro jumps n next enter preds henter hpreds
  have hends : CanEnd (.statement n (.simple line what)) (endingOf what) := ⟨_, .simple⟩
  have hslots : ∀ x ∈ [(⟨.here n, next, .simple line what⟩ : Slot)], x.node = next
      ∧ Reaches (.statement n (.simple line what)) x.place :=
    List.forall_mem_singleton.mpr ⟨rfl, reaches_here n _⟩
  rcases statement_simple jumps next preds line what with
    ⟨hpiece, hnormal⟩ | ⟨target?, hpiece, htarget⟩
  · rw [hpiece]
    refine ⟨_, Traced.node henter hpreds hslots ?_⟩
    exact List.forall_mem_singleton.mpr ⟨rfl, fun _ => hnormal ▸ hends⟩
  · rw [hpiece]
    have hnode : Traced enter preds (jumps.JumpTo (CanEnd (.statement n (.simple line what)) .broke))
        (.statement n (.simple line what)) next (next + 1) [⟨.here n, next, .simple line what⟩]
        (edgesTo preds next) [] fun v => v = next ∧ Opened enter preds :=
      .own _ n _ henter hpreds
    refine ⟨_, hnode.extend _ (fun u v he => ?_) (fun u v he hu => ?_) (fun u v he _ => ?_)
      fun _ _ _ hv => .inr hv⟩
    all_goals
      obtain ⟨goal, hgoal, heq⟩ := Option.map_eq_some_iff.mp (Option.mem_toList.mp he)
      cases heq
    · exact Nat.lt_succ_self _
    · exact absurd (henter _ hu) (Nat.lt_irrefl _)
    · exact .inr ((htarget _ hgoal).mono fun hbroke => hbroke ▸ hends)

theorem tracedStatement_define (scope : s.isScope = true)
    (hslots : ∀ n next, statementSlots n next s = [⟨.here n, next, s⟩])
    (hpiece : ∀ jumps next preds, Piece.statement jumps next preds s = .through next preds s)
    (hsize : statementSize s = 1) : TracedStatement s := by
  intro jumps n next enter preds henter hpreds
  rw [hslots, hpiece, hsize]
  refine ⟨_, Traced.node henter hpreds (List.forall_mem_singleton.mpr ⟨rfl, reaches_here n s⟩) ?_⟩
  exact List.forall_mem_singleton.mpr ⟨rfl, fun _ => ⟨_, .define scope⟩⟩

theorem not_of_opened_arm {enter : Nat → Prop} {next : Nat} {p : Prop} [Decidable p]
    (h : Opened enter (if p then [] else [next])) : ¬ p := by
  intro hp
  rw [if_pos hp] at h
  obtain ⟨u, hu, -⟩ := h
  cases hu

theorem tracedStatement_branch (hbody : TracedBlock body) (horelse : TracedBlock orelse) :
    TracedStatement (.branch line test body orelse) := by
  intro jumps n next enter preds henter hpreds
  have hown := Traced.own
    (jumps.JumpTo (CanEnd (.statement n (.branch line test body orelse)) .broke)) n
    (.branch line test body orelse) henter hpreds
  have hself {p : Prop} [Decidable p] (v : Nat) (hv : v ∈ if p then [] else [next]) :
      v ∈ preds ∨ next ≤ v := .inr (Nat.le_of_eq (mem_arm hv).symm)
  obtain ⟨yes, hyes⟩ := hbody jumps 0 (next + 1) _
    (if test.literal?.map Literal.truthy = some false then [] else [next]) hown.after
    fun v hv => mem_arm hv ▸ Nat.lt_succ_self next
  have hboth := hown.append (hyes.inside .body (branchBody jumps next test body).outs
    (fun v hopened hv => hv.mono (.branchBody (not_of_opened_arm hopened)))
    (fun hopened place hplace => hplace.branchBody (not_of_opened_arm hopened))
    fun v hv => ⟨hv, fun hopened hend => hend.branchBody (not_of_opened_arm hopened)⟩) hself
  obtain ⟨no, hno⟩ := horelse jumps 0 (next + 1 + blockSize body) _
    (if test.literal?.map Literal.truthy = some true then [] else [next]) hboth.after
    fun v hv => by
      rw [mem_arm hv]
      omega
  have hall := hboth.append (hno.inside .orelse (branchElse jumps next test body orelse).outs
    (fun v hopened hv => hv.mono (.branchElse (not_of_opened_arm hopened)))
    (fun hopened place hplace => hplace.branchElse (not_of_opened_arm hopened))
    fun v hv => ⟨hv, fun hopened hend => hend.branchElse (not_of_opened_arm hopened)⟩) hself
  obtain ⟨live, hlive⟩ := hall.join fun v hv => .inr (mem_outs_branch hv).1
  have hsize : next + statementSize (.branch line test body orelse)
      = next + 1 + blockSize body + blockSize orelse + 1 := by
    unfold statementSize
    omega
  rw [statement_branch, hsize]
  simp only [List.nil_append, List.append_assoc] at hlive ⊢
  exact ⟨live, hlive⟩

theorem tracedStatement_withBlock {items targets : List Expr} (hbody : TracedBlock body) :
    TracedStatement (.withBlock line items targets body) := by
  intro jumps n next enter preds henter hpreds
  have hown := Traced.own
    (jumps.JumpTo (CanEnd (.statement n (.withBlock line items targets body)) .broke)) n
    (.withBlock line items targets body) henter hpreds
  obtain ⟨live, hlive⟩ := hbody jumps 0 (next + 1) _ [next] hown.after
    (List.forall_mem_singleton.mpr (Nat.lt_succ_self _))
  have hall := hown.append (hlive.inside .body (Piece.block jumps (next + 1) [next] body).outs
    (fun v _ hv => hv.mono .withBlock) (fun _ place hplace => hplace.withBlock)
    fun v hv => ⟨hv, fun _ hend => hend.withBlock⟩)
    (List.forall_mem_singleton.mpr (.inr (Nat.le_refl next)))
  have hsize : next + statementSize (.withBlock line items targets body)
      = next + 1 + blockSize body := (Nat.add_assoc ..).symm
  rw [statement_withBlock, hsize]
  exact ⟨_, hall⟩

theorem tracedBlock_nil : TracedBlock [] := by
  intro jumps n next enter preds henter hpreds
  exact ⟨_, .pass henter fun v hv => ⟨hv, hpreds v hv, _, .blockDone⟩⟩

theorem tracedBlock_cons (hfirst : TracedStatement s) (hrest : TracedBlock rest) :
    TracedBlock (s :: rest) := by
  intro jumps n next enter preds henter hpreds
  obtain ⟨first, htraced⟩ := hfirst jumps n next enter preds henter hpreds
  obtain ⟨later, hlater⟩ := hrest jumps (n + 1) (next + statementSize s)
    (fun v => enter v ∨ first v) (Piece.statement jumps next preds s).outs htraced.after
    htraced.left
  have hend := htraced.canEnd_of_opened
  have hhead : Traced enter preds (jumps.JumpTo (CanEnd (.block n (s :: rest)) .broke))
      (.block n (s :: rest)) next (next + statementSize s) (statementSlots n next s)
      (Piece.statement jumps next preds s).edges [] first :=
    htraced.lift [] (fun v _ hv => hv.mono fun hbroke => hbroke.blockHead (by decide))
      (fun x hx => ⟨x, hx, rfl, fun _ hplace => hplace.blockHead⟩) (List.forall_mem_nil _)
  have hall := hhead.append (hlater.lift (Piece.block jumps (next + statementSize s)
      (Piece.statement jumps next preds s).outs rest).outs
    (fun v hopened hv => hv.mono (.blockTail (hend hopened)))
    (fun x hx => ⟨x, hx, rfl, fun hopened => .blockTail (hend hopened)⟩)
    fun v hv => ⟨hv, fun hopened => .blockTail (hend hopened)⟩)
    fun v hv => .inr (mem_outs_statement s hv).1
  unfold Piece.block blockSize
  dsimp only
  rw [length_statement, ← Nat.add_assoc]
  exact ⟨_, hall⟩

/-! ## Loops -/

section Loop

variable {jumps : Targets} {n next : Nat} {enter : Nat → Prop} {preds : List Nat} {forever : Bool}

/-- Where control goes from the blocks of a loop. -/
def LoopExit (jumps : Targets) (n next : Nat) (s : Stmt) (forever : Bool)
    (body orelse : List Stmt) (v : Nat) : Prop :=
  jumps.JumpTo (CanEnd (.statement n s) .broke) v ∨ v = next
    ∨ v = next + 1 ∧ CanEnd (.loop n forever body orelse) .normal

/-- The nodes of a loop up to those of its `else` block. -/
theorem traced_loopBody (jumps : Targets) (n : Nat) (hloop : IsLoop s forever body orelse)
    (hbody : TracedBlock body) (henter : ∀ u, enter u → u < next) (hpreds : ∀ p ∈ preds, p < next) :
    ∃ live, Traced enter preds (LoopExit jumps n next s forever body orelse) (.statement n s) next
        (next + 2 + blockSize body)
        (⟨.here n, next, s⟩ :: under n .body (blockSlots 0 (next + 2) body))
        (edgesTo preds next ++ (loopBody jumps next body).edges) [next + 1] live
      ∧ (Opened enter preds → live next)
      ∧ (Opened enter preds → CanEnd (.loop n forever body orelse) .normal → live (next + 1)) := by
  have hown := Traced.own (LoopExit jumps n next s forever body orelse) n s henter hpreds
  have hend := hown.append (.pocket (CanEnd (.loop n forever body orelse) .normal) hown.after
    hloop.canEnd) fun p hp => .inl hp
  obtain ⟨live, hlive⟩ := hbody { jumps with loop? := some (next, next + 1) } 0 (next + 2) _ [next]
    hend.after (List.forall_mem_singleton.mpr (by omega))
  have hall := hend.append (hlive.inside .body [] (fun v _ hv => ?_)
    (fun _ place hplace => hloop.reaches hplace.loopBody) (List.forall_mem_nil _))
    (List.forall_mem_singleton.mpr (.inr (Nat.le_refl next)))
  · simp only [List.append_nil] at hall
    refine ⟨_, hall, fun hopened => .inl (.inl ⟨rfl, hopened⟩), fun hopened hnormal => ?_⟩
    obtain ⟨p, hp, hentered⟩ := hopened
    exact .inl (.inr ⟨rfl, ⟨p, hp, .inl hentered⟩, hnormal⟩)
  · rcases hv.of_loop with rfl | rfl | ⟨rfl, hbroke⟩
    · exact .inl (.inl rfl)
    · exact .inr (.inl rfl)
    · exact .inr (.inr ⟨rfl, hbroke.loopBody⟩)

/-- The nodes of the `else` block of a loop. -/
theorem traced_loopAfter (jumps : Targets) (n : Nat) (hloop : IsLoop s forever body orelse) (horelse : TracedBlock orelse)
    (henter : ∀ u, enter u → u < next + 2 + blockSize body) :
    ∃ live, Traced enter [next] (LoopExit jumps n next s forever body orelse) (.statement n s)
        (next + 2 + blockSize body)
        (next + 2 + blockSize body + if forever then 0 else blockSize orelse)
        (if forever then []
          else under n .orelse (blockSlots 0 (next + 2 + blockSize body) orelse))
        (loopAfter jumps next forever body orelse).edges [] live
      ∧ ∀ v ∈ (loopAfter jumps next forever body orelse).outs,
        next ≤ v ∧ v < next + 2 + blockSize body + (if forever then 0 else blockSize orelse)
          ∧ (enter v ∨ live v → CanEnd (.loop n forever body orelse) .normal) := by
  cases forever with
  | true => exact ⟨_, .pass henter (List.forall_mem_nil _), List.forall_mem_nil _⟩
  | false =>
      obtain ⟨live, hlive⟩ := horelse jumps 0 (next + 2 + blockSize body) enter [next] henter
        (List.forall_mem_singleton.mpr (by omega))
      refine ⟨live, hlive.inside .orelse [] (fun v _ hv => .inl (hv.mono fun hbroke =>
        hloop.canEnd hbroke.loopElse)) (fun _ place hplace => hloop.reaches hplace.loopElse)
        (List.forall_mem_nil _),
        fun v hv => ⟨?_, hlive.left v hv, fun hv' => (hlive.out v hv hv').2.loopElse⟩⟩
      rcases mem_outs_block orelse hv with hv | hv
      · exact Nat.le_of_eq (List.mem_singleton.mp hv).symm
      · omega

/-- A loop, given its blocks. -/
theorem traced_loop (hloop : IsLoop s forever body orelse)
    (hsize : statementSize s = 2 + blockSize body + if forever then 0 else blockSize orelse)
    (hbody : TracedBlock body) (horelse : TracedBlock orelse) (henter : ∀ u, enter u → u < next)
    (hpreds : ∀ p ∈ preds, p < next) :
    ∃ live, Traced enter preds (jumps.JumpTo (CanEnd (.statement n s) .broke)) (.statement n s) next
      (next + statementSize s) (⟨.here n, next, s⟩ :: loopSlots n next forever body orelse)
      (loopPiece jumps next preds s forever body orelse).edges
      (loopPiece jumps next preds s forever body orelse).outs live := by
  obtain ⟨before, hbefore, hhead, hleave⟩ := traced_loopBody jumps n hloop hbody henter
    hpreds
  obtain ⟨after, hafter, houts⟩ := traced_loopAfter jumps n hloop horelse
    hbefore.after
  have hall := hbefore.append hafter (List.forall_mem_singleton.mpr (.inr (Nat.le_refl next)))
  have hback (u v : Nat) (he : (u, v) ∈ edgesTo (loopBody jumps next body).outs next
      ++ edgesTo (loopAfter jumps next forever body orelse).outs (next + 1)) :
      next ≤ u ∧ u < next + 2 + blockSize body + (if forever then 0 else blockSize orelse) := by
    rcases List.mem_append.mp he with he | he
    · rcases mem_outs_block body (mem_edgesTo.mp he).1 with hu | hu
      · obtain rfl := List.mem_singleton.mp hu
        omega
      · omega
    · have := houts u (mem_edgesTo.mp he).1
      omega
  have hwhole := hall.extend (jumps.JumpTo (CanEnd (.statement n s) .broke))
    (fun u v he => (hback u v he).2) (fun u v he hu => ?_) (fun u v he hu => ?_)
    fun u v hu hv => ?_
  · rw [List.append_nil] at hwhole
    rw [hsize, ← Nat.add_assoc, ← Nat.add_assoc]
    refine ⟨_, hwhole.fewer fun e he => ?_⟩
    simp only [loopPiece, List.mem_append] at he ⊢
    tauto
  · have := henter u hu
    have := hback u v he
    omega
  · rcases List.mem_append.mp he with he | he
    · obtain ⟨-, rfl⟩ := mem_edgesTo.mp he
      exact .inl (.inl (hhead (hall.opened u hu)))
    · obtain ⟨hmem, rfl⟩ := mem_edgesTo.mp he
      have hnormal := (houts u hmem).2.2 (hu.imp_left .inr)
      exact .inl (.inl (hleave (hall.opened u hu) hnormal))
  · rcases hv with hv | rfl | ⟨rfl, hnormal⟩
    · exact .inr hv
    · exact .inl (.inl (hhead (hall.opened u hu)))
    · exact .inl (.inl (hleave (hall.opened u hu) hnormal))

theorem tracedStatement_whileLoop (hbody : TracedBlock body) (horelse : TracedBlock orelse) :
    TracedStatement (.whileLoop line test body orelse) := by
  intro jumps n next enter preds henter hpreds
  rw [statement_whileLoop]
  exact traced_loop (fun _ _ _ run => .whileLoop run) rfl hbody horelse henter hpreds

theorem tracedStatement_forLoop (hbody : TracedBlock body) (horelse : TracedBlock orelse) :
    TracedStatement (.forLoop line target iter body orelse) := by
  intro jumps n next enter preds henter hpreds
  rw [statement_forLoop]
  exact traced_loop (fun _ _ _ run => .forLoop run) rfl hbody horelse henter hpreds

end Loop

/-! ## `try` statements -/

section Try

variable {jumps : Targets} {n next : Nat} {enter : Nat → Prop} {preds : List Nat}

/-- What the graph takes for granted of a `try` statement with a `finally`: if the `finally` can end
normally and something before it has an open end, so can that; and it does not stop every `break`. -/
structure Transparent (body : List Stmt) (handlers : List Handler)
    (orelse finalBody : List Stmt) : Prop where
  falls : ∀ n jumps next, (tryPieces jumps next body handlers orelse finalBody).opens ≠ [] →
    CanEnd (.block 0 finalBody) .normal → CanEnd (.tried n body handlers orelse) .normal
  breaks : ∀ n, CanEnd (.tried n body handlers orelse) .broke →
    CanEnd (.block 0 finalBody) .normal ∨ CanEnd (.block 0 finalBody) .broke

/-- A statement that is no `try` statement with a `finally`, or one that is transparent. -/
def Settled : Stmt → Prop
  | .tryBlock _ body handlers orelse finalBody =>
    finalBody ≠ [] → Transparent body handlers orelse finalBody
  | _ => True

/-- `break` leaves a settled `try` statement if it leaves what is before the `finally`. -/
theorem Settled.canEnd_broke (h : Settled (.tryBlock line body handlers orelse finalBody))
    (hend : CanEnd (.tried n body handlers orelse) .broke) :
    CanEnd (.statement n (.tryBlock line body handlers orelse finalBody)) .broke := by
  by_cases hempty : finalBody = []
  · subst hempty
    exact hend.tryTried (by decide) ⟨_, .blockDone⟩
  · rcases (h hempty).breaks n hend with hlast | hlast
    · exact hend.tryTried (by decide) hlast
    · exact hlast.tryFinal (by decide)

/-- Handlers can be traced wherever they stand. -/
def TracedHandlers (handlers : List Handler) : Prop :=
  ∀ (jumps : Targets) (n k next source : Nat) (enter : Nat → Prop) (body : List Stmt)
    (all : List Handler) (orelse : List Stmt), (∀ i, all[k + i]? = handlers[i]?) →
    (∀ u, enter u → u < next) → source < next →
    ∃ live, Traced enter [source] (jumps.JumpTo (CanEnd (.tried n body all orelse) .broke))
      (.tried n body all orelse) next (next + handlersSize handlers) (handlerSlots n k next handlers)
      (Piece.handlerPieces jumps next source handlers).edges
      (Piece.handlerPieces jumps next source handlers).outs live

theorem tracedHandlers_nil : TracedHandlers [] := by
  intro jumps n k next source enter body all orelse hall henter hsource
  exact ⟨_, .pass henter (List.forall_mem_nil _)⟩

theorem tracedHandlers_cons {handler : Handler} (hbody : TracedBlock handler.body)
    (hrest : TracedHandlers handlers) : TracedHandlers (handler :: handlers) := by
  intro jumps n k next source enter body all orelse hall henter hsource
  obtain ⟨line, name, block⟩ := handler
  have handles : all[k]? = some (.mk line name block) := hall 0
  obtain ⟨first, hfirst⟩ := hbody jumps 0 next enter [source] henter
    (List.forall_mem_singleton.mpr hsource)
  have hcaught : Traced enter [source] (jumps.JumpTo (CanEnd (.tried n body all orelse) .broke))
      (.tried n body all orelse) next (next + blockSize block)
      (under n (.handler k) (blockSlots 0 next block)) (Piece.block jumps next [source] block).edges
      (Piece.block jumps next [source] block).outs first := hfirst.inside _ _
    (fun v _ hv => hv.mono (.triedHandler handles))
    (fun _ place hplace => hplace.triedHandler handles)
    fun v hv => ⟨hv, fun _ hend => hend.triedHandler handles⟩
  obtain ⟨later, hlater⟩ := hrest jumps n (k + 1) (next + blockSize block) source
    (fun v => enter v ∨ first v) body all orelse
    (fun i => by
      rw [Nat.add_assoc, Nat.add_comm 1 i]
      exact hall (i + 1))
    hcaught.after (Nat.lt_add_right _ hsource)
  have hboth := hcaught.append hlater fun p hp => .inl hp
  unfold Piece.handlerPieces handlersSize
  dsimp only
  rw [length_block, ← Nat.add_assoc]
  exact ⟨_, hboth⟩

/-- A `try` statement up to its `finally`. -/
theorem traced_tried {p : TryPieces} (hp : p = tryPieces jumps next body handlers orelse finalBody)
    (hbody : TracedBlock body) (horelse : TracedBlock orelse) (hhandlers : TracedHandlers handlers)
    (henter : ∀ u, enter u → u < next + 1) :
    ∃ live, Traced enter [next] (jumps.JumpTo (CanEnd (.tried n body handlers orelse) .broke))
      (.tried n body handlers orelse) (next + 1) (p.join + 1)
      (triedSlots n next body handlers orelse)
      (p.tried.edges ++ p.normal.edges ++ p.handled.edges ++ edgesTo p.opens p.join) [p.join]
      live := by
  subst hp
  obtain ⟨tried, htried⟩ := hbody jumps 0 (next + 1) enter [next] henter
    (List.forall_mem_singleton.mpr (Nat.lt_succ_self _))
  have hend := htried.canEnd_of_opened
  have hfirst : Traced enter [next] (jumps.JumpTo (CanEnd (.tried n body handlers orelse) .broke))
      (.tried n body handlers orelse) (next + 1) (next + 1 + blockSize body)
      (under n .body (blockSlots 0 (next + 1) body))
      (tryPieces jumps next body handlers orelse finalBody).tried.edges [] tried := htried.inside _ _
    (fun v _ hv => hv.mono fun hbroke => hbroke.triedBody (by decide))
    (fun _ place hplace => hplace.triedBody) (List.forall_mem_nil _)
  obtain ⟨normal, hnormal⟩ := horelse jumps 0 (next + 1 + blockSize body)
    (fun v => enter v ∨ tried v) (tryPieces jumps next body handlers orelse finalBody).tried.outs
    hfirst.after htried.left
  rw [← triedNormal_eq] at hnormal
  have hboth := hfirst.append (hnormal.inside .orelse
    (tryPieces jumps next body handlers orelse finalBody).normal.outs
    (fun v hopened hv => hv.mono (.triedElse (hend hopened)))
    (fun hopened place => .triedElse (hend hopened))
    fun v hv => ⟨hv, fun hopened => .triedElse (hend hopened)⟩)
    fun v hv => (mem_outs_tried hv).imp_right And.left
  obtain ⟨handled, hhandled⟩ := hhandlers jumps n 0 (next + 1 + blockSize body + blockSize orelse)
    next _ body handlers orelse (fun i => by rw [Nat.zero_add]) hboth.after (by omega)
  rw [← triedHandled_eq] at hhandled
  have hall := hboth.append hhandled fun p hp => .inl hp
  obtain ⟨live, hlive⟩ := hall.join fun v hv =>
    (Nat.eq_or_lt_of_le (mem_opens hv).1).imp_left fun heq => List.mem_singleton.mpr heq.symm
  rw [List.nil_append] at hlive
  rw [join_tryPieces]
  exact ⟨live, hlive⟩

/-- The `finally` of a `try` statement. -/
theorem traced_final {p : TryPieces} (hp : p = tryPieces jumps next body handlers orelse finalBody)
    (hsettled : Settled (.tryBlock line body handlers orelse finalBody))
    (hfinal : TracedBlock finalBody) (henter : ∀ u, enter u → u < p.join + 1) :
    ∃ live, Traced enter [p.join, next]
      (jumps.JumpTo (CanEnd (.statement n (.tryBlock line body handlers orelse finalBody)) .broke))
      (.statement n (.tryBlock line body handlers orelse finalBody)) (p.join + 1)
      (p.join + 1 + blockSize finalBody) (under n .final (blockSlots 0 (p.join + 1) finalBody))
      p.last.edges (if finalBody.isEmpty ∨ p.opens.isEmpty then [] else p.last.outs) live := by
  subst hp
  have hjoin := join_tryPieces jumps next body handlers orelse finalBody
  obtain ⟨live, hlive⟩ := hfinal jumps 0
    ((tryPieces jumps next body handlers orelse finalBody).join + 1) enter
    [(tryPieces jumps next body handlers orelse finalBody).join, next] henter
    (List.forall_mem_cons.mpr ⟨by omega, List.forall_mem_singleton.mpr (by omega)⟩)
  refine ⟨live, hlive.inside _ _ (fun v _ hv => hv.mono fun hbroke => hbroke.tryFinal (by decide))
    (fun _ place hplace => hplace.tryFinal) fun v hv => ?_⟩
  split at hv
  · cases hv
  · rename_i hfalls
    simp only [List.isEmpty_iff, not_or] at hfalls
    refine ⟨hv, fun _ hnormal => ?_⟩
    exact ((hsettled hfalls.1).falls n jumps next hfalls.2 hnormal).tryTried (by decide) hnormal

theorem tracedStatement_tryBlock
    (hsettled : Settled (.tryBlock line body handlers orelse finalBody)) (hbody : TracedBlock body)
    (horelse : TracedBlock orelse) (hhandlers : TracedHandlers handlers)
    (hfinal : TracedBlock finalBody) :
    TracedStatement (.tryBlock line body handlers orelse finalBody) := by
  intro jumps n next enter preds henter hpreds
  obtain ⟨p, hp⟩ : ∃ p, p = tryPieces jumps next body handlers orelse finalBody := ⟨_, rfl⟩
  have hjoin : p.join = next + 1 + blockSize body + blockSize orelse + handlersSize handlers :=
    hp ▸ join_tryPieces ..
  have hown := Traced.own (jumps.JumpTo (CanEnd
      (.statement n (.tryBlock line body handlers orelse finalBody)) .broke)) n
    (.tryBlock line body handlers orelse finalBody) henter hpreds
  obtain ⟨tried, htried⟩ := traced_tried (n := n) hp hbody horelse hhandlers hown.after
  have hfront := hown.append (htried.lift (if finalBody.isEmpty then [p.join] else [])
    (fun v _ hv => hv.mono hsettled.canEnd_broke)
    (fun x hx => ⟨x, hx, rfl, fun _ hplace => hplace.tryTried⟩) fun v hv => ?_)
    (List.forall_mem_singleton.mpr (.inr (Nat.le_refl next)))
  · obtain ⟨last, hlast⟩ := traced_final (n := n) hp hsettled hfinal hfront.after
    have hall := hfront.append hlast fun v hv => .inr (by
      simp only [List.mem_cons, List.not_mem_nil, or_false] at hv
      omega)
    have hafter (u v : Nat) (he : (u, v) ∈ edgesTo
        (if finalBody.isEmpty || !p.opens.isEmpty then [] else p.last.outs) jumps.finish) :
        v = jumps.finish ∧ next ≤ u ∧ u < p.join + 1 + blockSize finalBody := by
      obtain ⟨hu, rfl⟩ := mem_edgesTo.mp he
      split at hu
      · cases hu
      · subst hp
        exact ⟨rfl, mem_outs_last hu⟩
    have hwhole := hall.extend (jumps.JumpTo (CanEnd
        (.statement n (.tryBlock line body handlers orelse finalBody)) .broke))
      (fun u v he => (hafter u v he).2.2)
      (fun u v he hu => absurd (henter u hu) (Nat.not_lt_of_le (hafter u v he).2.1))
      (fun u v he _ => .inr (.inl (hafter u v he).1)) fun _ _ _ hv => .inr hv
    have hsize : next + statementSize (.tryBlock line body handlers orelse finalBody)
        = p.join + 1 + blockSize finalBody := by
      unfold statementSize
      omega
    have houts : [] ++ (if finalBody.isEmpty then [p.join] else [])
        ++ (if finalBody.isEmpty ∨ p.opens.isEmpty then [] else p.last.outs)
        = if finalBody.isEmpty then [p.join] else if p.opens.isEmpty then [] else p.last.outs := by
      cases finalBody.isEmpty <;> simp
    rw [statement_tryBlock, ← hp, hsize]
    rw [houts] at hwhole
    simp only [List.append_assoc] at hwhole ⊢
    rw [hjoin] at hwhole ⊢
    exact ⟨_, hwhole⟩
  · split at hv
    · rename_i hempty
      have hlast : CanEnd (.block 0 finalBody) .normal := by
        rw [List.isEmpty_iff.mp hempty]
        exact ⟨_, .blockDone⟩
      exact ⟨hv, fun _ hend => hend.tryTried (by decide) hlast⟩
    · cases hv

end Try

/-! ## Every piece of program -/

mutual

theorem tracedStatement : (s : Stmt) → (∀ t ∈ Stmt.walkOne s, Settled t) → TracedStatement s
  | .simple line what, _ => tracedStatement_simple
  | .function line name params body, _ =>
      tracedStatement_define rfl (fun _ _ => rfl) (fun _ _ _ => rfl) rfl
  | .classDef line name body, _ =>
      tracedStatement_define rfl (fun _ _ => rfl) (fun _ _ _ => rfl) rfl
  | .branch line test body orelse, h => by
      simp only [Stmt.walkOne, List.forall_mem_cons, List.forall_mem_append] at h
      exact tracedStatement_branch (tracedBlock body h.2.1) (tracedBlock orelse h.2.2)
  | .whileLoop line test body orelse, h => by
      simp only [Stmt.walkOne, List.forall_mem_cons, List.forall_mem_append] at h
      exact tracedStatement_whileLoop (tracedBlock body h.2.1) (tracedBlock orelse h.2.2)
  | .forLoop line target iter body orelse, h => by
      simp only [Stmt.walkOne, List.forall_mem_cons, List.forall_mem_append] at h
      exact tracedStatement_forLoop (tracedBlock body h.2.1) (tracedBlock orelse h.2.2)
  | .tryBlock line body handlers orelse finalBody, h => by
      simp only [Stmt.walkOne, List.forall_mem_cons, List.forall_mem_append] at h
      obtain ⟨hown, ⟨⟨hbody, hhandlers⟩, horelse⟩, hfinal⟩ := h
      exact tracedStatement_tryBlock hown (tracedBlock body hbody) (tracedBlock orelse horelse)
        (tracedHandlers handlers hhandlers) (tracedBlock finalBody hfinal)
  | .withBlock line items targets body, h => by
      simp only [Stmt.walkOne, List.forall_mem_cons] at h
      exact tracedStatement_withBlock (tracedBlock body h.2)

theorem tracedBlock : (body : List Stmt) → (∀ t ∈ Stmt.walkScope body, Settled t) →
    TracedBlock body
  | [], _ => tracedBlock_nil
  | s :: body, h => by
      simp only [Stmt.walkScope, List.forall_mem_append] at h
      exact tracedBlock_cons (tracedStatement s h.1) (tracedBlock body h.2)

theorem tracedHandlers : (handlers : List Handler) →
    (∀ t ∈ Stmt.walkHandlers handlers, Settled t) → TracedHandlers handlers
  | [], _ => tracedHandlers_nil
  | .mk line name body :: handlers, h => by
      simp only [Stmt.walkHandlers, List.forall_mem_append] at h
      exact tracedHandlers_cons (tracedBlock body h.1) (tracedHandlers handlers h.2)

end

end Remedy.Flow
