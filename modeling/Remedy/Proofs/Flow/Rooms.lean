import Remedy.Proofs.Flow.Embedding
import Remedy.Python.Binding

/-!
# The blocks of a statement in a graph

A statement's piece is made of its own nodes and of the pieces of its blocks (`rooms`), so that each
block stands in a graph where the statement does (`PlacedOne.room`). What a block is and where its
jumps go is said by its part (`block?_of_mem_rooms`, `jumps_of_mem_rooms`).
-/

namespace Remedy.Flow

open Python

variable {g : Graph} {jumps : Targets} {preds : List Nat} {n next line : Nat}

/-! ## Blocks -/

/-- The blocks of a loop, the second one unless the loop never runs out. -/
def loopRooms (jumps : Targets) (next : Nat) (forever : Bool) (body orelse : List Stmt) :
    List Room :=
  ⟨.body, { jumps with loop? := some (next, next + 1) }, next + 2, [next], body⟩ ::
    if forever then [] else [⟨.orelse, jumps, next + 2 + blockSize body, [next], orelse⟩]

/-- The blocks of handlers from number `k` on. -/
def handlerRooms (jumps : Targets) (k next source : Nat) : List Handler → List Room
  | [] => []
  | .mk _ _ body :: handlers =>
    ⟨.handler k, jumps, next, [source], body⟩ ::
      handlerRooms jumps (k + 1) (next + blockSize body) source handlers

/-- The blocks of a statement whose own node is `next`. -/
def rooms (jumps : Targets) (next : Nat) : Stmt → List Room
  | .simple _ _ | .function _ _ _ _ | .classDef _ _ _ => []
  | .branch _ test body orelse =>
    [⟨.body, jumps, next + 1,
        if test.literal?.map Literal.truthy = some false then [] else [next], body⟩,
      ⟨.orelse, jumps, next + 1 + blockSize body,
        if test.literal?.map Literal.truthy = some true then [] else [next], orelse⟩]
  | .whileLoop _ test body orelse =>
    loopRooms jumps next (test.literal?.any Literal.truthy) body orelse
  | .forLoop _ _ _ body orelse => loopRooms jumps next false body orelse
  | .tryBlock _ body handlers orelse finalBody =>
    let p := tryPieces jumps next body handlers orelse finalBody
    ⟨.body, jumps, next + 1, [next], body⟩ ::
      ⟨.orelse, jumps, next + 1 + blockSize body, p.tried.outs, orelse⟩ ::
      (handlerRooms jumps 0 (next + 1 + blockSize body + blockSize orelse) next handlers
        ++ [⟨.final, jumps, p.join + 1, [p.join, next], finalBody⟩])
  | .withBlock _ _ _ body => [⟨.body, jumps, next + 1, [next], body⟩]

/-! ## Slots -/

theorem handlerSlots_eq (jumps : Targets) (n k next source : Nat) (handlers : List Handler) :
    handlerSlots n k next handlers
      = (handlerRooms jumps k next source handlers).flatMap (Room.slots n) := by
  induction handlers generalizing k next with
  | nil => rfl
  | cons handler handlers ih =>
      obtain ⟨line, name, body⟩ := handler
      rw [handlerSlots, handlerRooms, List.flatMap_cons, ← ih]
      rfl

theorem flatMap_loopRooms (forever : Bool) (body orelse : List Stmt) :
    (loopRooms jumps next forever body orelse).flatMap (Room.slots n) =
      loopSlots n next forever body orelse := by
  cases forever <;> simp [loopRooms, loopSlots, Room.slots]

theorem statementSlots_eq (jumps : Targets) (n next : Nat) (s : Stmt) :
    statementSlots n next s =
      ⟨.here n, next, s⟩ :: (rooms jumps next s).flatMap (Room.slots n) := by
  cases s with
  | simple line what => rfl
  | function line name params body => rfl
  | classDef line name body => rfl
  | branch line test body orelse => simp [statementSlots, rooms, Room.slots]
  | whileLoop line test body orelse => rw [rooms, flatMap_loopRooms]; rfl
  | forLoop line target iter body orelse => rw [rooms, flatMap_loopRooms]; rfl
  | tryBlock line body handlers orelse finalBody =>
      rw [statementSlots, handlerSlots_eq jumps n 0 _ next]
      simp [rooms, Room.slots, join_tryPieces]
  | withBlock line items targets body => simp [statementSlots, rooms, Room.slots]

/-! ## Pieces -/

section Pieces

variable {test : Expr} {body orelse finalBody : List Stmt} {handlers : List Handler}
  {r : Room} {v : Nat} {node : Node}

theorem arranged_branch {hi : Nat} (hexits : ∀ v, jumps.JumpTo True v → v < next)
    (hhi : next + 1 + blockSize body + blockSize orelse ≤ hi) :
    Arranged (next + 1) hi (rooms jumps next (.branch line test body orelse)) := by
  have hafter : ∀ v, jumps.JumpTo True v → v < next + 1 :=
    fun v hv => Nat.lt_succ_of_lt (hexits v hv)
  unfold rooms
  refine .of_entry_lt (List.forall_mem_cons.mpr ⟨⟨Nat.le_refl _, ?_⟩,
    List.forall_mem_singleton.mpr ⟨Nat.le_add_right .., hhi⟩⟩)
    (List.pairwise_pair.mpr (.inl (Nat.le_refl _)))
    (List.forall_mem_cons.mpr ⟨hafter, List.forall_mem_singleton.mpr hafter⟩) ?_
  · exact Nat.le_trans (Nat.le_add_right ..) hhi
  · exact List.forall_mem_cons.mpr ⟨fun v hv => Nat.lt_succ_of_le (Nat.le_of_eq (mem_arm hv)),
      List.forall_mem_singleton.mpr fun v hv => Nat.lt_succ_of_le (Nat.le_of_eq (mem_arm hv))⟩

theorem made_branch (hexits : ∀ v, jumps.JumpTo True v → v < next)
    (hpreds : ∀ v ∈ preds, v < next) :
    Made (Piece.statement jumps next preds (.branch line test body orelse)) next
      (rooms jumps next (.branch line test body orelse)) := by
  have ha : Arranged (next + 1) (next + 1 + blockSize body + blockSize orelse)
      (rooms jumps next (.branch line test body orelse)) := arranged_branch hexits (Nat.le_refl _)
  have hlength : (branchBody jumps next test body).nodes.length = blockSize body := length_block ..
  have houts (v : Nat) (hv : v ∈ (branchBody jumps next test body).outs
      ++ (branchElse jumps next test body orelse).outs) :
      Clear (rooms jumps next (.branch line test body orelse)) v := by
    rcases List.mem_append.mp hv with hv | hv
    · exact ha.clear_of_outs List.mem_cons_self hv
    · exact ha.clear_of_outs (List.mem_cons_of_mem _ List.mem_cons_self) hv
  rw [statement_branch]
  constructor
  case outs => exact List.forall_mem_singleton.mpr (ha.clear_of_ge (Nat.le_refl _))
  case nodes =>
    simp only [nodeAt_cons, nodeAt_append, hlength]
    exact List.forall_mem_cons.mpr ⟨fun v node hv => .inr (.inl (.inl hv)),
      List.forall_mem_singleton.mpr fun v node hv => .inr (.inl (.inr hv))⟩
  case sub =>
    refine List.forall_mem_cons.mpr ⟨fun e he => ?_, List.forall_mem_singleton.mpr fun e he => ?_⟩
    · simp only [List.mem_append]
      exact .inr (.inl (.inl he))
    · simp only [List.mem_append]
      exact .inr (.inl (.inr he))
  case edges =>
    intro u v he
    simp only [List.mem_append] at he
    rcases he with he | (he | he) | he
    · exact .inr (ha.joins_own hpreds (Nat.lt_succ_self _) he)
    · exact .inl ⟨_, List.mem_cons_self, he⟩
    · exact .inl ⟨_, List.mem_cons_of_mem _ List.mem_cons_self, he⟩
    · exact .inr (joins_of_edgesTo houts (ha.not_holds_of_ge (Nat.le_refl _)) he)

theorem arranged_loop (forever : Bool) (hexits : ∀ v, jumps.JumpTo True v → v < next) :
    Arranged (next + 2) (next + 2 + blockSize body + if forever then 0 else blockSize orelse)
      (loopRooms jumps next forever body orelse) := by
  have hbody : ∀ v, Targets.JumpTo { jumps with loop? := some (next, next + 1) } True v →
      v < next + 2 := fun v hv => lt_of_jumpTo_loop hexits hv
  have hnext : ∀ v ∈ [next], v < next + 2 :=
    List.forall_mem_singleton.mpr (Nat.lt_add_of_pos_right Nat.zero_lt_two)
  cases forever with
  | true =>
      exact .of_entry_lt (List.forall_mem_singleton.mpr ⟨Nat.le_refl _, Nat.le_refl _⟩)
        (List.pairwise_singleton _ _) (List.forall_mem_singleton.mpr hbody)
        (List.forall_mem_singleton.mpr hnext)
  | false =>
      refine .of_entry_lt ?_ (List.pairwise_pair.mpr (.inl (Nat.le_refl _))) ?_ ?_
      · exact List.forall_mem_cons.mpr ⟨⟨Nat.le_refl _, Nat.le_add_right _ _⟩,
          List.forall_mem_singleton.mpr ⟨Nat.le_add_right _ _, Nat.le_refl _⟩⟩
      · exact List.forall_mem_cons.mpr ⟨hbody,
          List.forall_mem_singleton.mpr fun v hv => Nat.lt_add_right 2 (hexits v hv)⟩
      · exact List.forall_mem_cons.mpr ⟨hnext, List.forall_mem_singleton.mpr hnext⟩

theorem made_loop {s : Stmt} (forever : Bool) (hexits : ∀ v, jumps.JumpTo True v → v < next)
    (hpreds : ∀ v ∈ preds, v < next) :
    Made (loopPiece jumps next preds s forever body orelse) next
      (loopRooms jumps next forever body orelse) := by
  have ha : Arranged (next + 2) _ (loopRooms jumps next forever body orelse) :=
    arranged_loop forever hexits
  have hlength : (loopBody jumps next body).nodes.length = blockSize body := length_block ..
  have hhead : ∀ r ∈ loopRooms jumps next forever body orelse, ¬ r.Holds next :=
    ha.not_holds_of_lt (Nat.lt_add_of_pos_right Nat.zero_lt_two)
  have hleave : ∀ r ∈ loopRooms jumps next forever body orelse, ¬ r.Holds (next + 1) :=
    ha.not_holds_of_lt (Nat.lt_succ_self _)
  -- the `else` block of a loop that never runs out is no block of its piece
  have helse (hends : forever = false) : ⟨.orelse, jumps, next + 2 + blockSize body, [next], orelse⟩
      ∈ loopRooms jumps next forever body orelse := by
    rw [hends]
    exact List.mem_cons_of_mem _ List.mem_cons_self
  constructor
  case outs => exact List.forall_mem_singleton.mpr (ha.clear_of_lt (Nat.lt_succ_self _))
  case nodes =>
    unfold loopPiece
    simp only [nodeAt_cons, nodeAt_append, hlength]
    refine List.forall_mem_cons.mpr ⟨fun v node hv => .inr (.inr (.inl hv)), ?_⟩
    cases forever with
    | true => exact List.forall_mem_nil _
    | false => exact List.forall_mem_singleton.mpr fun v node hv => .inr (.inr (.inr hv))
  case sub =>
    unfold loopPiece
    refine List.forall_mem_cons.mpr ⟨fun e he => ?_, ?_⟩
    · simp only [List.mem_append]
      exact .inr (.inl (.inl he))
    · cases forever with
      | true => exact List.forall_mem_nil _
      | false =>
          refine List.forall_mem_singleton.mpr fun e he => ?_
          simp only [List.mem_append]
          exact .inr (.inr (.inl he))
  case edges =>
    intro u v he
    unfold loopPiece at he
    simp only [List.mem_append] at he
    rcases he with he | (he | he) | he
    · exact .inr (ha.joins_own hpreds (Nat.lt_add_of_pos_right Nat.zero_lt_two) he)
    · exact .inl ⟨_, List.mem_cons_self, he⟩
    · exact .inr (joins_of_edgesTo (fun u hu => ha.clear_of_outs List.mem_cons_self hu) hhead he)
    · unfold loopAfter at he
      cases hends : forever with
      | true => simp [hends, edgesTo] at he
      | false =>
          rw [hends, if_neg Bool.false_ne_true] at he
          have hmem := helse hends
          rw [hends] at ha hleave hmem
          rcases he with he | he
          · exact .inl ⟨_, hmem, he⟩
          · exact .inr (joins_of_edgesTo (fun u hu => ha.clear_of_outs hmem hu) hleave he)

/-! ### Handlers and `try` statements -/

theorem mem_handlerRooms {k source : Nat} (hr : r ∈ handlerRooms jumps k next source handlers) :
    r.jumps = jumps ∧ r.entry = [source] ∧ next ≤ r.first
      ∧ r.last ≤ next + handlersSize handlers := by
  induction handlers generalizing k next with
  | nil => cases hr
  | cons handler handlers ih =>
      obtain ⟨line, name, body⟩ := handler
      have hsize : handlersSize (.mk line name body :: handlers)
        = blockSize body + handlersSize handlers := rfl
      rcases List.mem_cons.mp hr with rfl | hr
      · refine ⟨rfl, rfl, Nat.le_refl _, ?_⟩
        rw [hsize, ← Nat.add_assoc]
        exact Nat.le_add_right _ _
      · obtain ⟨hjumps, hentry, hfirst, hlast⟩ := ih hr
        exact ⟨hjumps, hentry, by omega, by omega⟩

theorem apart_handlerRooms (jumps : Targets) (k next source : Nat) (handlers : List Handler) :
    (handlerRooms jumps k next source handlers).Pairwise Room.Apart := by
  induction handlers generalizing k next with
  | nil => exact .nil
  | cons handler handlers ih =>
      obtain ⟨line, name, body⟩ := handler
      exact List.pairwise_cons.mpr ⟨fun r hr => .inl (mem_handlerRooms hr).2.2.1, ih _ _⟩

/-- The piece of handlers is made of their blocks alone. -/
theorem handlers_of_rooms (jumps : Targets) (k next source : Nat) (handlers : List Handler) :
    (∀ e, e ∈ (Piece.handlerPieces jumps next source handlers).edges ↔
        ∃ r ∈ handlerRooms jumps k next source handlers, e ∈ r.piece.edges)
      ∧ (∀ v, v ∈ (Piece.handlerPieces jumps next source handlers).outs ↔
        ∃ r ∈ handlerRooms jumps k next source handlers, v ∈ r.piece.outs)
      ∧ ∀ r ∈ handlerRooms jumps k next source handlers, ∀ v node,
        NodeAt r.first r.piece.nodes v node →
          NodeAt next (Piece.handlerPieces jumps next source handlers).nodes v node := by
  induction handlers generalizing k next with
  | nil => simp [Piece.handlerPieces, handlerRooms]
  | cons handler handlers ih =>
      obtain ⟨line, name, body⟩ := handler
      obtain ⟨hedges, houts, hnodes⟩ := ih (k + 1) (next + blockSize body)
      rw [Piece.handlerPieces, handlerRooms, length_block]
      refine ⟨fun e => ?_, fun v => ?_, ?_⟩
      · simp only [List.mem_append, hedges, List.exists_mem_cons_iff]
        rfl
      · simp only [List.mem_append, houts, List.exists_mem_cons_iff]
        rfl
      · simp only [nodeAt_append, length_block]
        exact List.forall_mem_cons.mpr ⟨fun v node hv => .inl hv,
          fun r hr v node hv => .inr (hnodes r hr v node hv)⟩

theorem forall_mem_rooms_tryBlock {q : Room → Prop} {p : TryPieces} (line : Nat)
    (hp : p = tryPieces jumps next body handlers orelse finalBody) :
    (∀ r ∈ rooms jumps next (.tryBlock line body handlers orelse finalBody), q r) ↔
      q ⟨.body, jumps, next + 1, [next], body⟩
        ∧ q ⟨.orelse, jumps, next + 1 + blockSize body, p.tried.outs, orelse⟩
        ∧ (∀ r ∈ handlerRooms jumps 0 (next + 1 + blockSize body + blockSize orelse) next handlers,
          q r)
        ∧ q ⟨.final, jumps, p.join + 1, [p.join, next], finalBody⟩ := by
  rw [hp, rooms, List.forall_mem_cons, List.forall_mem_cons, List.forall_mem_append,
    List.forall_mem_singleton]

/-- The join of a `try` statement is in none of its blocks. -/
theorem not_holds_join : ∀ r ∈ rooms jumps next (.tryBlock line body handlers orelse finalBody),
    ¬ r.Holds (tryPieces jumps next body handlers orelse finalBody).join := by
  have hjoin := join_tryPieces jumps next body handlers orelse finalBody
  refine (forall_mem_rooms_tryBlock line rfl).mpr ⟨Room.not_holds_of_ge ?_, Room.not_holds_of_ge ?_,
    fun r hr => Room.not_holds_of_ge ?_, Room.not_holds_of_lt (Nat.lt_succ_self _)⟩
  · simp only [Room.last]
    omega
  · simp only [Room.last]
    omega
  · exact hjoin ▸ (mem_handlerRooms hr).2.2.2

/-- The blocks of a `try` statement. The `else` block is entered where the body is left, the
`finally` from the node before it. -/
theorem arranged_tryBlock (hexits : ∀ v, jumps.JumpTo True v → v < next) :
    Arranged (next + 1) (next + statementSize (.tryBlock line body handlers orelse finalBody))
      (rooms jumps next (.tryBlock line body handlers orelse finalBody)) := by
  generalize hp : tryPieces jumps next body handlers orelse finalBody = p
  have hrooms {q : Room → Prop} := forall_mem_rooms_tryBlock (q := q) line hp.symm
  have hjoin : p.join = next + 1 + blockSize body + blockSize orelse + handlersSize handlers :=
    hp ▸ join_tryPieces ..
  have hsize : statementSize (.tryBlock line body handlers orelse finalBody)
    = 1 + blockSize body + blockSize orelse + handlersSize handlers + 1 + blockSize finalBody := rfl
  have hhandlers (r : Room) (hr : r ∈ handlerRooms jumps 0
      (next + 1 + blockSize body + blockSize orelse) next handlers) := mem_handlerRooms hr
  have hbounds : ∀ r ∈ rooms jumps next (.tryBlock line body handlers orelse finalBody),
      next + 1 ≤ r.first
        ∧ r.last ≤ next + statementSize (.tryBlock line body handlers orelse finalBody) := by
    refine hrooms.mpr ⟨?_, ?_, fun r hr => ?_, ?_⟩
    · simp only [Room.last]
      omega
    · simp only [Room.last]
      omega
    · have := hhandlers r hr
      omega
    · simp only [Room.last]
      omega
  constructor
  case bounds => exact hbounds
  case apart =>
    have hbody := fun r hr => Nat.le_trans (Nat.le_add_right _ _) (hhandlers r hr).2.2.1
    simp only [rooms, hp, List.pairwise_cons, List.pairwise_append, List.forall_mem_cons,
      List.forall_mem_append]
    refine ⟨⟨.inl (Nat.le_refl _), fun r hr => .inl (hbody r hr), .inl ?_, List.forall_mem_nil _⟩,
      ⟨fun r hr => .inl (hhandlers r hr).2.2.1, .inl ?_, List.forall_mem_nil _⟩,
      apart_handlerRooms .., ⟨List.forall_mem_nil _, .nil⟩,
      fun r hr => ⟨.inl ?_, List.forall_mem_nil _⟩⟩
    · simp only [Room.last]
      omega
    · simp only [Room.last]
      omega
    · have := (hhandlers r hr).2.2.2
      dsimp only
      omega
  case exits =>
    have hafter : ∀ v, jumps.JumpTo True v → v < next + 1 :=
      fun v hv => Nat.lt_succ_of_lt (hexits v hv)
    exact hrooms.mpr ⟨hafter, hafter, fun r hr => (hhandlers r hr).1 ▸ hafter, hafter⟩
  case entry =>
    have hself : Clear (rooms jumps next (.tryBlock line body handlers orelse finalBody)) next :=
      fun r hr hholds => absurd hholds (Room.not_holds_of_lt (hbounds r hr).1)
    have hown {first : Nat} (hfirst : next < first) : ∀ v ∈ [next], v < first ∧
        Clear (rooms jumps next (.tryBlock line body handlers orelse finalBody)) v :=
      List.forall_mem_singleton.mpr ⟨hfirst, hself⟩
    refine hrooms.mpr ⟨hown (Nat.lt_succ_self _), fun v hv => ?_, fun r hr => ?_,
      List.forall_mem_cons.mpr ⟨⟨Nat.lt_succ_self _, ?_⟩, hown (by dsimp only; omega)⟩⟩
    · -- the body is left at its own nodes or at the statement's
      have hlt : v < next + 1 + blockSize body := by
        subst hp
        rcases mem_outs_tried hv with hv | hv
        · rw [List.mem_singleton.mp hv]
          omega
        · exact hv.2
      refine ⟨hlt, hrooms.mpr ⟨fun _ => ?_, fun hholds => absurd hholds (Room.not_holds_of_lt hlt),
        fun r hr hholds => absurd hholds (Room.not_holds_of_lt ?_),
        fun hholds => absurd hholds (Room.not_holds_of_lt ?_)⟩⟩
      · subst hp
        exact hv
      · have := (hhandlers r hr).2.2.1
        omega
      · dsimp only
        omega
    · obtain ⟨-, hentry, hfirst, -⟩ := hhandlers r hr
      exact hentry ▸ hown (by omega)
    · exact fun r hr hholds => absurd hholds (hp ▸ not_holds_join r hr)

theorem made_tryBlock (hexits : ∀ v, jumps.JumpTo True v → v < next)
    (hpreds : ∀ v ∈ preds, v < next) :
    Made (Piece.statement jumps next preds (.tryBlock line body handlers orelse finalBody)) next
      (rooms jumps next (.tryBlock line body handlers orelse finalBody)) := by
  have ha : Arranged (next + 1) _
      (rooms jumps next (.tryBlock line body handlers orelse finalBody)) := arranged_tryBlock hexits
  obtain ⟨hedges, houts, hnodes⟩ := handlers_of_rooms jumps 0
    (next + 1 + blockSize body + blockSize orelse) next handlers
  rw [statement_tryBlock]
  generalize hp : tryPieces jumps next body handlers orelse finalBody = p
  have hrooms {q : Room → Prop} := forall_mem_rooms_tryBlock (q := q) line hp.symm
  have hjoin : p.join = next + 1 + blockSize body + blockSize orelse + handlersSize handlers :=
    hp ▸ join_tryPieces ..
  have htried : p.tried = Room.piece ⟨.body, jumps, next + 1, [next], body⟩ := hp ▸ rfl
  have hnormal : p.normal = Room.piece ⟨.orelse, jumps, next + 1 + blockSize body, p.tried.outs,
    orelse⟩ := hp ▸ triedNormal_eq
  have hhandled : p.handled = .handlerPieces jumps
      (next + 1 + blockSize body + blockSize orelse) next handlers := hp ▸ triedHandled_eq
  have hlast : p.last = Room.piece ⟨.final, jumps, p.join + 1, [p.join, next], finalBody⟩ :=
    hp ▸ rfl
  have hlengths : p.tried.nodes.length = blockSize body ∧ p.normal.nodes.length = blockSize orelse
      ∧ p.handled.nodes.length = handlersSize handlers := by
    rw [htried, hnormal, hhandled]
    exact ⟨length_block .., length_block .., length_handlers ..⟩
  obtain ⟨hbody, horelse, hhandlers, hfinal⟩ := hrooms.mp fun r hr => hr
  have hends : Clear (rooms jumps next (.tryBlock line body handlers orelse finalBody)) p.join :=
    (ha.entry _ hfinal _ List.mem_cons_self).2
  have hlasts (v : Nat) (hv : v ∈ p.last.outs) :
      Clear (rooms jumps next (.tryBlock line body handlers orelse finalBody)) v :=
    ha.clear_of_outs hfinal (hlast ▸ hv)
  have hopens (v : Nat) (hv : v ∈ p.opens) :
      Clear (rooms jumps next (.tryBlock line body handlers orelse finalBody)) v := by
    rcases List.mem_append.mp hv with hv | hv
    · rw [hnormal] at hv
      exact ha.clear_of_outs horelse hv
    · rw [hhandled] at hv
      obtain ⟨r, hr, hv⟩ := (houts v).mp hv
      exact ha.clear_of_outs (hhandlers r hr) hv
  have hjoined : ∀ r ∈ rooms jumps next (.tryBlock line body handlers orelse finalBody),
      ¬ r.Holds p.join := hp ▸ not_holds_join
  constructor
  case outs =>
    dsimp only
    split
    · exact List.forall_mem_singleton.mpr hends
    split
    · exact List.forall_mem_nil _
    · exact hlasts
  case nodes =>
    simp only [nodeAt_cons, nodeAt_append, List.length_append, List.length_singleton, hlengths]
    refine hrooms.mpr ⟨fun v node hv => ?_, fun v node hv => ?_, fun r hr v node hv => ?_,
      fun v node hv => ?_⟩
    · rw [htried]
      exact .inr (.inl (.inl (.inl (.inl hv))))
    · rw [hnormal]
      exact .inr (.inl (.inl (.inl (.inr hv))))
    · have hv := hnodes r hr v node hv
      rw [← hhandled, Nat.add_assoc] at hv
      exact .inr (.inl (.inl (.inr hv)))
    · have hstart : next + 1 + (blockSize body + blockSize orelse + handlersSize handlers + 1)
          = p.join + 1 := by omega
      rw [hstart, hlast]
      exact .inr (.inr hv)
  case sub =>
    refine hrooms.mpr ⟨fun e he => ?_, fun e he => ?_, fun r hr e he => ?_, fun e he => ?_⟩ <;>
      simp only [List.mem_append]
    · exact .inr (.inl (.inl (.inl (.inl (.inl (htried ▸ he))))))
    · rw [hnormal]
      exact .inr (.inl (.inl (.inl (.inl (.inr he)))))
    · rw [hhandled]
      exact .inr (.inl (.inl (.inl (.inr ((hedges e).mpr ⟨r, hr, he⟩)))))
    · exact .inr (.inl (.inr (hlast ▸ he)))
  case edges =>
    intro u v he
    simp only [List.mem_append] at he
    rcases he with he | ((((he | he) | he) | he) | he) | he
    · exact .inr (ha.joins_own hpreds (Nat.lt_succ_self _) he)
    · exact .inl ⟨_, hbody, htried ▸ he⟩
    · rw [hnormal] at he
      exact .inl ⟨_, horelse, he⟩
    · rw [hhandled] at he
      obtain ⟨r, hr, he⟩ := (hedges _).mp he
      exact .inl ⟨r, hhandlers r hr, he⟩
    · exact .inr (joins_of_edgesTo hopens hjoined he)
    · exact .inl ⟨_, hfinal, hlast ▸ he⟩
    · refine .inr (joins_of_edgesTo (fun u hu => ?_) ?_ he)
      · split at hu
        · cases hu
        · exact hlasts u hu
      · exact ha.not_holds_of_lt (Nat.lt_succ_of_lt (hexits _ (.inl rfl)))

/-! ### Every statement -/

theorem made_withBlock {items targets : List Expr} {hi : Nat} (hpreds : ∀ v ∈ preds, v < next)
    (ha : Arranged (next + 1) hi (rooms jumps next (.withBlock line items targets body))) :
    Made (Piece.statement jumps next preds (.withBlock line items targets body)) next
      (rooms jumps next (.withBlock line items targets body)) := by
  rw [statement_withBlock]
  constructor
  case outs => exact fun v hv => ha.clear_of_outs List.mem_cons_self hv
  case nodes =>
    simp only [nodeAt_cons]
    exact List.forall_mem_singleton.mpr fun v node hv => .inr hv
  case sub => exact List.forall_mem_singleton.mpr (List.subset_append_right ..)
  case edges =>
    intro u v he
    rcases List.mem_append.mp he with he | he
    · exact .inr (ha.joins_own hpreds (Nat.lt_succ_self _) he)
    · exact .inl ⟨_, List.mem_cons_self, he⟩

/-- The blocks of a statement that stands in a graph. -/
theorem PlacedOne.room {s : Stmt} (h : PlacedOne g jumps next preds s)
    (hr : r ∈ rooms jumps next s) : Placed g r.jumps r.first r.entry r.block := by
  have hembeds := h.embeds
  cases s with
  | simple | function | classDef => cases hr
  | branch line test body orelse =>
      have hsize : next + 1 + blockSize body + blockSize orelse
          ≤ next + statementSize (.branch line test body orelse) := by
        unfold statementSize
        omega
      exact (made_branch h.exits h.before).placed (arranged_branch h.exits hsize) hembeds
        (Nat.le_succ _) hr
  | whileLoop line test body orelse =>
      have hsize : next + statementSize (.whileLoop line test body orelse) = next + 2
          + blockSize body + if test.literal?.any Literal.truthy then 0 else blockSize orelse := by
        simp only [statementSize, Nat.add_assoc]
      rw [hsize, statement_whileLoop] at hembeds
      exact (made_loop _ h.exits h.before).placed (arranged_loop _ h.exits) hembeds
        (Nat.le_add_right ..) hr
  | forLoop line target iter body orelse =>
      have hsize : next + statementSize (.forLoop line target iter body orelse) = next + 2
          + blockSize body + blockSize orelse := by
        simp only [statementSize, Nat.add_assoc]
      rw [hsize, statement_forLoop] at hembeds
      exact (made_loop _ h.exits h.before).placed (arranged_loop _ h.exits) hembeds
        (Nat.le_add_right ..) hr
  | tryBlock line body handlers orelse finalBody =>
      exact (made_tryBlock h.exits h.before).placed (arranged_tryBlock h.exits) hembeds
        (Nat.le_succ _) hr
  | withBlock line items targets body =>
      have ha : Arranged (next + 1) (next + statementSize (.withBlock line items targets body))
          (rooms jumps next (.withBlock line items targets body)) := by
        refine .of_entry_lt (List.forall_mem_singleton.mpr ⟨Nat.le_refl _, ?_⟩)
          (List.pairwise_singleton _ _)
          (List.forall_mem_singleton.mpr fun v hv => Nat.lt_succ_of_lt (h.exits v hv))
          (List.forall_mem_singleton.mpr (List.forall_mem_singleton.mpr (Nat.lt_succ_self _)))
        exact Nat.le_of_eq (Nat.add_assoc ..)
      exact (made_withBlock h.before ha).placed ha hembeds (Nat.le_succ _) hr

/-- Behind the node of a loop is the place where it is left. -/
theorem PlacedOne.loopEnd {s : Stmt} (h : PlacedOne g jumps next preds s) (hs : s.isLoop = true) :
    g.nodes[next + 1]? = some .loopEnd := by
  have hat {forever : Bool} {block orelse : List Stmt} :
      NodeAt next (loopPiece jumps next preds s forever block orelse).nodes (next + 1) .loopEnd :=
    nodeAt_cons.mpr (.inr (nodeAt_cons.mpr (.inl ⟨rfl, rfl⟩)))
  cases s with
  | whileLoop line test block orelse =>
      exact h.embeds.nodes _ _ (statement_whileLoop ▸ hat)
  | forLoop line target iter block orelse =>
      exact h.embeds.nodes _ _ (statement_forLoop ▸ hat)
  | simple | function | classDef | branch | tryBlock | withBlock => cases hs

end Pieces

/-! ## The parts of the blocks -/

section Parts

variable {s : Stmt} {r r' : Room} {handlers : List Handler}

theorem exists_handler_of_mem {k source : Nat}
    (hr : r ∈ handlerRooms jumps k next source handlers) :
    ∃ i, r.part = .handler (k + i) ∧ handlers[i]?.map Handler.body = some r.block := by
  induction handlers generalizing k next with
  | nil => cases hr
  | cons handler handlers ih =>
      obtain ⟨line, name, body⟩ := handler
      rcases List.mem_cons.mp hr with rfl | hr
      · exact ⟨0, rfl, rfl⟩
      · obtain ⟨i, hpart, hblock⟩ := ih hr
        exact ⟨i + 1, by rw [hpart, Nat.add_right_comm, Nat.add_assoc], hblock⟩

theorem block?_of_mem_rooms (hr : r ∈ rooms jumps next s) : r.part.block? s = some r.block := by
  have hloop {forever : Bool} {body orelse : List Stmt}
      (hr : r ∈ loopRooms jumps next forever body orelse) (hbody : Part.body.block? s = some body)
      (horelse : Part.orelse.block? s = some orelse) : r.part.block? s = some r.block := by
    rcases List.mem_cons.mp hr with rfl | hr
    · exact hbody
    · split at hr
      · cases hr
      · rw [List.mem_singleton.mp hr]
        exact horelse
  cases s with
  | simple | function | classDef => cases hr
  | branch line test body orelse =>
      exact (List.forall_mem_cons (p := fun r : Room => r.part.block? _ = some r.block)).mpr
        ⟨rfl, List.forall_mem_singleton.mpr rfl⟩ r hr
  | whileLoop line test body orelse => exact hloop hr rfl rfl
  | forLoop line target iter body orelse => exact hloop hr rfl rfl
  | tryBlock line body handlers orelse finalBody =>
      refine (forall_mem_rooms_tryBlock (q := fun r => r.part.block? _ = some r.block) line rfl).mpr
        ⟨rfl, rfl, fun r hr => ?_, rfl⟩ r hr
      obtain ⟨i, hpart, hblock⟩ := exists_handler_of_mem hr
      rw [hpart, Nat.zero_add]
      exact hblock
  | withBlock line items targets body => rw [List.mem_singleton.mp hr]; rfl

/-- Only the body of a loop has jumps of its own. -/
theorem jumps_of_mem_rooms (hr : r ∈ rooms jumps next s) :
    r.jumps = if r.part = .body ∧ s.isLoop = true then { jumps with loop? := some (next, next + 1) }
      else jumps := by
  have hloop {forever : Bool} {body orelse : List Stmt} (hs : s.isLoop = true)
      (hr : r ∈ loopRooms jumps next forever body orelse) :
      r.jumps = if r.part = .body ∧ s.isLoop = true
        then { jumps with loop? := some (next, next + 1) } else jumps := by
    rcases List.mem_cons.mp hr with rfl | hr
    · rw [if_pos ⟨rfl, hs⟩]
    · split at hr
      · cases hr
      · rw [List.mem_singleton.mp hr]
        exact (if_neg fun h => nomatch h.1).symm
  have hplain (hs : s.isLoop = false) (hjumps : r.jumps = jumps) :
      r.jumps = if r.part = .body ∧ s.isLoop = true
        then { jumps with loop? := some (next, next + 1) } else jumps := by
    rw [if_neg fun h => Bool.false_ne_true (hs ▸ h.2), hjumps]
  cases s with
  | simple | function | classDef => cases hr
  | branch line test body orelse =>
      refine hplain rfl ?_
      exact (List.forall_mem_cons (p := fun r : Room => r.jumps = jumps)).mpr
        ⟨rfl, List.forall_mem_singleton.mpr rfl⟩ r hr
  | whileLoop line test body orelse => exact hloop rfl hr
  | forLoop line target iter body orelse => exact hloop rfl hr
  | tryBlock line body handlers orelse finalBody =>
      refine hplain rfl ?_
      exact (forall_mem_rooms_tryBlock (q := fun r => r.jumps = jumps) line rfl).mpr
        ⟨rfl, rfl, fun r hr => (mem_handlerRooms hr).1, rfl⟩ r hr
  | withBlock line items targets body =>
      refine hplain rfl ?_
      rw [List.mem_singleton.mp hr]

theorem map_part_handlerRooms (jumps : Targets) (k next source : Nat) (handlers : List Handler) :
    (handlerRooms jumps k next source handlers).map Room.part
      = (List.range' k handlers.length).map .handler := by
  induction handlers generalizing k next with
  | nil => rfl
  | cons handler handlers ih =>
      obtain ⟨line, name, body⟩ := handler
      rw [handlerRooms, List.map_cons, ih, List.length_cons, List.range'_succ, List.map_cons]

theorem nodup_parts (jumps : Targets) (next : Nat) (s : Stmt) :
    ((rooms jumps next s).map Room.part).Nodup := by
  have hloop (forever : Bool) (body orelse : List Stmt) :
      ((loopRooms jumps next forever body orelse).map Room.part).Nodup := by
    cases forever <;> simp [loopRooms]
  cases s with
  | simple | function | classDef => exact List.nodup_nil
  | branch line test body orelse => simp [rooms]
  | whileLoop line test body orelse => exact hloop ..
  | forLoop line target iter body orelse => exact hloop ..
  | tryBlock line body handlers orelse finalBody =>
      have hhandlers : ((List.range' 0 handlers.length).map Part.handler).Nodup :=
        List.Nodup.map (fun i j heq => Part.handler.inj heq) List.nodup_range'
      simp [rooms, map_part_handlerRooms, List.nodup_append, hhandlers]
  | withBlock line items targets body => exact List.nodup_singleton _

theorem eq_of_part (hr : r ∈ rooms jumps next s) (hr' : r' ∈ rooms jumps next s)
    (hpart : r.part = r'.part) : r = r' :=
  List.inj_on_of_nodup_map (nodup_parts jumps next s) hr hr' hpart

end Parts

end Remedy.Flow
