import Remedy.Proofs.Flow.Rooms

/-!
# Statements by their place in a graph

Where the statement at some place stands in the graph of its scope (`Placed.locate`): what comes
after it in its block stands behind it, and its jumps belong to the innermost loop that has the
place in its body (`Place.loops`).
-/

namespace Remedy.Flow

open Python

variable {g : Graph} {jumps : Targets} {preds : List Nat} {n next : Nat} {s : Stmt}
  {body rest : List Stmt} {x : Slot}

/-! ## Places -/

/-- The loops that have a place in their body, outermost first. The `else` block of a loop is no
part of its body. -/
def Place.loops : Place → List Stmt → List Place
  | .here _, _ => []
  | .inside n part place, block =>
    match block[n]? with
    | none => []
    | some s =>
      (if part = .body ∧ s.isLoop = true then [.here n] else [])
        ++ ((part.block? s).elim [] place.loops).map (.inside n part)

/-- A place comes before those of later statements of its block, and of all that is inside them. -/
def Place.Before : Place → Place → Prop
  | .here n, place => n < place.number
  | .inside n part place, .inside m other place' => n = m ∧ part = other ∧ place.Before place'
  | .inside _ _ _, .here _ => False

theorem Place.loops_inside {part : Part} {place : Place} {block : List Stmt}
    (hs : body[n]? = some s) (hblock : part.block? s = some block) :
    (Place.inside n part place).loops body =
      (if part = .body ∧ s.isLoop = true then [.here n] else [])
        ++ (place.loops block).map (.inside n part) := by
  rw [Place.loops, hs]
  simp only [hblock, Option.elim_some]

/-! ## Slots by their number -/

theorem bounds_blockSlots (hx : x ∈ blockSlots n next body) :
    next ≤ x.node ∧ x.node < next + blockSize body := by
  have hmem : (x.node, x.what) ∈
      statementsFrom next (Piece.block ⟨Graph.finishId, none⟩ next [] body).nodes := by
    rw [statementsFrom_block _ n]
    exact List.mem_map_of_mem hx
  obtain ⟨i, hnode, hi⟩ := mem_statementsFrom.mp hmem
  have hlt := (List.getElem?_eq_some_iff.mp hi).1
  rw [length_block] at hlt
  omega

theorem blockSlots_append (n next : Nat) (before rest : List Stmt) :
    blockSlots n next (before ++ rest) =
      blockSlots n next before
        ++ blockSlots (n + before.length) (next + blockSize before) rest := by
  induction before generalizing n next with
  | nil => rfl
  | cons s before ih =>
      rw [List.cons_append, blockSlots, ih, blockSlots, List.append_assoc, List.length_cons,
        blockSize, Nat.add_assoc, Nat.add_assoc, Nat.add_comm 1]

theorem exists_of_mem_blockSlots (hx : x ∈ blockSlots n next body) :
    ∃ before s rest, body = before ++ s :: rest
      ∧ x ∈ statementSlots (n + before.length) (next + blockSize before) s := by
  induction body generalizing n next with
  | nil => cases hx
  | cons s body ih =>
      rcases List.mem_append.mp hx with hx | hx
      · exact ⟨[], s, body, rfl, hx⟩
      · obtain ⟨before, t, rest, rfl, hx⟩ := ih hx
        refine ⟨s :: before, t, rest, rfl, ?_⟩
        rwa [List.length_cons, blockSize, Nat.add_comm before.length, ← Nat.add_assoc,
          ← Nat.add_assoc]

theorem number_lt_of_mem (hx : x ∈ blockSlots n next body) :
    x.place.number < n + body.length := by
  obtain ⟨before, s, rest, rfl, hs⟩ := exists_of_mem_blockSlots hx
  rw [number_statementSlots x hs, List.length_append, List.length_cons]
  omega

/-- The slots from some statement of a block on are those of that statement and those after them. -/
theorem mem_blockSlots_of_number {before : List Stmt}
    (hx : x ∈ blockSlots 0 next (before ++ s :: rest)) (hn : before.length ≤ x.place.number) :
    (x.place.number = before.length
        ∧ x ∈ statementSlots before.length (next + blockSize before) s)
      ∨ (before.length < x.place.number
        ∧ x ∈ blockSlots (before.length + 1) (next + blockSize before + statementSize s) rest) := by
  rw [blockSlots_append, Nat.zero_add] at hx
  rcases List.mem_append.mp hx with hx | hx
  · have := number_lt_of_mem hx
    omega
  · rcases List.mem_append.mp hx with hx | hx
    · exact .inl ⟨number_statementSlots x hx, hx⟩
    · exact .inr ⟨number_blockSlots x hx, hx⟩

theorem mem_blockSlots_of_statement {before : List Stmt}
    (hx : x ∈ statementSlots before.length (next + blockSize before) s) :
    x ∈ blockSlots 0 next (before ++ s :: rest) := by
  rw [blockSlots_append, Nat.zero_add]
  exact List.mem_append_right _ (List.mem_append_left _ hx)

theorem mem_statementSlots_cases (jumps : Targets) (hx : x ∈ statementSlots n next s) :
    x = ⟨.here n, next, s⟩ ∨ ∃ r ∈ rooms jumps next s, ∃ y ∈ blockSlots 0 r.first r.block,
      x = { y with place := .inside n r.part y.place } := by
  rw [statementSlots_eq jumps] at hx
  refine (List.mem_cons.mp hx).imp_right fun hx => ?_
  obtain ⟨r, hr, hx⟩ := List.mem_flatMap.mp hx
  obtain ⟨y, hy, rfl⟩ := List.mem_map.mp hx
  exact ⟨r, hr, y, hy, rfl⟩

theorem own_mem_statementSlots (n next : Nat) (s : Stmt) :
    ⟨.here n, next, s⟩ ∈ statementSlots n next s := by
  rw [statementSlots_eq ⟨Graph.finishId, none⟩]
  exact List.mem_cons_self

theorem mem_statementSlots_of_room {r : Room} (hr : r ∈ rooms jumps next s)
    (hx : x ∈ blockSlots 0 r.first r.block) :
    { x with place := .inside n r.part x.place } ∈ statementSlots n next s := by
  rw [statementSlots_eq jumps]
  exact List.mem_cons_of_mem _ (List.mem_flatMap.mpr ⟨r, hr, List.mem_map_of_mem hx⟩)

theorem Placed.append_right {before : List Stmt}
    (h : Placed g jumps next preds (before ++ rest)) :
    ∃ entry, Placed g jumps (next + blockSize before) entry rest := by
  induction before generalizing next preds with
  | nil => exact ⟨preds, h⟩
  | cons s before ih =>
      obtain ⟨entry, hrest⟩ := ih h.rest
      rw [Nat.add_assoc] at hrest
      exact ⟨entry, hrest⟩

/-! ## Where the statement at a place stands -/

/-- Where jumps of a statement go if the innermost of the loops around it is known. -/
def Aimed (slots : List Slot) (outer inner : Targets) : (loop? : Option Place) → Prop
  | none => inner.loop? = outer.loop?
  | some place => ∃ y ∈ slots, y.place = place ∧ y.what.isLoop = true
    ∧ inner.loop? = some (y.node, y.node + 1)

/-- A slot of a block stands in a graph with the statements after it, and jumps out of its innermost
loop. -/
structure Located (g : Graph) (jumps : Targets) (next : Nat) (body : List Stmt) (x : Slot)
    (inner : Targets) (entry : List Nat) (rest : List Stmt) : Prop where
  placed : Placed g inner x.node entry (x.what :: rest)
  aimed : Aimed (blockSlots 0 next body) jumps inner (x.place.loops body).getLast?
  later : ∀ y ∈ blockSlots 0 next body, x.place.Before y.place →
    x.node + statementSize x.what ≤ y.node ∧
      y.node < x.node + statementSize x.what + blockSize rest

theorem Aimed.of_room {before : List Stmt} {r : Room} {inner : Targets} {place : Place}
    (hr : r ∈ rooms jumps (next + blockSize before) s)
    (h : Aimed (blockSlots 0 r.first r.block) r.jumps inner (place.loops r.block).getLast?) :
    Aimed (blockSlots 0 next (before ++ s :: rest)) jumps inner
      ((Place.inside before.length r.part place).loops (before ++ s :: rest)).getLast? := by
  have hs : (before ++ s :: rest)[before.length]? = some s := by simp
  rw [Place.loops_inside hs (block?_of_mem_rooms hr), List.getLast?_append, List.getLast?_map]
  cases hinner : (place.loops r.block).getLast? with
  | some q =>
      rw [hinner] at h
      obtain ⟨y, hy, rfl, hloop⟩ := h
      exact ⟨_, mem_blockSlots_of_statement (mem_statementSlots_of_room hr hy), rfl, hloop⟩
  | none =>
      rw [hinner, Aimed, jumps_of_mem_rooms hr] at h
      split at h
      · rename_i hbody
        rw [if_pos hbody]
        exact ⟨_, mem_blockSlots_of_statement (own_mem_statementSlots ..), rfl, hbody.2, h⟩
      · rename_i hbody
        rw [if_neg hbody]
        exact h

/-- A slot at a place in a block of a statement is one of that block. -/
theorem exists_of_mem_room {before : List Stmt} {r : Room} {place : Place}
    (hr : r ∈ rooms jumps (next + blockSize before) s)
    (hx : x ∈ blockSlots 0 next (before ++ s :: rest))
    (hplace : x.place = .inside before.length r.part place) :
    ∃ y ∈ blockSlots 0 r.first r.block, y.place = place ∧ y.node = x.node := by
  have hn : x.place.number = before.length := hplace ▸ rfl
  rcases mem_blockSlots_of_number hx (Nat.le_of_eq hn.symm) with ⟨-, hx⟩ | ⟨hlt, -⟩
  · obtain rfl | ⟨r', hr', y, hy, rfl⟩ := mem_statementSlots_cases jumps hx
    · cases hplace
    · obtain ⟨-, hpart, heq⟩ := Place.inside.inj hplace
      obtain rfl := eq_of_part hr' hr hpart
      exact ⟨y, hy, heq, rfl⟩
  · exact absurd hn (Nat.ne_of_gt hlt)

/-- Every slot of a block that stands in a graph stands there itself. -/
theorem Placed.locate (h : Placed g jumps next preds body) (hx : x ∈ blockSlots 0 next body) :
    ∃ inner entry rest, Located g jumps next body x inner entry rest := by
  generalize hplace : x.place = place
  -- a place inside a statement is one of a block that stands in the graph by `PlacedOne.room`
  induction place generalizing x body jumps preds next with
  | here i =>
      obtain ⟨before, s, rest, rfl, hown⟩ := exists_of_mem_blockSlots hx
      obtain ⟨entry, hs⟩ := h.append_right
      rw [Nat.zero_add] at hown
      obtain rfl | ⟨r, hr, y, hy, rfl⟩ := mem_statementSlots_cases jumps hown
      · refine ⟨jumps, entry, rest, hs, rfl, fun y hy hbefore => ?_⟩
        rcases mem_blockSlots_of_number hy (Nat.le_of_lt hbefore) with ⟨hn, -⟩ | ⟨-, hy⟩
        · exact absurd hn (Nat.ne_of_gt hbefore)
        · exact bounds_blockSlots hy
      · cases hplace
  | inside i part place ih =>
      obtain ⟨before, s, rest, rfl, hown⟩ := exists_of_mem_blockSlots hx
      obtain ⟨entry, hs⟩ := h.append_right
      rw [Nat.zero_add] at hown
      obtain rfl | ⟨r, hr, y, hy, rfl⟩ := mem_statementSlots_cases jumps hown
      · cases hplace
      · cases hplace
        obtain ⟨inner, entry', rest', hy'⟩ := ih (hs.first.room hr) hy rfl
        refine ⟨inner, entry', rest', hy'.placed, hy'.aimed.of_room hr, fun z hz hbefore => ?_⟩
        cases hz' : z.place with
        | here m =>
            rw [hz'] at hbefore
            exact hbefore.elim
        | inside m other place =>
            rw [hz'] at hbefore
            obtain ⟨rfl, rfl, hbefore⟩ := hbefore
            obtain ⟨w, hw, rfl, hnode⟩ := exists_of_mem_room hr hz hz'
            exact hnode ▸ hy'.later w hw hbefore

end Remedy.Flow
