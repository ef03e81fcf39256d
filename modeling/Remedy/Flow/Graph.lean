import Remedy.Flow.Reach
import Remedy.Python.Tree

/-!
# Flow graphs of Python scopes

A node for each statement of a scope, one for the start and one for the end, a join after each `if`
and `try`, and for each loop the place where it is left. Nodes are numbered in the order they are
made; a piece of program knows its own nodes and edges, and the nodes where control falls out of it.

`Graph.reachable` lists the nodes that control can come to, `Graph.deadLines` the lines where dead
code begins: a dead statement that another dead one leads to, by an edge to a higher number, is part
of that one's region.
-/

namespace Remedy.Flow

open Python

inductive Node where
  | start
  | finish
  | statement (what : Stmt)
  | join
  | loopEnd

def Node.line? : Node → Option Nat
  | .statement s => some s.line
  | _ => none

/-- The part of a graph that a piece of program makes: its nodes, the edges in the order they are
drawn, and the nodes where control falls out. -/
structure Piece where
  nodes : List Node
  edges : List (Nat × Nat)
  outs : List Nat

/-- Where jumps go: the end of the scope, and the head and the end of the innermost loop. -/
structure Targets where
  finish : Nat
  loop? : Option (Nat × Nat)

def edgesTo (sources : List Nat) (target : Nat) : List (Nat × Nat) :=
  sources.map fun v => (v, target)

namespace Piece

def through (next : Nat) (preds : List Nat) (s : Stmt) : Piece :=
  ⟨[.statement s], edgesTo preds next, [next]⟩

/-- A statement that jumps, if there is a place to jump to. -/
def jump (next : Nat) (preds : List Nat) (s : Stmt) (target? : Option Nat) : Piece :=
  ⟨[.statement s], edgesTo preds next ++ (target?.map fun v => (next, v)).toList, []⟩

mutual

/-- The piece of a statement whose nodes are numbered from `next`, entered from `preds`. -/
def statement (jumps : Targets) (next : Nat) (preds : List Nat) : Stmt → Piece
  | .simple line what =>
    match what with
    | .ret _ | .raise _ => jump next preds (.simple line what) (some jumps.finish)
    | .breakLoop => jump next preds (.simple line what) (jumps.loop?.map (·.2))
    | .continueLoop => jump next preds (.simple line what) (jumps.loop?.map (·.1))
    | _ => through next preds (.simple line what)
  | .function line name params body => through next preds (.function line name params body)
  | .classDef line name body => through next preds (.classDef line name body)
  | .branch line test body orelse =>
    let constant? := test.literal?.map Literal.truthy
    let yes := block jumps (next + 1) (if constant? = some false then [] else [next]) body
    let no := block jumps (next + 1 + yes.nodes.length)
      (if constant? = some true then [] else [next]) orelse
    let join := next + 1 + yes.nodes.length + no.nodes.length
    ⟨.statement (.branch line test body orelse) :: yes.nodes ++ no.nodes ++ [.join],
      edgesTo preds next ++ yes.edges ++ no.edges ++ edgesTo (yes.outs ++ no.outs) join,
      [join]⟩
  | .whileLoop line test body orelse =>
    let leave := next + 1
    let inside := block { jumps with loop? := some (next, leave) } (next + 2) [next] body
    let after := block jumps (next + 2 + inside.nodes.length) [next] orelse
    let forever := test.literal?.any Literal.truthy
    ⟨.statement (.whileLoop line test body orelse) :: .loopEnd :: inside.nodes ++
        (if forever then [] else after.nodes),
      edgesTo preds next ++ inside.edges ++ edgesTo inside.outs next ++
        (if forever then [] else after.edges ++ edgesTo after.outs leave),
      [leave]⟩
  | .forLoop line target iter body orelse =>
    let leave := next + 1
    let inside := block { jumps with loop? := some (next, leave) } (next + 2) [next] body
    let after := block jumps (next + 2 + inside.nodes.length) [next] orelse
    ⟨.statement (.forLoop line target iter body orelse) :: .loopEnd :: inside.nodes ++ after.nodes,
      edgesTo preds next ++ inside.edges ++ edgesTo inside.outs next ++ after.edges ++
        edgesTo after.outs leave,
      [leave]⟩
  | .tryBlock line body handlers orelse finalBody =>
    let tried := block jumps (next + 1) [next] body
    let normal := block jumps (next + 1 + tried.nodes.length) tried.outs orelse
    let handled := handlerPieces jumps (next + 1 + tried.nodes.length + normal.nodes.length) next
      handlers
    let join := next + 1 + tried.nodes.length + normal.nodes.length + handled.nodes.length
    let outs := normal.outs ++ handled.outs
    let nodes := .statement (.tryBlock line body handlers orelse finalBody) ::
      tried.nodes ++ normal.nodes ++ handled.nodes ++ [.join]
    let edges := edgesTo preds next ++ tried.edges ++ normal.edges ++ handled.edges ++
      edgesTo outs join
    let last := block jumps (join + 1) [join, next] finalBody
    if finalBody.isEmpty then ⟨nodes, edges, [join]⟩
    else if outs.isEmpty then
      ⟨nodes ++ last.nodes, edges ++ last.edges ++ edgesTo last.outs jumps.finish, []⟩
    else ⟨nodes ++ last.nodes, edges ++ last.edges, last.outs⟩
  | .withBlock line items targets body =>
    let inside := block jumps (next + 1) [next] body
    ⟨.statement (.withBlock line items targets body) :: inside.nodes,
      edgesTo preds next ++ inside.edges, inside.outs⟩

/-- The piece of a block: each statement is entered from where the one before falls out. -/
def block (jumps : Targets) (next : Nat) (preds : List Nat) : List Stmt → Piece
  | [] => ⟨[], [], preds⟩
  | s :: body =>
    let first := statement jumps next preds s
    let rest := block jumps (next + first.nodes.length) first.outs body
    ⟨first.nodes ++ rest.nodes, first.edges ++ rest.edges, rest.outs⟩

/-- The pieces of handlers, each entered from the `try` statement. -/
def handlerPieces (jumps : Targets) (next source : Nat) : List Handler → Piece
  | [] => ⟨[], [], []⟩
  | .mk _ _ body :: handlers =>
    let first := block jumps next [source] body
    let rest := handlerPieces jumps (next + first.nodes.length) source handlers
    ⟨first.nodes ++ rest.nodes, first.edges ++ rest.edges, first.outs ++ rest.outs⟩

end

end Piece

structure Graph where
  nodes : List Node
  edges : List (Nat × Nat)

namespace Graph

def startId : Nat := 0

def finishId : Nat := 1

/-- The graph of a scope. Functions and classes in it are single statements. -/
def ofBody (body : List Stmt) : Graph :=
  let piece := Piece.block ⟨finishId, none⟩ 2 [startId] body
  ⟨.start :: .finish :: piece.nodes, piece.edges ++ edgesTo piece.outs finishId⟩

/-- The nodes that a node leads to, each once, in the order the edges were drawn. -/
def successors (g : Graph) (v : Nat) : List Nat :=
  ((g.edges.filter (·.1 = v)).map (·.2)).eraseDups

def reachable (g : Graph) : List Nat := reach g.successors g.edges.length [startId]

def deadStatements (g : Graph) : List Nat :=
  let alive := g.reachable
  (List.range g.nodes.length).filter fun v =>
    !alive.contains v && (g.nodes[v]?.bind Node.line?).isSome

/-- The nodes with a higher number that a node leads to. -/
def forward (g : Graph) (v : Nat) : List Nat := (g.successors v).filter (v < ·)

/-- The dead statements that begin a region of dead code. -/
def deadHeads (g : Graph) : List Nat :=
  let dead := g.deadStatements
  let covered := reach g.forward g.edges.length (dead.flatMap g.forward)
  dead.filter fun v => !covered.contains v

/-- The lines where a region of dead code begins, in ascending order and each once. -/
def deadLines (g : Graph) : List Nat :=
  ((g.deadHeads.filterMap fun v => g.nodes[v]?.bind Node.line?).mergeSort (· ≤ ·)).eraseDups

end Graph

end Remedy.Flow
