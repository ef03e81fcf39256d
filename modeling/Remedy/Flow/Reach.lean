/-!
# What can be reached

The nodes that paths from given nodes lead to. The search keeps the nodes that it has seen and those
that it still has to look at, and looks at no node twice; so one step for each start and for each
edge is enough.
-/

namespace Remedy.Flow

variable {α : Type} [DecidableEq α]

/-- Looks at the nodes of `open_` and at what they lead to, in at most `fuel` steps, and adds them to
the nodes that were seen. -/
def explore (next : α → List α) : (fuel : Nat) → (seen open_ : List α) → List α
  | 0, seen, _ => seen
  | _ + 1, seen, [] => seen
  | fuel + 1, seen, v :: rest =>
    if v ∈ seen then explore next fuel seen rest
    else explore next fuel (v :: seen) (next v ++ rest)

/-- The nodes that can be reached from `starts`, these included, in a graph with at most `edges`
edges. -/
def reach (next : α → List α) (edges : Nat) (starts : List α) : List α :=
  explore next (starts.length + edges + 1) [] starts

end Remedy.Flow
