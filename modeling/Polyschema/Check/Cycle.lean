/-
Polyschema.Check.Cycle — the cycles of a graph whose nodes are names.

* `Graph` — edges from name to name.
* `Graph.cycles` — every simple cycle up to its node set, written from
  its smallest node back to that node.
-/
import Polyschema.Text.Sorted

namespace Polyschema.Check

open Polyschema.Text

abbrev Graph := List (String × String)

namespace Graph

/-- The nodes that edges leave, in ascending order. -/
def sources (g : Graph) : List String := sortedSet (g.map Prod.fst)

/-- The nodes to which edges lead from a node, in ascending order. -/
def targets (g : Graph) (node : String) : List String :=
  sortedSet ((g.filter fun e => e.1 == node).map Prod.snd)

/-- The cycles that continue a path, found depth first. The path is
given from its last node back to `start`; it is continued only to nodes
greater than its start that it has not met. Each step meets a new node,
so the number of edges bounds the depth. -/
def cyclesFrom (g : Graph) (start : String) : Nat → List String → List (List String)
  | 0, _ => []
  | depth + 1, path =>
    (g.targets (path.headD start)).flatMap fun next =>
      if next = start then [(next :: path).reverse]
      else if !path.contains next && start < next then
        cyclesFrom g start depth (next :: path)
      else []

/-- Of paths with the same nodes only the first. -/
def distinctByNodes (seen : List (List String)) : List (List String) → List (List String)
  | [] => []
  | path :: rest =>
    let nodes := sorted path.dropLast
    if seen.contains nodes then distinctByNodes seen rest
    else path :: distinctByNodes (nodes :: seen) rest

/-- The cycles of a graph, each once, by their smallest nodes. -/
def cycles (g : Graph) : List (List String) :=
  distinctByNodes [] (g.sources.flatMap fun start =>
    g.cyclesFrom start (g.length + 1) [start])

end Graph

end Polyschema.Check
