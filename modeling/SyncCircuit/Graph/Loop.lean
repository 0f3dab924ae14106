/-!
# Loops in a directed graph

A depth-first search for loops among the chosen vertices of a finite graph. It reports one loop
for every edge that leads back onto the path the search is on.

## Main definitions

* `Search.explore` — the search below one vertex.
* `findLoops` — all reported loops, each a list that ends with the vertex it starts with.
-/
namespace SyncCircuit.Graph

/-- What a search has found: the vertices it is done with and the loops reported so far. -/
structure Search where
  done : List Nat := []
  loops : List (List Nat) := []
deriving Repr

namespace Search

/-- Reports the loop that the edge from the end of `path` back to `w` closes. -/
def report (s : Search) (path : List Nat) (w : Nat) : Search :=
  { s with loops := s.loops ++ [path.dropWhile (· != w) ++ [w]] }

/-- Marks a vertex as done. -/
def finish (s : Search) (v : Nat) : Search := { s with done := v :: s.done }

/-- Searches from vertex `v`, reached along `path`. Of its successors, in order, those on the path
close a loop and those done with are left alone; the search goes on below the others. The depth
bounds the length of the path, which never repeats a vertex. -/
def explore (next : Nat → List Nat) : (depth : Nat) → (path : List Nat) → Search → Nat → Search
  | 0, _, s, _ => s
  | depth + 1, path, s, v =>
    let path := path ++ [v]
    let s := (next v).foldl
      (fun s w =>
        if w ∈ path then s.report path w
        else if w ∈ s.done then s
        else explore next depth path s w) s
    s.finish v

end Search

/-- The loops among the chosen ones of the vertices `0` to `size - 1`. The search starts from every
chosen vertex, in order, that earlier searches did not reach. -/
def findLoops (size : Nat) (chosen : Nat → Bool) (next : Nat → List Nat) : List (List Nat) :=
  let search := (List.range size).foldl
    (fun s v =>
      if chosen v && !s.done.contains v then
        Search.explore (fun v => (next v).filter chosen) size [] s v
      else s) ({} : Search)
  search.loops

end SyncCircuit.Graph
