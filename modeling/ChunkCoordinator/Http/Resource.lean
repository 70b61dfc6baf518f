import ChunkCoordinator.Text.Split

/-!
# Resources

The things that a path can name. Segments that hold an identifier or a name are kept as they stand
in the path.
-/

namespace ChunkCoordinator.Http

/-- What a path names. -/
inductive Resource where
  | health
  | metrics
  | status
  | nodes
  | heartbeat (node : List Char)
  | files
  | file (id : List Char)
  | replicas (chunk : List Char)
  | roster
  | member (node : List Char)
  | failure (node : List Char)
  | restoration (node : List Char)
  | rebalances
  | sweep
  deriving DecidableEq

namespace Resource

/-- What the segments of a path name. A name at the end of a path cannot be empty. -/
def ofSegments? : List (List Char) → Option Resource
  | [a] =>
    if a = "health".toList then some health
    else if a = "metrics".toList then some metrics
    else if a = "nodes".toList then some nodes
    else if a = "files".toList then some files
    else none
  | [a, b] =>
    if a = "cluster".toList ∧ b = "status".toList then some status
    else if a = "files".toList ∧ b ≠ [] then some (file b)
    else if a = "admin".toList ∧ b = "nodes".toList then some roster
    else if a = "admin".toList ∧ b = "rebalances".toList then some rebalances
    else none
  | [a, b, c] =>
    if a = "nodes".toList ∧ c = "heartbeat".toList then some (heartbeat b)
    else if a = "chunks".toList ∧ c = "replicas".toList then some (replicas b)
    else if a = "admin".toList ∧ b = "nodes".toList ∧ c ≠ [] then some (member c)
    else if a = "admin".toList ∧ b = "rebalances".toList ∧ c = "sweep".toList then some sweep
    else none
  | [a, b, c, d] =>
    if a = "admin".toList ∧ b = "nodes".toList ∧ d = "fail".toList then some (failure c)
    else if a = "admin".toList ∧ b = "nodes".toList ∧ d = "restore".toList then
      some (restoration c)
    else none
  | _ => none

/-- What a path names. -/
def ofPath? (path : List Char) : Option Resource :=
  match path with
  | '/' :: rest => ofSegments? (Text.splitOn (· = '/') rest)
  | _ => none

end Resource

end ChunkCoordinator.Http
