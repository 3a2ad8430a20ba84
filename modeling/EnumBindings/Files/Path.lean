import EnumBindings.Text.Basic

/-!
# Paths

A path is kept as it was written. It is joined to another one as texts, with a slash between them
where there is none, and it is taken apart into names only to be followed.

## Main definitions

* `Path.join` — a path below another one
* `Path.names` — the names to follow, one after the other
* `Path.ancestry` — the names to make one after the other, when directories are made
-/

namespace EnumBindings

/-- A path, as it was written. -/
abbrev Path := Text

namespace Path

/-- Whether a path starts from the root. -/
def isAbsolute (path : Path) : Bool :=
  path.head? == some '/'

/-- A path below another one. An absolute path takes its place instead. -/
def join (base rest : Path) : Path :=
  if isAbsolute rest then rest
  else if base = [] || base.getLast? == some '/' then base ++ rest
  else base ++ '/' :: rest

/-- The names to follow, one after the other. A slash at the end is an empty name, which says that
the name before it is that of a directory. -/
def names (path : Path) : List Text :=
  (path.splitOn '/').filter (· ≠ []) ++ if path.getLast? == some '/' then [[]] else []

/-- The names of a path, the last one first, apart from those that stay where they are. -/
def ancestry (path : Path) : List Text :=
  ((path.splitOn '/').filter fun name => name ≠ [] && name ≠ ['.']).reverse

/-- The path with the given ancestry. -/
def ofAncestry (absolute : Bool) (names : List Text) : Path :=
  (if absolute then ['/'] else []) ++ ['/'].intercalate names.reverse

end Path

end EnumBindings
