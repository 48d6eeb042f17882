import WidgetBuilders.FileTree

/-!
# A tree from answers

A program that knows only what it was answered when it asked for paths builds its tree of files from
the answers. It reads each file that it needs, and it asks of each place that a path goes through
whether it can be passed. What an answer tells is a matter of names only: a path is taken to lead
where its names lead, and what is known of a location stays when a later answer is noted.

A place that cannot be asked about, for whatever reason, is taken to let the path pass. So the fault
is found where it belongs, at the file itself.
-/

namespace WidgetBuilders.FileTree

/-- The location that a path leads to when `..` is taken by name. -/
def Path.location (path : Path) (working : Location) : Location :=
  path.names.foldl
    (fun location name =>
      if name = "." then location
      else if name = ".." then location.dropLast
      else location ++ [name])
    (if path.fromRoot then [] else working)

/-- The paths that are gone through when a path goes on by some names. -/
def waysFrom (path : String) : List String → List String
  | [] => []
  | name :: rest => join path name :: waysFrom (join path name) rest

/-- The paths of the places that a path goes through. Its last name is among them only if a slash
follows. -/
def ways (path : String) : List String :=
  let parts := Path.ofText path
  waysFrom (if parts.fromRoot then "/" else "")
    (if parts.wantsDirectory then parts.names else parts.names.dropLast)

/-- Puts something where a path leads, unless something is known to be there. -/
def note (tree : FileTree) (path : String) (node : FileNode) : FileTree :=
  let location := (Path.ofText path).location tree.working
  if (tree.node? location).isSome then tree else tree.put location node

/-- Notes what came of reading a file. A path that is blocked on the way says nothing of the place
where it leads. -/
def noteFile (tree : FileTree) (path : String) : Except FileFault (List UInt8) → FileTree
  | .ok bytes => tree.note path (.file bytes)
  | .error .isDirectory => tree.note path .directory
  | .error .notFound | .error .notDirectory => tree
  | .error fault => tree.note path (.lockedFile fault)

/-- What is read at a path to ask whether the path can be passed: the directory itself. -/
def passage (path : String) : String := join path "."

/-- Notes what came of reading the passage of a path. What is there and is no directory lets no path
pass; what it holds is not told. -/
def notePassage (tree : FileTree) (path : String) : Except FileFault (List UInt8) → FileTree
  | .error .notFound => tree
  | .error .notDirectory => tree.note path (.file [])
  | _ => tree.note path .directory

/-- What is known of a location stays when something is noted. -/
theorem node?_note_of_eq_some {tree : FileTree} {location : Location} {known : FileNode}
    (there : tree.node? location = some known) (path : String) (node : FileNode) :
    (tree.note path node).node? location = some known := by
  unfold note
  dsimp only
  split
  · exact there
  · next unknown =>
    have apart : location ≠ (Path.ofText path).location tree.working := by
      rintro rfl
      simp [there] at unknown
    rw [node?, lookup_put_of_ne apart]
    rw [node?] at there
    split at there
    · exact there
    · split at there
      · next onTheWay => rwa [if_pos (isOnTheWay_put onTheWay _ node)]
      · cases there

end WidgetBuilders.FileTree
