import WidgetBuilders.FileTree
import WidgetBuilders.Proofs.Sequencing

/-!
# What writing a file changes

A write touches the location to which its path leads and no other, whether it succeeds, is refused,
or runs out of room. In a tree of files this is not for free: a location lies in a directory if it
lies on the way to something, so a new file could call directories into being. It does not, because
a path is walked through directories that are there already, and so is everything above its end.

A file that was written in full is read back through the same path. The walk goes through the same
directories as before the write: none of them is the location that was written, since that is no
directory.
-/

namespace WidgetBuilders

namespace FileTree

/-- Nothing but what is at `location` differs. -/
def SameElsewhere (location : Location) (before after : FileTree) : Prop :=
  ∀ elsewhere, elsewhere ≠ location → after.node? elsewhere = before.node? elsewhere

/-- Everything above the location is on the way to something. -/
def Reached (tree : FileTree) (location : Location) : Prop :=
  ∀ above, above <+: location → above ≠ location → tree.isOnTheWay above = true

/-- What lies above a location on the way is on the way as well. -/
theorem isOnTheWay_of_prefix {tree : FileTree} {above location : Location}
    (under : above <+: location) (onTheWay : tree.isOnTheWay location = true) :
    tree.isOnTheWay above = true := by
  simp only [isOnTheWay, Bool.or_eq_true, List.any_eq_true, List.isPrefixOf_iff_prefix]
    at onTheWay ⊢
  rcases onTheWay with working | ⟨entry, member, toEntry⟩
  · exact Or.inl (under.trans working)
  · exact Or.inr ⟨entry, member, under.trans toEntry⟩

/-- Where something is, that location is on the way. -/
theorem isOnTheWay_of_node? {tree : FileTree} {location : Location} {node : FileNode}
    (there : tree.node? location = some node) : tree.isOnTheWay location = true := by
  unfold node? at there
  split at there
  · next found =>
    cases there
    obtain ⟨before, after, shape, _⟩ := List.lookup_eq_some_iff.mp found
    simp only [isOnTheWay, Bool.or_eq_true, List.any_eq_true, List.isPrefixOf_iff_prefix]
    exact Or.inr ⟨(location, node), by simp [shape], List.prefix_rfl⟩
  · split at there
    · assumption
    · cases there

/-- A path begins where everything above is on the way to the working directory. -/
theorem reached_start (tree : FileTree) (path : Path) : tree.Reached (tree.start path) := by
  intro above under _
  have inWorking : above <+: tree.working := by
    unfold start at under
    split at under
    · exact under.trans List.nil_prefix
    · exact under
  simp [isOnTheWay, inWorking]

/-- Every step of a walk keeps all that lies above on the way: the step starts in a directory. -/
theorem walk_reached {tree : FileTree} {location final : Location} {names : List String}
    (reached : tree.Reached location) (walked : tree.walk location names = .ok final) :
    tree.Reached final := by
  -- The induction is on the names. Only the step to a new name looks at the location that it makes.
  induction names generalizing location with
  | nil =>
    cases walked
    exact reached
  | cons name rest ih =>
    unfold walk at walked
    split at walked
    · cases walked
    · next directory =>
      have here : tree.isOnTheWay location = true := isOnTheWay_of_node? directory
      split at walked
      · exact ih reached walked
      split at walked
      · refine ih ?_ walked
        intro above under _
        exact isOnTheWay_of_prefix (under.trans (List.dropLast_prefix location)) here
      split at walked
      · cases walked
      · refine ih ?_ walked
        intro above under proper
        have within : above <+: location := by
          rcases List.prefix_concat_iff.mp under with same | within
          · exact absurd same proper
          · exact within
        exact isOnTheWay_of_prefix within here
    · cases walked

/-- A new node at a place that a walk has reached changes nothing elsewhere. -/
theorem put_sameElsewhere {tree : FileTree} {location : Location}
    (reached : tree.Reached location) (node : FileNode) :
    SameElsewhere location tree (tree.put location node) := by
  intro elsewhere different
  have onTheWay : (tree.put location node).isOnTheWay elsewhere = tree.isOnTheWay elsewhere := by
    by_cases under : elsewhere <+: location
    · have before := reached elsewhere under different
      rw [before, isOnTheWay_put before]
    · have apart : elsewhere.isPrefixOf location = false := by
        rw [← Bool.not_eq_true, List.isPrefixOf_iff_prefix]
        exact under
      simp [isOnTheWay, put, apart]
  simp only [node?, lookup_put_of_ne different, onTheWay]

/-- What lies above a location is still on the way when something is put there. -/
theorem reached_put {tree : FileTree} {location : Location} (reached : tree.Reached location)
    (node : FileNode) : (tree.put location node).Reached location := by
  intro above under proper
  exact isOnTheWay_put (reached above under proper) location node

/-! ## Walking after a write -/

/-- A walk goes through directories only. Where all of them are still there, it ends as before. -/
theorem walk_of_sameElsewhere {before after : FileTree} {target : Location}
    (same : SameElsewhere target before after) (noDirectory : before.node? target ≠ some .directory)
    {location final : Location} {names : List String}
    (walked : before.walk location names = .ok final) :
    after.walk location names = .ok final := by
  -- Every location on the walk is a directory before the write, so it is not the one that was
  -- written.
  induction names generalizing location with
  | nil => exact walked
  | cons name rest ih =>
    unfold walk at walked ⊢
    split at walked
    · cases walked
    · next directory =>
      have different : location ≠ target := by
        rintro rfl
        exact noDirectory directory
      rw [same location different, directory]
      dsimp only
      split at walked
      · next here =>
        rw [if_pos here]
        exact ih walked
      next notHere =>
      rw [if_neg notHere]
      split at walked
      · next back =>
        rw [if_pos back]
        exact ih walked
      next notBack =>
      rw [if_neg notBack]
      split at walked
      · cases walked
      · next short =>
        rw [if_neg short]
        exact ih walked
    · cases walked

/-- A text that can be a path is taken apart as any other. -/
theorem eq_ofText_of_parse {text : String} {path : Path} (parsed : Path.parse text = .ok path) :
    path = Path.ofText text := by
  unfold Path.parse at parsed
  split at parsed
  · cases parsed
  split at parsed
  · cases parsed
  split at parsed
  · cases parsed
  · cases parsed
    rfl

/-- Where a file can be made, the path leads there, and does not end with a slash. -/
theorem locate_of_locateFile {tree : FileTree} {path : String} {location : Location}
    (found : tree.locateFile path = .ok location) :
    tree.locate path = .ok location ∧ (Path.ofText path).wantsDirectory = false ∧
      tree.Reached location := by
  obtain ⟨parts, parsed, walked⟩ := bind_eq_ok_iff.mp found
  cases slash : parts.wantsDirectory with
  | true =>
    rw [if_pos slash] at walked
    obtain ⟨_, _, refused⟩ := bind_eq_ok_iff.mp walked
    cases refused
  | false =>
    simp only [slash, Bool.false_eq_true, if_false] at walked
    have located : tree.locate path = .ok location := by
      unfold locate
      rw [parsed]
      exact walked
    exact ⟨located, eq_ofText_of_parse parsed ▸ slash,
      walk_reached (tree.reached_start parts) walked⟩

/-- What is there, and is no directory, is opened by a path that leads to it. -/
theorem open?_of_located {tree : FileTree} {path : String} {location : Location} {node : FileNode}
    (located : tree.locate path = .ok location)
    (noSlash : (Path.ofText path).wantsDirectory = false)
    (there : tree.node? location = some node) (noDirectory : node ≠ .directory) :
    tree.open? path = .ok node := by
  cases node with
  | directory => exact absurd rfl noDirectory
  | file | lockedFile | fullDevice | closed =>
    simp [open?, located, there, noSlash, bind, Except.bind]

/-! ## Opening and filling -/

/-- What a file is opened on: a device, which stays as it is, or a regular file, new or emptied. -/
theorem create_eq_ok {tree opened : FileTree} {path : String} {location : Location}
    (created : tree.create path = .ok (location, opened)) :
    tree.locateFile path = .ok location ∧ tree.node? location ≠ some .directory ∧
      (tree.node? location = some .fullDevice ∧ opened = tree ∨
        tree.node? location ≠ some .fullDevice ∧ opened = tree.put location (.file [])) := by
  obtain ⟨target, found, made⟩ := bind_eq_ok_iff.mp created
  split at made
  · cases made
  · cases made
  · cases made
  · next device =>
    cases made
    exact ⟨found, by simp [device], Or.inl ⟨device, rfl⟩⟩
  · next noDirectory _ _ noDevice =>
    cases made
    exact ⟨found, noDirectory, Or.inr ⟨noDevice, rfl⟩⟩

/-- Filling a regular file leaves the bytes that there is room for. -/
theorem fill_regular {tree : FileTree} {location : Location}
    (regular : tree.node? location ≠ some .fullDevice) (bytes : List UInt8) :
    tree.fill location bytes = (tree.put location (.file (tree.fitting bytes)),
      if tree.fitting bytes = bytes then none else some .noSpace) := by
  unfold fill
  split
  · next device => exact absurd device regular
  · rfl

/-- A device takes nothing but the empty text. -/
theorem fill_device {tree : FileTree} {location : Location}
    (device : tree.node? location = some .fullDevice) (bytes : List UInt8) :
    tree.fill location bytes = (tree, if bytes.isEmpty then none else some .noSpace) := by
  simp [fill, device]

/-- Opening and filling touch one location, however far they get. -/
theorem fill_sameElsewhere {tree opened : FileTree} {path : String} {location : Location}
    (created : tree.create path = .ok (location, opened)) (bytes : List UInt8) :
    SameElsewhere location tree (opened.fill location bytes).1 := by
  obtain ⟨found, _, ⟨device, rfl⟩ | ⟨_, rfl⟩⟩ := create_eq_ok created
  · intro elsewhere _
    rw [fill_device device]
  · have reached : tree.Reached location := (locate_of_locateFile found).2.2
    have regular : (tree.put location (.file [])).node? location ≠ some .fullDevice := by
      simp [node?_put_self]
    intro elsewhere different
    rw [fill_regular regular]
    have second := put_sameElsewhere (reached_put reached (.file []))
      (.file ((tree.put location (.file [])).fitting bytes)) elsewhere different
    exact second.trans (put_sameElsewhere reached (.file []) elsewhere different)

/-- A regular file that was written in full holds the bytes, and is read back through its path. -/
theorem read_of_filled {tree opened after : FileTree} {path : String} {location : Location}
    {bytes : List UInt8} (created : tree.create path = .ok (location, opened))
    (regular : tree.node? location ≠ some .fullDevice)
    (filled : opened.fill location bytes = (after, none)) : after.read path = .ok bytes := by
  obtain ⟨found, noDirectory, ⟨device, _⟩ | ⟨_, rfl⟩⟩ := create_eq_ok created
  · exact absurd device regular
  obtain ⟨located, noSlash, _⟩ := locate_of_locateFile found
  have same : SameElsewhere location tree after := by
    have written := fill_sameElsewhere created bytes
    rwa [filled] at written
  rw [fill_regular (by simp [node?_put_self])] at filled
  obtain ⟨shape, complete⟩ := Prod.mk.inj filled
  have there : after.node? location = some (.file bytes) := by
    split at complete
    · next whole => rw [← shape, node?_put_self, whole]
    · cases complete
  -- The path is walked again through the tree as it is now, in which nothing on the way has
  -- changed.
  have relocated : after.locate path = .ok location := by
    obtain ⟨parts, parsed, walked⟩ := bind_eq_ok_iff.mp located
    have start : after.start parts = tree.start parts := by
      rw [← shape]
      rfl
    have rewalked := walk_of_sameElsewhere same noDirectory walked
    rw [← start] at rewalked
    unfold locate
    rw [parsed]
    exact rewalked
  have reopened := open?_of_located relocated noSlash there (by simp)
  simp [read, reopened, bind, Except.bind]

/-- A device that has taken everything was given nothing, and nothing is read from it. -/
theorem read_of_filled_device {tree opened after : FileTree} {path : String} {location : Location}
    {bytes : List UInt8} (created : tree.create path = .ok (location, opened))
    (device : tree.node? location = some .fullDevice)
    (filled : opened.fill location bytes = (after, none)) : after.read path = .ok bytes := by
  obtain ⟨found, _, ⟨_, rfl⟩ | ⟨regular, _⟩⟩ := create_eq_ok created
  · obtain ⟨located, noSlash, _⟩ := locate_of_locateFile found
    rw [fill_device device] at filled
    obtain ⟨rfl, complete⟩ := Prod.mk.inj filled
    have reopened := open?_of_located located noSlash device (by simp)
    cases bytes with
    | nil => simp [read, reopened, bind, Except.bind]
    | cons => cases complete
  · exact absurd device regular

/-! ## The whole write -/

/-- All bytes have arrived: they are what is read through the path, and nothing else differs. -/
def Written (before : FileTree) (path : String) (bytes : List UInt8) (after : FileTree) : Prop :=
  after.read path = .ok bytes ∧
    ∃ location, before.locate path = .ok location ∧ SameElsewhere location before after

/-- The file was opened, and then not all bytes could be put into it. Nothing but the file
differs. -/
def CutShort (before : FileTree) (path : String) (bytes : List UInt8) (after : FileTree) : Prop :=
  ∃ location opened fault, before.create path = .ok (location, opened) ∧
    opened.fill location bytes = (after, some fault) ∧ SameElsewhere location before after

/-- What a write leaves, by the fault that it reports. -/
theorem write_spec (tree : FileTree) (path : String) (bytes : List UInt8) :
    match tree.write path bytes with
    | (after, none) => tree.Written path bytes after
    | (after, some (.opening _)) => after = tree
    | (after, some (.writing _)) => tree.CutShort path bytes after := by
  cases created : tree.create path with
  | error fault => simp [write, created]
  | ok result =>
    obtain ⟨location, opened⟩ := result
    have elsewhere := fill_sameElsewhere created bytes
    have written : tree.write path bytes =
        ((opened.fill location bytes).1, (opened.fill location bytes).2.map .writing) := by
      simp [write, created]
    rw [written]
    cases filled : opened.fill location bytes with
    | mk after fault? =>
      rw [filled] at elsewhere
      cases fault? with
      | some fault => exact ⟨location, opened, fault, created, filled, elsewhere⟩
      | none =>
        have located := (locate_of_locateFile (create_eq_ok created).1).1
        refine ⟨?_, location, located, elsewhere⟩
        by_cases device : tree.node? location = some .fullDevice
        · exact read_of_filled_device created device filled
        · exact read_of_filled created device filled

end FileTree

end WidgetBuilders
