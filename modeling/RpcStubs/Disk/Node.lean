import RpcStubs.Sorted.Map

/-!
# Nodes of a disk

A node is a file, or a directory that holds nodes by name. The names on the way from one node to
another are a place. Main statement: a file or an empty directory put at a place that no directory
takes is found there, and everything else is as it was (`kindAt?_put`).
-/

namespace RpcStubs

/-- What a file holds. -/
inductive Content where
  | text (text : String)
  /-- Bytes that are no text. -/
  | binary
deriving Repr, DecidableEq, Inhabited

/-- What may be at a place of a disk. The entries of a directory stand in order of their names, each
name once. -/
inductive Node where
  | file (content : Content)
  | directory (entries : List (String × Node))
deriving Inhabited

namespace Node

/-- The names on the way to a node. -/
abbrev Place := List String

/-- A directory without entries. -/
def emptyDirectory : Node :=
  .directory []

/-- Whether a node is a directory. -/
def isDirectory : Node → Bool
  | file _ => false
  | directory _ => true

/-- What a node holds if it is a file. -/
def content? : Node → Option Content
  | file content => some content
  | directory _ => none

/-! ## Entries -/

/-- The entry of a name. A file has none. -/
def child? (node : Node) (name : String) : Option Node :=
  match node with
  | file _ => none
  | directory entries => SortedMap.valueAt? name entries

/-- A directory with a node under a name. A file stays as it is. -/
def setChild (node : Node) (name : String) (entry : Node) : Node :=
  match node with
  | file content => .file content
  | directory entries => .directory (SortedMap.insertEntry name entry entries)

@[simp]
theorem child?_file (content : Content) (name : String) : (file content).child? name = none :=
  rfl

theorem child?_setChild {node : Node} (isDirectory : node.isDirectory = true) (name : String)
    (entry : Node) (other : String) :
    (node.setChild name entry).child? other =
      if other = name then some entry else node.child? other := by
  cases node with
  | file content => simp [Node.isDirectory] at isDirectory
  | directory entries => exact SortedMap.valueAt?_insertEntry ..

theorem content?_setChild (node : Node) (name : String) (entry : Node) :
    (node.setChild name entry).content? = node.content? := by
  cases node <;> rfl

theorem isDirectory_of_child? {node entry : Node} {name : String}
    (found : node.child? name = some entry) : node.isDirectory = true := by
  cases node with
  | file content => simp at found
  | directory entries => rfl

/-! ## Places -/

/-- The node at a place. -/
def find? (node : Node) : Place → Option Node
  | [] => some node
  | name :: rest => (node.child? name).bind (·.find? rest)

/-- What the file at a place holds. -/
def contentAt? (node : Node) (place : Place) : Option Content :=
  (node.find? place).bind content?

/-- What is at a place, if anything: a directory, or a file with what it holds. -/
def kindAt? (node : Node) (place : Place) : Option (Option Content) :=
  (node.find? place).map content?

/-- A node with another one at a place. Nothing changes where the directory for it is missing. -/
def put (node new : Node) : Place → Node
  | [] => new
  | [name] => node.setChild name new
  | name :: next :: rest =>
      match node.child? name with
      | none => node
      | some entry => node.setChild name (entry.put new (next :: rest))

@[simp]
theorem kindAt?_nil (node : Node) : node.kindAt? [] = some node.content? :=
  rfl

theorem kindAt?_cons (node : Node) (name : String) (rest : Place) :
    node.kindAt? (name :: rest) = (node.child? name).bind (·.kindAt? rest) := by
  rw [kindAt?, find?, Option.map_bind]
  rfl

/-- Below what has no entries there is nothing. -/
theorem kindAt?_cons_of_childless {node : Node} (childless : ∀ name, node.child? name = none)
    (name : String) (rest : Place) : node.kindAt? (name :: rest) = none := by
  rw [kindAt?_cons, childless, Option.bind_none]

theorem isDirectory_iff_content? {node : Node} :
    node.isDirectory = true ↔ node.content? = none := by
  cases node <;> simp [isDirectory, content?]

/-- A node without entries that is put into a directory, where no directory is, is found there, and
everything else is as it was. -/
theorem kindAt?_put {node new : Node} {place : Place} (below : place ≠ [])
    (holds : node.kindAt? place.dropLast = some none) (free : node.kindAt? place ≠ some none)
    (childless : ∀ name, new.child? name = none) (other : Place) :
    (node.put new place).kindAt? other =
      if other = place then some new.content? else node.kindAt? other := by
  induction place generalizing node other with
  | nil => exact absurd rfl below
  | cons name rest ih =>
      cases rest with
      | nil =>
          have isDirectory := isDirectory_iff_content?.mpr (Option.some.inj holds)
          cases other with
          | nil => simp [put, content?_setChild]
          | cons first later =>
              rw [put, kindAt?_cons, child?_setChild isDirectory]
              by_cases same : first = name
              · subst same
                cases later with
                | nil => simp
                | cons next later =>
                    -- Neither the new node nor the file it replaces has anything below it.
                    have nothing : node.kindAt? (first :: next :: later) = none := by
                      rw [kindAt?_cons]
                      cases old : node.child? first with
                      | none => rfl
                      | some entry =>
                          cases entry with
                          | file content => exact kindAt?_cons_of_childless (fun _ => rfl) ..
                          | directory entries => simp [kindAt?_cons, old, content?] at free
                    simp [nothing, kindAt?_cons_of_childless childless]
              · simp [same, kindAt?_cons node]
      | cons next rest =>
          rw [List.dropLast_cons_of_ne_nil (List.cons_ne_nil _ _), kindAt?_cons] at holds
          obtain ⟨entry, old, holds⟩ := Option.bind_eq_some_iff.mp holds
          have step := ih (List.cons_ne_nil _ _) holds
            (fun there => free (by rw [kindAt?_cons, old]; exact there))
          have isDirectory := isDirectory_of_child? old
          simp only [put, old]
          cases other with
          | nil => simp [content?_setChild]
          | cons first later =>
              rw [kindAt?_cons, child?_setChild isDirectory, kindAt?_cons node]
              by_cases same : first = name
              · simp [same, old, step]
              · simp [same]

/-! ## Files -/

mutual

/-- The files at and below a node, each with its place. -/
def files : Node → List (Place × Content)
  | .file content => [([], content)]
  | .directory entries => filesOfEntries entries

/-- The files below the entries of a directory, each with its place. -/
def filesOfEntries : List (String × Node) → List (Place × Content)
  | [] => []
  | (name, node) :: rest =>
      node.files.map (fun (place, content) => (name :: place, content)) ++ filesOfEntries rest

end

end Node

end RpcStubs
