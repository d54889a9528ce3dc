import DigestRecord.FileSystem.Path

/-!
# Directory trees

A tree of directories with files and symbolic links in it. A place in the tree is the list of names
that lead to it from the root.

Whoever made the tree, and by what changes, makes no difference to hashing, so changes are left out: what
is said of trees is said of all of them. Left out are also permissions, devices, and names that are not
text.
-/

namespace DigestRecord

/-- What a name in a directory stands for. -/
inductive Node where
  | file (content : List UInt8)
  | link (target : List Char)
  | directory (entries : List (Name × Node))

/-- The names in a directory, with what they stand for. -/
abbrev Entries := List (Name × Node)

/-- A place in a tree: the names that lead to it. -/
abbrev Location := List Name

namespace Node

/-- What a name stands for in a node; nothing, unless the node is a directory. -/
def child? (name : Name) : Node → Option Node
  | .directory entries => entries.lookup name
  | _ => none

/-- The node at a place. No link is followed. -/
def at? (node : Node) : Location → Option Node
  | [] => some node
  | name :: rest => (node.child? name).bind fun c => c.at? rest

end Node

end DigestRecord
