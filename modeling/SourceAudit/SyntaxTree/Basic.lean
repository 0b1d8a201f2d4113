import SourceAudit.Text.Utf8

/-!
# Syntax trees

The tree of a parsed source. A node has the kind that the grammar gives it, says whether
it stands for a named part of the grammar or for a keyword or punctuation, and knows
where it stands in the source, in rows and columns from zero and in octets.

`Node.walk` visits a tree from the root down, every node before its children and the
children from left to right, and hands out each node together with those above it.
-/

namespace SourceAudit

open Text

/-- A row and a column, both counted from zero. -/
structure Point where
  row : Nat
  column : Nat
  deriving DecidableEq, Repr

/-- What a node is, apart from its children. -/
structure Label where
  kind : Option String := none
  named : Bool := true
  start : Point := ⟨0, 0⟩
  stop : Option Point := none
  firstOctet : Nat := 0
  endOctet : Nat := 0
  deriving DecidableEq, Repr

/-- A node of a syntax tree. -/
inductive Node where
  | node (label : Label) (children : List Node)

instance : Inhabited Node :=
  ⟨.node {} []⟩

namespace Node

/-- A node of a kind between two octets. -/
def between (kind : String) (firstOctet endOctet : Nat) (children : List Node) : Node :=
  .node { kind := some kind, firstOctet := firstOctet, endOctet := endOctet } children

def label : Node → Label
  | node label _ => label

def children : Node → List Node
  | node _ children => children

def kind (n : Node) : Option String :=
  n.label.kind

/-- Whether the node is of a kind. -/
def isA (n : Node) (kind : String) : Bool :=
  n.kind == some kind

/-- Whether the node is of one of some kinds. -/
def isOneOf (n : Node) (kinds : List String) : Bool :=
  match n.kind with
  | some kind => kinds.contains kind
  | none => false

/-- The children that are parts of the grammar, without comments. -/
def parts (n : Node) : List Node :=
  n.children.filter fun c => c.label.named && !c.isA "comment"

/-- The text of the node in the source. -/
def textIn (source : Octets) (n : Node) : String :=
  String.ofList (decode ((source.take n.label.endOctet).drop n.label.firstOctet))

/-! ### Walking -/

mutual

/-- The nodes of the tree with the nodes above each, given those above the root. -/
def walkBelow (above : List Node) : Node → List (Node × List Node)
  | node label children =>
    (node label children, above) :: walkAll (above ++ [node label children]) children

/-- The nodes of some trees side by side with the nodes above each. -/
def walkAll (above : List Node) : List Node → List (Node × List Node)
  | [] => []
  | n :: rest => walkBelow above n ++ walkAll above rest

end

/-- The nodes of the tree in order, each with the nodes above it, the root first. -/
def walk (n : Node) : List (Node × List Node) :=
  walkBelow [] n

mutual

/-- The nodes of the tree in order. -/
def nodes : Node → List Node
  | node label children => node label children :: nodesAll children

/-- The nodes of some trees side by side. -/
def nodesAll : List Node → List Node
  | [] => []
  | n :: rest => nodes n ++ nodesAll rest

end

/-- Whether a node of the tree is of one of some kinds. -/
def hasKindBelow (n : Node) (kinds : List String) : Bool :=
  n.nodes.any fun m => m.isOneOf kinds

/-! ### Children are smaller -/

theorem sizeOf_lt_of_mem_children {n c : Node} (h : c ∈ n.children) :
  sizeOf c < sizeOf n
  := by
  cases n with
  | node label children =>
      have := List.sizeOf_lt_of_mem (show c ∈ children from h)
      simp only [node.sizeOf_spec]
      omega

theorem mem_children_of_mem_parts {n c : Node} (h : c ∈ n.parts) :
  c ∈ n.children
  :=
  (List.mem_filter.mp h).1

theorem sizeOf_lt_of_mem_parts {n c : Node} (h : c ∈ n.parts) :
  sizeOf c < sizeOf n
  :=
  sizeOf_lt_of_mem_children (mem_children_of_mem_parts h)

end Node

end SourceAudit
