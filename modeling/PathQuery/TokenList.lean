/-!
Lists that are edited in place while cursors point into them. A node that is removed keeps its
links and points to the node that followed it, so a cursor to a removed node can be brought back to
the list.
-/

namespace PathQuery

structure ListNode (α : Type) where
  part : α
  prev : Option Nat
  next : Option Nat
  removed : Bool := false
  /-- The node that followed when this one was removed. -/
  replacement : Option Nat := none

/-- A list as nodes that are numbered in the order of their creation. -/
structure TokenList (α : Type) where
  nodes : Array (ListNode α) := #[]
  head : Option Nat := none
  tail : Option Nat := none

namespace TokenList

variable {α : Type}

def part? (list : TokenList α) (id : Nat) : Option α :=
  list.nodes[id]?.map (·.part)

/-- The node after a node; for a removed node, the one that followed it last. -/
def next? (list : TokenList α) (id : Nat) : Option Nat :=
  list.nodes[id]?.bind (·.next)

/-- The node before a node; for a removed node, the one that preceded it last. -/
def prev? (list : TokenList α) (id : Nat) : Option Nat :=
  list.nodes[id]?.bind (·.prev)

def isRemoved (list : TokenList α) (id : Nat) : Bool :=
  list.nodes[id]?.any (·.removed)

def modify (list : TokenList α) (id : Nat) (change : ListNode α → ListNode α) : TokenList α :=
  { list with nodes := list.nodes.modify id change }

/-- Makes `next` follow `prev`, where `none` stands for the ends of the list. -/
def link (list : TokenList α) (prev next : Option Nat) : TokenList α :=
  let list := match prev with
    | some id => list.modify id fun node => { node with next }
    | none => { list with head := next }
  match next with
  | some id => list.modify id fun node => { node with prev }
  | none => { list with tail := prev }

def insertBetween (list : TokenList α) (prev next : Option Nat) (part : α) :
    Nat × TokenList α :=
  let id := list.nodes.size
  let list := { list with nodes := list.nodes.push { part, prev, next } }
  (id, (list.link prev (some id)).link (some id) next)

def insertBefore (list : TokenList α) (id : Nat) (part : α) : Nat × TokenList α :=
  list.insertBetween (list.prev? id) (some id) part

def insertAfter (list : TokenList α) (id : Nat) (part : α) : Nat × TokenList α :=
  list.insertBetween (some id) (list.next? id) part

def pushBack (list : TokenList α) (part : α) : Nat × TokenList α :=
  list.insertBetween list.tail none part

def ofParts (parts : List α) : TokenList α :=
  parts.foldl (fun list part => (list.pushBack part).2) {}

def unlink (list : TokenList α) (id : Nat) : TokenList α :=
  let next := list.next? id
  (list.link (list.prev? id) next).modify id fun node =>
    { node with removed := true, replacement := next }

/-- Removes a node and answers the one that followed it. -/
def remove (list : TokenList α) (id : Nat) : Option Nat × TokenList α :=
  (list.next? id, list.unlink id)

/-- Removes a node and answers the one that preceded it. -/
def removeInReverse (list : TokenList α) (id : Nat) : Option Nat × TokenList α :=
  (list.prev? id, list.unlink id)

/-- Follows the replacements of removed nodes, at most so many times. -/
def normalizeWithin (list : TokenList α) : Nat → Nat → Option Nat
  | 0, _ => none
  | steps + 1, id =>
      match list.nodes[id]? with
      | none => none
      | some node =>
          if node.removed then node.replacement.bind (list.normalizeWithin steps) else some id

/-- The first node still in the list from the given one on, along the replacements of removed
nodes. No path of replacements is longer than there are nodes. -/
def normalize (list : TokenList α) (id : Nat) : Option Nat :=
  list.normalizeWithin (list.nodes.size + 1) id

/-- The nodes along the links to the next node, at most so many. -/
def walk (list : TokenList α) : Nat → Option Nat → List Nat
  | 0, _ => []
  | _, none => []
  | steps + 1, some id => id :: list.walk steps (list.next? id)

/-- The nodes of the list in order. -/
def live (list : TokenList α) : List Nat :=
  list.walk list.nodes.size list.head

def parts (list : TokenList α) : List α :=
  list.live.filterMap list.part?

end TokenList

end PathQuery
