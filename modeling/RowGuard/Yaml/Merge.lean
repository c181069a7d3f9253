import RowGuard.Yaml.Node

/-!
# Mappings that take over others

Under the key `<<` a mapping names another one, or a list of them, whose entries it takes over.
The entries taken over stand in front of its own, so that its own count. What a mapping takes over
may itself take over entries, whatever its kind.

A node may stand inside itself. Such a tree has no end; it is settled a few times over, and what
lies deeper is cut off. Cut off, a node brings no entries along.
-/

namespace RowGuard.Yaml

namespace Node

/-- Whether a node is the key that takes over entries. -/
def isMerge : Node → Bool
  | scalar .merge _ => true
  | _ => false

mutual

/-- The entries that a node brings along, a mapping or a list of mappings. Of a list the first
counts most. -/
def taken? : Node → Option (List (Node × Node))
  | mapping _ entries => (shares? entries).map fun (taken, own) => taken ++ own
  | sequence _ items => takenOfAll? items
  | enclosing _ => some []
  | _ => none

/-- The entries that a list of mappings brings along. -/
def takenOfAll? : List Node → Option (List (Node × Node))
  | [] => some []
  | mapping _ entries :: rest => do
    let (taken, own) ← shares? entries
    return (← takenOfAll? rest) ++ taken ++ own
  | enclosing _ :: rest => takenOfAll? rest
  | _ :: _ => none

/-- The entries that a mapping takes over, and its own. -/
def shares? : List (Node × Node) → Option (List (Node × Node) × List (Node × Node))
  | [] => some ([], [])
  | (k, v) :: rest => do
    let (taken, own) ← shares? rest
    if k.isMerge then return ((← v.taken?) ++ taken, own)
    else return (taken, (k, v) :: own)

end

/-- A mapping with the entries that it takes over in front of its own. -/
def merge (kind : Kind) (entries : List (Node × Node)) : Node :=
  match (mapping kind entries).taken? with
  | some entries => mapping kind entries
  | none => unmergeable

mutual

/-- A node in which every mapping has the entries that it takes over, given the nodes that may
stand around it. The items of a list that keeps the order of a mapping take nothing over. -/
def settle (around : List (String × Node)) : Node → Node
  | sequence kind items =>
    if kind = .orderedMap || kind = .pairs then sequence kind (settlePairs around items)
    else sequence kind (settleItems around items)
  | mapping kind entries =>
    let entries := settleEntries around entries
    if kind = .map || kind = .set then merge kind entries else mapping kind entries
  | enclosing anchor => (around.lookup anchor).getD (enclosing anchor)
  | n => n

/-- The nodes of a list with the entries that they take over. -/
def settleItems (around : List (String × Node)) : List Node → List Node
  | [] => []
  | n :: rest => n.settle around :: settleItems around rest

/-- The nodes of a list whose mappings take nothing over themselves. -/
def settlePairs (around : List (String × Node)) : List Node → List Node
  | [] => []
  | mapping kind entries :: rest =>
    mapping kind (settleEntries around entries) :: settlePairs around rest
  | n :: rest => n.settle around :: settlePairs around rest

/-- The nodes of a list of entries with the entries that they take over. -/
def settleEntries (around : List (String × Node)) : List (Node × Node) → List (Node × Node)
  | [] => []
  | (k, v) :: rest => (k.settle around, v.settle around) :: settleEntries around rest

end

end Node

namespace Tree

/-- The named nodes, settled a number of times over. -/
def around (t : Tree) : Nat → List (String × Node)
  | 0 => []
  | n + 1 =>
    let inner := t.around n
    t.named.map fun (anchor, node) => (anchor, node.settle inner)

/-- How often a node is settled inside itself: the settings are looked into no deeper. -/
def selfDepth : Nat := 4

/-- The tree with all entries in their places. -/
def settled (t : Tree) : Node := t.root.settle (t.around selfDepth)

end Tree

end RowGuard.Yaml
