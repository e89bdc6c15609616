import Gamebook.Check.Issue

/-!
# The graph of a story

Nodes lead on by their choices, encounters by their ends. An encounter stands in the graph under its
id with `enc:` in front. A node that no edge enters is an orphan, a node that no choice leaves is a
dead end; only the edges next to a node count.
-/

namespace Gamebook

structure Edge where
  source : String
  target : String
deriving DecidableEq

def encounterVertex (encounterId : String) : String := "enc:" ++ encounterId

namespace Mechanic

def targets : Mechanic → List String
  | navigate nodeId => [nodeId.text]
  | combat encounterId => [encounterVertex encounterId.text]
  | skillCheck c =>
    let encounter := c.failureEncounter.getD ""
    [c.onSuccess, c.onFailure] ++ (if encounter = "" then [] else [encounterVertex encounter])

/-- Can the player leave by the mechanic? -/
def leadsOn : Mechanic → Bool
  | navigate nodeId => nodeId.text ≠ ""
  | combat _ => true
  | skillCheck _ => true

end Mechanic

namespace Node

def targets (n : Node) : List String :=
  (n.choiceList.flatMap fun c => c.mechanic.targets).filter fun t =>
    t ≠ "" && t ≠ encounterVertex ""

def hasExit (n : Node) : Bool := n.choiceList.any fun c => c.mechanic.leadsOn

def edges (n : Node) : List Edge := n.targets.map (Edge.mk n.id.text)

end Node

def Encounter.edges (e : Encounter) : List Edge :=
  ([e.onVictory, e.onDefeat].filter (· ≠ "")).map (Edge.mk (encounterVertex e.id.text))

namespace Story

def edges (s : Story) : List Edge :=
  s.nodes.toList.flatMap Node.edges ++ s.encounters.toList.flatMap Encounter.edges

/-- The vertices with an edge to a vertex, once each. -/
def sources (s : Story) (target : String) : List String :=
  ((s.edges.filter fun e => e.target = target).map Edge.source).eraseDups

/-- The vertices that an edge enters, once each. -/
def enteredVertices (s : Story) : List String := (s.edges.map Edge.target).eraseDups

/-- The nodes that no edge enters and that are no start of the story. -/
def orphans (s : Story) (starts : List String) : List String :=
  s.nodes.keys.filter fun id => !(s.edges.any fun e => e.target = id) && !starts.contains id

/-- The nodes without an exit that are no ending and not allowed to be dead ends. -/
def deadEnds (s : Story) (allowed : List String) : List String :=
  (s.nodes.toList.filter fun n =>
    !allowed.contains n.id.text && n.type ≠ "ending" && !n.hasExit).map fun n => n.id.text

/-- The issues of the graph: orphans, then dead ends. -/
def graphIssues (s : Story) (starts allowed : List String) : List Issue :=
  (s.orphans starts).map .orphan ++ (s.deadEnds allowed).map .deadEnd

end Story

end Gamebook
