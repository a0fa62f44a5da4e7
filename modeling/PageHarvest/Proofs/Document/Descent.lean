import PageHarvest.Document.Place

/-! # Going down in a document

What lies inside an element lies inside everything around the element, and there are fewer levels of
elements below it. So places that lie one inside the other are no more than there are levels.
-/

namespace PageHarvest.Document

mutual

/-- How many levels of elements there are at and below a node. -/
def Node.levels : Node → Nat
  | .element _ _ children => levelsOf children + 1
  | .text _ _ => 0
  | .comment => 0

/-- How many levels of elements there are at and below the nodes of a list. -/
def levelsOf : List Node → Nat
  | [] => 0
  | node :: rest => max node.levels (levelsOf rest)

end

namespace Place

/-- How many levels of elements there are below a place. -/
def levelsBelow (p : Place) : Nat := levelsOf p.nodes

mutual

private theorem mem_belowNode {parent q r : Place} {before after : List Node} :
    ∀ {node : Node}, q ∈ belowNode parent before after node → r ∈ q.descendants →
      r ∈ belowNode parent before after node
  | .element name attributes children, outer, inner => by
    rw [belowNode] at outer ⊢
    rcases List.mem_cons.mp outer with rfl | below
    · exact List.mem_cons_of_mem _ inner
    · exact List.mem_cons_of_mem _ (mem_belowNodes below inner)
  | .text _ _, outer, _ => by cases outer
  | .comment, outer, _ => by cases outer

private theorem mem_belowNodes {parent q r : Place} {before : List Node} :
    ∀ {nodes : List Node}, q ∈ belowNodes parent before nodes → r ∈ q.descendants →
      r ∈ belowNodes parent before nodes
  | [], outer, _ => by cases outer
  | node :: rest, outer, inner => by
    rw [belowNodes, List.mem_append] at outer ⊢
    rcases outer with here | later
    · exact .inl (mem_belowNode here inner)
    · exact .inr (mem_belowNodes later inner)

end

mutual

private theorem levels_belowNode {parent q : Place} {before after : List Node} :
    ∀ {node : Node}, q ∈ belowNode parent before after node → q.levelsBelow < node.levels
  | .element name attributes children, inside => by
    rw [belowNode] at inside
    rw [Node.levels]
    rcases List.mem_cons.mp inside with rfl | below
    · exact Nat.lt_succ_self _
    · exact Nat.lt_succ_of_lt (levels_belowNodes below)
  | .text _ _, inside => by cases inside
  | .comment, inside => by cases inside

private theorem levels_belowNodes {parent q : Place} {before : List Node} :
    ∀ {nodes : List Node}, q ∈ belowNodes parent before nodes → q.levelsBelow < levelsOf nodes
  | [], inside => by cases inside
  | node :: rest, inside => by
    rw [belowNodes, List.mem_append] at inside
    rw [levelsOf]
    rcases inside with here | later
    · exact Nat.lt_of_lt_of_le (levels_belowNode here) (Nat.le_max_left _ _)
    · exact Nat.lt_of_lt_of_le (levels_belowNodes later) (Nat.le_max_right _ _)

end

/-- What lies inside a place lies inside everything around it. -/
theorem mem_descendants_trans {p q r : Place} (outer : q ∈ p.descendants)
    (inner : r ∈ q.descendants) : r ∈ p.descendants :=
  mem_belowNodes outer inner

/-- There are fewer levels below what lies inside. -/
theorem levelsBelow_lt {p q : Place} (inside : q ∈ p.descendants) :
    q.levelsBelow < p.levelsBelow :=
  levels_belowNodes inside

/-- Places that lie one inside the other. -/
def Descending (places : List Place) : Prop :=
  places.Pairwise fun above below => below ∈ above.descendants

/-- What lies inside one of the places lies inside the first. -/
theorem Descending.below_head {p place q : Place} {places : List Place}
    (descending : Descending (p :: places)) (among : place ∈ p :: places)
    (inside : q ∈ place.descendants) : q ∈ p.descendants := by
  rcases List.mem_cons.mp among with rfl | later
  · exact inside
  · exact mem_descendants_trans ((List.pairwise_cons.mp descending).1 place later) inside

/-- Below a place no more others lie one inside the other than there are levels. -/
theorem Descending.length_le {p : Place} {places : List Place}
    (descending : Descending (p :: places)) : places.length ≤ p.levelsBelow := by
  induction places generalizing p with
  | nil => exact Nat.zero_le _
  | cons next rest ih =>
    obtain ⟨inside, others⟩ := List.pairwise_cons.mp descending
    have fewer := levelsBelow_lt (inside next List.mem_cons_self)
    have deeper := ih others
    rw [List.length_cons]
    omega

end Place

end PageHarvest.Document
