import ClusterProbe.Yaml.Token

/-!
# Documents as trees

A document is a tree of scalars, sequences and mappings, each with its place, in which an alias
stands for a node that carries an anchor. The same anchor may be set more than once; an alias means
the number that its name had where the alias stands.
-/

namespace ClusterProbe.Yaml

/-- A node of a document. -/
inductive Node where
  | scalar (mark : Mark) (tag : Option String) (style : Style) (text : String)
  | sequence (mark : Mark) (tag : Option String) (items : List Node)
  | mapping (mark : Mark) (tag : Option String) (entries : List (Node × Node))
  | alias (mark : Mark) (number : Nat)

namespace Node

mutual

/-- Equality of nodes is decidable. -/
def decEq : (x y : Node) → Decidable (x = y)
  | .scalar m t s x, .scalar m' t' s' x' =>
    decidable_of_iff (m = m' ∧ t = t' ∧ s = s' ∧ x = x') (by simp)
  | .sequence m t xs, .sequence m' t' ys =>
    have := decEqItems xs ys
    decidable_of_iff (m = m' ∧ t = t' ∧ xs = ys) (by simp)
  | .mapping m t es, .mapping m' t' fs =>
    have := decEqEntries es fs
    decidable_of_iff (m = m' ∧ t = t' ∧ es = fs) (by simp)
  | .alias m n, .alias m' n' => decidable_of_iff (m = m' ∧ n = n') (by simp)
  | .scalar .., .sequence .. | .scalar .., .mapping .. | .scalar .., .alias ..
  | .sequence .., .scalar .. | .sequence .., .mapping .. | .sequence .., .alias ..
  | .mapping .., .scalar .. | .mapping .., .sequence .. | .mapping .., .alias ..
  | .alias .., .scalar .. | .alias .., .sequence .. | .alias .., .mapping .. => isFalse (by simp)

/-- Equality of items is decidable. -/
def decEqItems : (xs ys : List Node) → Decidable (xs = ys)
  | [], [] => isTrue rfl
  | [], _ :: _ | _ :: _, [] => isFalse (by simp)
  | x :: xs, y :: ys =>
    have := decEq x y
    have := decEqItems xs ys
    decidable_of_iff (x = y ∧ xs = ys) (by simp)

/-- Equality of entries is decidable. -/
def decEqEntries : (es fs : List (Node × Node)) → Decidable (es = fs)
  | [], [] => isTrue rfl
  | [], _ :: _ | _ :: _, [] => isFalse (by simp)
  | (k, v) :: es, (k', v') :: fs =>
    have := decEq k k'
    have := decEq v v'
    have := decEqEntries es fs
    decidable_of_iff ((k = k' ∧ v = v') ∧ es = fs) (by simp)

end

instance : DecidableEq Node := decEq

/-- The place of a node. -/
def mark : Node → Mark
  | .scalar m _ _ _ => m
  | .sequence m _ _ => m
  | .mapping m _ _ => m
  | .alias m _ => m

/-- A scalar that is not there. -/
def absent (mark : Mark) : Node := .scalar mark none .plain ""

mutual

/-- The number of nodes in a tree; a collection counts for its start and its end. -/
def weight : Node → Nat
  | .scalar .. => 1
  | .alias .. => 1
  | .sequence _ _ items => 2 + weightItems items
  | .mapping _ _ entries => 2 + weightEntries entries

/-- The weight of all items. -/
def weightItems : List Node → Nat
  | [] => 0
  | n :: rest => weight n + weightItems rest

/-- The weight of all keys and values. -/
def weightEntries : List (Node × Node) → Nat
  | [] => 0
  | (k, v) :: rest => weight k + weight v + weightEntries rest

end

end Node

/-- A node with an anchor: the number an alias names it by, its rank among the anchors of the
document in order of their places, and the node. -/
structure Anchored where
  number : Nat
  rank : Nat
  node : Node
deriving DecidableEq

/-- A document: its root and the nodes that aliases stand for. -/
structure Document where
  root : Node
  anchors : List Anchored
deriving DecidableEq

/-- The node of the later of two anchors. -/
def Anchored.later (best : Option Anchored) (a : Anchored) : Option Anchored :=
  match best with
  | some b => if b.rank < a.rank then some a else some b
  | none => some a

/-- The node that an alias stands for. Of several anchors with one number the last one counts. -/
def Document.target? (d : Document) (number : Nat) : Option Node :=
  ((d.anchors.filter (·.number = number)).foldl Anchored.later none).map Anchored.node

end ClusterProbe.Yaml
