import Mathlib.Data.List.Basic

/-! # Trees of Boolean connectives

Finite trees of n-ary disjunctions and conjunctions, negations and leaves, with
one further node that never holds. A tree is evaluated by short-circuiting left
to right (`BoolTree.eval`) or read as a proposition over a predicate on its
leaves (`BoolTree.Holds`). The evaluation decides the proposition as soon as it
does at every leaf of the tree (`BoolTree.eval_iff_holds`).

A tree is decided from left to right when every leaf that matters is known
(`BoolTree.Decided`). That is an evaluation that arrives at known leaves only
(`BoolTree.decided_iff`).

A tree without negations is monotone in its leaves (`BoolTree.eval_mono`), and the
De Morgan dual of a tree evaluates to its complement (`BoolTree.eval_dual`).
-/

inductive BoolTree (α : Type*) where
  | any (parts : List (BoolTree α))
  | all (parts : List (BoolTree α))
  | neg (part : BoolTree α)
  | leaf (content : α)
  | never

namespace BoolTree

variable {α : Type*}

/-- Induction with one hypothesis for every part of a connective. -/
@[induction_eliminator]
theorem induct {motive : BoolTree α → Prop}
    (any : ∀ parts, (∀ part ∈ parts, motive part) → motive (.any parts))
    (all : ∀ parts, (∀ part ∈ parts, motive part) → motive (.all parts))
    (neg : ∀ part, motive part → motive (.neg part))
    (leaf : ∀ content, motive (.leaf content)) (never : motive .never) (tree : BoolTree α) :
    motive tree :=
  @BoolTree.rec α motive (fun parts => ∀ part ∈ parts, motive part)
    any all neg leaf never (fun _ inside => (List.not_mem_nil inside).elim)
    (fun _ _ first rest _ inside =>
      (List.mem_cons.mp inside).elim (fun same => same ▸ first) (rest _)) tree

mutual

/-- Evaluate a tree over a Boolean test on its leaves. -/
def eval (test : α → Bool) : BoolTree α → Bool
  | .any parts => evalAny test parts
  | .all parts => evalAll test parts
  | .neg part => !eval test part
  | .leaf content => test content
  | .never => false

def evalAny (test : α → Bool) : List (BoolTree α) → Bool
  | [] => false
  | part :: rest => eval test part || evalAny test rest

def evalAll (test : α → Bool) : List (BoolTree α) → Bool
  | [] => true
  | part :: rest => eval test part && evalAll test rest

end

mutual

/-- The leaves of a tree, from left to right. -/
def leaves : BoolTree α → List α
  | .any parts => leavesList parts
  | .all parts => leavesList parts
  | .neg part => leaves part
  | .leaf content => [content]
  | .never => []

def leavesList : List (BoolTree α) → List α
  | [] => []
  | part :: rest => leaves part ++ leavesList rest

end

mutual

/-- The leaves at which an evaluation arrives before it is decided. -/
def reached (test : α → Bool) : BoolTree α → List α
  | .any parts => reachedAny test parts
  | .all parts => reachedAll test parts
  | .neg part => reached test part
  | .leaf content => [content]
  | .never => []

def reachedAny (test : α → Bool) : List (BoolTree α) → List α
  | [] => []
  | part :: rest => reached test part ++ if eval test part then [] else reachedAny test rest

def reachedAll (test : α → Bool) : List (BoolTree α) → List α
  | [] => []
  | part :: rest => reached test part ++ if eval test part then reachedAll test rest else []

end

mutual

/-- The proposition a tree states over a predicate on its leaves. -/
def Holds (meaning : α → Prop) : BoolTree α → Prop
  | .any parts => HoldsAny meaning parts
  | .all parts => HoldsAll meaning parts
  | .neg part => ¬ Holds meaning part
  | .leaf content => meaning content
  | .never => False

def HoldsAny (meaning : α → Prop) : List (BoolTree α) → Prop
  | [] => False
  | part :: rest => Holds meaning part ∨ HoldsAny meaning rest

def HoldsAll (meaning : α → Prop) : List (BoolTree α) → Prop
  | [] => True
  | part :: rest => Holds meaning part ∧ HoldsAll meaning rest

end

section Equations

variable (test : α → Bool) (meaning : α → Prop)

@[simp] theorem eval_any (parts : List (BoolTree α)) :
    eval test (.any parts) = parts.any (eval test) := by
  change evalAny test parts = parts.any (eval test)
  induction parts with
  | nil => rfl
  | cons part rest ih =>
      change (eval test part || evalAny test rest) = _
      rw [ih, List.any_cons]

@[simp] theorem eval_all (parts : List (BoolTree α)) :
    eval test (.all parts) = parts.all (eval test) := by
  change evalAll test parts = parts.all (eval test)
  induction parts with
  | nil => rfl
  | cons part rest ih =>
      change (eval test part && evalAll test rest) = _
      rw [ih, List.all_cons]

@[simp] theorem eval_neg (part : BoolTree α) : eval test (.neg part) = !eval test part := rfl

@[simp] theorem eval_leaf (content : α) : eval test (.leaf content) = test content := rfl

@[simp] theorem eval_never : eval test (.never : BoolTree α) = false := rfl

@[simp] theorem mem_leaves_any (parts : List (BoolTree α)) (content : α) :
    content ∈ leaves (.any parts) ↔ ∃ part ∈ parts, content ∈ leaves part := by
  change content ∈ leavesList parts ↔ _
  induction parts with
  | nil => exact iff_of_false (List.not_mem_nil) fun ⟨_, inside, _⟩ => List.not_mem_nil inside
  | cons part rest ih =>
      change content ∈ leaves part ++ leavesList rest ↔ _
      rw [List.mem_append, ih, List.exists_mem_cons_iff]

@[simp] theorem mem_leaves_all (parts : List (BoolTree α)) (content : α) :
    content ∈ leaves (.all parts) ↔ ∃ part ∈ parts, content ∈ leaves part :=
  mem_leaves_any parts content

/-- The leaves of a part are leaves of the disjunction, and of the conjunction. -/
theorem leaves_of_part {parts : List (BoolTree α)} {part : BoolTree α} (inside : part ∈ parts) :
    ∀ content ∈ leaves part, content ∈ leaves (.any parts) ∧ content ∈ leaves (.all parts) := by
  intro content leaf
  rw [mem_leaves_any, mem_leaves_all]
  exact ⟨⟨part, inside, leaf⟩, part, inside, leaf⟩

@[simp] theorem leaves_neg (part : BoolTree α) : leaves (.neg part) = leaves part := rfl

@[simp] theorem leaves_leaf (content : α) : leaves (.leaf content) = [content] := rfl

@[simp] theorem leaves_never : leaves (.never : BoolTree α) = [] := rfl

@[simp] theorem holds_any (parts : List (BoolTree α)) :
    Holds meaning (.any parts) ↔ ∃ part ∈ parts, Holds meaning part := by
  change HoldsAny meaning parts ↔ _
  induction parts with
  | nil => exact iff_of_false not_false fun ⟨_, inside, _⟩ => List.not_mem_nil inside
  | cons part rest ih =>
      change Holds meaning part ∨ HoldsAny meaning rest ↔ _
      rw [ih, List.exists_mem_cons_iff]

@[simp] theorem holds_all (parts : List (BoolTree α)) :
    Holds meaning (.all parts) ↔ ∀ part ∈ parts, Holds meaning part := by
  change HoldsAll meaning parts ↔ _
  induction parts with
  | nil => exact iff_of_true trivial fun _ inside => absurd inside List.not_mem_nil
  | cons part rest ih =>
      change Holds meaning part ∧ HoldsAll meaning rest ↔ _
      rw [ih, List.forall_mem_cons]

@[simp] theorem holds_neg (part : BoolTree α) :
    Holds meaning (.neg part) ↔ ¬ Holds meaning part := Iff.rfl

@[simp] theorem holds_leaf (content : α) : Holds meaning (.leaf content) ↔ meaning content :=
  Iff.rfl

@[simp] theorem holds_never : ¬ Holds meaning (.never : BoolTree α) := not_false

end Equations

/-- An evaluation that decides the meaning of every leaf of a tree decides the
meaning of the tree. -/
theorem eval_iff_holds {test : α → Bool} {meaning : α → Prop} (tree : BoolTree α)
    (agree : ∀ content ∈ leaves tree, test content = true ↔ meaning content) :
    eval test tree = true ↔ Holds meaning tree := by
  induction tree with
  | any parts ih =>
      rw [eval_any, List.any_eq_true, holds_any]
      refine exists_congr fun part => and_congr_right fun inside => ih part inside ?_
      exact fun content leaf => agree content (leaves_of_part inside content leaf).1
  | all parts ih =>
      rw [eval_all, List.all_eq_true, holds_all]
      refine forall_congr' fun part => imp_congr_right fun inside => ih part inside ?_
      exact fun content leaf => agree content (leaves_of_part inside content leaf).2
  | neg part ih =>
      rw [leaves_neg] at agree
      rw [eval_neg, Bool.not_eq_true', holds_neg, ← ih agree, Bool.not_eq_true]
  | leaf content =>
      rw [eval_leaf, holds_leaf]
      exact agree content (leaves_leaf content ▸ List.mem_singleton.mpr rfl)
  | never => simp

/-- Two tests that agree at the leaves of a tree evaluate it alike. -/
theorem eval_congr {first second : α → Bool} (tree : BoolTree α)
    (agree : ∀ content ∈ leaves tree, first content = second content) :
    eval first tree = eval second tree := by
  have firstHolds : eval first tree = true ↔ Holds (fun content => second content = true) tree :=
    eval_iff_holds tree fun content inside => by rw [agree content inside]
  have secondHolds : eval second tree = true ↔ Holds (fun content => second content = true) tree :=
    eval_iff_holds tree fun _ _ => Iff.rfl
  exact Bool.eq_iff_iff.mpr (firstHolds.trans secondHolds.symm)

/-! ### Decisions from left to right -/

/-- The value of a tree whose leaves are known in part. A disjunction is decided by its
first part that holds and a conjunction by its first part that fails, and nothing has to
be known of the parts behind. -/
inductive Decided (known : α → Bool → Prop) : BoolTree α → Bool → Prop where
  | leaf {content value} (leaf : known content value) : Decided known (.leaf content) value
  | never : Decided known .never false
  | neg {part value} (decided : Decided known part value) : Decided known (.neg part) (!value)
  | anyNil : Decided known (.any []) false
  | anyHere {part rest} (here : Decided known part true) : Decided known (.any (part :: rest)) true
  | anyLater {part rest value} (here : Decided known part false)
      (later : Decided known (.any rest) value) : Decided known (.any (part :: rest)) value
  | allNil : Decided known (.all []) true
  | allHere {part rest} (here : Decided known part false) :
      Decided known (.all (part :: rest)) false
  | allLater {part rest value} (here : Decided known part true)
      (later : Decided known (.all rest) value) : Decided known (.all (part :: rest)) value

section Decided

variable {known : α → Bool → Prop} {test : α → Bool} {clear : α → Prop}

theorem reached_any_cons (part : BoolTree α) (rest : List (BoolTree α)) :
    reached test (.any (part :: rest)) =
      reached test part ++ if eval test part then [] else reached test (.any rest) := rfl

theorem reached_all_cons (part : BoolTree α) (rest : List (BoolTree α)) :
    reached test (.all (part :: rest)) =
      reached test part ++ if eval test part then reached test (.all rest) else [] := rfl

/-- A decided tree evaluates to its value, by way of clear leaves. -/
theorem Decided.sound {tree : BoolTree α} {value : Bool} (decided : Decided known tree value)
    (agree : ∀ content ∈ leaves tree, ∀ value,
      known content value → clear content ∧ test content = value) :
    eval test tree = value ∧ ∀ content ∈ reached test tree, clear content := by
  induction decided with
  | @leaf content value leaf =>
      obtain ⟨fine, same⟩ := agree content (List.mem_singleton_self _) value leaf
      refine ⟨same, fun other arrived => ?_⟩
      rw [List.mem_singleton.mp arrived]
      exact fine
  | never | anyNil | allNil => exact ⟨rfl, fun _ arrived => (List.not_mem_nil arrived).elim⟩
  | neg _ ih =>
      obtain ⟨same, fine⟩ := ih agree
      exact ⟨by rw [eval_neg, same], fine⟩
  | anyHere _ ih =>
      obtain ⟨same, fine⟩ := ih fun content leaf =>
        agree content (List.mem_append_left _ leaf)
      refine ⟨by rw [eval_any, List.any_cons, same, Bool.true_or], ?_⟩
      rw [reached_any_cons, same, if_pos rfl, List.append_nil]
      exact fine
  | allHere _ ih =>
      obtain ⟨same, fine⟩ := ih fun content leaf =>
        agree content (List.mem_append_left _ leaf)
      refine ⟨by rw [eval_all, List.all_cons, same, Bool.false_and], ?_⟩
      rw [reached_all_cons, same, if_neg Bool.false_ne_true, List.append_nil]
      exact fine
  | anyLater _ _ ihHere ihLater =>
      obtain ⟨same, fine⟩ := ihHere fun content leaf =>
        agree content (List.mem_append_left _ leaf)
      obtain ⟨sameLater, fineLater⟩ := ihLater fun content leaf =>
        agree content (List.mem_append_right _ leaf)
      rw [eval_any] at sameLater
      refine ⟨by rw [eval_any, List.any_cons, same, Bool.false_or, sameLater], ?_⟩
      rw [reached_any_cons, same, if_neg Bool.false_ne_true]
      exact List.forall_mem_append.mpr ⟨fine, fineLater⟩
  | allLater _ _ ihHere ihLater =>
      obtain ⟨same, fine⟩ := ihHere fun content leaf =>
        agree content (List.mem_append_left _ leaf)
      obtain ⟨sameLater, fineLater⟩ := ihLater fun content leaf =>
        agree content (List.mem_append_right _ leaf)
      rw [eval_all] at sameLater
      refine ⟨by rw [eval_all, List.all_cons, same, Bool.true_and, sameLater], ?_⟩
      rw [reached_all_cons, same, if_pos rfl]
      exact List.forall_mem_append.mpr ⟨fine, fineLater⟩

/-- An evaluation that arrives at clear leaves only decides the tree. -/
theorem decided_of_reached {tree : BoolTree α}
    (agree : ∀ content ∈ leaves tree, clear content → known content (test content))
    (fine : ∀ content ∈ reached test tree, clear content) :
    Decided known tree (eval test tree) := by
  induction tree with
  | leaf content =>
      have member : content ∈ [content] := List.mem_singleton_self _
      exact .leaf (agree content member (fine content member))
  | never => exact .never
  | neg part ih => exact .neg (ih agree fine)
  | any parts ih =>
      induction parts with
      | nil => exact .anyNil
      | cons part rest ihRest =>
          rw [reached_any_cons, List.forall_mem_append] at fine
          have here := ih part List.mem_cons_self
            (fun content leaf => agree content (List.mem_append_left _ leaf)) fine.1
          rw [eval_any, List.any_cons]
          cases value : eval test part with
          | true =>
              rw [value] at here
              exact .anyHere here
          | false =>
              rw [value] at here fine
              rw [Bool.false_or, ← eval_any]
              refine .anyLater here (ihRest (fun part inside => ih part (.tail _ inside))
                (fun content leaf => agree content (List.mem_append_right _ leaf)) fine.2)
  | all parts ih =>
      induction parts with
      | nil => exact .allNil
      | cons part rest ihRest =>
          rw [reached_all_cons, List.forall_mem_append] at fine
          have here := ih part List.mem_cons_self
            (fun content leaf => agree content (List.mem_append_left _ leaf)) fine.1
          rw [eval_all, List.all_cons]
          cases value : eval test part with
          | false =>
              rw [value] at here
              exact .allHere here
          | true =>
              rw [value] at here fine
              rw [Bool.true_and, ← eval_all]
              refine .allLater here (ihRest (fun part inside => ih part (.tail _ inside))
                (fun content leaf => agree content (List.mem_append_right _ leaf)) fine.2)

/-- **Decisions are evaluations by way of clear leaves**, if the known leaves are the
clear ones and are known as the test has them. -/
theorem decided_iff {tree : BoolTree α} {value : Bool}
    (agree : ∀ content ∈ leaves tree, ∀ value,
      known content value ↔ clear content ∧ test content = value) :
    Decided known tree value ↔
      eval test tree = value ∧ ∀ content ∈ reached test tree, clear content := by
  constructor
  · intro decided
    exact decided.sound fun content leaf value => (agree content leaf value).mp
  · rintro ⟨rfl, fine⟩
    have knows : ∀ content ∈ leaves tree, clear content → known content (test content) :=
      fun content leaf clear => (agree content leaf _).mpr ⟨clear, rfl⟩
    exact decided_of_reached knows fine

end Decided

/-! ### Conditions on every node -/

mutual

/-- Whether a test holds at every node of a tree, its leaves included. -/
def everyNode (keep : BoolTree α → Bool) : BoolTree α → Bool
  | .any parts => keep (.any parts) && everyNodeList keep parts
  | .all parts => keep (.all parts) && everyNodeList keep parts
  | .neg part => keep (.neg part) && everyNode keep part
  | .leaf content => keep (.leaf content)
  | .never => keep .never

def everyNodeList (keep : BoolTree α → Bool) : List (BoolTree α) → Bool
  | [] => true
  | part :: rest => everyNode keep part && everyNodeList keep rest

end

/-- Whether a node is a negation. -/
def isNeg : BoolTree α → Bool
  | .neg _ => true
  | _ => false

/-- Whether a node is the one that never holds. -/
def isNever : BoolTree α → Bool
  | .never => true
  | _ => false

section EveryNode

variable (keep : BoolTree α → Bool)

theorem everyNodeList_eq_all (parts : List (BoolTree α)) :
    everyNodeList keep parts = parts.all (everyNode keep) := by
  induction parts with
  | nil => rfl
  | cons part rest ih =>
      change (everyNode keep part && everyNodeList keep rest) = _
      rw [ih, List.all_cons]

@[simp] theorem everyNode_any (parts : List (BoolTree α)) :
    everyNode keep (.any parts) = (keep (.any parts) && parts.all (everyNode keep)) :=
  congrArg (keep (.any parts) && ·) (everyNodeList_eq_all keep parts)

@[simp] theorem everyNode_all (parts : List (BoolTree α)) :
    everyNode keep (.all parts) = (keep (.all parts) && parts.all (everyNode keep)) :=
  congrArg (keep (.all parts) && ·) (everyNodeList_eq_all keep parts)

@[simp] theorem everyNode_neg (part : BoolTree α) :
    everyNode keep (.neg part) = (keep (.neg part) && everyNode keep part) := rfl

@[simp] theorem everyNode_leaf (content : α) :
    everyNode keep (.leaf content) = keep (.leaf content) := rfl

@[simp] theorem everyNode_never : everyNode keep .never = keep .never := rfl

variable {keep}

/-- A weaker condition holds at every node as well. -/
theorem everyNode_imp {weaker : BoolTree α → Bool} (tree : BoolTree α)
    (implies : ∀ node, keep node = true → weaker node = true)
    (everywhere : everyNode keep tree = true) : everyNode weaker tree = true := by
  induction tree with
  | any parts ih =>
      rw [everyNode_any, Bool.and_eq_true, List.all_eq_true] at everywhere ⊢
      exact ⟨implies _ everywhere.1, fun part inside => ih part inside (everywhere.2 part inside)⟩
  | all parts ih =>
      rw [everyNode_all, Bool.and_eq_true, List.all_eq_true] at everywhere ⊢
      exact ⟨implies _ everywhere.1, fun part inside => ih part inside (everywhere.2 part inside)⟩
  | neg part ih =>
      rw [everyNode_neg, Bool.and_eq_true] at everywhere ⊢
      exact ⟨implies _ everywhere.1, ih everywhere.2⟩
  | leaf content =>
      rw [everyNode_leaf] at everywhere ⊢
      exact implies _ everywhere
  | never =>
      rw [everyNode_never] at everywhere ⊢
      exact implies _ everywhere

/-- A condition on every node is one on every leaf. -/
theorem keep_leaf_of_everyNode {tree : BoolTree α} (everywhere : everyNode keep tree = true) :
    ∀ content ∈ leaves tree, keep (.leaf content) = true := by
  induction tree with
  | any parts ih =>
      rw [everyNode_any, Bool.and_eq_true, List.all_eq_true] at everywhere
      intro content leaf
      obtain ⟨part, inside, leaf⟩ := (mem_leaves_any parts content).mp leaf
      exact ih part inside (everywhere.2 part inside) content leaf
  | all parts ih =>
      rw [everyNode_all, Bool.and_eq_true, List.all_eq_true] at everywhere
      intro content leaf
      obtain ⟨part, inside, leaf⟩ := (mem_leaves_all parts content).mp leaf
      exact ih part inside (everywhere.2 part inside) content leaf
  | neg part ih =>
      rw [everyNode_neg, Bool.and_eq_true] at everywhere
      exact ih everywhere.2
  | leaf content =>
      intro other inside
      rw [leaves_leaf, List.mem_singleton] at inside
      rw [everyNode_leaf] at everywhere
      rw [inside]
      exact everywhere
  | never =>
      intro content inside
      rw [leaves_never] at inside
      exact (List.not_mem_nil inside).elim

end EveryNode

/-- **A tree without negations is monotone**: if the leaves that pass one test pass
another one, so does the tree. -/
theorem eval_mono {first second : α → Bool} (tree : BoolTree α)
    (negFree : everyNode (fun node => !isNeg node) tree = true)
    (implies : ∀ content ∈ leaves tree, first content = true → second content = true)
    (holds : eval first tree = true) : eval second tree = true := by
  induction tree with
  | any parts ih =>
      rw [everyNode_any, Bool.and_eq_true, List.all_eq_true] at negFree
      rw [eval_any, List.any_eq_true] at holds ⊢
      obtain ⟨part, inside, holds⟩ := holds
      refine ⟨part, inside, ih part inside (negFree.2 part inside) ?_ holds⟩
      exact fun content leaf => implies content (leaves_of_part inside content leaf).1
  | all parts ih =>
      rw [everyNode_all, Bool.and_eq_true, List.all_eq_true] at negFree
      rw [eval_all, List.all_eq_true] at holds ⊢
      intro part inside
      apply ih part inside (negFree.2 part inside) _ (holds part inside)
      exact fun content leaf => implies content (leaves_of_part inside content leaf).2
  | neg part _ => simp [isNeg] at negFree
  | leaf content =>
      rw [eval_leaf] at holds ⊢
      exact implies content (leaves_leaf content ▸ List.mem_singleton.mpr rfl) holds
  | never =>
      rw [eval_never] at holds
      cases holds

/-! ### Duality -/

mutual

/-- The De Morgan dual: conjunctions for disjunctions, and at every leaf what `flip`
makes of it. A negation stays over the dual of its part. -/
def dual (flip : α → α) : BoolTree α → BoolTree α
  | .any parts => .all (dualList flip parts)
  | .all parts => .any (dualList flip parts)
  | .neg part => .neg (dual flip part)
  | .leaf content => .leaf (flip content)
  | .never => .never

def dualList (flip : α → α) : List (BoolTree α) → List (BoolTree α)
  | [] => []
  | part :: rest => dual flip part :: dualList flip rest

end

theorem dualList_eq_map (flip : α → α) (parts : List (BoolTree α)) :
    dualList flip parts = parts.map (dual flip) := by
  induction parts with
  | nil => rfl
  | cons part rest ih =>
      change dual flip part :: dualList flip rest = _
      rw [ih, List.map_cons]

@[simp] theorem dual_any (flip : α → α) (parts : List (BoolTree α)) :
    dual flip (.any parts) = .all (parts.map (dual flip)) :=
  congrArg BoolTree.all (dualList_eq_map flip parts)

@[simp] theorem dual_all (flip : α → α) (parts : List (BoolTree α)) :
    dual flip (.all parts) = .any (parts.map (dual flip)) :=
  congrArg BoolTree.any (dualList_eq_map flip parts)

@[simp] theorem dual_neg (flip : α → α) (part : BoolTree α) :
    dual flip (.neg part) = .neg (dual flip part) := rfl

@[simp] theorem dual_leaf (flip : α → α) (content : α) :
    dual flip (.leaf content) = .leaf (flip content) := rfl

@[simp] theorem dual_never (flip : α → α) : dual flip (.never : BoolTree α) = .never := rfl

/-- **The dual of a tree is its complement** when the test is complemented at every
leaf, unless the tree has a node that never holds: that one is its own dual. -/
theorem eval_dual {test : α → Bool} {flip : α → α} (tree : BoolTree α)
    (neverFree : everyNode (fun node => !isNever node) tree = true)
    (complement : ∀ content ∈ leaves tree, test (flip content) = !test content) :
    eval test (dual flip tree) = !eval test tree := by
  induction tree with
  | any parts ih =>
      rw [everyNode_any, Bool.and_eq_true, List.all_eq_true] at neverFree
      have partDual : ∀ part ∈ parts, eval test (dual flip part) = !eval test part := by
        intro part inside
        apply ih part inside (neverFree.2 part inside)
        exact fun content leaf => complement content (leaves_of_part inside content leaf).1
      rw [dual_any, eval_all, eval_any, List.all_map, List.not_any_eq_all_not, Bool.eq_iff_iff,
        List.all_eq_true, List.all_eq_true]
      exact forall₂_congr fun part inside => by rw [Function.comp, partDual part inside]
  | all parts ih =>
      rw [everyNode_all, Bool.and_eq_true, List.all_eq_true] at neverFree
      have partDual : ∀ part ∈ parts, eval test (dual flip part) = !eval test part := by
        intro part inside
        apply ih part inside (neverFree.2 part inside)
        exact fun content leaf => complement content (leaves_of_part inside content leaf).2
      rw [dual_all, eval_any, eval_all, List.any_map, List.not_all_eq_any_not, Bool.eq_iff_iff,
        List.any_eq_true, List.any_eq_true]
      refine exists_congr fun part => and_congr_right fun inside => ?_
      rw [Function.comp, partDual part inside]
  | neg part ih =>
      rw [everyNode_neg, Bool.and_eq_true] at neverFree
      rw [dual_neg, eval_neg, eval_neg, ih neverFree.2 complement]
  | leaf content =>
      rw [dual_leaf, eval_leaf, eval_leaf]
      exact complement content (leaves_leaf content ▸ List.mem_singleton.mpr rfl)
  | never => simp [isNever] at neverFree

end BoolTree
