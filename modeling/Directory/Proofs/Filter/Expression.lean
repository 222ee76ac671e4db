import Directory.Filter.Combination
import Directory.Proofs.Query.Meaning
import Mathlib.Tactic.Choose

/-!
# Expressions of filters

An expression combines filters by "and", "or" and "not". What it builds is no copy of it: a further
operand joins a group that is there already, and a second negation takes the first one away. Still
the filter that is built is true exactly if the expression is (`Filter.holds_join` and
`Filter.holds_negate` are the steps), and a chain of one junction is one group of its operands.
-/

namespace Directory

/-- The truth of two combined filters. -/
def Junction.apply : Junction → Bool → Bool → Bool
  | .all, x, y => x && y
  | .any, x, y => x || y

namespace Filter

/-! ## Groups that take operands -/

/-- The operands that a filter brings into a group of a junction: its children if it is such a
group, and else itself. -/
def operandsOf (junction : Junction) (node : Filter) : List Filter :=
  match node with
  | .group own children => if own = junction then children else [node]
  | _ => [node]

@[simp] theorem operandsOf_group (junction : Junction) (children : List Filter) :
    (group junction children).operandsOf junction = children :=
  if_pos rfl

/-- Only a group of the junction brings more than itself. -/
theorem operandsOf_eq_singleton {junction : Junction} {node : Filter}
    (h : ∀ children, node ≠ .group junction children) : node.operandsOf junction = [node] := by
  cases node with
  | group own children =>
      refine if_neg fun hown => h children ?_
      rw [hown]
  | _ => rfl

/-- A combination is a group of what the filter brings along and the operand. -/
theorem join_eq (junction : Junction) (node operand : Filter) :
    node.join junction operand = .group junction (node.operandsOf junction ++ [operand]) := by
  cases node with
  | group own children =>
      simp only [join, operandsOf]
      split <;> rfl
  | _ => rfl

/-- Operands that join one after the other end up in one group, in their order. -/
theorem foldl_join (junction : Junction) (node operand : Filter) (operands : List Filter) :
    (operand :: operands).foldl (join junction) node =
      .group junction (node.operandsOf junction ++ operand :: operands) := by
  induction operands generalizing node operand with
  | nil => exact join_eq junction node operand
  | cons next operands ih =>
      rw [List.foldl_cons, ih, join_eq, operandsOf_group, List.append_assoc]
      rfl

/-! ## Truth of combinations -/

variable {truth : Filter → Bool}

/-- The last child of a group counts as an operand of its junction. -/
theorem holds_group_concat (junction : Junction) (children : List Filter) (operand : Filter) :
    (group junction (children ++ [operand])).holds truth =
      junction.apply ((group junction children).holds truth) (operand.holds truth) := by
  cases junction <;> simp [Junction.apply]

/-- What a filter brings into a group says together what the filter says. -/
theorem holds_group_operandsOf (junction : Junction) (node : Filter) :
    (group junction (node.operandsOf junction)).holds truth = node.holds truth := by
  by_cases h : ∃ children, node = .group junction children
  · obtain ⟨children, rfl⟩ := h
    rw [operandsOf_group]
  · rw [operandsOf_eq_singleton (not_exists.1 h)]
    cases junction <;> simp

theorem holds_join (junction : Junction) (node operand : Filter) :
    (node.join junction operand).holds truth =
      junction.apply (node.holds truth) (operand.holds truth) := by
  rw [join_eq, holds_group_concat, holds_group_operandsOf]

/-- A negation that is taken away counts as much as one that is added. -/
theorem holds_negate (node : Filter) : node.negate.holds truth = !node.holds truth := by
  cases node with
  | not child => rw [negate, holds_not, Bool.not_not]
  | _ => exact holds_not _

/-! ## What negations are about -/

/-- What is left of a filter without the negations around it. -/
def core : Filter → Filter
  | .not child => child.core
  | node => node

theorem isNode_of_isNode_core {node : Filter} (h : node.core.isNode = true) :
    node.isNode = true := by
  cases node with
  | foreign value => exact h
  | _ => rfl

theorem core_negate (node : Filter) : node.negate.core = node.core := by
  cases node <;> rfl

/-- What is combined is a group, and no negation. -/
theorem isNode_core_join (junction : Junction) (node operand : Filter) :
    (node.join junction operand).core.isNode = true := by
  rw [join_eq]
  rfl

/-! ## Operators and methods of filters -/

variable {node : Filter}

theorem requireNode_eq (h : node.isNode = true) : node.requireNode = .ok node :=
  if_pos h

theorem combine_eq (h : node.isNode = true) (junction : Junction) (operand : Filter) :
    node.combine junction operand = .ok (node.join junction operand) := by
  cases node with
  | foreign value => cases h
  | _ => rfl

theorem complement_eq (h : node.isNode = true) : node.complement = .ok node.negate := by
  cases node with
  | foreign value => cases h
  | _ => rfl

end Filter

/-! ## Expressions -/

/-- How a combination is spelled: by an operator, which also stands between other values, or by a
method, which only filters have. -/
inductive Spelling where
  | operator
  | method
deriving DecidableEq, Repr

/-- A combination of filters. Operands are filters of any kind, groups and negations among them. A
negation gives back what it negates when it is negated in turn, so that must be a filter too. -/
inductive Expression where
  | operand (node : Filter) (isNode_core : node.core.isNode = true)
  | joined (spelling : Spelling) (junction : Junction) (left right : Expression)
  | negated (spelling : Spelling) (child : Expression)

namespace Expression

/-- The filter that an expression builds, or the failure that it ends in. -/
def build : Expression → Except Failure Filter
  | operand node _ => .ok node
  | joined .operator junction left right => do
    let node ← left.build
    node.combine junction (← right.build)
  | joined .method junction left right => do
    let node ← (← left.build).requireNode
    return node.join junction (← right.build)
  | negated .operator child => do (← child.build).complement
  | negated .method child => do return (← (← child.build).requireNode).negate

/-- The truth of an expression by that of its operands. -/
def value (truth : Filter → Bool) : Expression → Bool
  | operand node _ => node.holds truth
  | joined _ junction left right => junction.apply (left.value truth) (right.value truth)
  | negated _ child => !child.value truth

/-- Operands that are combined from the left, each link in its own spelling. -/
def chain (junction : Junction) (first : Expression) (rest : List (Spelling × Expression)) :
    Expression :=
  rest.foldl (fun left link => .joined link.1 junction left link.2) first

variable {left right child : Expression} {node operand : Filter}

/-- Filters are combined alike by operators and by methods. -/
theorem build_joined (spelling : Spelling) (junction : Junction) (hleft : left.build = .ok node)
    (hnode : node.isNode = true) (hright : right.build = .ok operand) :
    (joined spelling junction left right).build = .ok (node.join junction operand) := by
  cases spelling with
  | operator =>
      rw [build, hleft, hright]
      exact Filter.combine_eq hnode junction operand
  | method =>
      rw [build, hleft, hright]
      show (do return (← node.requireNode).join junction operand) = _
      rw [Filter.requireNode_eq hnode]
      rfl

theorem build_negated (spelling : Spelling) (hchild : child.build = .ok node)
    (hnode : node.isNode = true) : (negated spelling child).build = .ok node.negate := by
  cases spelling with
  | operator =>
      rw [build, hchild]
      exact Filter.complement_eq hnode
  | method =>
      rw [build, hchild]
      show (do return (← node.requireNode).negate) = _
      rw [Filter.requireNode_eq hnode]
      rfl

/-- An expression builds a filter, and the filter has the truth of the expression. -/
theorem exists_build (expression : Expression) :
    ∃ node, expression.build = .ok node ∧ node.core.isNode = true ∧
      ∀ truth, node.holds truth = expression.value truth := by
  induction expression with
  | operand node h => exact ⟨node, rfl, h, fun _ => rfl⟩
  | joined spelling junction left right ihleft ihright =>
      obtain ⟨node, hleft, hnode, hvalue⟩ := ihleft
      obtain ⟨operand, hright, -, hoperand⟩ := ihright
      refine ⟨_, build_joined spelling junction hleft (Filter.isNode_of_isNode_core hnode) hright,
        Filter.isNode_core_join junction node operand, fun truth => ?_⟩
      rw [Filter.holds_join, hvalue, hoperand, value]
  | negated spelling child ih =>
      obtain ⟨node, hchild, hnode, hvalue⟩ := ih
      refine ⟨_, build_negated spelling hchild (Filter.isNode_of_isNode_core hnode), ?_,
        fun truth => ?_⟩
      · rwa [Filter.core_negate]
      · rw [Filter.holds_negate, hvalue, value]

/-- A chain is built by joining its operands one after the other. -/
theorem build_chain (junction : Junction) {first : Expression}
    {rest : List (Spelling × Expression)} {nodes : List Filter}
    (hfirst : first.build = .ok node) (hnode : node.isNode = true)
    (hrest : rest.map (·.2.build) = nodes.map .ok) :
    (chain junction first rest).build = .ok (nodes.foldl (Filter.join junction) node) := by
  induction rest generalizing first node nodes with
  | nil =>
      obtain rfl : nodes = [] := List.map_eq_nil_iff.1 hrest.symm
      exact hfirst
  | cons link rest ih =>
      obtain ⟨operand, operands, rfl, hoperand, hoperands⟩ := List.map_eq_cons_iff.1 hrest.symm
      have hjoined := build_joined link.1 junction hfirst hnode hoperand.symm
      have hgroup : (node.join junction operand).isNode = true :=
        Filter.isNode_of_isNode_core (Filter.isNode_core_join junction node operand)
      -- the chain of the further operands starts from the group of the first two
      have hchain := ih hjoined hgroup hoperands.symm
      exact hchain

/-- Every expression builds a filter with the truth of the expression, and a chain of two or more
operands builds a group of just their filters if the first of them is no such group. -/
theorem build_means_value :
    (∀ expression : Expression, ∃ node, expression.build = .ok node ∧ node.isNode = true ∧
      ∀ truth, node.holds truth = expression.value truth) ∧
    ∀ (junction : Junction) (first : Expression) (rest : List (Spelling × Expression)),
      rest ≠ [] → ∃ node nodes,
        first.build = .ok node ∧ rest.map (·.2.build) = nodes.map .ok ∧
        ((∀ children, node ≠ .group junction children) →
          (chain junction first rest).build = .ok (.group junction (node :: nodes))) := by
  choose filter hbuild hcore hholds using exists_build
  have hnode (expression : Expression) : (filter expression).isNode = true :=
    Filter.isNode_of_isNode_core (hcore expression)
  refine ⟨fun expression => ⟨_, hbuild expression, hnode expression, hholds expression⟩,
    fun junction first rest hrest => ?_⟩
  have hbuilds : rest.map (·.2.build) = (rest.map (filter ·.2)).map .ok := by
    simp [hbuild, Function.comp_def]
  refine ⟨_, _, hbuild first, hbuilds, fun hfirst => ?_⟩
  rw [build_chain junction (hbuild first) (hnode first) hbuilds]
  obtain ⟨link, links, rfl⟩ := List.exists_cons_of_ne_nil hrest
  rw [List.map_cons, Filter.foldl_join, Filter.operandsOf_eq_singleton hfirst]
  rfl

/-- Of three operands the first negates a negation of alternatives, the second is an empty group of
the junction, which stays a child, and the third negates a negation. -/
theorem build_means_value_three :
    let alternatives : Filter := .group .any [.has (.str "cn"), .has (.str "mail")]
    let first : Expression := negated .method (negated .operator (.operand alternatives rfl))
    let rest : List (Spelling × Expression) := [(.method, .operand (.group .all []) rfl),
      (.operator, negated .operator (.operand (.not (.raw (.str "(uid=a)"))) rfl))]
    rest ≠ [] ∧ (∀ children, alternatives ≠ .group .all children) ∧
      let built : Filter := .group .all [alternatives, .group .all [], .raw (.str "(uid=a)")]
      (chain .all first rest).build = .ok built ∧
        ∀ truth, built.holds truth = (chain .all first rest).value truth := by
  intro alternatives first rest
  have hrest : rest ≠ [] := List.cons_ne_nil _ _
  have halternatives (children : List Filter) : alternatives ≠ .group .all children := by
    intro h
    cases (Filter.group.inj h).1
  obtain ⟨node, nodes, hfirst, hnodes, hchain⟩ := build_means_value.2 .all first rest hrest
  obtain rfl : alternatives = node := Except.ok.inj hfirst
  obtain rfl : [.group .all [], .raw (.str "(uid=a)")] = nodes :=
    (List.map_inj_right fun _ _ => Except.ok.inj).1 hnodes
  obtain ⟨node, hnode, -, hholds⟩ := build_means_value.1 (chain .all first rest)
  obtain rfl := Except.ok.inj ((hchain halternatives).symm.trans hnode)
  exact ⟨hrest, halternatives, hnode, hholds⟩

end Expression

end Directory
