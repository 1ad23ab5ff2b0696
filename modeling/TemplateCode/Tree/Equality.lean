import TemplateCode.Tree.Node

/-! Equality of trees is decidable. -/

namespace TemplateCode.Tree

mutual
def Node.same : Node → Node → Bool
  | .program a, .program b => Node.sameAll a b
  | .explicitExpression a, .explicitExpression b => Node.sameAll a b
  | .expression a, .expression b => Node.sameAll a b
  | .markup n a v i c, .markup n' a' v' i' c' =>
    n.same n' && Node.sameAll a a' && Node.sameAll v v' && i == i' && c == c'
  | .markupAttribute l r q, .markupAttribute l' r' q' =>
    Node.sameAll l l' && Node.sameAll r r' && q == q'
  | .block h v t, .block h' v' t' => Node.sameAll h h' && Node.sameAll v v' && Node.sameAll t t'
  | .indexExpression a, .indexExpression b => Node.sameAll a b
  | .text a, .text b => a == b
  | _, _ => false

def TagName.same : TagName → TagName → Bool
  | .literal a, .literal b => a == b
  | .dynamic a, .dynamic b => Node.sameAll a b
  | _, _ => false

def Node.sameAll : List Node → List Node → Bool
  | [], [] => true
  | a :: as, b :: bs => a.same b && Node.sameAll as bs
  | _, _ => false
end

mutual
theorem Node.same_iff : ∀ a b : Node, a.same b = true ↔ a = b
  | .program a, b => by cases b <;> simp [Node.same, Node.sameAll_iff a]
  | .explicitExpression a, b => by cases b <;> simp [Node.same, Node.sameAll_iff a]
  | .expression a, b => by cases b <;> simp [Node.same, Node.sameAll_iff a]
  | .markup n a v i c, b => by
    cases b <;>
      simp [Node.same, TagName.same_iff n, Node.sameAll_iff a, Node.sameAll_iff v, and_assoc]
  | .markupAttribute l r q, b => by
    cases b <;> simp [Node.same, Node.sameAll_iff l, Node.sameAll_iff r, and_assoc]
  | .block h v t, b => by
    cases b <;>
      simp [Node.same, Node.sameAll_iff h, Node.sameAll_iff v, Node.sameAll_iff t, and_assoc]
  | .indexExpression a, b => by cases b <;> simp [Node.same, Node.sameAll_iff a]
  | .text a, b => by cases b <;> simp [Node.same]

theorem TagName.same_iff : ∀ a b : TagName, a.same b = true ↔ a = b
  | .literal a, b => by cases b <;> simp [TagName.same]
  | .dynamic a, b => by cases b <;> simp [TagName.same, Node.sameAll_iff a]

theorem Node.sameAll_iff : ∀ as bs : List Node, Node.sameAll as bs = true ↔ as = bs
  | [], bs => by cases bs <;> simp [Node.sameAll]
  | a :: as, bs => by
    cases bs <;> simp [Node.sameAll, Node.same_iff a, Node.sameAll_iff as]
end

instance : DecidableEq Node := fun a b => decidable_of_iff _ (Node.same_iff a b)

end TemplateCode.Tree
