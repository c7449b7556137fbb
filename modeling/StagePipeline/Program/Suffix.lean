import StagePipeline.Program.Production

/-!
# What a production leaves

Whether it succeeds or fails, a production leaves a suffix of the tokens it was
given.  This is why a parse that goes on after a failure never returns to a
token it has used.
-/

namespace StagePipeline.Program

/-- Whether what a production left, failed or not, is a suffix of what it was given. -/
def LeavesSuffix {α : Type} {bound : Nat} (input : List Token) :
    Except Stuck (Taken α bound) → Prop
  | .ok taken => taken.rest <:+ input
  | .error stuck => stuck.rest <:+ input

theorem closeGroup_leavesSuffix (bounds : Bounds) (depth : Nat) (opening : Span) (inner : Expr)
    (input : List Token) : LeavesSuffix input (closeGroup bounds depth opening inner input) := by
  unfold closeGroup
  split
  · exact List.suffix_cons _ _
  · exact List.suffix_refl _
  · exact List.suffix_refl _

theorem productions_leaveSuffix (bounds : Bounds) :
    (∀ level depth input, LeavesSuffix input (chain bounds level depth input)) ∧
    (∀ level depth left input, LeavesSuffix input (chainFrom bounds level depth left input)) ∧
    (∀ level depth input, LeavesSuffix input (operand bounds level depth input)) ∧
    (∀ depth input, LeavesSuffix input (signed bounds depth input)) := by
  apply chain.mutual_induct bounds
    (fun level depth input => LeavesSuffix input (chain bounds level depth input))
    (fun level depth left input => LeavesSuffix input (chainFrom bounds level depth left input))
    (fun level depth input => LeavesSuffix input (operand bounds level depth input))
    (fun depth input => LeavesSuffix input (signed bounds depth input))
  case case1 =>
    intros
    rw [chain]
    simp_all only [LeavesSuffix]
  case case2 | case3 =>
    intro level depth input first taken within tail chained leavesFirst leavesTail
    rw [chain, taken]
    simp only [chained]
    rw [taken] at leavesFirst
    rw [chained] at leavesTail
    exact leavesTail.trans leavesFirst
  case case9 =>
    intro level depth left token tail op found deep
    simp only [chainFrom, found, if_neg deep]
    exact List.suffix_cons _ _
  case case4 | case5 | case6 | case7 | case8 =>
    intros
    rw [chainFrom]
    simp_all [LeavesSuffix]
    try grind [List.IsSuffix.trans]
  case case10 | case11 =>
    intros
    rw [operand]
    simp_all only
  case case19 | case20 =>
    intro depth opening rest shallow inner read group closed leaves
    have leavesGroup := closeGroup_leavesSuffix bounds depth opening inner.value inner.rest
    simp only [signed, if_pos shallow, read, closed]
    rw [read] at leaves
    rw [closed] at leavesGroup
    exact (leavesGroup.trans leaves).trans (List.suffix_cons _ _)
  all_goals
    intros
    simp_all [signed, LeavesSuffix, Bounds.unexpected, Bounds.tooDeep]
    try grind [List.IsSuffix.trans]

theorem expression_leavesSuffix (bounds : Bounds) (input : List Token) :
    LeavesSuffix input (expression bounds input) :=
  (productions_leaveSuffix bounds).1 .sum 0 input

theorem binding_leavesSuffix (bounds : Bounds) (start : Span) (input : List Token) :
    LeavesSuffix input (binding bounds start input) := by
  unfold binding
  split
  · split
    · have leaves := expression_leavesSuffix bounds ‹List Token›
      split
      all_goals
        rename_i read
        rw [read] at leaves
        exact leaves.trans ((List.suffix_cons _ _).trans (List.suffix_cons _ _))
    · exact List.suffix_cons _ _
  · exact List.suffix_refl _

theorem openStatement_leavesSuffix (bounds : Bounds) (input : List Token) :
    LeavesSuffix input (openStatement bounds input) := by
  unfold openStatement
  split
  · rename_i start rest
    have leaves := binding_leavesSuffix bounds start rest
    split
    all_goals
      rename_i read
      rw [read] at leaves
      exact leaves.trans (List.suffix_cons _ _)
  · have leaves := expression_leavesSuffix bounds input
    split
    all_goals
      rename_i read
      rw [read] at leaves
      exact leaves

theorem statement_leavesSuffix (bounds : Bounds) (input : List Token) :
    LeavesSuffix input (statement bounds input) := by
  have leaves := openStatement_leavesSuffix bounds input
  unfold statement
  split
  · rename_i read
    rw [read] at leaves
    exact leaves
  · rename_i read
    rw [read] at leaves
    split
    · exact leaves
    · exact leaves

end StagePipeline.Program
