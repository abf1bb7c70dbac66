import Retrace.Proofs.Draft

/-!
The citations of a script that a test flags: the statements are gone through in order, and each name
that one of them cites is tested against the names that the statements before it have given.
-/

namespace Retrace.Statement

/-- The citations that a test flags, each with the statement that makes it. A citation is tested
against the names that were given before all statements or are given by one before its own. -/
def flagged (cites : Statement → List String) (gives : Statement → Option String)
    (test : List String → String → Bool) (given : List String) :
    List Statement → List (Statement × String)
  | [] => []
  | statement :: others =>
    ((cites statement).filter (test given)).map (statement, ·) ++
      flagged cites gives test (given ++ (gives statement).toList) others

variable {cites : Statement → List String} {gives : Statement → Option String}
  {test : List String → String → Bool} {statements : List Statement}

/-- Further statements are tested against what the statements before them give. -/
theorem flagged_append (first others : List Statement) (given : List String) :
    flagged cites gives test given (first ++ others) =
      flagged cites gives test given first ++
        flagged cites gives test (given ++ first.filterMap gives) others := by
  induction first generalizing given with
  | nil => simp [flagged]
  | cons statement first ih =>
    -- What the first statement gives is given to all that follow.
    rw [List.cons_append, flagged, flagged, ih, List.append_assoc, List.append_assoc]
    cases gave : gives statement <;> simp [gave]

/-- Statements that cite nothing have no citation to flag. -/
theorem flagged_of_uncited (uncited : ∀ statement ∈ statements, cites statement = [])
    (given : List String) : flagged cites gives test given statements = [] := by
  -- More may be given to later statements, so what is given is general in the induction.
  induction statements generalizing given with
  | nil => rfl
  | cons statement statements ih =>
    have first := uncited statement List.mem_cons_self
    have others (given : List String) : flagged cites gives test given statements = [] :=
      ih (fun other member => uncited other (List.mem_cons_of_mem _ member)) given
    rw [flagged, first, List.filter_nil, List.map_nil, List.nil_append, others]

/-- Remarks are passed over if they neither cite nor give a name. -/
theorem flagged_filter_isRemark
    (silent : ∀ text, cites (.comment text) = [] ∧ gives (.comment text) = none)
    (given : List String) :
    flagged cites gives test given (statements.filter (! ·.isRemark)) =
      flagged cites gives test given statements := by
  induction statements generalizing given with
  | nil => rfl
  | cons statement statements ih =>
    cases remark : statement.isRemark with
    | false => simp [remark, flagged, ih]
    | true =>
      obtain ⟨text, rfl⟩ : ∃ text, statement = .comment text := by
        cases statement <;> simp_all [isRemark]
      -- The same names are given behind the remark.
      obtain ⟨uncited, ungiven⟩ := silent text
      simp [remark, flagged, uncited, ungiven, ih]

end Retrace.Statement
