import Retrace.Proofs.Justification.Source

/-!
What follows the source of a clause in its justification. It is information for the reader and adds no
parents, unless the source is a theory term: that is left out, and what follows takes its place.
-/

namespace Retrace.Justification

open Text (AllLayout)

variable {text layout : List Char} {first : Term} {others : List Term}

/-- A text that denotes one item is a field with that item. -/
theorem Denotes.field (denotes : Denotes text [first]) :
    ∃ body, Padded text body ∧ ItemText body first := by
  obtain ⟨front, behind, derived, back, rfl⟩ := denotes
  cases derived with
  | first blank item more =>
    -- No further item follows, only layout.
    cases more with
    | nothing => exact ⟨_, by simpa using Padded.around blank back, item⟩

/-- Items that a text denotes go on with a list behind a comma and layout. -/
theorem Denotes.continues (blank : AllLayout layout) (denotes : Denotes text others)
    (given : others ≠ []) : Continues (',' :: (layout ++ text)) others := by
  obtain ⟨front, behind, derived, back, rfl⟩ := denotes
  cases derived with
  | nothing => exact absurd rfl given
  | first leading item more =>
    -- The layout is put in front of that of the first item.
    have next := @MoreText.next [] _ _ _ _ _ (by simp [AllLayout])
      (allLayout_append blank leading) item more
    exact ⟨_, behind, next, back, by simp⟩

/-- Terms are what a justification is read as. -/
theorem terms_eq_ok_iff {justification : String} :
    terms justification = .ok others ↔ Denotes justification.toList others := by
  rw [← readAll_eq_ok_iff, terms]
  cases readAll justification.toList <;> simp [Except.mapError]

/-- A source and the information behind a comma are read one after the other. -/
theorem terms_append {source information : String} (one : terms source = .ok [first])
    (several : terms information = .ok others) (given : others ≠ []) :
    terms (source ++ ", " ++ information) = .ok (first :: others) := by
  rw [terms_eq_ok_iff] at one several ⊢
  obtain ⟨body, padded, item⟩ := one.field
  have space : AllLayout [' '] := by decide
  have whole := Denotes.first padded item (several.continues space given)
  simpa using whole

/-- What is cited by a justification that can be read, and the kind of fault if nothing is. -/
theorem parents_kind {justification : String} (read : terms justification = .ok others) :
    (parents justification).mapError Fault.kind =
      (citations others).mapError fun _ => "AnnotationParse" := by
  rw [terms_eq_ok_iff, ← readAll_eq_ok_iff] at read
  rw [parents, read]
  -- The only problem left is a missing list of parents.
  change ((citations others).mapError (Problem.fault justification)).mapError Fault.kind = _
  cases citations others <;> rfl

/-- The first term decides what is cited, and the others only if it is a theory term. -/
theorem citations_cons :
    citations (first :: others) =
      if first.isApplicationOf "theory" then citations others else citations [first] := by
  by_cases theory : first.isApplicationOf "theory" = true
  · simp only [citations, Term.withoutTheoryAll, if_pos theory]
  · simp only [citations, Term.withoutTheoryAll, if_neg theory]

/-- A theory term alone cites nothing. -/
theorem citations_theory (theory : first.isApplicationOf "theory" = true) :
    citations [first] = .ok [] := by
  rw [citations_cons, if_pos theory]
  rfl

/-- Information behind a source is never cited if the source is no theory term: the parents are those
of the source, and so is the fault if there are none. Behind a theory term the parents are those of
the information, as if it were the source, so that it has to be without any for the theory term to
have none. -/
theorem parents_append_iff {source information : String} (one : terms source = .ok [first])
    (several : terms information = .ok others) (given : others ≠ []) :
    (parents (source ++ ", " ++ information)).mapError Fault.kind =
        (parents (if first.isApplicationOf "theory" then information else source)).mapError
          Fault.kind ∧
      ((parents (source ++ ", " ++ information)).mapError Fault.kind =
          (parents source).mapError Fault.kind ↔
        first.isApplicationOf "theory" = false ∨ parents information = .ok []) := by
  have whole := parents_kind (terms_append one several given)
  rw [citations_cons] at whole
  -- What is cited depends on whether the first term is dropped.
  cases theory : first.isApplicationOf "theory" with
  | false =>
    have same : (parents (source ++ ", " ++ information)).mapError Fault.kind =
        (parents source).mapError Fault.kind := by
      rw [whole, parents_kind one, if_neg (by simp [theory])]
    exact ⟨same, by simp [same]⟩
  | true =>
    have same : (parents (source ++ ", " ++ information)).mapError Fault.kind =
        (parents information).mapError Fault.kind := by
      rw [whole, parents_kind several, if_pos theory]
    -- The source alone has nothing to cite.
    have nothing : (parents source).mapError Fault.kind = .ok [] := by
      rw [parents_kind one, citations_theory theory]
      rfl
    refine ⟨same, ?_⟩
    rw [same, nothing]
    cases parents information <;> simp [Except.mapError]

/-- Behind an inference, a list of quoted texts adds nothing. -/
theorem parents_append_inference :
    terms "inference(cn,[status(thm)],[c_0_5])" = .ok [.list [.atom "inference", .atom "cn",
        .list [.list [.atom "status", .atom "thm"]], .list [.atom "c_0_5"]]] ∧
      terms "[iquote('x')]" = .ok [.list [.list [.atom "iquote", .atom "x"]]] ∧
      (parents ("inference(cn,[status(thm)],[c_0_5])" ++ ", " ++ "[iquote('x')]")).mapError
          Fault.kind =
        (parents "inference(cn,[status(thm)],[c_0_5])").mapError Fault.kind := by
  have one : terms "inference(cn,[status(thm)],[c_0_5])" = .ok [.list [.atom "inference", .atom "cn",
      .list [.list [.atom "status", .atom "thm"]], .list [.atom "c_0_5"]]] := by cbv
  have several : terms "[iquote('x')]" = .ok [.list [.list [.atom "iquote", .atom "x"]]] := by cbv
  exact ⟨one, several, (parents_append_iff one several (by simp)).2.mpr (.inl rfl)⟩

/-- Behind a theory term, the same kind of information is taken for the name of a parent. -/
theorem parents_append_theory :
    terms "theory(equality)" = .ok [.list [.atom "theory", .atom "equality"]] ∧
      terms "['final']" = .ok [.list [.atom "final"]] ∧
      parents "theory(equality)" = .ok [] ∧
      parents ("theory(equality)" ++ ", " ++ "['final']") = .ok ["final"] := by
  refine ⟨by cbv, by cbv, by decide +kernel, by decide +kernel⟩

end Retrace.Justification
