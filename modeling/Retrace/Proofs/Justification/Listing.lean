import Mathlib.Data.List.Forall2
import Retrace.Proofs.Justification.Source
import Retrace.Proofs.Text.Words

/-!
Inferences that list the names of clauses: they cite the names listed, unless the first of them makes
the list look like a theory term or like an inference.
-/

namespace Retrace.Justification

/-- The text of an inference with the given rule and status that lists names in written form. -/
def inferenceFrom (rule status : String) (forms : List String) : String :=
  "inference(" ++ rule ++ ",[status(" ++ status ++ ")],[" ++ ",".intercalate forms ++ "])"

/-- Names, each beside one of its written forms. -/
def Writes (forms names : List String) : Prop :=
  List.Forall₂ (fun form name => Clause.NameText form.toList name.toList) forms names

variable {forms names : List String}

/-- Names behind commas are further items. -/
theorem Writes.continues (written : Writes forms names) :
    Continues ((forms.map String.toList).flatMap (',' :: ·)) (names.map .atom) := by
  -- No layout stands around a form, so each of them is a field of its own.
  induction written with
  | nil => exact .nothing
  | @cons form name forms names first _ ih =>
    -- The name is read from its written form.
    have item := itemText_of_nameText first
    rw [String.ofList_toList] at item
    simpa using ih.next (.self _) item

/-- Names with commas between them are items. -/
theorem Writes.denotes (written : Writes forms names) :
    Denotes (",".intercalate forms).toList (names.map .atom) := by
  -- The first form stands alone, and every other one behind a comma.
  rw [String.toList_intercalate]
  cases written with
  | nil => exact .nothing (by decide)
  | @cons form name forms names first others =>
    have item := itemText_of_nameText first
    rw [String.ofList_toList] at item
    have whole : ",".toList.intercalate ((form :: forms).map String.toList) =
        form.toList ++ (forms.map String.toList).flatMap (',' :: ·) :=
      Text.intercalate_char ',' _ _
    rw [whole]
    exact .first (.self _) item (Writes.continues others)

namespace Term

/-- Atoms are all kept. -/
theorem withoutTheoryAll_atoms (names : List String) :
    withoutTheoryAll (names.map atom) = names.map atom := by
  -- An atom is no application of anything, and has nothing inside.
  rw [withoutTheoryAll_eq, List.filter_eq_self.mpr, List.map_map]
  · exact List.map_congr_left fun _ _ => rfl
  · intro item member
    obtain ⟨name, -, rfl⟩ := List.mem_map.mp member
    rfl

/-- Atoms cite themselves, apart from the one that stands for the goal. -/
theorem citedAll?_atoms (goal : "proof" ∉ names) : citedAll? (names.map atom) = some names := by
  induction names with
  | nil => rfl
  | cons name names ih =>
    rw [List.mem_cons, not_or] at goal
    simp [citedAll?, cited?, ih goal.2, Ne.symm goal.1]

/-- A list of names looks like a theory term if it starts with the name of one. -/
theorem isApplicationOf_atoms (head : String) (names : List String) :
    (list (names.map atom)).isApplicationOf head = (names.head? == some head) := by
  cases names <;> rfl

/-- What a list of names cites: the names, unless the list starts like an inference. Then it cites
the fourth name only, as the list of parents of that inference. -/
theorem cited?_atoms (goal : "proof" ∉ names) :
    (list (names.map atom)).cited? =
      if names.head? = some "inference" then names[3]?.map ([·]) else some names := by
  split
  · rename_i inference
    obtain ⟨others, rfl⟩ := List.head?_eq_some_iff.mp inference
    -- Only with a fourth name is there something in the place of the parents.
    match others with
    | [] | [_] | [_, _] => rfl
    | rule :: status :: parent :: others =>
      have other : parent ≠ "proof" := by rintro rfl; simp at goal
      simp [cited?, other]
  · rename_i other
    -- No other list of names is taken for an inference, so its items are searched in order.
    have plain : ∀ arguments, names.map atom = atom "inference" :: arguments → False := by
      intro arguments same
      obtain ⟨name, others, rfl, first, -⟩ := List.map_eq_cons_iff.mp same
      exact other (congrArg some (atom.inj first))
    rw [← citedAll?_atoms goal]
    simp [cited?]

end Term

/-- The parents of an inference that lists names. A list that looks like a theory term is left out,
and one that looks like an inference has a list of parents itself only if it is long enough. -/
theorem parents_inferenceFrom {rule status : String} (ruled : IsSymbol rule.toList)
    (stated : IsSymbol status.toList) (written : Writes forms names) (goal : "proof" ∉ names) :
    parents (inferenceFrom rule status forms) =
      if names.head? = some "theory" then
        .error (Problem.noParents.fault (inferenceFrom rule status forms))
      else if names.head? = some "inference" then
        match names[3]? with
        | some name => .ok [name]
        | none => .error (Problem.noParents.fault (inferenceFrom rule status forms))
      else .ok names.eraseDups := by
  obtain ⟨state, item, plain⟩ := StatusText.read (.status stated (.self _) (.self _) .nothing)
  have inference := itemText_inference ruled (.self _) item (.self _) written.denotes (.self _)
  -- The text is an application to three fields, none of them with layout around it.
  have whole : (inferenceFrom rule status forms).toList = "inference(".toList ++
      (rule.toList ++ ',' :: ('[' :: ("status(".toList ++ (status.toList ++ [')']) ++ [] ++ [']']) ++
        ',' :: ('[' :: ((",".intercalate forms).toList ++ [']']))) ++ [')']) := by
    simp [inferenceFrom]
  rw [← whole] at inference
  rw [parents_eq (.self _) inference rfl rfl]
  have named (text : String) : (Term.atom text).isApplicationOf "theory" = false := rfl
  by_cases theory : names.head? = some "theory"
  · -- The inference is left with its rule and its status.
    have dropped : (Term.list (names.map .atom)).isApplicationOf "theory" = true := by
      simp [Term.isApplicationOf_atoms, theory]
    simp only [if_pos theory, Term.withoutTheory, Term.withoutTheoryAll, named, plain, dropped,
      Bool.false_eq_true, if_false, if_true, Term.cited?]
  · -- All arguments stay, and the list of names stays in the place of the parents.
    have kept : (Term.list (names.map .atom)).isApplicationOf "theory" = false := by
      simp [Term.isApplicationOf_atoms, theory]
    simp only [if_neg theory, Term.withoutTheory, Term.withoutTheoryAll, named, plain, kept,
      Bool.false_eq_true, if_false, Term.cited?, Term.withoutTheoryAll_atoms,
      Term.cited?_atoms goal]
    by_cases inference : names.head? = some "inference"
    · simp only [if_pos inference]
      cases names[3]? <;> rfl
    · simp only [if_neg inference]

/-- One name is left when repeats are dropped exactly if it is the only one in the list. -/
theorem eraseDups_eq_singleton_iff {first name : String} (starts : names.head? = some first) :
    names.eraseDups = [name] ↔ name = first ∧ ∀ other ∈ names, other = first := by
  obtain ⟨others, rfl⟩ := List.head?_eq_some_iff.mp starts
  have none (rest : List String) : rest.eraseDups = [] ↔ rest = [] := by
    simp only [List.eq_nil_iff_forall_not_mem, List.mem_eraseDups]
  -- Behind the first name those that differ from it are left.
  rw [List.eraseDups_cons, List.cons.injEq, none, List.filter_eq_nil_iff]
  refine and_congr eq_comm ?_
  simp

/-- An inference with a rule, a status and a list of clause names cites exactly these names, each at
its first occurrence, unless the list starts with `theory` or `inference`. A list that starts with
`theory` leaves the inference without parents. Of one that starts with `inference` only the fourth
name is cited, which is all there is to cite if every name is that one, and it is an inference
without parents if it has no fourth name. -/
theorem parents_inferenceFrom_iff {rule status : String} {forms names : List String}
    (ruled : IsSymbol rule.toList) (stated : IsSymbol status.toList) (written : Writes forms names)
    (goal : "proof" ∉ names) :
    (parents (inferenceFrom rule status forms) = .ok names.eraseDups ↔
        names.head? ≠ some "theory" ∧ names.head? ≠ some "inference" ∨
          4 ≤ names.length ∧ ∀ name ∈ names, name = "inference") ∧
      (names.head? = some "theory" → parents (inferenceFrom rule status forms) =
        .error (Problem.noParents.fault (inferenceFrom rule status forms))) ∧
      (names.head? = some "inference" → parents (inferenceFrom rule status forms) =
        match names[3]? with
        | some name => .ok [name]
        | none => .error (Problem.noParents.fault (inferenceFrom rule status forms))) := by
  have told := parents_inferenceFrom ruled stated written goal
  refine ⟨?_, fun theory => ?_, fun inference => ?_⟩
  · rw [told]
    by_cases theory : names.head? = some "theory"
    · -- The first name is not the one that all names would have to be.
      have mixed : ¬ ∀ name ∈ names, name = "inference" := by
        intro same
        have first := same _ (List.mem_of_head? theory)
        revert first
        decide
      simp [theory, mixed]
    · by_cases inference : names.head? = some "inference"
      · rw [if_neg theory, if_pos inference]
        cases fourth : names[3]? with
        | none =>
          have short := List.getElem?_eq_none_iff.mp fourth
          simp only [reduceCtorEq, inference, ne_eq, not_true_eq_false, and_false, false_or,
            false_iff, not_and]
          intro long
          omega
        | some name =>
          -- The fourth name is the only one if all of them are equal to the first.
          obtain ⟨long, held⟩ := List.getElem?_eq_some_iff.mp fourth
          have member : name ∈ names := held ▸ List.getElem_mem long
          rw [Except.ok.injEq, eq_comm, eraseDups_eq_singleton_iff inference]
          constructor
          · exact fun all => .inr ⟨long, all.2⟩
          · rintro (⟨-, other⟩ | ⟨-, all⟩)
            · exact absurd inference other
            · exact ⟨all name member, all⟩
      · simp [theory, inference]
  · rw [told, if_pos theory]
  · have other : names.head? ≠ some "theory" := by simp [inference]
    rw [told, if_neg other, if_pos inference]

/-- A name that is listed twice is cited once, and quotation marks are no part of a name. -/
theorem parents_inferenceFrom_iff_repeated :
    parents (inferenceFrom "r" "s" ["a", "'b c'", "a"]) = .ok ["a", "b c"] := by
  have plain : Clause.NameText "a".toList "a".toList := .plain (by decide)
  have quoted : Clause.NameText "'b c'".toList "b c".toList :=
    @Clause.NameText.quoted "b c".toList (by simp) (by simp)
  have written : Writes ["a", "'b c'", "a"] ["a", "b c", "a"] :=
    .cons plain (.cons quoted (.cons plain .nil))
  have symbol : IsSymbol "r".toList ∧ IsSymbol "s".toList := by decide
  exact (parents_inferenceFrom_iff symbol.1 symbol.2 written (by simp)).1.mpr (.inl (by simp))

/-- A clause may have the name `theory`, but an inference that lists it alone does not cite it. -/
theorem parents_theoryListed :
    Clause.readLine "cnf(theory,axiom,p,file(f))." =
        .ok (some ⟨.cnf, "theory", "axiom", "p", "file(f)"⟩) ∧
      inferenceFrom "r" "s" ["theory"] = "inference(r,[status(s)],[theory])" ∧
      parents "inference(r,[status(s)],[theory])" ≠ .ok ["theory"] := by
  decide +kernel

end Retrace.Justification
