import Retrace.Proofs.Justification.Incomplete
import Retrace.Proofs.Session

/-!
The ways in which a line of a trace offends behind the clauses before it. They are what the checks of
a line find, which are spread over the readers, the graph and the script.
-/

namespace Retrace.Clause

open Text (trim)

/-- The ways in which a line of a trace offends behind the clauses before it, each with the fault that
it is answered with. Every way supposes that the earlier checks are passed. -/
inductive Offends (earlier : List Clause) (number : Nat) (text : String) : Fault → Prop
  /-- The line is neither blank nor a comment nor a clause. -/
  | malformed (shown : isSilent (trim text.toList) = false)
      (unread : readEntry? (trim text.toList) = none) :
      Offends earlier number text (.malformedLine text)
  /-- The justification of the clause cannot be read to its end. -/
  | unreadable {entry : Entry} {problem : Justification.Problem}
      (shown : isSilent (trim text.toList) = false)
      (read : readEntry? (trim text.toList) = some entry)
      (stuck : Justification.readAll entry.justification.toList = .error problem) :
      Offends earlier number text (problem.fault entry.justification)
  /-- The justification has an inference without parents where names are searched for. -/
  | incomplete {entry : Entry} {terms : List Justification.Term}
      (shown : isSilent (trim text.toList) = false)
      (read : readEntry? (trim text.toList) = some entry)
      (parsed : Justification.readAll entry.justification.toList = .ok terms)
      (lacks : Justification.Incomplete terms) :
      Offends earlier number text
        (Justification.Problem.noParents.fault entry.justification)
  /-- The name of the clause is that of an earlier one. -/
  | duplicate {clause : Clause} (held : onLine? number text = some clause)
      (taken : clause.name ∈ earlier.map name) :
      Offends earlier number text (.duplicateName clause.name)
  /-- The clause cites a name that no earlier clause has. The first such name is reported. -/
  | unknownParent {clause : Clause} {known others : List String} {parent : String}
      (held : onLine? number text = some clause) (fresh : clause.name ∉ earlier.map name)
      (cites : clause.parents = known ++ parent :: others)
      (defined : ∀ other ∈ known, other ∈ earlier.map name)
      (missing : parent ∉ earlier.map name) :
      Offends earlier number text (.unknownParent clause.name parent)
  /-- A root has a role that is none of the three given ones. -/
  | unsupported {clause : Clause} {role : String} (held : onLine? number text = some clause)
      (fresh : clause.name ∉ earlier.map name) (root : clause.isRoot = true)
      (kind : clause.role = .derived role) :
      Offends earlier number text (.unsupportedRole clause.name role)
  /-- A root is a conjecture, and so is an earlier one. -/
  | secondConjecture {clause first : Clause} {before after : List Clause}
      (held : onLine? number text = some clause) (fresh : clause.name ∉ earlier.map name)
      (conjecture : clause.isConjecture = true) (split : earlier = before ++ first :: after)
      (stated : first.isConjecture = true) (only : ∀ other ∈ before, other.isConjecture = false) :
      Offends earlier number text (.secondConjecture first.name clause.name)

/-- The fault that the checks of a line find first behind the given clauses, if they find any. -/
def fault? (earlier : List Clause) (number : Nat) (text : String) : Option Fault :=
  match readLine text with
  | .error fault => some fault
  | .ok none => none
  | .ok (some entry) =>
    match ofEntry number entry with
    | .error fault => some fault
    -- The graph judges a clause before the script does.
    | .ok clause => (clause.conflict? earlier).or (clause.refusal? earlier)

variable {earlier : List Clause} {number : Nat} {text : String} {fault : Fault} {clause : Clause}

/-- A line with an entry is neither blank nor a comment. -/
theorem readLine_eq_some_iff {entry : Entry} :
    readLine text = .ok (some entry) ↔
      isSilent (trim text.toList) = false ∧ readEntry? (trim text.toList) = some entry := by
  unfold readLine
  -- Silent lines are passed over, and all others have to have an entry.
  by_cases silent : isSilent (trim text.toList) = true
  · simp [silent]
  · cases read : readEntry? (trim text.toList) <;> simp [silent, read]

/-- The only fault of reading a line is that it is malformed. -/
theorem readLine_eq_error_iff :
    readLine text = .error fault ↔
      isSilent (trim text.toList) = false ∧ readEntry? (trim text.toList) = none ∧
        fault = .malformedLine text := by
  unfold readLine
  by_cases silent : isSilent (trim text.toList) = true
  · simp [silent]
  · cases read : readEntry? (trim text.toList) <;> simp [silent, read, eq_comm]

/-- The only fault of an entry is that of its justification. -/
theorem ofEntry_eq_error_iff {entry : Entry} :
    ofEntry number entry = .error fault ↔
      Justification.parents entry.justification = .error fault := by
  unfold ofEntry
  -- The parents are the only part of a clause that may be missing.
  cases Justification.parents entry.justification <;>
    simp [Bind.bind, Except.bind, pure, Except.pure]

/-- A line holds the clause of its entry. -/
theorem onLine?_eq_some_iff :
    onLine? number text = some clause ↔
      ∃ entry, readLine text = .ok (some entry) ∧ ofEntry number entry = .ok clause := by
  unfold onLine?
  -- A line that is malformed or silent has no entry.
  rcases readLine text with other | ⟨_ | entry⟩
  · simp
  · simp
  · cases justified : ofEntry number entry <;> simp [Except.toOption, justified]

/-- A clause that is in conflict with others has the name of one of them or cites a name that they do
not have. -/
theorem conflict?_eq_some_iff :
    clause.conflict? earlier = some fault ↔
      (clause.name ∈ earlier.map name ∧ fault = .duplicateName clause.name) ∨
      (clause.name ∉ earlier.map name ∧ ∃ known parent others,
        clause.parents = known ++ parent :: others ∧ (∀ other ∈ known, other ∈ earlier.map name) ∧
        parent ∉ earlier.map name ∧ fault = .unknownParent clause.name parent) := by
  unfold conflict?
  by_cases taken : clause.name ∈ earlier.map name
  · -- A name that is taken is a conflict by itself, whatever the clause cites.
    rw [if_pos taken]
    simp [taken, eq_comm]
  · rw [if_neg taken, Option.map_eq_some_iff]
    constructor
    · rintro ⟨parent, found, rfl⟩
      -- The search stops at the first parent that is missing.
      obtain ⟨missing, known, others, cites, defined⟩ := List.find?_eq_some_iff_append.mp found
      refine .inr ⟨taken, known, parent, others, cites, fun other member => ?_, ?_, rfl⟩
      · simpa using defined other member
      · simpa using missing
    · rintro (⟨duplicate, -⟩ | ⟨-, known, parent, others, cites, defined, missing, rfl⟩)
      · exact absurd duplicate taken
      · refine ⟨parent, List.find?_eq_some_iff_append.mpr ⟨by simpa using missing, known, others,
          cites, fun other member => ?_⟩, rfl⟩
        simpa using defined other member

/-- A clause is refused a place in the script if it is a root of an unsupported role, or a conjecture
that is not the first. -/
theorem refusal?_eq_some_iff :
    clause.refusal? earlier = some fault ↔
      (∃ role, clause.isRoot = true ∧ clause.role = .derived role ∧
        fault = .unsupportedRole clause.name role) ∨
      (∃ before first after, clause.isConjecture = true ∧ earlier = before ++ first :: after ∧
        first.isConjecture = true ∧ (∀ other ∈ before, other.isConjecture = false) ∧
        fault = .secondConjecture first.name clause.name) := by
  by_cases root : clause.isRoot = true
  · -- Only two of the roles of a root give a reason to refuse it.
    cases role : clause.role with
    | standing | definition => simp [refusal?, isConjecture, root, role]
    | derived text =>
      have reason : clause.refusal? earlier = some (.unsupportedRole clause.name text) := by
        simp [refusal?, root, role]
      rw [reason, Option.some_inj]
      constructor
      · rintro rfl
        exact .inl ⟨text, root, rfl, rfl⟩
      · rintro (⟨other, -, same, rfl⟩ | ⟨-, -, -, conjecture, -⟩)
        · rw [Role.derived.inj same]
        · simp [isConjecture, role] at conjecture
    | conjecture =>
      have conjecture : clause.isConjecture = true := by simp [isConjecture, root, role]
      -- The search for an earlier conjecture finds the first of them.
      have search : clause.refusal? earlier = (earlier.find? Clause.isConjecture).map fun first =>
          .secondConjecture first.name clause.name := by
        simp [refusal?, root, role]
      rw [search, Option.map_eq_some_iff]
      constructor
      · rintro ⟨first, found, rfl⟩
        obtain ⟨stated, before, after, split, only⟩ := List.find?_eq_some_iff_append.mp found
        exact .inr ⟨before, first, after, conjecture, split, stated, by simpa using only, rfl⟩
      · rintro (⟨role, -, other, -⟩ | ⟨before, first, after, -, split, stated, only, rfl⟩)
        · cases other
        · exact ⟨first, List.find?_eq_some_iff_append.mpr
            ⟨stated, before, after, split, by simpa using only⟩, rfl⟩
  · -- A derived clause is never refused.
    simp [refusal?, isConjecture, root]

/-- The checks of a line find what it offends with. -/
theorem Offends.fault?_eq (offends : Offends earlier number text fault) :
    fault? earlier number text = some fault := by
  -- A clause that the line holds is judged by the graph first and then by the script.
  have judged {clause : Clause} (held : onLine? number text = some clause) :
      fault? earlier number text = (clause.conflict? earlier).or (clause.refusal? earlier) := by
    obtain ⟨entry, read, justified⟩ := onLine?_eq_some_iff.mp held
    simp [fault?, read, justified]
  -- A root has no parents that could be missing.
  have unopposed {clause : Clause} (fresh : clause.name ∉ earlier.map name)
      (root : clause.isRoot = true) : clause.conflict? earlier = none := by
    have childless : clause.parents = [] := by simpa [isRoot] using root
    simp [conflict?, fresh, childless]
  -- Each offence stops the checks at the place that it is about, and passes those before it.
  cases offends with
  | malformed shown unread =>
    have malformed := readLine_eq_error_iff.mpr ⟨shown, unread, rfl⟩
    simp [fault?, malformed]
  | @unreadable entry problem shown read stuck =>
    have entered := readLine_eq_some_iff.mpr ⟨shown, read⟩
    have faulty : ofEntry number entry = .error (problem.fault entry.justification) :=
      ofEntry_eq_error_iff.mpr
        (Justification.parents_eq_error_iff.mpr (.inl ⟨problem, stuck, rfl⟩))
    simp [fault?, entered, faulty]
  | @incomplete entry terms shown read parsed lacks =>
    have entered := readLine_eq_some_iff.mpr ⟨shown, read⟩
    have faulty : ofEntry number entry =
        .error (Justification.Problem.noParents.fault entry.justification) :=
      ofEntry_eq_error_iff.mpr
        (Justification.parents_eq_error_iff.mpr (.inr ⟨terms, parsed, lacks, rfl⟩))
    simp [fault?, entered, faulty]
  | duplicate held taken =>
    rw [judged held, conflict?_eq_some_iff.mpr (.inl ⟨taken, rfl⟩), Option.some_or]
  | unknownParent held fresh cites defined missing =>
    rw [judged held, conflict?_eq_some_iff.mpr
      (.inr ⟨fresh, _, _, _, cites, defined, missing, rfl⟩), Option.some_or]
  | unsupported held fresh root kind =>
    rw [judged held, unopposed fresh root, Option.none_or]
    exact refusal?_eq_some_iff.mpr (.inl ⟨_, root, kind, rfl⟩)
  | secondConjecture held fresh conjecture split stated only =>
    have root := (Bool.and_eq_true_iff.mp conjecture).1
    rw [judged held, unopposed fresh root, Option.none_or]
    exact refusal?_eq_some_iff.mpr (.inr ⟨_, _, _, conjecture, split, stated, only, rfl⟩)

/-- A line offends with the fault that its checks find. -/
theorem Offends.of_fault? (found : fault? earlier number text = some fault) :
    Offends earlier number text fault := by
  unfold fault? at found
  rcases line : readLine text with other | ⟨_ | entry⟩ <;> rw [line] at found
  · -- The line cannot be read.
    obtain rfl : other = fault := by simpa using found
    obtain ⟨shown, unread, rfl⟩ := readLine_eq_error_iff.mp line
    exact .malformed shown unread
  · cases found
  simp only at found
  obtain ⟨shown, read⟩ := readLine_eq_some_iff.mp line
  cases justified : ofEntry number entry with
  | error other =>
    -- The justification of its clause has no parents to give.
    rw [justified] at found
    obtain rfl : other = fault := by simpa using found
    rcases Justification.parents_eq_error_iff.mp (ofEntry_eq_error_iff.mp justified) with
      ⟨problem, stuck, rfl⟩ | ⟨terms, parsed, lacks, rfl⟩
    · exact .unreadable shown read stuck
    · exact .incomplete shown read parsed lacks
  | ok clause =>
    have held := onLine?_eq_some_iff.mpr ⟨entry, line, justified⟩
    rw [justified] at found
    rcases Option.or_eq_some_iff.mp found with conflict | ⟨unopposed, refusal⟩
    · rcases conflict?_eq_some_iff.mp conflict with
        ⟨taken, rfl⟩ | ⟨fresh, known, parent, others, cites, defined, missing, rfl⟩
      · exact .duplicate held taken
      · exact .unknownParent held fresh cites defined missing
    · -- Without a conflict the name of the clause is new.
      have fresh : clause.name ∉ earlier.map name := by
        intro taken
        rw [conflict?_eq_some_iff.mpr (.inl ⟨taken, rfl⟩)] at unopposed
        cases unopposed
      rcases refusal?_eq_some_iff.mp refusal with
        ⟨role, root, kind, rfl⟩ | ⟨before, first, after, conjecture, split, stated, only, rfl⟩
      · exact .unsupported held fresh root kind
      · exact .secondConjecture held fresh conjecture split stated only

/-- A line offends with the fault that its checks find, and with no other. -/
theorem fault?_eq_some_iff : fault? earlier number text = some fault ↔
    Offends earlier number text fault :=
  ⟨Offends.of_fault?, Offends.fault?_eq⟩

/-- No line offends by a fault of reading or writing. -/
theorem Offends.ne_transfer (offends : Offends earlier number text fault) (problem : String) :
    fault ≠ .transfer problem := by
  -- Each way to offend has a fault of its own kind.
  cases offends <;> simp [Justification.Problem.fault]

end Retrace.Clause
