import Retrace.Proofs.Chaining.Scoping

/-!
Citations read back: a script of direct chaining names the parents of a derived clause with spaces
between them. Cut at its spaces, the citation gives the parents if none of their names holds a space
itself.
-/

namespace Retrace

namespace Text

/-- Pieces joined by a character fall, when they are cut at that character, into the parts that each
of them falls into alone. -/
theorem splitOn_intercalate_eq {c : Char} {pieces : List (List Char)} (some : pieces ≠ []) :
    ([c].intercalate pieces).splitOn c = pieces.flatMap (List.splitOn c) := by
  induction pieces with
  | nil => exact absurd rfl some
  | cons piece others ih =>
    -- Behind the first piece there is one more cut, unless it is the last one as well.
    cases others with
    | nil => simp
    | cons next others =>
      rw [List.intercalate_cons_cons, List.append_assoc, List.singleton_append,
        List.splitOn_append_cons_self, ih (List.cons_ne_nil _ _), List.flatMap_cons (x := piece)]

/-- No part of a text that was cut at a character holds it. -/
theorem notMem_of_mem_splitOn {c : Char} {text piece : List Char}
    (member : piece ∈ text.splitOn c) : c ∉ piece := by
  induction text generalizing piece with
  | nil =>
    rw [List.splitOn_nil, List.mem_singleton] at member
    simp [member]
  | cons d text ih =>
    rw [List.splitOn_cons_eq_if_modifyHead] at member
    split at member
    · -- The character itself leaves an empty part before the others.
      rcases List.mem_cons.mp member with rfl | later
      · simp
      · exact ih later
    · rename_i other
      -- Any other character joins the first of the parts behind it.
      obtain ⟨first, others, cut⟩ := List.exists_cons_of_ne_nil (List.splitOn_ne_nil c text)
      rw [cut, List.modifyHead_cons] at member
      rcases List.mem_cons.mp member with rfl | later
      · have rest : c ∉ first := ih (by simp [cut])
        rw [List.mem_cons, not_or]
        exact ⟨fun same => other (beq_iff_eq.mpr same.symm), rest⟩
      · exact ih (by simp [cut, later])

end Text

open Statement (spaced)

/-- The names that a text holds if it is cut at every space. -/
def namesIn (text : String) : List String :=
  (text.toList.splitOn ' ').map String.ofList

variable {names others : List String}

/-- Names that are parted by spaces are read as the names that each of them holds. -/
theorem namesIn_spaced (some : names ≠ []) : namesIn (spaced names) = names.flatMap namesIn := by
  have pieces : names.map String.toList ≠ [] := by simpa using some
  rw [namesIn, spaced, String.toList_intercalate]
  change (([' '].intercalate _).splitOn ' ').map String.ofList = _
  rw [Text.splitOn_intercalate_eq pieces, List.flatMap_map, List.map_flatMap]
  rfl

/-- Names that are parted by spaces are read back exactly if none of them holds a space. -/
theorem namesIn_spaced_eq_iff (some : names ≠ []) :
    namesIn (spaced names) = names ↔ ∀ name ∈ names, ' ' ∉ name.toList := by
  rw [namesIn_spaced some]
  constructor
  · intro same name member
    -- What is read holds no space, and the name is among it.
    rw [← same] at member
    obtain ⟨_, -, read⟩ := List.mem_flatMap.mp member
    obtain ⟨piece, cut, rfl⟩ := List.mem_map.mp read
    rw [String.toList_ofList]
    exact Text.notMem_of_mem_splitOn cut
  · intro whole
    -- A name without a space is the only part of itself.
    have alone (name : String) (member : name ∈ names) : namesIn name = [name] := by
      simp [namesIn, List.splitOn_eq_singleton (whole name member)]
    rw [List.flatMap_congr alone, List.flatMap_singleton']

/-- Names without spaces are told by their citation. -/
theorem eq_of_spaced_eq (first : names ≠ []) (second : others ≠ [])
    (whole : ∀ name ∈ names, ' ' ∉ name.toList) (unbroken : ∀ name ∈ others, ' ' ∉ name.toList)
    (same : spaced names = spaced others) : names = others := by
  rw [← (namesIn_spaced_eq_iff first).mpr whole, same, (namesIn_spaced_eq_iff second).mpr unbroken]

namespace Chaining

/-- The inferences of an accepted trace are those of its derived clauses, which have parents. -/
theorem mem_inferences {preferences : Preferences} {texts : List String} {clauses : List Clause}
    {session : Session} (closed : Session.Closed .direct preferences texts clauses session)
    {parents : List String} {name formula : String} :
    .inference parents name formula ∈ session.script.statements ↔
      ∃ clause ∈ Clause.derivedOf clauses,
        clause.parents = parents ∧ clause.name = name ∧ clause.formula = formula := by
  -- An inference is one of the steps, and these are told clause by clause.
  have selected : .inference parents name formula ∈ session.script.statements ↔
      .inference parents name formula ∈ session.script.statements.filter Statement.isStep := by
    simp [Statement.isStep]
  rw [selected, steps_of_closed closed]
  simp

/-- A derived clause has parents. -/
theorem parents_ne_nil {clauses : List Clause} {clause : Clause}
    (derived : clause ∈ Clause.derivedOf clauses) : clause.parents ≠ [] := by
  have kind := (List.mem_filter.mp derived).2
  simpa [Clause.isDerived, Clause.isRoot] using kind

/-- In the script for an accepted trace, every citation is read back as the parents of its clause,
each cut at the spaces in its name. So all citations are read back as they were made exactly if no
clause that is cited has a space in its name, and two inferences from names without spaces have the
same citation only if they have the same parents. -/
theorem citations_read_back_iff {preferences : Preferences} {trace : String} {summary : Summary}
    {session : Session}
    (accepted : Session.runText trace (Session.new .direct preferences none) =
      .ok summary session) :
    (∀ parents name formula, .inference parents name formula ∈ session.script.statements →
        namesIn (spaced parents) = parents.flatMap namesIn) ∧
      ((∀ parents name formula, .inference parents name formula ∈ session.script.statements →
          namesIn (spaced parents) = parents) ↔
        ∀ clause ∈ Clause.derivedOf (Clause.onLines 1 (Session.textLines trace)),
          ∀ parent ∈ clause.parents, ' ' ∉ parent.toList) ∧
      ∀ parents name formula others other conclusion,
        .inference parents name formula ∈ session.script.statements →
        .inference others other conclusion ∈ session.script.statements →
        (∀ parent ∈ parents, ' ' ∉ parent.toList) → (∀ parent ∈ others, ' ' ∉ parent.toList) →
        spaced parents = spaced others → parents = others := by
  obtain ⟨closed, -⟩ := Session.closed_of_runText accepted
  -- Only derived clauses are inferred, so that every inference has parents to cite.
  have cites {parents : List String} {name formula : String}
      (member : .inference parents name formula ∈ session.script.statements) : parents ≠ [] := by
    obtain ⟨clause, derived, rfl, -⟩ := (mem_inferences closed).mp member
    exact parents_ne_nil derived
  refine ⟨fun parents name formula member => namesIn_spaced (cites member), ?_, ?_⟩
  · -- Derived clauses and inferences are the same, so one side speaks of either.
    constructor
    · intro back clause derived
      have member : .inference clause.parents clause.name clause.formula ∈
          session.script.statements :=
        (mem_inferences closed).mpr ⟨clause, derived, rfl, rfl, rfl⟩
      exact (namesIn_spaced_eq_iff (cites member)).mp (back _ _ _ member)
    · intro whole parents name formula member
      obtain ⟨clause, derived, rfl, -⟩ := (mem_inferences closed).mp member
      exact (namesIn_spaced_eq_iff (cites member)).mpr (whole clause derived)
  · intro parents name formula others other conclusion first second whole unbroken
    exact eq_of_spaced_eq (cites first) (cites second) whole unbroken

/-- In the script for the sample, every citation is read back as it was made. -/
theorem citations_read_back_iff_sample :
    ∃ summary session,
      Session.runText Session.sample (Session.new .direct {} none) = .ok summary session ∧
        ∀ parents name formula, .inference parents name formula ∈ session.script.statements →
          namesIn (spaced parents) = parents := by
  obtain ⟨summary, session, accepted⟩ := Session.runText_sample .direct
  -- The names that are cited are single letters.
  have whole : ∀ clause ∈ Clause.derivedOf (Clause.onLines 1 (Session.textLines Session.sample)),
      ∀ parent ∈ clause.parents, ' ' ∉ parent.toList := by
    decide +kernel
  exact ⟨summary, session, accepted, (citations_read_back_iff accepted).2.1.mpr whole⟩

/-- A trace that cites a clause with a space in its name, and then two clauses that have the parts of
that name as theirs. -/
def spacedName : String :=
  "cnf('a b',axiom,p,file(f)).\ncnf(a,axiom,q,file(f)).\ncnf(b,axiom,r,file(f)).\n" ++
    "cnf(c,plain,s,['a b']).\ncnf(d,plain,$false,[a,b])."

/-- In the script for this trace, two inferences from different parents have the same citation, and
the first of them is not read back. -/
theorem citations_spacedName :
    ∃ summary session,
      Session.runText spacedName (Session.new .direct {} none) = .ok summary session ∧
        .inference ["a b"] "c" "s" ∈ session.script.statements ∧
        .inference ["a", "b"] "d" "False" ∈ session.script.statements ∧
        spaced ["a b"] = spaced ["a", "b"] ∧ namesIn (spaced ["a b"]) ≠ ["a b"] := by
  -- The trace is run once, and both inferences are looked up in its script.
  have left : Session.leaves .direct spacedName (fun session =>
      decide (.inference ["a b"] "c" "s" ∈ session.script.statements ∧
        .inference ["a", "b"] "d" "False" ∈ session.script.statements)) = true := by
    decide +kernel
  obtain ⟨summary, session, accepted, found⟩ := Session.runText_of_leaves left
  obtain ⟨first, second⟩ := of_decide_eq_true found
  exact ⟨summary, session, accepted, first, second, by decide +kernel, by decide +kernel⟩

end Chaining

end Retrace
