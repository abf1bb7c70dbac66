import Retrace.Proofs.Reconstruction.Parallel
import Retrace.Proofs.Tableau.Wording

/-!
The lines that close the script of a tableau, whichever lines a session was fed and whichever of them
it refused: they stand behind the lines so far, and what they say is told from the clauses alone.
-/

namespace Retrace

/-- Where a script has grown but its remarks have not, the proof has got the lines that were added. -/
theorem Script.eq_added {before after : Script} {added proof : List Line}
    (grown : after.lines.toList = before.lines.toList ++ added)
    (kept : after.remarks = before.remarks)
    (read : after.proofLines = before.proofLines ++ proof) : added = proof := by
  -- Nothing of the lines that stood before is compared.
  simp only [remarks, proofLines, grown, List.map_append, List.filter_append,
    List.append_right_eq_self, List.append_cancel_left_eq] at kept read
  -- None of the added lines is a remark, so none is left out of the proof.
  rw [← read, eq_comm, List.filter_eq_self]
  intro line member
  rw [List.filter_eq_nil_iff] at kept
  simpa using kept line.statement (List.mem_map_of_mem member)

namespace Draft

variable {label : Option String}

/-- Further deductions in an open block stand between the lines so far and the ends of the blocks. -/
theorem closedLines_deduce {draft : Draft} (refuting : draft.isGathering = false)
    (statements : List Statement) :
    (draft.deduce statements).closedLines label =
      draft.lines label ++
        (statements.map (Line.mk (2 * draft.openBlocks)) ++ blockEnds draft.openBlocks) := by
  -- A draft that gathers premises has no block for the deductions yet.
  cases draft with
  | gathering premises => cases refuting
  | refuting premises conjecture body =>
    simp [closedLines, deduce, lines, openBlocks]

/-- A derived clause opens a block, so the draft of its trace gathers premises no more. -/
theorem isGathering_of_derived (step : Clause → Statement) {clauses : List Clause}
    (derives : Clause.derivedOf clauses ≠ []) :
    (begun (ofClauses step clauses)).isGathering = false := by
  obtain ⟨clause, derived⟩ := List.exists_mem_of_ne_nil _ derives
  obtain ⟨member, kind⟩ := List.mem_filter.mp derived
  rw [isGathering_ofClauses, List.all_eq_false]
  -- No derived clause is a root.
  rw [Clause.isDerived, Bool.not_eq_true'] at kind
  exact ⟨clause, member, by simp [kind]⟩

end Draft

/-- The lines that close the script for the given clauses, among which derived ones are: the rules in
the order of their numbers and the conclusion from the tips by the last of them stand in the innermost
block, and then the open blocks are ended. -/
def Tableau.closingLines (clauses : List Clause) (blocks : Nat) : List Line :=
  ((List.range' 1 (Clause.derivedOf clauses).length).map (ruleNumbered clauses) ++
      [Statement.ruleConclusion (tips clauses) (Clause.derivedOf clauses).length]).map
      (Line.mk (2 * blocks)) ++
    Draft.blockEnds blocks

/-- The closing lines are written with the words of the rules and of the conclusion, each behind the
spaces of its column. -/
theorem Tableau.written_closingLines {clauses : List Clause} (cites : tips clauses ≠ [])
    (blocks : Nat) :
    (closingLines clauses blocks).map Line.written =
      ((List.range' 1 (Clause.derivedOf clauses).length).map (ruleText clauses) ++
          [conclusionText clauses]).map ("".pushn ' ' (2 * blocks) ++ ·) ++
        (List.range blocks).reverse.map fun outer => "".pushn ' ' (2 * outer) ++ "qed" := by
  -- A line is its column and its words, which are those of its statement.
  rw [closingLines, List.map_append, written_blockEnds, ← texts_deductions cites, List.map_map,
    List.map_map]
  rfl

namespace Session

variable {preferences : Preferences} {texts : List String} {clauses : List Clause}
  {session : Session}

/-- The theory of a session holds the names of the axioms and definitions that it follows. -/
theorem Follows.theory {method : Method}
    (follows : Follows method preferences texts clauses session) :
    session.reconstruction.outline.theory = Clause.theoryOf clauses := by
  -- The outline counts the theory as its draft does.
  rw [follows.reconstruction.shows.theory, ← Draft.theory_begun,
    Draft.theory_ofClauses method.statement_isStep]
  rfl

/-- A session that follows derived clauses shows their draft, with a block open. -/
theorem Follows.proofLines_of_derived
    (follows : Follows .tableau preferences texts clauses session)
    (derives : Clause.derivedOf clauses ≠ []) :
    session.script.proofLines = (Draft.begun (Draft.ofClauses (Method.statement .tableau)
        clauses)).lines preferences.label ∧
      session.reconstruction.outline.openBlocks = (Draft.begun (Draft.ofClauses
        (Method.statement .tableau) clauses)).openBlocks := by
  have shown := follows.reconstruction.shows
  have refuting := Draft.isGathering_of_derived (Method.statement .tableau) derives
  -- Without a draft there would be nothing but premises to gather.
  cases found : Draft.ofClauses (Method.statement .tableau) clauses with
  | none =>
    rw [found] at refuting
    cases refuting
  | some draft =>
    rw [found] at shown
    exact ⟨shown.proofLines, shown.openBlocks⟩

/-- Closing a tableau that follows derived clauses leaves the closing lines behind all others. -/
theorem Follows.lines_of_derived
    (follows : Follows .tableau preferences texts session.graph.toList session)
    (derives : Clause.derivedOf session.graph.toList ≠ []) :
    ∃ reconstruction : Reconstruction,
      Reconstruction.finish session.graph session.reconstruction =
          .ok (Tableau.drained session.graph.toList) reconstruction ∧
        reconstruction.method = .tableau ∧
        reconstruction.script.lines.toList = session.script.lines.toList ++
          Tableau.closingLines session.graph.toList session.reconstruction.outline.openBlocks := by
  obtain ⟨reconstruction, finished, proof, remarks, same⟩ := follows.reconstruction.finish
  obtain ⟨added, grown⟩ := follows.reconstruction.finish_adds finished
  rw [Tableau.report_eq follows.ordered] at finished
  -- The lines so far are those of the draft, which has a block open.
  obtain ⟨before, blocks⟩ := follows.proofLines_of_derived derives
  rw [Method.finalDraft, Tableau.closing_eq follows.ordered derives,
    Draft.closedLines_deduce (Draft.isGathering_of_derived _ derives), ← before, ← blocks] at proof
  -- No remark is made at the end, so all that was added is part of the proof.
  have silent : reconstruction.script.remarks = session.script.remarks :=
    remarks.trans follows.reconstruction.shows.remarks.symm
  refine ⟨reconstruction, finished, same, ?_⟩
  have told : added = Tableau.closingLines session.graph.toList
      session.reconstruction.outline.openBlocks := Script.eq_added grown silent proof
  rw [told] at grown
  exact grown

/-- Whatever lines a session was fed, and whichever of them it refused: if its graph holds derived
clauses, closing a tableau writes their rules in the order of their numbers, then the conclusion from
the tips of the final core by the last rule, then the ends of the open blocks, and nothing else. The
rules and the conclusion are told from the clauses alone, word for word, and so is what is reported of
them and the theory that the rules need. The final core names no clause twice and ends with the first
derived clause, so there is a tip to conclude from. -/
theorem finish_drains {lines : List (Nat × String)}
    (ran : session = pastAll lines (new .tableau preferences none))
    (derives : Clause.derivedOf session.graph.toList ≠ []) :
    let clauses := session.graph.toList
    let blocks := session.reconstruction.outline.openBlocks
    ∃ reconstruction : Reconstruction,
      Reconstruction.finish session.graph session.reconstruction =
          .ok (Tableau.drained clauses) reconstruction ∧
        finish session = .ok {
          method := .tableau
          clauses := session.graph.size
          roots := session.roots
          derived := session.derived
          rules := (Tableau.drained clauses).rules
          core := (Tableau.drained clauses).core
          scriptLines := reconstruction.script.lines.size } { session with reconstruction } ∧
        reconstruction.script.lines.toList =
          session.script.lines.toList ++ Tableau.closingLines clauses blocks ∧
        (Tableau.closingLines clauses blocks).map Line.written =
          ((List.range' 1 (Clause.derivedOf clauses).length).map (Tableau.ruleText clauses) ++
              [Tableau.conclusionText clauses]).map ("".pushn ' ' (2 * blocks) ++ ·) ++
            (List.range blocks).reverse.map (fun outer => "".pushn ' ' (2 * outer) ++ "qed") ∧
        reconstruction.script.text = session.script.text ++
          String.join ((Tableau.closingLines clauses blocks).map fun line => line.written ++ "\n") ∧
        session.reconstruction.outline.theory = Clause.theoryOf clauses ∧
        (Tableau.drained clauses).core ≠ [] ∧
        (Tableau.drained clauses).core.Nodup ∧
        (Tableau.drained clauses).core.getLast? =
          (Clause.derivedOf clauses).head?.map Clause.name ∧
        Tableau.tips clauses ≠ [] := by
  intro clauses blocks
  -- What the session follows are the clauses of its graph.
  obtain ⟨followed, follows, -⟩ := follows_pastAll .tableau preferences lines
  rw [← ran] at follows
  obtain rfl := follows.entered
  obtain ⟨reconstruction, finished, same, grown⟩ := follows.lines_of_derived derives
  have cites := Tableau.tips_ne_nil follows.ordered derives
  refine ⟨reconstruction, finished, ?_, grown, Tableau.written_closingLines cites blocks, ?_,
    follows.theory, ?_, Tableau.nodup_coreClauses follows.ordered _, ?_, cites⟩
  · -- The session adds to the report only what it has counted itself.
    have closes : onReconstruction (Reconstruction.finish session.graph) session =
        .ok (Tableau.drained session.graph.toList) { session with reconstruction } :=
      Attempt.onPart_ok finished
    simp [Session.finish, closes, same, Session.script, clauses]
  · -- Each of the added lines is ended in the text.
    rw [Script.text, grown, List.map_append, String.join_append]
    rfl
  · simpa [Tableau.drained] using Tableau.coreClauses_ne_nil follows.ordered derives
  · -- The first derived clause has nothing but roots for parents, and is taken last.
    rw [Tableau.drained, List.getLast?_map, Tableau.getLast?_coreClauses follows.ordered]

/-- A trace whose second root has no place in the script, yet is cited by a derived clause. -/
def misplacedRoot : List (Nat × String) :=
  [(1, "cnf(a,axiom,p,file(f))."), (2, "cnf(h,hypothesis,s,file(f))."), (3, "cnf(b,plain,q,[a])."),
    (4, "cnf(c,plain,r,[b,h])."), (5, "cnf(d,plain,$false,[b,c]).")]

/-- The last of its derived clauses cites no root and stays out of the core, the other two join it. -/
theorem finish_drains_misplacedRoot :
    ∃ session reconstruction, session = pastAll misplacedRoot (new .tableau {} none) ∧
      Clause.derivedOf session.graph.toList ≠ [] ∧
      Reconstruction.finish session.graph session.reconstruction =
        .ok { rules := 3, core := ["c", "b"], coreSizes := [0, 1, 2] } reconstruction ∧
      reconstruction.script.text = session.script.text ++
        String.join (["  have r1: \"?b ==> ?c ==> False\" using a by metis",
          "  have r2: \"?c ==> ?b ==> False\" using r1 a by metis",
          "  have r3: \"?c ==> ?b ==> False\" using r2 a by metis",
          "  from b a show False by (rule r3)", "qed"].map (· ++ "\n")) := by
  -- The clauses are read off the lines once, the refused root among them.
  have derives : Clause.derivedOf
      (pastAll misplacedRoot (new .tableau {} none)).graph.toList ≠ [] := by
    decide +kernel
  obtain ⟨reconstruction, finished, -, -, written, text, -⟩ := finish_drains rfl derives
  have drained : Tableau.drained (pastAll misplacedRoot (new .tableau {} none)).graph.toList =
      { rules := 3, core := ["c", "b"], coreSizes := [0, 1, 2] } := by
    decide +kernel
  refine ⟨_, reconstruction, rfl, derives, drained ▸ finished, ?_⟩
  -- What the closing lines say is told from the clauses, and their columns from the one open block.
  have worded : (Tableau.closingLines (pastAll misplacedRoot (new .tableau {} none)).graph.toList
      (pastAll misplacedRoot (new .tableau {} none)).reconstruction.outline.openBlocks).map
        Line.written =
      ["  have r1: \"?b ==> ?c ==> False\" using a by metis",
        "  have r2: \"?c ==> ?b ==> False\" using r1 a by metis",
        "  have r3: \"?c ==> ?b ==> False\" using r2 a by metis",
        "  from b a show False by (rule r3)", "qed"] := by
    rw [written]
    decide +kernel
  rw [text, ← worded, List.map_map]
  rfl

end Session

end Retrace
