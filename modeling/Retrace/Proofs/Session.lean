import Retrace.Proofs.Graph
import Retrace.Proofs.Reconstruction
import Retrace.Session

/-!
Sessions follow the lines that they are fed: the graph holds the clauses that were entered, the
reconstruction follows these clauses, and every line that is not blank leaves its remark if the
session is verbose.
-/

namespace Retrace

/-- The clause on a line of a trace, if the line holds one that can be read. -/
def Clause.onLine? (number : Nat) (text : String) : Option Clause :=
  match Clause.readLine text with
  | .ok (some entry) => (Clause.ofEntry number entry).toOption
  | _ => none

namespace Session

/-- The remark that a line of a trace leaves, unless the line is blank. -/
def remark? (text : String) : Option Statement :=
  let shown := Text.trim text.toList
  if shown.isEmpty then none else some (.comment (String.ofList shown))

/-- The remarks that lines of a trace leave. -/
def remarksOf (preferences : Preferences) (texts : List String) : List Statement :=
  if preferences.verbose then texts.filterMap remark? else []

/-- What a session has in common with the lines that it was fed and the clauses that were entered. -/
structure Follows (method : Method) (preferences : Preferences) (texts : List String)
    (clauses : List Clause) (session : Session) : Prop where
  kept : session.preferences = preferences
  entered : session.graph.toList = clauses
  ordered : Clause.Ordered clauses
  reconstruction : session.reconstruction.Follows method preferences.label
    (remarksOf preferences texts) clauses

/-- A session before the first line follows none. -/
theorem follows_new (method : Method) (preferences : Preferences) :
    Follows method preferences [] [] (new method preferences none) where
  kept := rfl
  entered := rfl
  ordered := Clause.Ordered.nil
  reconstruction := by
    have nothing : remarksOf preferences [] = [] := by simp [remarksOf]
    rw [nothing]
    exact Reconstruction.follows_new method preferences.label

variable {method : Method} {preferences : Preferences} {texts : List String}
  {clauses : List Clause} {session : Session}

/-- Enters a clause in the graph and hands it to the reconstruction. -/
def enter (clause : Clause) : Attempt Session Unit := do
  let graph ← ofExcept ((← get).graph.insert clause)
  modify fun session => { session with graph }
  if (← get).reconstruction.outline.isLateConjecture clause then
    note (.lateConjecture clause.name)
  onReconstruction (Reconstruction.step clause)

/-- The session with the notes and the count that a clause is due before it is entered. -/
def counted (clause : Clause) (session : Session) : Session :=
  let misfit := if ! clause.isRoot && clause.role.isGiven then
    [Note.givenRole clause.name clause.role.text] else []
  let full := if session.preferences.veryVerbose then [Note.clause clause] else []
  count clause { session with notes := (misfit ++ full).foldl Array.push session.notes }

/-- Before a clause is entered, it is noted and counted. -/
theorem take_eq_enter (clause : Clause) (session : Session) :
    take clause session = enter clause (counted clause session) := by
  -- The two notes depend on the clause and on the preferences.
  unfold take counted
  generalize (! clause.isRoot && clause.role.isGiven) = misfit
  cases misfit <;> cases full : session.preferences.veryVerbose <;> simp [note, full, enter]

/-- Notes and counts are no part of what a session has in common with its lines. -/
theorem Follows.counted (follows : Follows method preferences texts clauses session)
    (clause : Clause) : Follows method preferences texts clauses (counted clause session) := by
  -- Roots and derived clauses are counted apart, and neither count is compared.
  by_cases root : clause.isRoot = true
  · simp only [Session.counted, count, if_pos root]
    exact { follows with }
  · simp only [Session.counted, count, if_neg root]
    exact { follows with }

/-- A clause that the graph refuses changes nothing; any other is handed to the reconstruction. -/
theorem Follows.enter (follows : Follows method preferences texts clauses session)
    (clause : Clause) :
    (∃ fault, session.graph.insert clause = .error fault ∧
        enter clause session = .error fault session) ∨
      ∃ after, Follows method preferences texts (clauses ++ [clause]) after ∧
        enter clause session = match clause.refusal? clauses with
          | none => .ok () after
          | some fault => .error fault after := by
  cases inserted : session.graph.insert clause with
  | error fault => exact .inl ⟨fault, rfl, by simp [Session.enter, inserted]⟩
  | ok grown =>
    right
    -- The graph has checked the name, which is all that the reconstruction asks for.
    have ordered := Graph.ordered_insert (follows.entered ▸ follows.ordered) inserted
    have members := (Graph.toList_insert inserted).trans (by rw [follows.entered])
    obtain ⟨fresh, -, -⟩ := Graph.insert_ok_iff.mp inserted
    rw [follows.entered] at fresh
    obtain ⟨reconstruction, reconstructs, stepped⟩ := follows.reconstruction.step fresh
    have handed (state : Session) (same : state.reconstruction = session.reconstruction) :
        onReconstruction (Reconstruction.step clause) state =
          match clause.refusal? clauses with
            | none => .ok () { state with reconstruction }
            | some fault => .error fault { state with reconstruction } := by
      rw [← same] at stepped
      cases refused : clause.refusal? clauses <;> rw [refused] at stepped
      · exact Attempt.onPart_ok stepped
      · exact Attempt.onPart_error stepped
    -- A conjecture that comes late is noted, which the reconstruction does not see.
    by_cases late : session.reconstruction.outline.isLateConjecture clause = true
    · refine ⟨{ session with
        graph := grown, notes := session.notes.push (.lateConjecture clause.name), reconstruction },
        ⟨follows.kept, members, members ▸ ordered, reconstructs⟩, ?_⟩
      simp [Session.enter, inserted, late, note, handed]
    · refine ⟨{ session with graph := grown, reconstruction },
        ⟨follows.kept, members, members ▸ ordered, reconstructs⟩, ?_⟩
      simp [Session.enter, inserted, late, handed]

/-- A line leaves its remark in a verbose session and nothing in any other. -/
theorem remarksOf_snoc (preferences : Preferences) (texts : List String) (text : String) :
    remarksOf preferences (texts ++ [text]) = remarksOf preferences texts ++
      if preferences.verbose then (remark? text).toList else [] := by
  -- Only a blank line leaves no remark in a verbose session.
  cases verbose : preferences.verbose with
  | false => simp [remarksOf, verbose]
  | true => cases left : remark? text <;> simp [remarksOf, verbose, left]

/-- Whether or not a line is echoed, its remark is what the session is left with. -/
theorem Follows.echo (follows : Follows method preferences texts clauses session) (text : String) :
    ∃ after, Follows method preferences (texts ++ [text]) clauses after ∧
      (if session.preferences.verbose then echo text else pure ()) session = .ok () after := by
  have remarks := remarksOf_snoc preferences texts text
  rw [follows.kept]
  -- A session that is not verbose, and one past a blank line, stay as they are.
  cases verbose : preferences.verbose with
  | false =>
    refine ⟨session, { follows with reconstruction := ?_ }, by simp⟩
    simpa [remarks, verbose] using follows.reconstruction
  | true =>
    by_cases blank : (Text.trim text.toList).isEmpty = true
    · refine ⟨session, { follows with reconstruction := ?_ }, by simp [Session.echo, blank]⟩
      simpa [remarks, verbose, remark?, blank] using follows.reconstruction
    · -- Any other line is written as a remark, without the blanks around it.
      obtain ⟨reconstruction, reconstructs, written⟩ :=
        follows.reconstruction.remark (String.ofList (Text.trim text.toList))
      refine ⟨{ session with reconstruction }, { follows with reconstruction := ?_ }, ?_⟩
      · simpa [remarks, verbose, remark?, blank] using reconstructs
      · simp only [Session.echo, blank, if_true, Bool.false_eq_true, if_false]
        exact Attempt.onPart_ok written

/-- Once a line is echoed, its clause is taken if it has one. -/
theorem feedLine_eq {echoed : Session} (number : Nat) (text : String)
    (echoes : (if session.preferences.verbose then echo text else pure ()) session =
      .ok () echoed) :
    feedLine number text session = match Clause.readLine text with
      | .error fault => .error fault echoed
      | .ok none => .ok () echoed
      | .ok (some entry) => match Clause.ofEntry number entry with
        | .error fault => .error fault echoed
        | .ok clause => take clause echoed := by
  -- The echo is over before the line is read.
  cases verbose : session.preferences.verbose <;> rw [verbose] at echoes <;>
    rcases read : Clause.readLine text with fault | ⟨_ | entry⟩
  case false.ok.some | true.ok.some =>
    cases justified : Clause.ofEntry number entry <;> simp_all [feedLine]
  all_goals simp_all [feedLine]

/-- The session past a line, which may have been refused. -/
def past (number : Nat) (text : String) (session : Session) : Session :=
  (feedLine number text).left session

/-- A line lets the session follow its clause, or else nothing but the line itself. -/
theorem Follows.past (follows : Follows method preferences texts clauses session)
    (number : Nat) (text : String) :
    (Follows method preferences (texts ++ [text]) clauses (past number text session) ∧
        (feedLine number text session = .ok () (past number text session) →
          Clause.onLine? number text = none)) ∨
      ∃ clause, Clause.onLine? number text = some clause ∧
        Follows method preferences (texts ++ [text]) (clauses ++ [clause])
          (past number text session) ∧
        feedLine number text session = match clause.refusal? clauses with
          | none => .ok () (past number text session)
          | some fault => .error fault (past number text session) := by
  obtain ⟨echoed, follows, echoes⟩ := follows.echo text
  have fed := feedLine_eq number text echoes
  unfold Session.past Attempt.left
  -- Nothing is entered if the line cannot be read or holds no clause.
  rcases read : Clause.readLine text with fault | ⟨_ | entry⟩ <;> simp only [read] at fed
  · exact .inl (by simp [fed, follows])
  · exact .inl (by simp [fed, follows, Clause.onLine?, read])
  cases justified : Clause.ofEntry number entry with
  | error fault =>
    simp only [justified] at fed
    exact .inl (by simp [fed, follows])
  | ok clause =>
    simp only [justified, take_eq_enter] at fed
    have held : Clause.onLine? number text = some clause := by
      simp [Clause.onLine?, read, justified, Except.toOption]
    rcases (follows.counted clause).enter clause with ⟨fault, -, stopped⟩ | ⟨after, entered, done⟩
    · -- The graph has refused the clause, which leaves no trace of it.
      rw [stopped] at fed
      exact .inl (by simp [fed, follows.counted clause])
    · -- The clause is entered, even if the reconstruction refuses it.
      rw [done] at fed
      right
      cases refused : clause.refusal? clauses <;> rw [refused] at fed <;>
        simp [fed, held, entered, refused]

end Session

end Retrace
