import Retrace.Proofs.Justification.Fields
import Retrace.Proofs.Justification.Theory

/-!
Nested justifications: clause names, and inferences whose lists of parents hold names, theory terms
and further inferences. Their parents are the names in them, in order and without repeats.
-/

namespace Retrace.Justification

open Text (AllLayout)

/-- A theory term has any arguments of the grammar. -/
inductive TheoryText : List Char → Prop
  | theory {inner : List Char} {arguments : List Term} (denotes : Denotes inner arguments) :
      TheoryText ("theory(".toList ++ (inner ++ [')']))

/-- Theory terms behind commas. -/
inductive MoreTheoriesText : List Char → Prop
  | nothing : MoreTheoriesText []
  | next {field body rest : List Char} (padded : Padded field body) (theory : TheoryText body)
      (others : MoreTheoriesText rest) : MoreTheoriesText (',' :: (field ++ rest))

/-- A status list holds the status and, behind it, theory terms. -/
inductive StatusText : List Char → Prop
  | status {symbol field statusField rest : List Char} (named : IsSymbol symbol)
      (padded : Padded field symbol)
      (around : Padded statusField ("status(".toList ++ (field ++ [')'])))
      (others : MoreTheoriesText rest) : StatusText ('[' :: (statusField ++ rest ++ [']']))

mutual

/-- A source is a clause name, or an inference with a rule, a status list and a list of parents. It
comes with the names in its parents, in order and with repeats. -/
inductive SourceText : List Char → List String → Prop
  | name {written name : List Char} (form : Clause.NameText written name)
      (unreserved : String.ofList name ≠ "inference" ∧ String.ofList name ≠ "theory") :
      SourceText written [String.ofList name]
  | inference {rule status inner ruleField statusField parentsField : List Char}
      {names : List String} (named : IsSymbol rule) (atRule : Padded ruleField rule)
      (stated : StatusText status) (atStatus : Padded statusField status)
      (parents : ParentsText inner names)
      (atParents : Padded parentsField ('[' :: (inner ++ [']']))) :
      SourceText ("inference(".toList ++
        (ruleField ++ ',' :: (statusField ++ ',' :: parentsField) ++ [')'])) names

/-- A parent is a source, or a theory term, which has no names to cite. -/
inductive ParentText : List Char → List String → Prop
  | source {body : List Char} {names : List String} (derived : SourceText body names) :
      ParentText body names
  | theory {body : List Char} (derived : TheoryText body) : ParentText body []

/-- A list of parents may be empty. -/
inductive ParentsText : List Char → List String → Prop
  | nothing {layout : List Char} (blank : AllLayout layout) : ParentsText layout []
  | first {field body rest : List Char} {names others : List String} (padded : Padded field body)
      (derived : ParentText body names) (behind : MoreParentsText rest others) :
      ParentsText (field ++ rest) (names ++ others)

/-- Further parents stand behind commas. -/
inductive MoreParentsText : List Char → List String → Prop
  | nothing : MoreParentsText [] []
  | next {field body rest : List Char} {names others : List String} (padded : Padded field body)
      (derived : ParentText body names) (behind : MoreParentsText rest others) :
      MoreParentsText (',' :: (field ++ rest)) (names ++ others)

end

namespace Term

/-- A reserved term is the atom that marks an application as an inference or a theory term. -/
def IsReserved (term : Term) : Prop :=
  term = atom "inference" ∨ term = atom "theory"

/-- A term that cites names is no theory term itself, nor does it come from outside. -/
structure Cites (term : Term) (names : List String) : Prop where
  unreserved : ¬ term.IsReserved
  kept : term.isApplicationOf "theory" = false
  supplied : term.withoutTheory.isExternal = false
  cited : term.withoutTheory.cited? = some (names.filter (· != "proof"))

/-- What the items of a list cite together. -/
structure CiteAll (items : List Term) (names : List String) : Prop where
  unreserved : ∀ item ∈ items, ¬ item.IsReserved
  cited : citedAll? (withoutTheoryAll items) = some (names.filter (· != "proof"))

variable {item : Term} {items : List Term} {names others : List String}

/-- Lists are not reserved. -/
theorem not_isReserved_list (items : List Term) : ¬ (list items).IsReserved := by
  simp [IsReserved]

/-- A list that starts with no reserved term is no theory term. -/
theorem CiteAll.kept (all : CiteAll items names) : (list items).isApplicationOf "theory" = false := by
  rw [isApplicationOf, beq_eq_false_iff_ne]
  intro theory
  -- The head of a theory term is reserved.
  cases items with
  | nil => cases theory
  | cons item items =>
    cases item with
    | list members => cases theory
    | atom text =>
      obtain rfl : text = "theory" := Option.some.inj theory
      exact all.unreserved _ List.mem_cons_self (.inr rfl)

/-- Without its theory terms, a list that starts with no reserved term cites what its items cite. -/
theorem CiteAll.list_cited (all : CiteAll items names) :
    (list items).withoutTheory.cited? = some (names.filter (· != "proof")) := by
  -- What is left of the list does not start like an inference.
  have plain : ∀ arguments, withoutTheoryAll items = atom "inference" :: arguments → False := by
    intro arguments same
    have first : atom "inference" ∈ withoutTheoryAll items := by simp [same]
    rw [withoutTheoryAll_eq] at first
    obtain ⟨item, kept, left⟩ := List.mem_map.mp first
    cases item with
    | list members => cases left
    | atom text =>
      obtain rfl : text = "inference" := atom.inj left
      exact all.unreserved _ (List.mem_filter.mp kept).1 (.inl rfl)
  rw [← all.cited, withoutTheory]
  simp [cited?]

/-- No items cite nothing. -/
theorem CiteAll.nil : CiteAll [] [] where
  unreserved := by simp
  cited := rfl

/-- A term that cites names adds them in front. -/
theorem CiteAll.cons (cites : item.Cites names) (all : CiteAll items others) :
    CiteAll (item :: items) (names ++ others) where
  unreserved := List.forall_mem_cons.mpr ⟨cites.unreserved, all.unreserved⟩
  cited := by
    -- The term stays in the list, and its names come before those of the others.
    rw [withoutTheoryAll, if_neg (by simp [cites.kept]), citedAll?, cites.cited, all.cited,
      List.filter_append]
    rfl

/-- A theory term adds nothing. -/
theorem CiteAll.cons_theory (theory : item.isApplicationOf "theory" = true)
    (all : CiteAll items names) : CiteAll (item :: items) names where
  unreserved := by
    -- An atom is no application.
    refine List.forall_mem_cons.mpr ⟨?_, all.unreserved⟩
    rintro (rfl | rfl) <;> cases theory
  cited := by rw [withoutTheoryAll, if_pos theory, all.cited]

/-- A name cites itself, unless it is reserved or stands for the goal. -/
theorem cites_atom {text : String} (unreserved : text ≠ "inference" ∧ text ≠ "theory") :
    (atom text).Cites [text] where
  unreserved := by simpa [IsReserved] using unreserved
  kept := rfl
  supplied := rfl
  cited := by
    by_cases goal : text = "proof" <;> simp [withoutTheory, cited?, goal]

/-- An inference cites what its list of parents cites. -/
theorem CiteAll.inference {status : Term} (rule : String)
    (plain : status.isApplicationOf "theory" = false) (all : CiteAll items names) :
    (list [atom "inference", atom rule, status, list items]).Cites names where
  unreserved := not_isReserved_list _
  kept := rfl
  supplied := rfl
  cited := by
    -- None of the arguments is a theory term, so the list of parents stays the third of them.
    have named (text : String) : (atom text).isApplicationOf "theory" = false := rfl
    simp only [withoutTheory, withoutTheoryAll, named, plain, all.kept, Bool.false_eq_true, if_false,
      cited?]
    exact all.list_cited

end Term

open Term (CiteAll)

variable {justification : String} {body : List Char} {source : Term}

/-- A justification that is one term, and no theory term, cites what is left of the term without the
theory terms inside it. -/
theorem parents_eq (around : Padded justification.toList body) (written : ItemText body source)
    (kept : source.isApplicationOf "theory" = false)
    (supplied : source.withoutTheory.isExternal = false) :
    parents justification = match source.withoutTheory.cited? with
      | some names => .ok names.eraseDups
      | none => .error (Problem.noParents.fault justification) := by
  have read : readAll justification.toList = .ok [source] :=
    readAll_eq_ok_iff.mpr (.single around written)
  have left : Term.withoutTheoryAll [source] = [source.withoutTheory] := by
    rw [Term.withoutTheoryAll, if_neg (by simp [kept]), Term.withoutTheoryAll]
  have found : parents justification =
      Except.mapError (Problem.fault justification) (citations [source]) := by
    rw [parents, read]
    rfl
  rw [found, citations, left]
  simp only [supplied, Bool.false_eq_true, if_false]
  -- The search for names fails only where an inference has no list of parents.
  cases source.withoutTheory.cited? <;> rfl

/-- An inference has three fields: its rule, a status and a list of parents. -/
theorem itemText_inference {rule status inner ruleField statusField parentsField : List Char}
    {stated : Term} {items : List Term} (named : IsSymbol rule) (atRule : Padded ruleField rule)
    (written : ItemText status stated) (atStatus : Padded statusField status)
    (denotes : Denotes inner items) (atParents : Padded parentsField ('[' :: (inner ++ [']']))) :
    ItemText ("inference(".toList ++
        (ruleField ++ ',' :: (statusField ++ ',' :: parentsField) ++ [')']))
      (.list [.atom "inference", .atom (String.ofList rule), stated, .list items]) := by
  have head : IsSymbol "inference".toList := by decide
  -- The fields are put together from the last one.
  have last := Continues.nothing.next atParents denotes.bracketed
  have arguments := Denotes.first atRule (.symbol named) (last.next atStatus written)
  simpa using arguments.application head

/-- A theory term is read as such. -/
theorem TheoryText.read {body : List Char} (derived : TheoryText body) :
    ∃ item, ItemText body item ∧ item.isApplicationOf "theory" = true := by
  cases derived with
  | theory denotes =>
    have named : IsSymbol "theory".toList := by decide
    exact ⟨_, denotes.application named, rfl⟩

/-- Theory terms behind commas are further items. -/
theorem MoreTheoriesText.read {text : List Char} (derived : MoreTheoriesText text) :
    ∃ items, Continues text items := by
  induction derived with
  | nothing => exact ⟨[], .nothing⟩
  | next padded theory _ ih =>
    obtain ⟨item, read, -⟩ := theory.read
    obtain ⟨items, continues⟩ := ih
    exact ⟨_, continues.next padded read⟩

/-- A status list starts with a list, so that it is no theory term. -/
theorem StatusText.read {text : List Char} (derived : StatusText text) :
    ∃ status, ItemText text status ∧ status.isApplicationOf "theory" = false := by
  cases derived with
  | status named padded around others =>
    -- The first item is the application to the status, so the head of the list is no atom.
    have head : IsSymbol "status".toList := by decide
    have status := (Denotes.single padded (.symbol named)).application head
    obtain ⟨items, continues⟩ := others.read
    exact ⟨_, (Denotes.first around status continues).bracketed, rfl⟩

mutual

/-- A source is read as a term that cites its names. -/
theorem SourceText.read {body : List Char} {names : List String} (derived : SourceText body names) :
    ∃ source, ItemText body source ∧ source.Cites names := by
  -- The induction is on the derivation, over sources, parents and lists of them together.
  match derived with
  | .name form unreserved => exact ⟨_, itemText_of_nameText form, Term.cites_atom unreserved⟩
  | @SourceText.inference rule _ _ _ _ _ _ named atRule stated atStatus parents atParents =>
    obtain ⟨status, written, plain⟩ := stated.read
    obtain ⟨items, denotes, all⟩ := ParentsText.read parents
    exact ⟨_, itemText_inference named atRule written atStatus denotes atParents,
      all.inference (String.ofList rule) plain⟩

/-- A parent is read as a term that cites its names or as a theory term. -/
theorem ParentText.read {body : List Char} {names : List String} (derived : ParentText body names) :
    ∃ item, ItemText body item ∧
      ∀ {items others}, CiteAll items others → CiteAll (item :: items) (names ++ others) := by
  -- What a parent adds to a list is told in the same way whether or not it is taken out.
  match derived with
  | .source derived =>
    obtain ⟨source, read, cites⟩ := SourceText.read derived
    exact ⟨source, read, .cons cites⟩
  | .theory derived =>
    obtain ⟨item, read, theory⟩ := derived.read
    exact ⟨item, read, .cons_theory theory⟩

/-- A list of parents is read as terms that cite its names together. -/
theorem ParentsText.read {text : List Char} {names : List String}
    (derived : ParentsText text names) :
    ∃ items, Denotes text items ∧ CiteAll items names := by
  match derived with
  | .nothing blank => exact ⟨[], .nothing blank, .nil⟩
  | .first padded parent behind =>
    obtain ⟨item, read, adds⟩ := ParentText.read parent
    obtain ⟨items, continues, all⟩ := MoreParentsText.read behind
    exact ⟨item :: items, .first padded read continues, adds all⟩

/-- Further parents are read as terms that cite their names together. -/
theorem MoreParentsText.read {text : List Char} {names : List String}
    (derived : MoreParentsText text names) :
    ∃ items, Continues text items ∧ CiteAll items names := by
  match derived with
  | .nothing => exact ⟨[], .nothing, .nil⟩
  | .next padded parent behind =>
    obtain ⟨item, read, adds⟩ := ParentText.read parent
    obtain ⟨items, continues, all⟩ := MoreParentsText.read behind
    exact ⟨item :: items, continues.next padded read, adds all⟩

end

/-- The parents of a nested justification are the names in it, in order and each at its first
occurrence. The name that stands for the goal is left out, and so is whatever stands in theory terms,
in status lists and in the place of a rule. -/
theorem parents_source {justification : String} {body : List Char} {names : List String}
    (around : Padded justification.toList body) (derived : SourceText body names) :
    parents justification = .ok (names.filter (· != "proof")).eraseDups := by
  obtain ⟨source, written, cites⟩ := derived.read
  rw [parents_eq around written cites.kept cites.supplied, cites.cited]

/-- An inference from an inference: the rules, the status lists and the theory term are passed over,
and so are the sign of the goal and the second mention of a name. -/
theorem parents_source_nested :
    parents "inference(r,[status(thm)],[a, inference(s,[status(thm)],['b c',theory(f)]),proof,a])" =
      .ok ["a", "b c"] := by
  -- The words of the justification, each in its form.
  have symbol : ∀ name ∈ ["r", "s", "f", "thm"], IsSymbol name.toList := by decide
  have word : ∀ name ∈ ["a", "proof"], Clause.IsWord name.toList := by decide
  have stated : StatusText "[status(thm)]".toList :=
    @StatusText.status _ _ "status(thm)".toList _ (symbol "thm" (by simp)) (.self _) (.self _)
      .nothing
  have theory : TheoryText "theory(f)".toList :=
    .theory (.single (.self _) (.symbol (symbol "f" (by simp))))
  have quoted : SourceText "'b c'".toList ["b c"] :=
    .name (@Clause.NameText.quoted "b c".toList (by simp) (by simp)) (by simp)
  have goal : SourceText "proof".toList ["proof"] :=
    .name (.plain (word "proof" (by simp))) (by simp)
  have plain : SourceText "a".toList ["a"] :=
    .name (.plain (word "a" (by simp))) (by simp)
  -- The inner inference stands behind a space.
  have inner : SourceText "inference(s,[status(thm)],['b c',theory(f)])".toList ["b c"] :=
    .inference (symbol "s" (by simp)) (.self _) stated (.self _)
      (.first (.self _) (.source quoted) (.next (.self _) (.theory theory) .nothing)) (.self _)
  have spaced : Padded (" ".toList ++ ("inference(s,[status(thm)],['b c',theory(f)])".toList ++ []))
      "inference(s,[status(thm)],['b c',theory(f)])".toList :=
    .around (by decide) (by decide)
  have behind : MoreParentsText (",proof,a".toList) ["proof", "a"] :=
    .next (.self _) (.source goal) (.next (.self _) (.source plain) .nothing)
  have outer : SourceText ("inference(r,[status(thm)],[a, " ++
      "inference(s,[status(thm)],['b c',theory(f)]),proof,a])").toList ["a", "b c", "proof", "a"] :=
    .inference (symbol "r" (by simp)) (.self _) stated (.self _)
      (.first (.self _) (.source plain) (.next spaced (.source inner) behind)) (.self _)
  exact parents_source (.self _) outer

end Retrace.Justification
