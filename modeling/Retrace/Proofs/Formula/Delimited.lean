import Retrace.Proofs.Formula.Units

/-!
Where the first pass finds the end of a quantifier's body. It looks for the first parenthesis that
brings the depth back, so it closes the group of a quantifier where its body ends exactly if the body
has no such parenthesis inside it, and has one at its end or stands at the end of its group.
-/

namespace Retrace.Formula

/-- What becomes of the scopes that are open at the level of a text: they are closed right behind
it, they are left open, or they are closed inside it. -/
inductive Ending where
  | behind
  | leftOpen
  | inside
  deriving DecidableEq, Repr

/-- How a unit ends the scopes at its level. -/
def Unitary.ending : Unitary → Ending
  | .truth _ | .constant _ => .leftOpen
  | .application .. | .group _ => .behind
  -- The first term of a comparison closes them if it has arguments.
  | .comparison left _ right =>
    if left.isApplication then .inside else if right.isApplication then .behind else .leftOpen
  | .negation unit => unit.ending
  | .quantified _ _ _ body => body.ending

mutual

/-- Whether the group of every quantifier in a unit can be closed where its body ends: the body
closes the scope behind itself, or leaves it open and is the last in its group. -/
def Unitary.isDelimited (last : Bool) : Unitary → Bool
  | .negation unit => unit.isDelimited last
  | .group formula => formula.isDelimited
  | .quantified _ _ _ body =>
    body.isDelimited last && (body.ending == .behind || last && body.ending == .leftOpen)
  | .truth _ | .constant _ | .application .. | .comparison .. => true

/-- Whether it is so for every quantifier in a formula. -/
def Junction.isDelimited : Junction → Bool
  | .single unit => unit.isDelimited true
  | .binary left _ right => left.isDelimited false && right.isDelimited

end

/-- Apart from the scopes that it leaves open, a term is written as long as it is rendered. -/
theorem Term.length_written (term : Term) (count : Nat) :
    (term.written count).length + term.openBehind count =
      (term.render .grouped).length + count := by
  rw [written, openBehind, render_grouped, List.length_append, List.length_replicate]
  split <;> omega

mutual

/-- Every scope that is open before a unit or begins in it is closed by one parenthesis. -/
theorem Unitary.length_written (unit : Unitary) (count : Nat) :
    (unit.written count).length + unit.openBehind count =
      (unit.render .grouped).length + count := by
  cases unit with
  | truth value => simp [Unitary.written, Unitary.openBehind]
  | constant name => simp [Unitary.written, Unitary.openBehind, Unitary.render]
  | application head arguments =>
    -- It is read as a term.
    simpa [Unitary.written, Unitary.openBehind, Unitary.render, Term.openBehind,
      Term.isApplication] using (Term.application head arguments).length_written count
  | comparison left equal right =>
    have first := left.length_written count
    have second := right.length_written (left.openBehind count)
    simp only [Unitary.written, Unitary.openBehind, Unitary.render, List.length_append]
    omega
  | negation unit =>
    have inner := unit.length_written count
    simp only [Unitary.written, Unitary.openBehind, Unitary.render, List.length_cons]
    omega
  | group formula =>
    have inner := formula.length_written 0
    simp only [Unitary.written, Unitary.openBehind, Unitary.render, List.length_cons,
      List.length_append, List.length_replicate, List.length_nil]
    omega
  | quantified quantifier first others body =>
    -- The scope that the quantifier begins is closed by the parenthesis of its group.
    have inner := body.length_written (count + 1)
    have behind : Rendering.grouped.afterScope.length = 1 := rfl
    simp only [Unitary.written, Unitary.openBehind, Unitary.render, List.length_append, behind]
    omega

/-- So it is with formulas. -/
theorem Junction.length_written (formula : Junction) (count : Nat) :
    (formula.written count).length + formula.openBehind count =
      (formula.render .grouped).length + count := by
  cases formula with
  | single unit => exact unit.length_written count
  | binary left junctor right =>
    have first := left.length_written count
    have second := right.length_written (left.openBehind count)
    simp only [Junction.written, Junction.openBehind, Junction.render, List.length_append]
    omega

end

/-- Only a unit that leaves scopes open has any open behind it. -/
theorem Unitary.ending_of_openBehind (unit : Unitary) {count : Nat}
    (opened : unit.openBehind count ≠ 0) : unit.ending = .leftOpen := by
  -- A unit that ends in a parenthesis has closed all scopes at its level.
  cases unit with
  | truth value => rfl
  | constant name => rfl
  | application head arguments => exact absurd rfl opened
  | comparison left equal right =>
    simp only [openBehind, Term.openBehind] at opened
    cases first : left.isApplication <;> cases second : right.isApplication <;>
      simp_all [ending]
  | negation unit => exact unit.ending_of_openBehind opened
  | group formula => exact absurd rfl opened
  | quantified quantifier first others body => exact body.ending_of_openBehind opened

/-- A unit that leaves scopes open is delimited as long as nothing follows it. -/
theorem Unitary.isDelimited_of_leftOpen (unit : Unitary) (ending : unit.ending = .leftOpen) :
    unit.isDelimited true = true := by
  -- Such a unit holds no group, and the bodies of its quantifiers leave the scopes open as well.
  cases unit with
  | truth value => rfl
  | constant name => rfl
  | application head arguments => rfl
  | comparison left equal right => rfl
  | negation unit => exact unit.isDelimited_of_leftOpen ending
  | group formula => cases ending
  | quantified quantifier first others body =>
    have inner := body.isDelimited_of_leftOpen ending
    have same : body.ending = .leftOpen := ending
    simp [isDelimited, inner, same]

/-- Neither sign of a comparison starts with a parenthesis. -/
theorem sign_eq_cons (equal : Bool) :
    ∃ c others, Rendering.grouped.sign equal = c :: others ∧ c ≠ ')' := by
  cases equal with
  | true => exact ⟨'=', [], rfl, by decide⟩
  | false => exact ⟨'!', ['='], rfl, by decide⟩

/-- No connective starts with a parenthesis, so that none stands where parentheses are missing. -/
theorem Junctor.chars_append_ne (junctor : Junctor) {count : Nat} (missing : 0 < count)
    (text rest : List Char) : junctor.chars ++ text ≠ List.replicate count ')' ++ rest := by
  obtain ⟨others, rfl⟩ := Nat.exists_eq_succ_of_ne_zero (Nat.ne_of_gt missing)
  -- The first characters differ.
  cases junctor with
  | basic connective => cases connective <;> simp [chars, Rendering.given, List.replicate_succ]
  | _ => simp [chars, List.replicate_succ]

/-- Parentheses stand in front of the sign of a comparison only if there are none. -/
theorem replicate_sign_iff (count : Nat) (equal : Bool) (text : List Char) :
    List.replicate count ')' ++ (Rendering.grouped.sign equal ++ text) =
        Rendering.grouped.sign equal ++ (text ++ List.replicate count ')') ↔ count = 0 := by
  obtain ⟨c, others, sign, other⟩ := sign_eq_cons equal
  -- The first parenthesis would have to be the first character of the sign.
  cases count with
  | zero => simp
  | succ count => simp [sign, List.replicate_succ, Ne.symm other]

/-- A comparison that something follows or nothing: what is written for it and behind it. -/
theorem Unitary.written_comparison (left right : Term) (equal : Bool) (count : Nat) :
    (comparison left equal right).written count =
      left.render .grouped ++ (List.replicate (if left.isApplication then count else 0) ')' ++
        (Rendering.grouped.sign equal ++ (right.render .grouped ++ List.replicate
          (if right.isApplication then left.openBehind count else 0) ')'))) := by
  simp only [written, Term.written, Term.render_grouped, List.append_assoc]

/-- A group is written as it should be exactly if its content is completed so. -/
theorem Unitary.written_group_iff (formula : Junction) (count : Nat) :
    (group formula).written count = (group formula).render .grouped ++ List.replicate count ')' ↔
      formula.completed = formula.render .grouped := by
  have behind : (group formula).written count =
      '(' :: (formula.completed ++ ')' :: List.replicate count ')') := by
    simp [written, Junction.completed]
  -- Around the content, both texts are the same.
  rw [behind, render, List.cons_append, List.append_assoc, List.singleton_append, List.cons_inj_right,
    List.append_left_inj]

mutual

/-- Where a unit ends its group, it is completed as it should be exactly if it is delimited and no
scope is closed inside it. -/
theorem Unitary.completed_iff (unit : Unitary) (count : Nat) :
    unit.written count ++ List.replicate (unit.openBehind count) ')' =
        unit.render .grouped ++ List.replicate count ')' ↔
      unit.isDelimited true = true ∧ (count = 0 ∨ unit.ending ≠ .inside) := by
  cases unit with
  | truth value => simp [Unitary.written, Unitary.openBehind, Unitary.isDelimited, Unitary.ending]
  | constant name =>
    simp [Unitary.written, Unitary.openBehind, Unitary.isDelimited, Unitary.ending, Unitary.render]
  | application head arguments =>
    simp [Unitary.written, Unitary.openBehind, Unitary.isDelimited, Unitary.ending, Unitary.render,
      Term.written, Term.isApplication, Term.render_grouped]
  | comparison left equal right =>
    -- The parentheses behind the first term would have to stand behind the second one.
    have inside := replicate_sign_iff count equal (right.render .grouped)
    rw [Unitary.written_comparison]
    cases first : left.isApplication <;> cases second : right.isApplication <;>
      simp [Unitary.openBehind, Term.openBehind, Unitary.isDelimited, Unitary.ending,
        Unitary.render, first, second, inside]
  | negation unit =>
    have inner := unit.completed_iff count
    simpa [Unitary.written, Unitary.openBehind, Unitary.isDelimited, Unitary.ending,
      Unitary.render] using inner
  | group formula =>
    have content := formula.completed_iff
    rw [Unitary.openBehind, List.replicate_zero, List.append_nil, Unitary.written_group_iff, content]
    simp [Unitary.isDelimited, Unitary.ending]
  | quantified quantifier first others body =>
    -- The scope of the quantifier is one more that is open at the level of its body.
    have inner := body.completed_iff (count + 1)
    have behind : Rendering.grouped.afterScope = [')'] := rfl
    rw [List.replicate_succ] at inner
    simp only [Unitary.written, Unitary.openBehind, Unitary.render, behind, List.append_assoc,
      List.singleton_append, List.append_cancel_left_eq, inner, Unitary.isDelimited, Unitary.ending]
    cases body.ending <;> simp

/-- Where something follows a unit, it is written as it should be with no scope left open exactly if
it is delimited without being the last, and closes the scopes behind it. -/
theorem Unitary.written_iff (unit : Unitary) (count : Nat) :
    (unit.openBehind count = 0 ∧
        unit.written count = unit.render .grouped ++ List.replicate count ')') ↔
      unit.isDelimited false = true ∧ (count = 0 ∨ unit.ending = .behind) := by
  -- Scopes that a unit leaves open would have to be closed before what follows it.
  cases unit with
  | truth value =>
    simp +contextual [Unitary.written, Unitary.openBehind, Unitary.isDelimited, Unitary.ending]
  | constant name =>
    simp +contextual [Unitary.written, Unitary.openBehind, Unitary.isDelimited, Unitary.ending,
      Unitary.render]
  | application head arguments =>
    simp [Unitary.written, Unitary.openBehind, Unitary.isDelimited, Unitary.ending, Unitary.render,
      Term.written, Term.isApplication, Term.render_grouped]
  | comparison left equal right =>
    have inside := replicate_sign_iff count equal (right.render .grouped)
    rw [Unitary.written_comparison]
    cases first : left.isApplication <;> cases second : right.isApplication <;>
      simp +contextual [Unitary.openBehind, Term.openBehind, Unitary.isDelimited, Unitary.ending,
        Unitary.render, first, second, inside]
  | negation unit =>
    have inner := unit.written_iff count
    simpa [Unitary.written, Unitary.openBehind, Unitary.isDelimited, Unitary.ending,
      Unitary.render] using inner
  | group formula =>
    have content := formula.completed_iff
    rw [Unitary.written_group_iff, content]
    simp [Unitary.openBehind, Unitary.isDelimited, Unitary.ending]
  | quantified quantifier first others body =>
    -- The scope of a quantifier is one more to be closed behind its body.
    have inner := body.written_iff (count + 1)
    have behind : Rendering.grouped.afterScope = [')'] := rfl
    rw [List.replicate_succ] at inner
    simp only [Unitary.written, Unitary.openBehind, Unitary.render, behind, List.append_assoc,
      List.singleton_append, List.append_cancel_left_eq, inner, Unitary.isDelimited, Unitary.ending]
    cases body.ending <;> simp

/-- A formula is completed as it should be exactly if it is delimited. -/
theorem Junction.completed_iff (formula : Junction) :
    formula.completed = formula.render .grouped ↔ formula.isDelimited = true := by
  cases formula with
  | single unit =>
    have whole := unit.completed_iff 0
    simpa [Junction.completed, Junction.written, Junction.openBehind, Junction.isDelimited,
      Junction.render] using whole
  | binary left junctor right =>
    have first := left.written_iff 0
    have others := right.completed_iff
    simp only [List.replicate_zero, List.append_nil, true_or, and_true] at first
    rw [Junction.isDelimited, Bool.and_eq_true, ← first, ← others]
    constructor
    · intro same
      rw [Junction.completed, Junction.written, Junction.openBehind, Junction.render,
        List.append_assoc, List.append_assoc] at same
      -- Scopes left open by the first unit would be missing their parentheses before the connective.
      have closed : left.openBehind 0 = 0 := by
        rcases Nat.eq_zero_or_pos (left.openBehind 0) with closed | opened
        · exact closed
        · have ending := left.ending_of_openBehind (Nat.ne_of_gt opened)
          have rendered := (left.completed_iff 0).mpr
            ⟨left.isDelimited_of_leftOpen ending, .inl rfl⟩
          rw [List.replicate_zero, List.append_nil] at rendered
          rw [← rendered, List.append_assoc, List.append_cancel_left_eq] at same
          exact absurd same (junctor.chars_append_ne opened _ _)
      -- Without any, the first unit is written as long as it is rendered.
      have long := left.length_written 0
      rw [closed, Nat.add_zero, Nat.add_zero] at long
      obtain ⟨written, rest⟩ := List.append_inj same long
      rw [closed, List.append_cancel_left_eq] at rest
      exact ⟨⟨closed, written⟩, rest⟩
    · rintro ⟨⟨closed, written⟩, completed⟩
      rw [Junction.completed] at completed
      rw [Junction.completed, Junction.written, Junction.openBehind, closed, written,
        List.append_assoc, List.append_assoc, completed, Junction.render]

end

/-- The first pass groups the quantifiers of a formula, each with its body and nothing else, exactly if
the formula is delimited. -/
theorem Junction.groupQuantifiers_render_iff (formula : Junction) :
    groupQuantifiers (formula.render .given) = formula.render .grouped ↔
      formula.isDelimited = true := by
  rw [formula.groupQuantifiers_render, formula.completed_iff]

-- Without a parenthesis at its end, a body that is not the last reaches beyond the connective.
example : groupQuantifiers "![X]:p|q".toList = "(![X]:p|q)".toList := by decide

/-- The formula `![X]:f(X)=a`. -/
def equationInScope : Junction :=
  let x : Variable := ⟨'X', [], rfl, by simp⟩
  let f : Constant := ⟨'f', [], rfl, by simp⟩
  let a : Constant := ⟨'a', [], rfl, by simp⟩
  .single (.quantified .all x [] (.comparison (.application f (.last (.var x))) true (.constant a)))

/-- The group of its quantifier is closed in the middle of the equation. -/
theorem groupQuantifiers_equationInScope :
    equationInScope.render .given = "![X]:f(X)=a".toList ∧
      equationInScope.render .grouped = "(![X]:f(X)=a)".toList ∧
      groupQuantifiers "![X]:f(X)=a".toList = "(![X]:f(X))=a".toList ∧
      groupQuantifiers (equationInScope.render .given) ≠ equationInScope.render .grouped := by
  decide

end Retrace.Formula
