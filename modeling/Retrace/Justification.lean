/-!
Justifications: the terms in which a trace says where a clause comes from, and the names that they
cite.
-/

namespace Retrace.Justification

/-- A justification term. `f(a, b)` is the list of `f`, `a` and `b`, and so is `[f, a, b]`. -/
inductive Term where
  | atom (text : String)
  | list (items : List Term)
  deriving Repr

namespace Term

/-- The text of the atom that a list starts with. -/
def head? : Term → Option String
  | list (atom text :: _) => some text
  | _ => none

/-- Whether a term is an application of the given head. -/
def isApplicationOf (head : String) (term : Term) : Bool :=
  term.head? == some head

mutual

/-- The term without the theory terms at any depth inside it. -/
def withoutTheory : Term → Term
  | atom text => atom text
  | list items => list (withoutTheoryAll items)

/-- The terms that are no theory terms, without those inside them. -/
def withoutTheoryAll : List Term → List Term
  | [] => []
  | item :: items =>
    if item.isApplicationOf "theory" then withoutTheoryAll items
    else item.withoutTheory :: withoutTheoryAll items

end

/-- Whether a term says that its clause was supplied from outside. -/
def isExternal (term : Term) : Bool :=
  term.isApplicationOf "file" || term.isApplicationOf "introduced"

mutual

/-- The names cited by a term, in order and with repeats; `none` where an inference has no list of
parents. An inference cites what its third argument cites, any other list what its items cite, and
`proof` stands for the goal and is no name. -/
def cited? : Term → Option (List String)
  | atom text => some (if text = "proof" then [] else [text])
  | list (atom "inference" :: arguments) =>
    match arguments with
    | _ :: _ :: parents :: _ => parents.cited?
    | _ => none
  | list items => citedAll? items

/-- The names cited by several terms. -/
def citedAll? : List Term → Option (List String)
  | [] => some []
  | item :: items => do
    let first ← item.cited?
    let others ← citedAll? items
    return first ++ others

end

end Term

/-- Why a justification yields no names: the text from the place where it could not be read any
further, or an inference without a list of parents. -/
inductive Problem where
  | unread (rest : String)
  | noParents
  deriving DecidableEq, Repr

/-- The names cited by the terms of a justification, each at its first occurrence. Only the first
term counts, after theory terms have been left out; what follows it is information for the reader.
A clause supplied from outside cites nothing. -/
def citations (terms : List Term) : Except Problem (List String) :=
  match Term.withoutTheoryAll terms with
  | [] => .ok []
  | source :: _ =>
    if source.isExternal then .ok []
    else
      match source.cited? with
      | some names => .ok names.eraseDups
      | none => .error .noParents

end Retrace.Justification
