import Retrace.Formula.Quoting

/-!
Quantifier scopes made explicit. A group is opened before every quantifier and closed where its
scope ends, so that what follows the scope cannot be read into it.
-/

namespace Retrace.Formula

/-- A quantifier is `!` or `?`, unless an equals sign makes it part of another symbol. -/
def isQuantifier (c : Char) (rest : List Char) : Bool :=
  (c == '!' || c == '?') && rest.head? != some '='

/-- One closing parenthesis for each scope. -/
def closing (scopes : List Nat) : List Char :=
  scopes.map fun _ => ')'

/-- The text with its quantifier scopes grouped. `depth` counts the parentheses that are open, and
`scopes` holds, innermost first, the depth at which each open scope began. A scope ends right after
the first parenthesis that brings the depth back to its own, or right before the one that closes the
group it is in, or with the text. -/
def groupFrom (quoting : Quoting) (depth : Nat) (scopes : List Nat) : List Char → List Char
  | [] => closing scopes
  | c :: rest =>
    -- Nothing inside a quoted span opens or ends a scope.
    if quoting.covers c then c :: groupFrom (quoting.next c) depth scopes rest
    else if isQuantifier c rest then '(' :: c :: groupFrom .outside depth (depth :: scopes) rest
    else if c = '(' then c :: groupFrom .outside (depth + 1) scopes rest
    else if c = ')' then
      -- Scopes opened in the group end before its parenthesis, those that the group is the body of
      -- end behind it.
      let outer := scopes.dropWhile (· == depth)
      closing (scopes.takeWhile (· == depth)) ++ c ::
        (closing (outer.takeWhile (· == depth - 1)) ++
          groupFrom .outside (depth - 1) (outer.dropWhile (· == depth - 1)) rest)
    else c :: groupFrom .outside depth scopes rest

/-- The text with every quantifier and its scope in a group of their own. -/
def groupQuantifiers (text : List Char) : List Char :=
  groupFrom .outside 0 [] text

end Retrace.Formula
