import Retrace.Proofs.Attempt

/-!
Attempts that track each other: made on related states, both return and leave related states behind,
or both stop with the same fault. Either of them may do something in between that the relation does
not see.
-/

namespace Retrace.Attempt

variable {σ τ σ' τ' α β γ δ : Type}

/-- Any two values match. -/
abbrev Any (_ : α) (_ : β) : Prop :=
  True

/-- Two outcomes agree: both are values that match, with related states, or both are one fault. -/
inductive Agrees (states : σ → τ → Prop) (values : α → β → Prop) :
    EStateM.Result Fault σ α → EStateM.Result Fault τ β → Prop
  | returned {value : α} {twin : β} {left : σ} {right : τ} (matched : values value twin)
      (related : states left right) : Agrees states values (.ok value left) (.ok twin right)
  | stopped {fault : Fault} {left : σ} {right : τ} :
      Agrees states values (.error fault left) (.error fault right)

/-- Outcomes that agree are one fault, or two values that match. -/
theorem Agrees.fault_or_values {states : σ → τ → Prop} {values : α → β → Prop}
    {outcome : EStateM.Result Fault σ α} {answer : EStateM.Result Fault τ β}
    (agreed : Agrees states values outcome answer) :
    (∃ fault left right, outcome = .error fault left ∧ answer = .error fault right) ∨
      ∃ value twin left right, outcome = .ok value left ∧ answer = .ok twin right ∧
        values value twin ∧ states left right := by
  cases agreed with
  | returned matched related => exact .inr ⟨_, _, _, _, rfl, rfl, matched, related⟩
  | stopped => exact .inl ⟨_, _, _, rfl, rfl⟩

/-- Outcomes that agree still do if less is asked of the states behind them. -/
theorem Agrees.weaken {states further : σ → τ → Prop} {values : α → β → Prop}
    {outcome : EStateM.Result Fault σ α} {answer : EStateM.Result Fault τ β}
    (agreed : Agrees states values outcome answer)
    (less : ∀ left right, states left right → further left right) :
    Agrees further values outcome answer := by
  cases agreed with
  | returned matched related => exact .returned matched (less _ _ related)
  | stopped => exact .stopped

/-- Attempts in a row agree if the first do and what follows does from all that they may leave. -/
theorem Agrees.bind {states : σ → τ → Prop} {further : σ → τ → Prop} {values : α → β → Prop}
    {results : γ → δ → Prop} {one : Attempt σ α} {other : Attempt τ β} {next : α → Attempt σ γ}
    {follow : β → Attempt τ δ} {left : σ} {right : τ}
    (agreed : Agrees states values (one left) (other right))
    (rest : ∀ value twin left right, values value twin → states left right →
      Agrees further results (next value left) (follow twin right)) :
    Agrees further results ((one >>= next) left) ((other >>= follow) right) := by
  rw [bind_apply, bind_apply]
  generalize one left = outcome, other right = answer at agreed ⊢
  -- Either both have something to go on from, or both have stopped.
  cases agreed with
  | returned matched related => exact rest _ _ _ _ matched related
  | stopped => exact .stopped

/-- Outcomes on parts of two states agree on the whole if parts that are related are put back into
states that are. -/
theorem Agrees.embed {states : σ → τ → Prop} {parts : σ' → τ' → Prop} {values : α → β → Prop}
    {put : σ' → σ} {give : τ' → τ} {one : Attempt σ' α} {other : Attempt τ' β} {left : σ'}
    {right : τ'} (agreed : Agrees parts values (one left) (other right))
    (returned : ∀ part piece, parts part piece → states (put part) (give piece)) :
    Agrees states values (Attempt.embed put one left) (Attempt.embed give other right) := by
  unfold Attempt.embed
  -- What is put back depends on neither outcome.
  generalize one left = outcome, other right = answer at agreed ⊢
  cases agreed with
  | returned matched after => exact .returned matched (returned _ _ after)
  | stopped => exact .stopped

/-- Two attempts track each other: from related states their outcomes agree. -/
def Tracks (states : σ → τ → Prop) (values : α → β → Prop) (one : Attempt σ α)
    (other : Attempt τ β) : Prop :=
  ∀ ⦃left right⦄, states left right → Agrees states values (one left) (other right)

namespace Tracks

variable {states : σ → τ → Prop} {parts : σ' → τ' → Prop} {values : α → β → Prop}
  {results : γ → δ → Prop}

/-- Values that match may be returned. -/
theorem pure {value : α} {twin : β} (matched : values value twin) :
    Tracks states values (pure value) (pure twin) :=
  fun _ _ related => .returned matched related

/-- The same fault stops both. -/
theorem throw (fault : Fault) :
    Tracks states values (throw fault : Attempt σ α) (throw fault : Attempt τ β) :=
  fun _ _ _ => .stopped

/-- Behind a fault nothing is done any more. -/
theorem throw_bind (fault : Fault) (next : α → Attempt σ γ) (follow : β → Attempt τ δ) :
    Tracks states results ((MonadExcept.throw fault : Attempt σ α) >>= next)
      ((MonadExcept.throw fault : Attempt τ β) >>= follow) :=
  fun _ _ _ => .stopped

/-- What is at hand is the same for both. -/
theorem ofExcept (given : Except Fault α) :
    Tracks states Eq (ofExcept given : Attempt σ α) (ofExcept given : Attempt τ α) := by
  -- Neither state is looked at.
  cases given with
  | error fault => exact fun _ _ _ => .stopped
  | ok value => exact fun _ _ related => .returned rfl related

/-- Related states are read. -/
theorem get : Tracks states states (get : Attempt σ σ) (get : Attempt τ τ) :=
  fun _ _ related => .returned related related

/-- Related states may be set. -/
theorem set {left : σ} {right : τ} (related : states left right) :
    Tracks states Any (set left : Attempt σ PUnit) (set right : Attempt τ PUnit) :=
  fun _ _ _ => .returned trivial related

/-- Changes may be made that keep the states related. -/
theorem modify {change : σ → σ} {shift : τ → τ}
    (kept : ∀ left right, states left right → states (change left) (shift right)) :
    Tracks states Any (modify change : Attempt σ PUnit) (modify shift : Attempt τ PUnit) :=
  fun _ _ related => .returned trivial (kept _ _ related)

/-- Attempts in a row track each other if what follows does for all values that match. -/
theorem bind {one : Attempt σ α} {other : Attempt τ β} {next : α → Attempt σ γ}
    {follow : β → Attempt τ δ} (first : Tracks states values one other)
    (rest : ∀ value twin, values value twin → Tracks states results (next value) (follow twin)) :
    Tracks states results (one >>= next) (other >>= follow) :=
  fun _ _ related => (first related).bind fun value twin _ _ matched after =>
    rest value twin matched after

/-- Attempts in a row track each other if what follows does on its own. -/
theorem andThen {one : Attempt σ α} {other : Attempt τ β} {next : Attempt σ γ}
    {follow : Attempt τ δ} (first : Tracks states values one other)
    (rest : Tracks states results next follow) :
    Tracks states results (one >>= fun _ => next) (other >>= fun _ => follow) :=
  first.bind fun _ _ _ => rest

/-- Attempts may start with something that each makes on a condition of its own. -/
theorem ite_andThen {due owed : Bool} {one : Attempt σ Unit} {other : Attempt τ Unit}
    {next : Attempt σ γ} {follow : Attempt τ δ}
    (first : Tracks states Any (if due then one else Pure.pure ())
      (if owed then other else Pure.pure ()))
    (rest : Tracks states results next follow) :
    Tracks states results (if due then one >>= fun _ => next else next)
      (if owed then other >>= fun _ => follow else follow) := by
  have tracked := first.andThen rest
  -- An attempt that is not made returns at once.
  cases due <;> cases owed <;> simpa using tracked

/-- What the one does first may go unseen. -/
theorem bind_left {one : Attempt σ α} {other : Attempt τ δ} {next : α → Attempt σ γ}
    (unseen : Tracks states Any one (Pure.pure ()))
    (rest : ∀ value, Tracks states results (next value) other) :
    Tracks states results (one >>= next) other := by
  -- The other waits meanwhile.
  have tracked : Tracks states results (one >>= next) (Pure.pure () >>= fun _ => other) :=
    unseen.bind fun value _ _ => rest value
  rwa [pure_bind] at tracked

/-- What the other does first may go unseen. -/
theorem bind_right {one : Attempt σ γ} {other : Attempt τ β} {follow : β → Attempt τ δ}
    (unseen : Tracks states Any (Pure.pure ()) other)
    (rest : ∀ twin, Tracks states results one (follow twin)) :
    Tracks states results one (other >>= follow) := by
  -- The one waits meanwhile.
  have tracked : Tracks states results (Pure.pure () >>= fun _ => one) (other >>= follow) :=
    unseen.bind fun _ twin _ => rest twin
  rwa [pure_bind] at tracked

/-- Attempts on parts of the states track each other if the parts are related with the states. -/
theorem onPart {take : σ → σ'} {put : σ' → σ → σ} {pick : τ → τ'} {give : τ' → τ → τ}
    {one : Attempt σ' α} {other : Attempt τ' β} (tracked : Tracks parts values one other)
    (taken : ∀ left right, states left right → parts (take left) (pick right))
    (returned : ∀ left right part piece, states left right → parts part piece →
      states (put part left) (give piece right)) :
    Tracks states values (Attempt.onPart take put one) (Attempt.onPart pick give other) :=
  fun left right related =>
    (tracked (taken left right related)).embed
      fun part piece => returned left right part piece related

end Tracks

end Retrace.Attempt
