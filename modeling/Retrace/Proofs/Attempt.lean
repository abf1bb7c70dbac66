import Retrace.Attempt

/-! Attempts opened step by step: what each of their parts returns, and the state that it leaves. -/

namespace Retrace.Attempt

variable {σ τ α β : Type}

/-- The state that an attempt leaves behind, whether it returns a value or stops. -/
def left (attempt : Attempt σ α) (state : σ) : σ :=
  match attempt state with
  | .ok _ after => after
  -- A fault does not undo what was changed before it.
  | .error _ after => after

/-- The fault that an attempt stops with, if it stops. -/
def fault? (attempt : Attempt σ α) (state : σ) : Option Fault :=
  match attempt state with
  | .ok .. => none
  | .error fault _ => some fault

/-- Two attempts in a row: the second is made only if the first returns. -/
@[simp] theorem bind_apply (attempt : Attempt σ α) (next : α → Attempt σ β) (state : σ) :
    (attempt >>= next) state = match attempt state with
      | .ok value after => next value after
      | .error fault after => .error fault after := by
  -- Sequencing is defined by exactly this case distinction.
  simp only [Bind.bind, EStateM.bind]
  cases attempt state <;> rfl

/-- What an attempt returns may be changed afterwards. -/
@[simp] theorem map_apply (change : α → β) (attempt : Attempt σ α) (state : σ) :
    (change <$> attempt) state = match attempt state with
      | .ok value after => .ok (change value) after
      | .error fault after => .error fault after := by
  simp only [Functor.map, EStateM.map]
  cases attempt state <;> rfl

/-- Returning a value leaves the state alone. -/
@[simp] theorem pure_apply (value : α) (state : σ) :
    (pure value : Attempt σ α) state = .ok value state :=
  rfl

/-- Reading the state returns it and leaves it alone. -/
@[simp] theorem get_apply (state : σ) : (get : Attempt σ σ) state = .ok state state :=
  rfl

/-- Setting the state forgets the old one. -/
@[simp] theorem set_apply (state old : σ) : (set state : Attempt σ PUnit) old = .ok ⟨⟩ state :=
  rfl

/-- Changing the state always succeeds. -/
@[simp] theorem modify_apply (change : σ → σ) (state : σ) :
    (modify change : Attempt σ PUnit) state = .ok ⟨⟩ (change state) :=
  rfl

/-- Stopping with a fault leaves the state alone. -/
@[simp] theorem throw_apply (fault : Fault) (state : σ) :
    (throw fault : Attempt σ α) state = .error fault state :=
  rfl

/-- A value that is at hand is returned. -/
@[simp] theorem ofExcept_ok_apply (value : α) (state : σ) :
    (ofExcept (.ok value : Except Fault α) : Attempt σ α) state = .ok value state :=
  rfl

/-- A fault that is at hand stops the attempt. -/
@[simp] theorem ofExcept_error_apply (fault : Fault) (state : σ) :
    (ofExcept (.error fault : Except Fault α) : Attempt σ α) state = .error fault state :=
  rfl

/-- An attempt that returns on a part of the state returns on the whole. -/
theorem onPart_ok {get : σ → τ} {put : τ → σ → σ} {attempt : Attempt τ α} {state : σ} {value : α}
    {part : τ} (returned : attempt (get state) = .ok value part) :
    onPart get put attempt state = .ok value (put part state) := by
  -- The part is put back after the attempt.
  simp only [onPart, embed, returned]

/-- An attempt that stops on a part of the state stops on the whole. -/
theorem onPart_error {get : σ → τ} {put : τ → σ → σ} {attempt : Attempt τ α} {state : σ}
    {fault : Fault} {part : τ} (stopped : attempt (get state) = .error fault part) :
    onPart get put attempt state = .error fault (put part state) := by
  -- The part is put back even though the attempt has stopped.
  simp only [onPart, embed, stopped]

end Retrace.Attempt
