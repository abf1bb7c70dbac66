import Retrace.Proofs.Attempt
import Retrace.Script

/-!
Attempts on states that keep a script, with and without a limit to its room. As long as there is room
for every line, both end in the same way. Otherwise the attempt with limited room stops at the first
line that does not fit, and what it has written is the beginning of what is written without a limit.
-/

namespace Retrace

/-- A state that keeps a script, which can be exchanged for another one. -/
class KeepsScript (σ : Type) where
  script : σ → Script
  exchange : Script → σ → σ

instance : KeepsScript Script where
  script := id
  exchange script _ := script

namespace Script

/-- A script that has room for every line and has torn none. -/
structure Unlimited (script : Script) : Prop where
  room : script.room = none
  whole : script.torn = []

/-- The script with room for the given number of bytes in all. -/
def within (capacity : Nat) (script : Script) : Script :=
  { script with room := some (capacity - script.bytes.length) }

/-- The script with one more line. -/
def push (statement : Statement) (script : Script) : Script :=
  { script with lines := script.lines.push ⟨script.column, statement⟩ }

variable {script : Script} {statement : Statement} {capacity : Nat}

/-- A further line adds its bytes. -/
theorem bytes_push (unlimited : script.Unlimited) (statement : Statement) :
    (script.push statement).bytes = script.bytes ++ (Line.mk script.column statement).bytes := by
  -- No torn line stands behind the others.
  simp [push, bytes, unlimited.whole]

/-- With limited room, a line is written only if there is room for all of it. -/
theorem write_of_limited {room : Nat} (limited : script.room = some room) :
    write statement script =
      if (Line.mk script.column statement).bytes.length ≤ room then
        .ok () { script.push statement with
          room := some (room - (Line.mk script.column statement).bytes.length) }
      else .error full { script with
        torn := script.torn ++ (Line.mk script.column statement).bytes.take room
        room := some 0 } := by
  simp [write, limited, push]

/-- A line that fits is written, and leaves the room that all lines have left. -/
theorem write_within (unlimited : script.Unlimited)
    (fits : (script.push statement).bytes.length ≤ capacity) :
    write statement (script.within capacity) = .ok () ((script.push statement).within capacity) := by
  have grown := congrArg List.length (bytes_push unlimited statement)
  rw [List.length_append] at grown
  -- The column is the same with room and without, so the same bytes are written.
  have room : (Line.mk (script.within capacity).column statement).bytes.length ≤
      capacity - script.bytes.length := by
    change (Line.mk script.column statement).bytes.length ≤ _
    omega
  -- What is left is the capacity without the bytes so far, and without those of the line.
  have left : capacity - script.bytes.length -
      (Line.mk (script.within capacity).column statement).bytes.length =
      capacity - (script.push statement).bytes.length := by
    change _ - (Line.mk script.column statement).bytes.length = _
    omega
  rw [write_of_limited rfl, if_pos room, left]
  rfl

/-- A line that does not fit is torn where the room ends. -/
theorem write_beyond (unlimited : script.Unlimited) (begins : script.bytes.length ≤ capacity)
    (exceeds : capacity < (script.push statement).bytes.length) :
    ∃ stopped, write statement (script.within capacity) = .error full stopped ∧
      stopped.bytes = (script.push statement).bytes.take capacity := by
  have grown := bytes_push unlimited statement
  have room : ¬ (Line.mk (script.within capacity).column statement).bytes.length ≤
      capacity - script.bytes.length := by
    change ¬ (Line.mk script.column statement).bytes.length ≤ _
    rw [grown, List.length_append] at exceeds
    omega
  refine ⟨_, by rw [write_of_limited rfl, if_neg room], ?_⟩
  -- The earlier lines fit, so that only the last one is cut.
  rw [grown, List.take_append, List.take_of_length_le begins]
  simp [bytes, within, unlimited.whole]

end Script

namespace KeepsScript

variable {σ : Type} [KeepsScript σ]

/-- The state with room for the given number of bytes in all. -/
def within (capacity : Nat) (state : σ) : σ :=
  exchange ((script state).within capacity) state

/-- The bytes that were written. -/
def written (state : σ) : List UInt8 :=
  (script state).bytes

end KeepsScript

namespace Attempt

open KeepsScript (script exchange within written)

variable {σ τ α β : Type}

/-- An attempt that acts on a part as another one does leaves what that one leaves, put back. -/
theorem left_of_embed {one : Attempt τ α} {attempt : Attempt σ α} {put : τ → σ} {part : τ}
    (acts : attempt (put part) = embed put one part) :
    attempt.left (put part) = put (one.left part) := by
  simp only [left, acts, embed]
  cases one part <;> rfl

variable [KeepsScript σ] [KeepsScript τ]

/-- From a state without a limit an attempt only adds bytes. A limit changes nothing if it leaves room
for all of them, and otherwise it cuts them off where the room ends. -/
structure CurtailedAt (attempt : Attempt σ α) (state : σ) : Prop where
  unlimited : (script (attempt.left state)).Unlimited
  grows : written state <+: written (attempt.left state)
  fits {capacity : Nat} (room : (written (attempt.left state)).length ≤ capacity) :
    attempt (within capacity state) = embed (within capacity) attempt state
  overruns {capacity : Nat} (begins : (written state).length ≤ capacity)
    (exceeds : capacity < (written (attempt.left state)).length) :
    ∃ stopped, attempt (within capacity state) = .error Script.full stopped ∧
      written stopped = (written (attempt.left state)).take capacity

/-- Limited room curtails an attempt from wherever it starts, and does nothing else. -/
def Curtailed (attempt : Attempt σ α) : Prop :=
  ∀ state : σ, (script state).Unlimited → attempt.CurtailedAt state

/-- An attempt that writes nothing is the same with limited room. -/
theorem CurtailedAt.silent {attempt : Attempt σ α} {state : σ}
    (unlimited : (script (attempt.left state)).Unlimited)
    (kept : written (attempt.left state) = written state)
    (same : ∀ capacity, attempt (within capacity state) = embed (within capacity) attempt state) :
    attempt.CurtailedAt state where
  unlimited
  grows := kept ▸ List.prefix_rfl
  fits _ := same _
  -- What was there before fits already.
  overruns begins exceeds := absurd begins (by rw [kept] at exceeds; omega)

/-- An attempt that is made on a state inside another one, which keeps the same script. -/
theorem CurtailedAt.embed {one : Attempt τ α} {attempt : Attempt σ α} {put : τ → σ} {part : τ}
    (acts : ∀ part, attempt (put part) = Attempt.embed put one part)
    (keeps : ∀ part, script (put part) = script part)
    (exchanges : ∀ other part, exchange other (put part) = put (exchange other part))
    (curtailed : one.CurtailedAt part) : attempt.CurtailedAt (put part) := by
  -- Room is limited inside, and what is written is written inside.
  have inside (capacity : Nat) (part : τ) : within capacity (put part) = put (within capacity part) := by
    rw [within, within, keeps, exchanges]
  have bytes (part : τ) : written (put part) = written part := congrArg Script.bytes (keeps part)
  have left := left_of_embed (acts part)
  refine ⟨?_, ?_, fun {capacity} room => ?_, fun {capacity} begins exceeds => ?_⟩
  · rw [left, keeps]
    exact curtailed.unlimited
  · rw [left, bytes, bytes]
    exact curtailed.grows
  · -- What fits is returned on either side.
    rw [left, bytes] at room
    have ended := curtailed.fits room
    rw [inside, acts, Attempt.embed, ended, Attempt.embed, Attempt.embed, acts, Attempt.embed]
    cases one part <;> simp only [inside]
  · -- What does not fit is cut off inside, and put back.
    rw [left, bytes] at exceeds
    rw [bytes] at begins
    obtain ⟨torn, ended, cut⟩ := curtailed.overruns begins exceeds
    exact ⟨put torn, by rw [inside, acts, Attempt.embed, ended], by rw [left, bytes, bytes, cut]⟩

/-- A part of a state that keeps the script of the whole. -/
structure IsPart (get : σ → τ) (put : τ → σ → σ) : Prop where
  put_get (state : σ) : put (get state) state = state
  get_put (part : τ) (state : σ) : get (put part state) = part
  put_put (part other : τ) (state : σ) : put part (put other state) = put part state
  script_put (part : τ) (state : σ) : script (put part state) = script part
  exchange_put (other : Script) (part : τ) (state : σ) :
    exchange other (put part state) = put (exchange other part) state

namespace Curtailed

/-- Returning a value writes nothing. -/
theorem pure (value : α) : Curtailed (pure value : Attempt σ α) :=
  fun _ unlimited => .silent unlimited rfl fun _ => rfl

/-- Stopping with a fault writes nothing. -/
theorem throw (fault : Fault) : Curtailed (throw fault : Attempt σ α) :=
  fun _ unlimited => .silent unlimited rfl fun _ => rfl

/-- What would follow a fault writes nothing either. -/
theorem throw_bind (fault : Fault) (next : β → Attempt σ α) :
    Curtailed (MonadExcept.throw fault >>= next) :=
  fun _ unlimited => .silent unlimited rfl fun _ => rfl

/-- What is at hand is so with any room. -/
theorem ofExcept (given : Except Fault α) : Curtailed (ofExcept given : Attempt σ α) := by
  cases given with
  | error fault => exact throw fault
  | ok value => exact pure value

/-- A change that moves the script at most to another column, and does not look at the room. -/
theorem modify {change : σ → σ}
    (moves : ∀ state, script (change state) =
      { script state with column := (script (change state)).column })
    (same : ∀ capacity state, change (within capacity state) = within capacity (change state)) :
    Curtailed (modify change : Attempt σ PUnit) := by
  intro state unlimited
  have moved := moves state
  refine .silent ⟨?_, ?_⟩ ?_ fun capacity => ?_
  · exact (congrArg Script.room moved).trans unlimited.room
  · exact (congrArg Script.torn moved).trans unlimited.whole
  · -- The column counts for later lines only.
    change (script (change state)).bytes = _
    rw [moved]
    rfl
  · rw [modify_apply, same]
    rfl

/-- Writing a statement is curtailed, whether its line fits or not. -/
theorem write (statement : Statement) : Curtailed (Script.write statement) := by
  intro state unlimited
  have written : Script.write statement state = .ok () (state.push statement) :=
    Script.write_of_unlimited unlimited.room statement
  have left : (Script.write statement).left state = state.push statement := by
    simp only [Attempt.left, written]
  -- With unlimited room the line is added, and so it is if there is room for it.
  refine ⟨?_, ?_, fun {capacity} room => ?_, fun {capacity} begins exceeds => ?_⟩ <;> rw [left] at *
  · exact ⟨unlimited.room, unlimited.whole⟩
  · exact ⟨_, (Script.bytes_push unlimited statement).symm⟩
  · rw [Attempt.embed, written]
    exact Script.write_within unlimited room
  · exact Script.write_beyond unlimited begins exceeds

/-- An attempt may look at the state if it goes on in the same way with limited room. -/
theorem get_bind {next : σ → Attempt σ α}
    (same : ∀ capacity state, next (within capacity state) = next state)
    (each : ∀ state, Curtailed (next state)) : Curtailed (get >>= next) := by
  intro state unlimited
  have rest := each state state unlimited
  -- What the attempt reads is the state that it goes on from.
  have left : (get >>= next).left state = (next state).left state := by
    simp only [Attempt.left, bind_apply, get_apply]
  refine ⟨?_, ?_, fun {capacity} room => ?_, fun {capacity} begins exceeds => ?_⟩ <;> rw [left] at *
  · exact rest.unlimited
  · exact rest.grows
  · simpa only [bind_apply, get_apply, same, embed] using rest.fits room
  · simpa only [bind_apply, get_apply, same] using rest.overruns begins exceeds

/-- Attempts in a row are curtailed if each of them is: once one of them has run out of room, what
would have followed adds nothing. -/
theorem bind {first : Attempt σ α} {next : α → Attempt σ β} (one : Curtailed first)
    (each : ∀ value, Curtailed (next value)) : Curtailed (first >>= next) := by
  intro state unlimited
  have start := one state unlimited
  cases ran : first state with
  | error fault stopped =>
    -- Nothing follows a fault.
    have left : (first >>= next).left state = first.left state := by
      simp only [Attempt.left, bind_apply, ran]
    refine ⟨?_, ?_, fun {capacity} room => ?_, fun {capacity} begins exceeds => ?_⟩ <;> rw [left] at *
    · exact start.unlimited
    · exact start.grows
    · have ended := start.fits room
      simp only [embed, ran] at ended
      simp only [embed, bind_apply, ran, ended]
    · obtain ⟨torn, ended, bytes⟩ := start.overruns begins exceeds
      exact ⟨torn, by simp only [bind_apply, ended], bytes⟩
  | ok value middle =>
    have reached : first.left state = middle := by simp only [Attempt.left, ran]
    have rest := each value middle (reached ▸ start.unlimited)
    have left : (first >>= next).left state = (next value).left middle := by
      simp only [Attempt.left, bind_apply, ran]
    have grows : written middle <+: written ((next value).left middle) := rest.grows
    refine ⟨?_, ?_, fun {capacity} room => ?_, fun {capacity} begins exceeds => ?_⟩ <;> rw [left] at *
    · exact rest.unlimited
    · exact (reached ▸ start.grows).trans grows
    · -- There is room for what the first attempt writes, and then for the rest.
      have fits : (written (first.left state)).length ≤ capacity :=
        reached ▸ Nat.le_trans grows.length_le room
      have ended := start.fits fits
      simp only [embed, ran] at ended
      simpa only [embed, bind_apply, ran, ended] using rest.fits room
    · by_cases room : (written middle).length ≤ capacity
      · have ended := start.fits (reached ▸ room)
        simp only [embed, ran] at ended
        simpa only [bind_apply, ended] using rest.overruns room exceeds
      · -- The first attempt is cut off already, and what follows stands behind the cut.
        obtain ⟨torn, ended, bytes⟩ := start.overruns begins (by rw [reached]; omega)
        refine ⟨torn, by simp only [bind_apply, ended], ?_⟩
        obtain ⟨more, further⟩ := grows
        rw [bytes, reached, ← further, List.take_append_of_le_length (by omega)]

/-- Attempts in a row are curtailed if what follows does not depend on the first. -/
theorem andThen {first : Attempt σ α} {next : Attempt σ β} (one : Curtailed first)
    (other : Curtailed next) : Curtailed (first >>= fun _ => next) :=
  one.bind fun _ => other

/-- An attempt may be made on a condition before others. -/
theorem when {condition : Prop} [Decidable condition] {first : Attempt σ Unit}
    {next : Unit → Attempt σ β} (one : Curtailed first) (other : Curtailed (next ())) :
    Curtailed (if condition then first >>= next else next ()) := by
  split
  · exact one.andThen other
  · exact other

/-- An attempt on a part of the state that keeps the script of the whole. -/
theorem onPart {get : σ → τ} {put : τ → σ → σ} {attempt : Attempt τ α} (part : IsPart get put)
    (curtailed : Curtailed attempt) : Curtailed (Attempt.onPart get put attempt) := by
  intro state unlimited
  have keeps : script (get state) = script state := by
    rw [← part.script_put (get state) state, part.put_get]
  have inner := curtailed (get state) (keeps ▸ unlimited)
  have acts (piece : τ) : Attempt.onPart get put attempt (put piece state) =
      Attempt.embed (put · state) attempt piece := by
    simp only [Attempt.onPart, Attempt.embed, part.get_put, part.put_put]
  have whole := inner.embed acts (part.script_put · state) (part.exchange_put · · state)
  -- The state is its part, put into what else there is.
  rwa [part.put_get] at whole

end Curtailed

end Attempt

end Retrace
