import ActorSilo.Proofs.Turns

/-! # When an activation last became idle

An activation notes when it last became idle and, while it runs nothing and has no mail,
measures its idleness from then. Finishing a turn moves the mark only when the turn counts as
activity (its message does not suppress keep-alive) and no other turn runs beside it: the turn
was the only one running (`resetRunning_becameIdle`). Over any sequence of turns starting and
finishing, the mark is therefore the last moment such a turn finished (`becameIdle_foldl`).

A turn that counts as activity but finishes while a turn that suppresses keep-alive still runs
does not move the mark, and neither does that other turn when it finishes later: the activity
of the first turn is then forgotten, and the idleness counts from an earlier moment.
-/

namespace ActorSilo

namespace Activation

/-- A call on the turns of an activation. -/
inductive TurnCall where
  | start (m : Message) (time : Instant)
  | finish (id : Nat) (time : Instant)

namespace TurnCall

def time : TurnCall → Instant
  | start _ t => t
  | finish _ t => t

def apply (a : Activation) : TurnCall → Activation
  | start m t => a.recordRunning m t
  | finish id t => (a.resetRunning id t).2

/-- The call finishes the only turn `a` runs, and that turn counts as activity. -/
def endsActivity (a : Activation) : TurnCall → Bool
  | start _ _ => false
  | finish id _ =>
    match a.running with
    | some t => t.id == id && a.interleaved.isEmpty && !t.suppressKeepAlive
    | none => false

/-- When the last of `calls`, made from `a` on, that ended a turn counting as activity with
nothing else running was made. -/
def lastActivityEnd (a : Activation) : List TurnCall → Option Instant
  | [] => none
  | c :: rest =>
    (lastActivityEnd (c.apply a) rest).or (if c.endsActivity a then some c.time else none)

end TurnCall

open TurnCall

theorem recordRunning_becameIdle (a : Activation) (m : Message) (now : Instant) :
    (a.recordRunning m now).becameIdle = a.becameIdle := by
  unfold recordRunning
  split <;> rfl

/-- Finishing a turn moves the idle mark exactly when the turn counts as activity and was the
only one running. -/
theorem resetRunning_becameIdle {a : Activation} (headed : a.running = none → a.interleaved = [])
    (id : Nat) (now : Instant) :
    (a.resetRunning id now).2.becameIdle =
      if (finish id now).endsActivity a then now else a.becameIdle := by
  rcases first : a.running with _ | t
  · -- nothing runs, so nothing is interleaved either and no turn finishes
    have nothingFound : a.interleaved.findIdx? (·.id == id) = none := by simp [headed first]
    simp [resetRunning, resetRunning.fromInterleaved, endsActivity, first, nothingFound]
  · by_cases same : t.id = id
    · rcases rest : a.interleaved with _ | ⟨next, later⟩
      · simp [resetRunning, endsActivity, first, same, rest]
        split <;> rfl
      · simp [resetRunning, endsActivity, first, same, rest]
    · -- an interleaved turn finishes, or none does, and the first turn keeps running
      rcases found : a.interleaved.findIdx? (·.id == id) with _ | i
      · simp [resetRunning, resetRunning.fromInterleaved, endsActivity, first, same, found]
      · simp [resetRunning, resetRunning.fromInterleaved, endsActivity, first, same, found]
        split <;> rfl

namespace TurnCall

variable {a : Activation}

theorem apply_headed (headed : a.running = none → a.interleaved = []) :
    ∀ c : TurnCall, (c.apply a).running = none → (c.apply a).interleaved = []
  | start m now => by
    -- a started turn runs first or beside the first one, so something runs
    intro idle
    simp only [apply, recordRunning] at idle
    split at idle
    · cases idle
    · simp_all
  | finish id now => interleaved_of_idle_resetRunning headed id now

theorem apply_becameIdle (headed : a.running = none → a.interleaved = []) :
    ∀ c : TurnCall, (c.apply a).becameIdle = if c.endsActivity a then c.time else a.becameIdle
  | start m now => recordRunning_becameIdle a m now
  | finish id now => resetRunning_becameIdle headed id now

/-- After any calls the idle mark is when the last of them that ended activity was made, or
the mark from before when none did. -/
theorem becameIdle_foldl (headed : a.running = none → a.interleaved = []) (calls : List TurnCall) :
    (calls.foldl apply a).becameIdle = (lastActivityEnd a calls).getD a.becameIdle := by
  -- induction on the calls, from any activation on which the first turn heads the others
  induction calls generalizing a with
  | nil => rfl
  | cons c rest ih =>
    rw [List.foldl_cons, ih (apply_headed headed c), apply_becameIdle headed c, lastActivityEnd]
    cases lastActivityEnd (c.apply a) rest <;> split <;> rfl

end TurnCall

/-- Over any calls starting and finishing turns, an activation that ends inactive has been idle
since the last call that finished a turn counting as activity with no other turn beside it, or,
when there was none, since the mark it had before. -/
theorem idleness_since_last_activity_end {a : Activation}
    (headed : a.running = none → a.interleaved = []) (calls : List TurnCall) (now : Instant) :
    (calls.foldl TurnCall.apply a).idleness now =
      if (calls.foldl TurnCall.apply a).isInactive then
        now.since ((lastActivityEnd a calls).getD a.becameIdle)
      else .zero := by
  rw [idleness, becameIdle_foldl headed]

/-- A fresh activation of grain `w`, made at time zero. -/
def freshWorker : Activation :=
  Activation.make ⟨.localhost 1 1, ⟨1, "w", .grain⟩, 1⟩ { code := 1, name := "Worker" }
    ⟨"Test", 0, 0⟩ (.ofSecs 60) 0

/-- Request 1 and request 2, which suppresses keep-alive, start together; request 1 finishes
at 10 s while request 2 runs, and request 2 finishes at 20 s. -/
def overlappingTurns : List TurnCall :=
  [.start (Message.request 1 ⟨1, "w", .grain⟩ 0 0 []) 0,
    .start { Message.request 2 ⟨1, "w", .grain⟩ 0 0 [] with
      flags := ⟨MessageFlags.suppressKeepAlive⟩ } 0,
    .finish 1 10000000000, .finish 2 20000000000]

/-- After the overlapping turns no call ended activity, so at 30 s the activation counts its
idleness from when it was made, though request 1 counted as activity until 10 s. -/
theorem overlapping_turns_idle_since_made :
    (freshWorker.running = none → freshWorker.interleaved = []) ∧
      lastActivityEnd freshWorker overlappingTurns = none ∧
      (overlappingTurns.foldl TurnCall.apply freshWorker).idleness 30000000000 =
        if (overlappingTurns.foldl TurnCall.apply freshWorker).isInactive then
          Instant.since 30000000000 ((lastActivityEnd freshWorker overlappingTurns).getD
            freshWorker.becameIdle)
        else .zero :=
  ⟨fun _ => rfl, rfl, idleness_since_last_activity_end (fun _ => rfl) overlappingTurns _⟩

end Activation

end ActorSilo
