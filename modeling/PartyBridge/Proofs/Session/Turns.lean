import PartyBridge.Session.Scene

/-!
# Everybody's turns

While somebody waits, those in the surroundings of a session take their turns, any number of them. What one
turn of each keeps to is kept to by all the waiting (`Steady.await`, `Steady.send`).
-/

namespace PartyBridge.Session.Scene

/-- How a scene goes on, where this is kept to by everybody's turns. -/
structure Steady (Q : Scene → Scene → Prop) : Prop where
  refl : ∀ s, Q s s
  trans : ∀ {s t u}, Q s t → Q t u → Q s u
  machine : ∀ s machine, Q s { s with machine }
  taps : ∀ s taps, Q s { s with taps }
  drainTurn : ∀ s, Q s s.drainTurn.1
  logTurn : ∀ s, Q s s.logTurn.1
  watchTurn : ∀ fuel moved s, Q s (watchTurn fuel moved s).1

namespace Steady

variable {Q : Scene → Scene → Prop} (steady : Steady Q)
include steady

theorem tapTurn (s : Scene) (t : Tap) : Q s (s.tapTurn t).1 := by
  unfold Scene.tapTurn
  split
  · exact steady.refl s
  · split
    · exact steady.machine s _
    · exact steady.refl s
    · exact steady.machine s _

theorem tapTurns (s : Scene) : Q s s.tapTurns.1 := by
  have turns (turn : Scene × List Tap × Bool → Tap → Scene × List Tap × Bool)
      (each : ∀ now t, Q now.1 (turn now t).1) (taps : List Tap) (now : Scene × List Tap × Bool) :
      Q now.1 (taps.foldl turn now).1 := by
    induction taps generalizing now with
    | nil => exact steady.refl now.1
    | cons tap taps ih => exact steady.trans (each now tap) (ih _)
  exact steady.trans (turns _ (fun now t => steady.tapTurn now.1 t) s.taps (s, [], false))
    (steady.taps _ _)

theorem round (s : Scene) : Q s s.round.1 := by
  have ran : Q s { s with machine := s.machine.round.1 } := steady.machine s _
  have drained := steady.trans ran (steady.drainTurn _)
  have logged := steady.trans drained (steady.logTurn _)
  have tapped := steady.trans logged (steady.tapTurns _)
  exact steady.trans tapped (steady.watchTurn 20 false _)

theorem await (ready : Scene → Bool) (deadline : Option Nat) (fuel : Nat) (s : Scene) :
    Q s (Scene.await ready deadline fuel s).1 := by
  induction fuel generalizing s with
  | zero => exact steady.refl s
  | succ fuel ih =>
    rw [Scene.await]
    split
    · exact steady.refl s
    · split
      · exact steady.refl s
      · have round := steady.round s
        generalize s.round = result at round ⊢
        obtain ⟨after, moved⟩ := result
        dsimp only
        split
        · exact steady.trans round (ih after)
        · split
          · exact steady.trans (steady.trans round (steady.machine after _)) (ih _)
          · exact round

theorem awaitFor (s : Scene) (limit : Option Nat) (ready : Scene → Bool) :
    Q s (s.awaitFor limit ready).1 :=
  steady.await _ _ _ s

theorem awaitUntil (s : Scene) (ready : Scene → Bool) : Q s (s.awaitUntil ready) :=
  steady.awaitFor s _ _

theorem pour (pipe fuel sent : Nat) (bytes : Bytes) (s : Scene) :
    Q s (Scene.pour pipe fuel sent bytes s).1 := by
  induction fuel generalizing sent bytes s with
  | zero => exact steady.refl s
  | succ fuel ih =>
    rw [Scene.pour]
    split
    · exact steady.refl s
    · split
      · exact steady.trans (steady.machine s _) (ih _ _ _)
      · exact steady.refl s
      · dsimp only
        split
        · exact steady.trans (steady.awaitUntil s _) (ih _ _ _)
        · exact steady.awaitUntil s _

theorem send (s : Scene) (pipe : Nat) (bytes : Bytes) : Q s (s.send pipe bytes).1 :=
  steady.pour _ _ _ _ s

end Steady

end PartyBridge.Session.Scene
