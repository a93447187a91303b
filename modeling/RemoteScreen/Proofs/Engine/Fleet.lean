import RemoteScreen.Proofs.Engine.Told

/-!
# Proofs/Engine/Fleet — flights side by side

An engine with all the flights that it has on their way.  Between two waits a flight has the engine
to itself; at every wait anything may come in between: another flight goes on, begins or is given
up, time passes, or something happens **beside** the flights.
-/

namespace RemoteScreen

/-- Something has happened beside the flights: data written, verbs registered, events received, the
world gone on.  What the engine remembers of dispatches has stayed. -/
structure Engine.Beside {σ : Type} (e e' : Engine σ) : Prop where
  inFlight : e'.inFlight = e.inFlight
  lastRun : e'.lastRun = e.lastRun
  runs : e'.runs = e.runs
  config : e'.config = e.config

namespace Engine.Beside

variable {σ : Type}

/-- Who edits the context stays beside the markers. -/
theorem onContext (e : Engine σ) (f : Context → Context) : e.Beside (e.onContext f) :=
  ⟨rfl, rfl, rfl, rfl⟩

theorem told {e e' : Engine σ} (t : e.Told e') : e.Beside e' :=
  ⟨t.inFlight, t.lastRun, t.runs, t.config⟩

theorem verbs (e : Engine σ) (verbs : Keyed Verb) : e.Beside { e with verbs } :=
  ⟨rfl, rfl, rfl, rfl⟩

end Engine.Beside

/-- An engine with its flights, at an instant. -/
structure Fleet (σ : Type) where
  engine : Engine σ
  flights : List Flight := []
  clock : Nat := 0

namespace Fleet

variable {σ : Type}

/-- **What can happen to a fleet at once**, with the deeds of the flight that goes on. -/
inductive Step (h : Host σ) : Fleet σ → List Deed → Fleet σ → Prop where
  | launch (d : Dispatch) {s} : Step h s [] { s with flights := s.flights ++ [.ofDispatch d] }
  | poll {s : Fleet σ} {before f after ds} (hf : s.flights = before ++ f :: after)
      (r : Run h s.clock (.resting f) s.engine ds (f.poll h s.clock s.engine).1
        (f.poll h s.clock s.engine).2) :
      Step h s ds
        { s with
          engine := (f.poll h s.clock s.engine).2
          flights := before ++ (f.poll h s.clock s.engine).1 :: after }
  | cancel {s : Fleet σ} {before f after} (hf : s.flights = before ++ f :: after) :
      Step h s [] { s with engine := f.cancel s.engine, flights := before ++ after }
  | pass (n : Nat) {s} : Step h s [] { s with clock := s.clock + n }
  | aside {s : Fleet σ} {e'} (he : s.engine.Beside e') : Step h s [] { s with engine := e' }

/-- What happens to a fleet in the course of time, with the deeds of all its flights. -/
inductive Course (h : Host σ) : Fleet σ → List Deed → Fleet σ → Prop where
  | refl {s} : Course h s [] s
  | tail {s ds s' ds' s''} (c : Course h s ds s') (t : Step h s' ds' s'') :
      Course h s (ds ++ ds') s''

variable {h : Host σ}

/-- Any flight can be polled at any time. -/
theorem exists_poll {s : Fleet σ} {before f after} (hf : s.flights = before ++ f :: after) :
    ∃ ds, Step h s ds
      { s with
        engine := (f.poll h s.clock s.engine).2
        flights := before ++ (f.poll h s.clock s.engine).1 :: after } := by
  obtain ⟨ds, r⟩ := Runs.poll h s.clock f s.engine
  exact ⟨ds, .poll hf r⟩

end Fleet

end RemoteScreen
