import GatewayRegistrar.Cycle.Run

/-!
# Watching

The registrar runs one cycle after the other, with a pause behind each, until a signal stops it. Neither a listing that
fails nor a registration that is not taken ends the watch; a cycle that breaks off does. One round, a cycle with the
pause behind it, is the same wherever the ends of the pauses come from (`Settings.turn`).
-/

namespace GatewayRegistrar

/-- The cycles of a watch, with the state of the sink behind the last of them, what was told, and how the watch has
ended, if it has. It is done once a pause has ended by a signal that stops it. -/
structure Watch (σ : Type) where
  state : σ
  cycles : List (Cycle σ)
  events : List Event
  ending? : Option Completion

/-- What is told when a pause ends. -/
def Pause.events : Pause → List Event
  | elapsed => []
  | cut s => [.signalReceived s, if s.stops then .shutdownRequested s else .syncRequested]

/-- What is told when a cycle is over. -/
def outcomeEvent : Except ListingFault Report → Event
  | .ok report => .cycleComplete report
  | .error fault => .cycleFailed fault

namespace Settings

variable {σ : Type}

/-- What is told from the start of a cycle to the start of the pause behind it, if there is one. -/
def roundEvents (s : Settings) (room : Nat) (interval : Interval) (listing : Listing) (c : Cycle σ) : List Event :=
  s.cycleEvents room listing c ++
    match c.outcome? with
    | some o => [outcomeEvent o, .sleeping interval]
    | none => []

/-- Runs one cycle and waits for the end of the pause behind it: the cycle, and how the watch ends, if it does. -/
def turn {m : Type → Type} [Monad m] (s : Settings) (tell : List Event → m Unit) (wait : m Pause) (room : Nat)
    (sink : Sink σ) (interval : Interval) (listing : Listing) (state : σ) : m (Cycle σ × Option Completion) := do
  let c := s.runCycle room sink listing state
  tell (s.roundEvents room interval listing c)
  match c.outcome? with
  | none => return (c, some .aborted)
  | some _ =>
    let p ← wait
    tell p.events
    return (c, if p.stops then some .done else none)

/-- Adds events to those that have been told. -/
def note (es : List Event) : StateM (List Event) Unit := modify (· ++ es)

/-- Runs one cycle for each pause, up to the first pause that stops the watch, or the first cycle that breaks off. The
cycles are counted from `n`. -/
def rounds (s : Settings) (room : Nat) (sink : Sink σ) (interval : Interval) (listings : Nat → Listing) :
    Nat → σ → List Pause → Watch σ
  | _, state, [] => ⟨state, [], [], none⟩
  | n, state, p :: ps =>
    let ((c, ending?), told) := (s.turn note (pure p) room sink interval (listings n) state).run []
    match ending? with
    | some ending => ⟨c.state, [c], told, some ending⟩
    | none =>
      let rest := rounds s room sink interval listings (n + 1) c.state ps
      ⟨rest.state, c :: rest.cycles, told ++ rest.events, rest.ending?⟩

/-- Watches, given what is listed for each cycle and how the pauses end. -/
def watch (s : Settings) (room : Nat) (sink : Sink σ) (interval : Interval) (listings : Nat → Listing) (state : σ)
    (pauses : List Pause) : Watch σ :=
  let w := s.rounds room sink interval listings 0 state pauses
  { w with events := .watchStarted interval :: w.events }

end Settings

end GatewayRegistrar
