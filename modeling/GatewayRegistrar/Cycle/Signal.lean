/-!
# Signals

Between two cycles the registrar pauses. The pause ends by itself or by a signal, which either stops the registrar or
asks for the next cycle at once.
-/

namespace GatewayRegistrar

/-- The signals that the registrar listens to. -/
inductive Signal where
  | terminate
  | interrupt
  | hangUp
  | syncNow
deriving DecidableEq, Repr

namespace Signal

/-- Whether the signal stops the registrar. -/
def stops : Signal → Bool
  | syncNow => false
  | _ => true

/-- The name of the signal. -/
def name : Signal → String
  | terminate => "SIGTERM"
  | interrupt => "SIGINT"
  | hangUp => "SIGHUP"
  | syncNow => "SIGUSR1"

/-- What the signal asks for, in words. -/
def request (s : Signal) : String := if s.stops then "Stop(\"" ++ s.name ++ "\")" else "SyncNow"

end Signal

/-- How a pause ends. -/
inductive Pause where
  | elapsed
  | cut (s : Signal)
deriving DecidableEq, Repr

namespace Pause

/-- Whether no cycle follows the pause. -/
def stops : Pause → Bool
  | elapsed => false
  | cut s => s.stops

end Pause

end GatewayRegistrar
