import GatewayRegistrar.Config.Validation
import GatewayRegistrar.Toml.Parser
import GatewayRegistrar.Toml.Printer

/-!
# Configuration documents

A configuration is kept as a TOML document. Loading reads it, lets the environment override it, and accepts only a
valid result.
-/

namespace GatewayRegistrar

/-- Why a document gives no configuration. -/
inductive DocumentFault where
  | malformed
  | decoding (fault : DecodeFault)
deriving Repr

namespace DocumentFault

/-- What is wrong with the table of a document; nothing more is said about a text that is no document. -/
def detail? : DocumentFault → Option String
  | malformed => none
  | decoding fault => some (fault.message Binary64.plainText)

end DocumentFault

namespace Config

/-- The configuration as a document. -/
def toDocument (c : Config) : String := Toml.print c.encode

/-- Reads a document. Times that it does not give are `now`. -/
def ofDocument (now document : String) : Except DocumentFault Config :=
  match Toml.parse? document with
  | none => .error .malformed
  | some v => (decode now v).mapError .decoding

end Config

/-- Why a configuration cannot be loaded. -/
inductive LoadFault where
  | document (fault : DocumentFault)
  | invalid (violations : List Violation)
deriving Repr

namespace Config

/-- The configuration, if it is valid. -/
def validated (c : Config) : Except LoadFault Config :=
  if c.isValid then .ok c else .error (.invalid c.violations)

/-- Loads a document under an environment. -/
def load (now : String) (env : Environment) (document : String) : Except LoadFault Config := do
  let c ← (ofDocument now document).mapError .document
  (c.override env).validated

end Config

end GatewayRegistrar
