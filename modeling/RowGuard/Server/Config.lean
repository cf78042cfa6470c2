/-!
# Where the server listens

A server needs a service to run; host and port have defaults.
-/

set_option autoImplicit false

namespace RowGuard.Server

/-- **Where a server listens.** -/
structure Config where
  host : String
  port : UInt16
  deriving DecidableEq

namespace Config

/-- Every interface, port 8080. -/
def standard : Config := ⟨"0.0.0.0", 8080⟩

/-- The address in words. -/
def address (c : Config) : String := c.host ++ ":" ++ toString c.port.toNat

/-- The configuration with some parts chosen. -/
def choose (host : Option String) (port : Option UInt16) : Config :=
  ⟨host.getD standard.host, port.getD standard.port⟩

end Config

/-- Why a server cannot be set up. -/
inductive SetupFault where
  | noService
  deriving DecidableEq

/-- The wording of a fault. -/
def SetupFault.message : SetupFault → String
  | noService => "Application state is required"

/-- **The configuration of a server**, given a service. -/
def setUp {σ : Type} (host : Option String) (port : Option UInt16) (service : Option σ) :
    Except SetupFault (Config × σ) :=
  match service with
  | some s => .ok (.choose host port, s)
  | none => .error .noService

end RowGuard.Server
