import PodAdmission.Failure
import PodAdmission.Startup.Flags

/-!
# Starting to listen

The settings of the listener, the files that it needs, and what may be set up only once.
-/

namespace PodAdmission

/-- Where the webhook listens and the files that identify it. -/
structure ListenerConfig where
  address : String
  certificate : String
  key : String
  deriving DecidableEq

/-- The port if none is configured. -/
def defaultPort : Nat := 443

/-- The flags of every webhook. -/
def listenerFlags : List Flag :=
  [⟨"tls-cert-file", "TLS_CERT_FILE", .path, true⟩,
   ⟨"tls-private-key-file", "TLS_PRIVATE_KEY_FILE", .path, true⟩,
   ⟨"port", "PORT", .port, false⟩]

namespace Settings

/-- The text of a setting; the empty one if there is none. -/
def textOf (name : String) (s : Settings) : String :=
  match s.get? name with
  | some (.text v) => v
  | _ => ""

/-- The port of a setting, or the default one. -/
def portOf (name : String) (s : Settings) : Nat :=
  match s.get? name with
  | some (.port n) => n
  | _ => defaultPort

/-- The listener that settings describe. It listens on all interfaces. -/
def listener (s : Settings) : ListenerConfig :=
  ⟨"0.0.0.0:" ++ toString (s.portOf "port"), s.textOf "tls-cert-file",
    s.textOf "tls-private-key-file"⟩

end Settings

namespace ListenerConfig

/-- The failure to load a file that is not there. -/
def unreadable (c : ListenerConfig) (file : String) : Failure :=
  .tls ("failed to load " ++ c.certificate ++ " / " ++ c.key ++ ": failed to read from file `" ++
    file ++ "`: No such file or directory (os error 2)")

/-- The failure to load the certificate or else the key, given which files can be read. -/
def loadFailure? (readable : String → Bool) (c : ListenerConfig) : Option Failure :=
  if readable c.certificate then
    if readable c.key then none else some (c.unreadable c.key)
  else some (c.unreadable c.certificate)

/-- The failure of a service that has nothing to listen with. -/
def noListener (c : ListenerConfig) : Failure :=
  .server ("webhook server on " ++ c.address ++ ": no TLS listener")

end ListenerConfig

/-- What has been set up for the whole process. -/
structure Setup where
  crypto : Bool
  log : Bool
  deriving DecidableEq

namespace Setup

/-- Nothing has been set up. -/
def none : Setup := ⟨false, false⟩

/-- Sets up cryptography, which can be done only once. -/
def installCrypto (s : Setup) : Except Failure Setup :=
  if s.crypto then .error (.tls "a rustls crypto provider is already installed")
  else .ok { s with crypto := true }

/-- Sets up the log, which can be done only once. -/
def installLog (s : Setup) : Except Failure Setup :=
  if s.log then .error (.logging "a global default trace dispatcher has already been set")
  else .ok { s with log := true }

end Setup

end PodAdmission
