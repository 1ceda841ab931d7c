import Fidelity.Config
import Fidelity.Name

/-! Why a command fails, and what is said of it. -/
namespace Fidelity.Command

inductive ReadFault where
  | notFound
  | isDirectory
  | notDirectory
  | notText
  | other (text : String)
deriving DecidableEq, Repr

def ReadFault.message : ReadFault → String
  | notFound => "No such file or directory (os error 2)"
  | isDirectory => "Is a directory (os error 21)"
  | notDirectory => "Not a directory (os error 20)"
  | notText => "stream did not contain valid UTF-8"
  | other text => text

inductive Failure where
  | unknownName (e : UnknownName)
  | betaOutOfRange (beta : Float)
  | configUnreadable (path : String) (fault : ReadFault)
  | textUnreadable (path : String) (fault : ReadFault)
  | badConfig (path : String) (fault : Json.Fault)
  | badListing (path : String) (fault : Json.Fault)
deriving DecidableEq

def jsonMessage : Json.Fault → String
  | .ended => "the text ends too early"
  | .malformed => "the text is not JSON"
  | .unfit => "the text is JSON of another shape"

/-- The message of a failure with its causes. A configuration that cannot be read names its cause
twice, as a part of what failed and as what made it fail. -/
def Failure.message : Failure → String
  | unknownName e => e.message
  | betaOutOfRange beta => Config.betaMessage beta
  | configUnreadable path fault =>
    "Failed to read " ++ path ++ ": " ++ fault.message ++ ": " ++ fault.message
  | textUnreadable path fault => "reading " ++ path ++ ": " ++ fault.message
  | badConfig _ fault => "Invalid configuration: " ++ jsonMessage fault ++ ": " ++ jsonMessage fault
  | badListing path fault => "parsing " ++ path ++ ": " ++ jsonMessage fault

end Fidelity.Command
