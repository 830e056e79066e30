/-
NodeBootstrap/Fault.lean

Why a run stops.  A fault is a cause; `Fault.message` words it.  The faults
that the program reports to its operator (`Fault.isReported`) are those of the
configuration, of files, of agents, of the cluster resource and of names; a
fault of the API request is reported too, in other words.  Any other fault
breaks the run off.
-/
import NodeBootstrap.Number.Numeral
import NodeBootstrap.Text.Quoted

namespace NodeBootstrap

/-- How a name look-up can fail. -/
inductive LookupKind where
  /-- The resolver knows no address. -/
  | addressUnknown
  /-- The resolver knows no host of that name. -/
  | hostUnknown
  /-- The system could not ask. -/
  | system
  /-- The name cannot be written as a host name. -/
  | unwritableName
  deriving DecidableEq, Repr

/-- A failed name look-up, with the resolver's words. -/
structure LookupFailure where
  kind : LookupKind
  words : String
  deriving DecidableEq, Repr

/-- What is wrong with a rack of a cluster resource. -/
inductive RackDefect where
  | noName
  | nullName (entry : String)
  | malformedCount (text : String)
  | longCount (digits : Nat)
  | countIsNoNumber
  /-- A value of a kind that has no name or no count. -/
  | wrongKind
  deriving DecidableEq, Repr

/-- How a run breaks off on data of a kind that nothing was prepared for. -/
inductive Breakdown where
  | missingOperation
  | wrongKind
  | badValue
  | missingKey
  | missingItem
  | tooLarge
  | undecodable
  | isDirectory
  | system
  deriving DecidableEq, Repr

/-- Why a run stops. -/
inductive Fault where
  | undefinedVariable (name : String)
  | notAnInteger (name value : String)
  | unparsable (path : String)
  | noSeedProvider (path : String)
  | invalidRack (defect : RackDefect)
  | noRacks (cluster : String)
  | missingParameter (name : String)
  | unreadable (path : String)
  | unwritable (path : String)
  | unappendable (path : String)
  | agentConflict
  | noSuchCluster (name : String)
  | ownNameUnknown
  | notAServiceName (name : String)
  | unresolved (host reason : String)
  | refused (status : Nat) (reason url : String)
  | unreachable (reason : String)
  | notJson (reason : String)
  | ownLookup (failure : LookupFailure)
  | broken (breakdown : Breakdown)
  deriving DecidableEq, Repr

/-- The families of faults. -/
inductive Fault.Family where
  | configuration
  | fileAccess
  | conflict
  | notFound
  | domainLookup
  | hostResolution
  | request
  | breakdown
  deriving DecidableEq, Repr

namespace RackDefect

/-- The part of a text that messages quote: its first two hundred
characters. -/
def excerpt (quoted : String) : String := String.ofList (quoted.toList.take 200)

/-- A cause with its words in quotes. -/
def caused (cause words : String) : String := cause ++ "(" ++ Quoted.quoted words ++ ")"

def message : RackDefect → String
  | noName => caused "KeyError" "name"
  | nullName entry => caused "ValueError" ("rack without name: " ++ entry)
  | malformedCount text =>
    caused "ValueError" ("invalid literal for int() with base 10: " ++ excerpt (Quoted.quoted text))
  | longCount digits =>
    caused "ValueError" ("Exceeds the limit (" ++ Numeral.ofInt Numeral.maxDigits
      ++ " digits) for integer string conversion: value has " ++ Numeral.ofInt digits
      ++ " digits; use sys.set_int_max_str_digits() to increase the limit")
  | countIsNoNumber => caused "ValueError" "cannot convert float NaN to integer"
  | wrongKind => "TypeError"

end RackDefect

namespace Fault

def family : Fault → Family
  | undefinedVariable _ | notAnInteger .. | unparsable _ | noSeedProvider _ | invalidRack _
  | noRacks _ | missingParameter _ => .configuration
  | unreadable _ | unwritable _ | unappendable _ => .fileAccess
  | agentConflict => .conflict
  | noSuchCluster _ => .notFound
  | ownNameUnknown | notAServiceName _ => .domainLookup
  | unresolved .. => .hostResolution
  | refused .. | unreachable _ | notJson _ => .request
  | ownLookup _ | broken _ => .breakdown

/-- A fault that the program words for its operator. -/
def isReported (f : Fault) : Bool :=
  match f.family with
  | .request | .breakdown => false
  | _ => true

def message : Fault → String
  | undefinedVariable name => "Mandatory environment variable " ++ name ++ " not defined"
  | notAnInteger name value =>
    "Environment variable " ++ name ++ " is not an integer: " ++ Quoted.quoted value
  | unparsable path => "Unable to parse " ++ path
  | noSeedProvider path => "No seed_provider section in " ++ path
  | invalidRack defect => "Invalid rack definition in cassandras resource: " ++ defect.message
  | noRacks cluster => "Cassandra cluster " ++ cluster ++ " defines no racks"
  | missingParameter name => "Missing mandatory " ++ name ++ " parameter in Cassandra config"
  | unreadable path => "Unable to read file at: " ++ path
  | unwritable path => "Unable to write file at: " ++ path
  | unappendable path => "Unable to append to file at: " ++ path
  | agentConflict => "Conflicting java agent definition found in jvm.options"
  | noSuchCluster name =>
    "Unable to find cassandra resource definition for " ++ name
      ++ " - Resource may have been deleted"
  | ownNameUnknown => "Unable to lookup cluster domain"
  | notAServiceName name =>
    "Unable to lookup cluster domain: " ++ name ++ " is not a service hostname"
  | unresolved host reason => "Unable to resolve " ++ host ++ ": " ++ reason
  | refused status reason url =>
    Numeral.ofInt status
      ++ (if status < 500 then " Client Error: " else " Server Error: ") ++ reason
      ++ " for url: " ++ url
  | unreachable reason => reason
  | notJson reason => reason
  | ownLookup failure => failure.words
  | broken _ => ""

end Fault

end NodeBootstrap
