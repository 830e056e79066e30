/-
NodeBootstrap/Seeds/Topology.lean

The racks of a cluster as its resource declares them, in their order.  A rack
has a name, of which any JSON value but null is made text, and a count of
replicas, which may be a number, a truth value or a numeral and is zero where
it is not given.  All other fields are ignored.
-/
import NodeBootstrap.Fault
import NodeBootstrap.Json.Basic
import NodeBootstrap.Value.Text

namespace NodeBootstrap

structure Rack where
  name : String
  replicas : Int
  deriving DecidableEq, Repr

namespace Rack

/-- The count that a numeral writes. -/
def countOfText (s : String) : Except Fault Int :=
  match Numeral.ofText s with
  | .ok n => .ok n
  | .error .malformed => .error (.invalidRack (.malformedCount s))
  | .error (.tooLong digits) => .error (.invalidRack (.longCount digits))

/-- The count that a number stands for, cut toward zero. -/
def countOfFloat (x : Binary64) : Except Fault Int :=
  match x with
  | .nan => .error (.invalidRack .countIsNoNumber)
  | .infinite _ => .error (.broken .tooLarge)
  | .finite .. => .ok (x.truncate?.getD 0)

/-- The count of replicas that a JSON value stands for. -/
def count : Json → Except Fault Int
  | .int n => .ok n
  | .bool b => .ok (if b then 1 else 0)
  | .float x => countOfFloat x
  | .text s => countOfText s
  | .null | .list _ | .object _ => .error (.invalidRack .wrongKind)

/-- The rack that an entry of the list declares. -/
def ofEntry : Json → Except Fault Rack
  | .object fields =>
    match Json.field? "name" fields with
    | none => .error (.invalidRack .noName)
    | some .null => .error (.invalidRack (.nullName (Json.object fields).toValue.toText))
    | some name =>
      (count ((Json.field? "replicas" fields).getD (.int 0))).map fun replicas =>
        { name := name.toValue.toText, replicas }
  | _ => .error (.invalidRack .wrongKind)

end Rack

namespace Topology

/-- The racks in the list of a resource. -/
def ofRacks : Json → Except Fault (List Rack)
  | .list entries => entries.mapM Rack.ofEntry
  | _ => .error (.invalidRack .wrongKind)

/-- The racks that a resource declares. -/
def ofResource : Json → Except Fault (List Rack)
  | .object fields =>
    match (Json.field? "spec" fields).filter Json.isGiven with
    | none => .ok []
    | some (.object spec) =>
      match (Json.field? "racks" spec).filter Json.isGiven with
      | none => .ok []
      | some racks => ofRacks racks
    | some _ => .error (.broken .missingOperation)
  | _ => .error (.broken .missingOperation)

end Topology

end NodeBootstrap
