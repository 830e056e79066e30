/-
NodeBootstrap/Config/RackDescriptor.lean

The file that tells a node its data center and rack: a heading and one line
for each.  The text is cut at every wide line end, so a name that holds one
takes more than one line.
-/
import NodeBootstrap.Text.Lines

namespace NodeBootstrap.RackDescriptor

def heading : String := "# Generated by cassandra-bootstrap, read by GossipingPropertyFileSnitch"

/-- The name of the template that the text follows. -/
def templateName : String := "cassandra-rackdc.properties.j2"

/-- The lines for a data center and a rack. -/
def lines (dataCenter rack : String) : List String :=
  Lines.ofRendered
    (Lines.between [heading.toList, ("dc=" ++ dataCenter).toList, ("rack=" ++ rack).toList])

end NodeBootstrap.RackDescriptor
