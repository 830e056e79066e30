/-
NodeBootstrap/Config/Agent.lean

Agents that the virtual machine of the database loads, each declared by a line
of its options.  An agent is added unless its jar is declared already; a jar
that is declared otherwise only is a conflict, so that no setting of an
operator is lost.
-/
import NodeBootstrap.Session

namespace NodeBootstrap

structure Agent where
  jar : String
  /-- The line that declares the agent. -/
  line : String
  deriving DecidableEq, Repr

namespace Agent

/-- What every line that declares a jar starts with. -/
def head (jar : String) : String := "-javaagent:" ++ jar

/-- The lines that declare a jar. -/
def declarations (jar : String) (lines : List String) : List String :=
  lines.filter (Lines.startsWith (head jar))

/-- The exporter of metrics. -/
def metrics (lib conf : String) : Agent :=
  let jar := lib ++ "/jmx_prometheus_javaagent.jar"
  { jar, line := head jar ++ "=7070:" ++ conf ++ "/prometheus.yml" }

/-- The bridge to management over HTTP. -/
def management (lib conf : String) : Agent :=
  let jar := lib ++ "/jolokia-jvm-agent.jar"
  { jar
    line :=
      head jar ++ "=port=7777,host=*,policyLocation=file://" ++ conf ++ "/jolokia-policy.xml" }

/-- The agents of a node, given its directories of jars and of settings. -/
def all (lib conf : String) : List Agent := [metrics lib conf, management lib conf]

end Agent

/-- Adds an agent to a file of options unless it is there, and tells whether
it was added. -/
def addAgent (path : String) (agent : Agent) : Run Bool := do
  let declared := Agent.declarations agent.jar (← Run.readLines path)
  if declared = [] then
    Run.appendLines path [agent.line]
    Run.note .ok ("Добавлен агент " ++ agent.jar ++ " в " ++ path)
    return true
  else if agent.line ∈ declared then
    Run.note .info ("Агент " ++ agent.jar ++ " уже присутствует в " ++ path)
    return false
  else
    Run.note .error
      ("Агент " ++ agent.jar ++ " уже объявлен в " ++ path ++ " с другими параметрами")
    throw .agentConflict

end NodeBootstrap
