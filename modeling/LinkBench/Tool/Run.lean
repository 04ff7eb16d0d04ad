import LinkBench.Session
/-!
Running a tool and judging it. A tool is judged by the files that it leaves, not by its exit code.
-/

namespace LinkBench

variable {σ : Type}

/-- Hands an invocation to the invoker. -/
def invoke (invoker : Invoker σ) (inv : Invocation) : Action σ ToolError Completion :=
  fun s =>
    let reply := invoker inv s.toWorkspace s.tools
    (reply.result, { s with
      toWorkspace := reply.workspace
      tools := reply.tools
      calls := s.calls ++ [inv]
      events := s.events ++ reply.events })

/-- Accepts an output that is a regular file; any other is a failure or only worth a report. -/
def checkOutput (inv : Invocation) (completion : Completion) (output : Path) :
    Action σ ToolError Unit := do
  if ← Action.ask fun files cwd => files.isFile cwd (inv.outputPath output) then
    return
  else if inv.requireOutputs then
    Action.fail (.missingOutput inv.toolName output completion)
  else
    Action.report (.outputNotWritten inv.toolName output completion)

/-- Runs a tool and checks its outputs in order. -/
def runTool (invoker : Invoker σ) (inv : Invocation) : Action σ ToolError Unit := do
  let completion ← invoke invoker inv
  inv.outputs.forM (checkOutput inv completion)

end LinkBench
