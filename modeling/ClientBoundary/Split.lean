import ClientBoundary.Classification
import ClientBoundary.ClientModule
import ClientBoundary.ServerModule

/-!
# Splitting a source

A tainted module is split into a server half and a client half, which stand beside it under the
tags `server` and `client`. A module without taint is left alone.

Source: SPEC_FULL.md, §3, `SplitResult`, and §4.6, `split_source`.

## Main declarations

* `Split`: the outcome, with paths and texts when there is something to split.
* `Split.ofSource`: splits a source.
* `Split.log`: the log entries of splitting a source.
-/

namespace ClientBoundary

/-- The outcome of splitting a source. -/
structure Split where
  needsSplit : Bool
  sourcePath : String
  serverPath : Option String := none
  clientPath : Option String := none
  serverText : Option String := none
  clientText : Option String := none
  /-- Whether the two halves have been written. -/
  written : Bool := false
  deriving DecidableEq, Repr

namespace Split

/-- Splits a partitioned module. -/
def ofPartition (bytes : Bytes) (path : Path) (partition : Partition) : Except Failure Split := do
  let server ← siblingPath path "server"
  let client ← siblingPath path "client"
  let serverText ← ClientBoundary.serverText bytes path partition
  let clientText ← ClientBoundary.clientText bytes partition
  return {
    needsSplit := true
    sourcePath := path.toString
    serverPath := some server.toString
    clientPath := some client.toString
    serverText := some serverText
    clientText := some clientText }

/-- Splits a module. -/
def ofProgram (bytes : Bytes) (path : Path) (program : CodeTree) : Except Failure Split := do
  let classification := classify program (some path.toString)
  let (partition, tainted) ← partitionModule classification.isTainted program
  if tainted then ofPartition bytes path partition
  else return { needsSplit := false, sourcePath := path.toString }

/-- Splits a source. -/
def ofSource (parser : Parser) (grammar : Grammar) (bytes : Bytes) (path : Path) :
    Except Failure Split := do
  let program ← CodeTree.ofSource parser grammar bytes
  ofProgram bytes path program

/-- The entry that an untainted module leaves in the log. -/
def untaintedEntry (path : Path) : LogEntry where
  severity := .info
  origin := "rsc_guardian.core.split"
  message := s!"No client-only features in {path}"

/-- The log entries of splitting a source. -/
def log (parser : Parser) (grammar : Grammar) (bytes : Bytes) (path : Path) :
    List LogEntry :=
  match CodeTree.ofSource parser grammar bytes with
  | .error _ => []
  | .ok program =>
    let classification := classify program (some path.toString)
    classification.entry ::
      match partitionModule classification.isTainted program with
      | .ok (_, false) => [untaintedEntry path]
      | _ => []

end Split

end ClientBoundary
