import ClientBoundary.CodeTree
import ClientBoundary.Component

/-!
# Blocks of generated text

A generated module is a list of blocks, one below the other. A block is a line written for the
occasion, a statement copied from the source byte for byte, or the import of a client half.

Source: SPEC_FULL.md, §4.3 and §4.4.
-/

namespace ClientBoundary

/-- A piece of a generated module. -/
inductive Block where
  | line (text : String)
  | copy (statement : CodeTree)
  | clientImport (path : Path)

/-- The text of a block, `bytes` being the source. -/
def Block.text (bytes : Bytes) : Block → Except Failure String
  | .line text => .ok text
  | .copy statement => statement.sourceText bytes
  | .clientImport path => do
    let specifier ← clientSpecifier path
    return s!"import {clientName path} from '{specifier}';"

/-- The text of a list of blocks, each of them ended by a line feed. -/
def renderBlocks (bytes : Bytes) (blocks : List Block) : Except Failure String := do
  let texts ← blocks.mapM (Block.text bytes)
  return "\n".intercalate texts ++ "\n"

end ClientBoundary
