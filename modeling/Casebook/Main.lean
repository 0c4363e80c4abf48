import Casebook.Archive
import Casebook.Program

namespace Casebook
open Arguments (Invocation)

def filesOf (invocation : Invocation) : List String :=
  let imported : List String :=
    match invocation.task with
    | .importFile path => [path]
    | _ => []
  invocation.configFile.toList ++ imported

def readText (path : String) : IO (Except String String) := do
  try
    return .ok (← IO.FS.readFile path)
  catch error =>
    match error with
    | .noFileOrDirectory .. => return .error Program.noSuchFile
    | other => return .error (toString other)

def archivePath (dataDir : String) : String := dataDir ++ "/cases.json"

def loadStore (dataDir : String) : IO (Except String Store) := do
  match ← readText (archivePath dataDir) with
  | .ok text => return (Archive.read text).elim (.error "the archive is damaged") .ok
  | .error detail => return if detail = Program.noSuchFile then .ok .empty else .error detail

def saveStore (left : Program.Left) : IO Unit := do
  left.store.forM fun store => do
    IO.FS.createDirAll left.dataDir
    IO.FS.writeFile (archivePath left.dataDir) (Archive.write store)

def emit (outcome : Outcome) : IO UInt32 := do
  IO.print outcome.output
  IO.eprint outcome.errors
  return outcome.code

def runInvocation (invocation : Invocation) : IO Outcome := do
  let texts ← (filesOf invocation).mapM fun path => return (path, ← readText path)
  let store ← loadStore invocation.dataDir
  let files : Program.Files := fun path => (texts.lookup path).getD (.error Program.noSuchFile)
  let (outcome, left) := Program.run files (fun _ => store.map (⟨·, files⟩)) (.run invocation)
  left.forM saveStore
  return outcome

end Casebook

def main (arguments : List String) : IO UInt32 := do
  match Casebook.Arguments.read arguments with
  | .run invocation => Casebook.emit (← Casebook.runInvocation invocation)
  | request =>
    let files : Casebook.Program.Files := fun _ => .error Casebook.Program.noSuchFile
    Casebook.emit (Casebook.Program.run files (fun _ => .ok ⟨.empty, files⟩) request).1
