import Casebook.Directory.StoreFiles

namespace Casebook.Directory

-- The null device is there besides the files, and it is empty.
def ofFiles (files : List (String × String)) : Directory :=
  { files := files.map (fun file => (stepsOf file.1, some file.2)) ++ [(["/", "dev", "null"], some "")] }

def files? (directory : Directory) : Program.Files := fun path => (directory.read path).mapError PathFault.message

-- A data directory without a store has an empty one.
def stores? (directory : Directory) : Program.Stores := fun dataDir =>
  match directory.openStore dataDir with
  | (.error fault, _) => .error fault.message
  | (.ok place, opened) => .ok ⟨(opened.stores.lookup place).getD .empty, opened.files?⟩

-- Where no store could be opened, what has been made on the way to it is left.
def keep (directory : Directory) (left : Program.Left) : Directory :=
  match directory.openStore left.dataDir, left.store with
  | (.ok place, opened), some store =>
    { opened.write (place ++ ["db"]) none with
      stores := (place, store) :: opened.stores.filter (·.1 != place) }
  | (_, opened), _ => opened

def run (directory : Directory) (arguments : List String) : Outcome × Directory :=
  let (outcome, left) := Program.run directory.files? directory.stores? (Arguments.read arguments)
  (outcome, left.elim directory directory.keep)

end Casebook.Directory
