import Casebook.Directory.StoreSettings

namespace Casebook

namespace Directory

abbrev Opening := Directory → Option StoreFault × Directory

def Opening.andThen (first second : Opening) : Opening := fun directory =>
  match first directory with
  | (none, directory) => second directory
  | failed => failed

def entry (dataDir name : String) : String := dataDir ++ if dataDir.endsWith "/" then name else "/" ++ name

-- Makes the folder unless something is there under its name, be it a file.
def requireFolder (directory : Directory) (path : String) : Except PathFault Place × Directory :=
  match directory.resolve path with
  | .ok place => (.ok place, directory)
  | .error _ => directory.makeFolder path

-- Up to this many bytes settings say nothing and are written anew.
def emptySettings : Nat := 8

def openSettings (place : Place) : Opening := fun directory =>
  let place := place ++ ["conf"]
  if directory.isFolder place then (some (.path .aFolder), directory)
  else
    match directory.files.lookup place with
    | some (some text) =>
      if (Text.utf8 text).length ≤ emptySettings then (none, directory.write place none)
      else ((StoreSettings.ofText? text).elim (some .corrupted) StoreSettings.fault?, directory)
    | _ => (none, directory.write place none)

-- The data of a new store are not written before the run ends.
def openData (place : Place) : Opening := fun directory =>
  let place := place ++ ["db"]
  if directory.isFolder place then (some (.path .aFolder), directory)
  else (none, if directory.isFile place then directory else directory.write place (some ""))

-- What a store has written before it holds anything, in bytes.
def emptySize : Nat := 491

def messageSize (key value : Nat) : Nat := 21 + key + value

-- Up to eight bytes lie in a place of that size, more of them lie outside.
def textSize (text : String) : Nat :=
  let size := (Text.utf8 text).length
  if size ≤ 8 then 8 else 8 + size

def totalSize (sizes : List Nat) : Nat := sizes.foldl (fun total size => total + size) 0

def pairSize (pair : String × String) : Nat := textSize pair.1 + textSize pair.2

def rowSize : Store.Row → Nat
  | .readable record =>
    24 + totalSize (record.columns.map pairSize) +
      totalSize (record.edges.map fun edge => pairSize (edge.name, edge.target))
  | .unreadable bytes => bytes.length

-- What a store has written at least: the entries that it holds. Those that it held before are not counted.
def written (store : Store) : Nat :=
  let posted (postings : Store.Postings) : Nat :=
    totalSize (postings.tree.entries.map fun entry => messageSize entry.1.length entry.2.length)
  emptySize + totalSize (store.rows.entries.map fun entry => messageSize entry.1.length (rowSize entry.2)) +
    posted store.columns + posted store.relationships

def snapshotName (size : Nat) : String :=
  "snap." ++ String.ofList (List.leftpad 16 '0' ((Nat.toDigits 16 size).map Char.toUpper))

-- Snapshots are found by the text of their path, so none are if the last step of the path to the data
-- directory stays where it is.
def findsSnapshots (dataDir : String) : Bool :=
  match (stepsOf (entry dataDir "")).reverse with
  | _ :: last :: _ => last != "" && last != "."
  | _ => true

def isSnapshot (name : String) : Bool := name.startsWith "snap." && !name.endsWith ".in___motion"

def lastSnapshot? (directory : Directory) (dataDir : String) (place : Place) : Option String :=
  let snapshots := if findsSnapshots dataDir then (directory.names place).filter isSnapshot else []
  snapshots.find? fun name => snapshots.all fun other => !(Text.utf8 name < Text.utf8 other)

def readSnapshot (dataDir : String) (place : Place) : Opening := fun directory =>
  match directory.lastSnapshot? dataDir place with
  | none => (none, directory)
  | some name =>
    if directory.isFolder (place ++ [name]) then (some (.path .aFolder), directory)
    else
      match directory.files.lookup (place ++ [name]) with
      | some (some _) => (some .corrupted, directory)
      | _ => (none, directory)

-- A snapshot is written under another name first, the longest that has to fit.
def fitsPath (dataDir : String) : Opening := fun directory =>
  (if isTooLong (entry dataDir (snapshotName 0 ++ ".generating")) then some (.path .nameTooLong) else none, directory)

-- Unless nothing has been written since the last snapshot there is a new one. The files that are found to be
-- snapshots are removed then.
def writeSnapshot (dataDir : String) (place : Place) (size : Nat) : Opening := fun directory =>
  let name := snapshotName size
  if directory.lastSnapshot? dataDir place = some name then (none, directory)
  else
    let isOld (file : Place) : Bool := file.dropLast == place && (file.getLast?.any isSnapshot)
    let files := if findsSnapshots dataDir then directory.files.filter fun file => !isOld file.1 else directory.files
    (none, { directory with files }.write (place ++ [name]) none)

-- Large values lie under numbers; those above what has been written are removed, which a folder cannot be.
def dropLargeValues (place : Place) (size : Nat) : Opening := fun directory =>
  if !directory.isFolder place then (some (.path .notAFolder), directory)
  else
    let isAbove (name : String) : Bool := (numberBelow? 0x8000000000000000 name).any (size < ·)
    let isInTheWay (name : String) : Bool := isAbove name && directory.isFolder (place ++ [name])
    (if (directory.names place).any isInTheWay then some (.path .aFolder) else none, directory)

def openParts (dataDir : String) (place large : Place) (store : Option Store) : Opening :=
  let always := (openSettings place).andThen (openData place) |>.andThen (readSnapshot dataDir place)
    |>.andThen (fitsPath dataDir)
  match store with
  | none => always
  | some store =>
    always.andThen (writeSnapshot dataDir place (written store)) |>.andThen (dropLargeValues large (written store))

def openStore (directory : Directory) (dataDir : String) : Except StoreFault Place × Directory :=
  match directory.requireFolder (entry dataDir "blobs") with
  | (.error fault, directory) => (.error (.path fault), directory)
  | (.ok large, directory) =>
    let place := large.dropLast
    match openParts dataDir place large (directory.stores.lookup place) directory with
    | (some fault, directory) => (.error fault, directory)
    | (none, directory) => (.ok place, directory)

end Directory
end Casebook
