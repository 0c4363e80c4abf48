import Casebook.Program

namespace Casebook

-- The names on the way to a place, from the working directory or from the root.
abbrev Place := List String

inductive PathFault where
  | missing
  | notAFolder
  | aFolder
  | taken
  | nameTooLong
  | notText
  deriving DecidableEq, Repr

def PathFault.message : PathFault → String
  | .missing => Program.noSuchFile
  | .notAFolder => "Not a directory (os error 20)"
  | .aFolder => "Is a directory (os error 21)"
  | .taken => "File exists (os error 17)"
  | .nameTooLong => "File name too long (os error 36)"
  | .notText => "stream did not contain valid UTF-8"

structure Directory where
  files : List (Place × Option String)
  -- Those that have been made; what is on the way to a file is a folder too.
  folders : List Place := []
  stores : List (Place × Store) := []

namespace Directory

def root : Place := ["/"]

-- The working directory or one that it lies in.
def isAbove (place : Place) : Bool := place.all (· == "..")

def parent (place : Place) : Place :=
  if place = root then root else if isAbove place then place ++ [".."] else place.dropLast

def startOf (path : String) : Place := if path.startsWith "/" then root else []

def stepsOf (path : String) : List String := (path.toList.splitOn '/').map String.ofList

-- In bytes, of a name and of a whole path.
def longestName : Nat := 255

def longestPath : Nat := 4095

def isTooLong (path : String) : Bool := longestPath < (Text.utf8 path).length

def isFile (directory : Directory) (place : Place) : Bool := (directory.files.lookup place).isSome

def isFolder (directory : Directory) (place : Place) : Bool :=
  isAbove place || place == root || directory.folders.contains place ||
    directory.files.any fun file => place.isPrefixOf file.1 && place != file.1

def follow (directory : Directory) (place : Place) (step : String) : Except PathFault Place :=
  if !directory.isFolder place then .error .notAFolder
  else if step = "" ∨ step = "." then .ok place
  else if step = ".." then .ok (parent place)
  else if longestName < (Text.utf8 step).length then .error .nameTooLong
  else if directory.isFolder (place ++ [step]) || directory.isFile (place ++ [step]) then .ok (place ++ [step])
  else .error .missing

def resolve (directory : Directory) (path : String) : Except PathFault Place :=
  if isTooLong path then .error .nameTooLong else (stepsOf path).foldlM directory.follow (startOf path)

def read (directory : Directory) (path : String) : Except PathFault String :=
  match directory.resolve path with
  | .error fault => .error fault
  | .ok place =>
    match directory.files.lookup place with
    | some (some text) => .ok text
    | some none => .error .notText
    | none => .error .aFolder

def write (directory : Directory) (place : Place) (text : Option String) : Directory :=
  { directory with files := (place, text) :: directory.files.filter (·.1 != place) }

-- Goes the steps and makes the folders that are missing; those that have been made stay when a later step
-- fails. A file cannot be gone through, and where folders are being made it takes the place of one.
def makeSteps (directory : Directory) (place : Place) (making : Bool) :
    List String → Except PathFault Place × Directory
  | [] => (if directory.isFolder place then .ok place else .error .taken, directory)
  | step :: rest =>
    match directory.follow place step with
    | .ok place => makeSteps directory place making rest
    | .error .missing =>
      let place := place ++ [step]
      makeSteps { directory with folders := place :: directory.folders } place true rest
    | .error .notAFolder => (.error (if making then .taken else .notAFolder), directory)
    | .error fault => (.error fault, directory)

def makeFolder (directory : Directory) (path : String) : Except PathFault Place × Directory :=
  if isTooLong path then (.error .nameTooLong, directory)
  else directory.makeSteps (startOf path) false (stepsOf path)

def names (directory : Directory) (place : Place) : List String :=
  (directory.folders ++ directory.files.map (·.1)).filterMap fun below =>
    if place.isPrefixOf below then below[place.length]? else none

end Directory
end Casebook
