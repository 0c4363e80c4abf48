import Casebook.Directory.Basic

namespace Casebook

inductive StoreFault where
  | path (fault : PathFault)
  | corrupted
  | otherCompression (written : Bool)
  | otherSegmentSize (written : Nat)
  | otherVersion (written : Nat × Nat)
  deriving DecidableEq, Repr

def currentVersion : Nat × Nat := (0, 34)

def versionText (version : Nat × Nat) : String := toString version.1 ++ "." ++ toString version.2

def StoreFault.message : StoreFault → String
  | .path fault => "IO error: " ++ fault.message
  | .corrupted => "Read corrupted data at file offset None backtrace ()"
  | .otherCompression written =>
    "Unsupported: cannot change compression values across restarts. old value of use_compression loaded from " ++
      "disk: " ++ toString written ++ ", currently set value: " ++ toString (!written) ++ "."
  | .otherSegmentSize written =>
    "Unsupported: cannot change the io buffer size across restarts. please change it back to " ++ toString written
  | .otherVersion written =>
    "Unsupported: This database was created using pagecache version " ++ versionText written ++
      ", but our pagecache version is " ++ versionText currentVersion ++ ". Please perform an upgrade using the " ++
      "sled::Db::export and sled::Db::import methods."

def numberBelow? (limit : Nat) (text : String) : Option Nat :=
  let digits := if text.startsWith "+" then text.toList.tail else text.toList
  let value := digits.foldl (fun value c => 10 * value + (c.toNat - '0'.toNat)) 0
  if digits != [] && digits.all Char.isDigit && value < limit then some value else none

structure StoreSettings where
  segmentSize : Nat
  compression : Bool
  version : Nat × Nat
  deriving DecidableEq, Repr

namespace StoreSettings

def current : StoreSettings := ⟨512 * 1024, true, currentVersion⟩

def wordLimit : Nat := 0x10000000000000000

def field? (line : String) : Option (String × String) :=
  match line.splitOn ": " with
  | name :: value :: _ => some (name, value)
  | _ => none

def flag? (text : String) : Option Bool :=
  if text = "true" then some true else if text = "false" then some false else none

def version? (text : String) : Option (Nat × Nat) :=
  match text.splitOn "." with
  | major :: minor :: _ => do return (← numberBelow? wordLimit major, ← numberBelow? wordLimit minor)
  | _ => none

-- Lines end with a line feed or with a carriage return before it. Behind the last end there is no line
-- unless there is a text.
def linesOf (text : String) : List String :=
  let parts := text.splitOn "\n"
  let ended (line : String) : String := if line.endsWith "\r" then (line.dropEnd 1).toString else line
  parts.dropLast.map ended ++ (parts.getLast?.filter (· != "")).toList

def ofLines? (text : String) : Option StoreSettings := do
  let fields ← (linesOf text).mapM field?
  let value (name : String) : Option String := fields.reverse.lookup name
  let segmentSize ← (value "segment_size").bind (numberBelow? wordLimit)
  let compression ← (value "use_compression").bind flag?
  let version ← (value "version").bind version?
  return { segmentSize, compression, version }

-- Four bytes of checksum are at the end of the file; they are not looked at.
def ofText? (text : String) : Option StoreSettings :=
  let bytes := Text.utf8 text
  (String.fromUTF8? ⟨(bytes.take (bytes.length - 4)).toArray⟩).bind ofLines?

def fault? (settings : StoreSettings) : Option StoreFault :=
  if settings.compression != current.compression then some (.otherCompression settings.compression)
  else if settings.segmentSize != current.segmentSize then some (.otherSegmentSize settings.segmentSize)
  else if settings.version != current.version then some (.otherVersion settings.version)
  else none

end StoreSettings

end Casebook
