namespace Casebook.Store

structure Settings where
  path : String := "./casedb_data"
  -- In bytes.
  cacheCapacity : UInt64 := 256 * 1024 * 1024
  -- Without an interval every write is flushed.
  flushEveryMs : Option UInt64 := some 1000
  compression : Bool := true
  temporary : Bool := false
  deriving DecidableEq, Repr

def Settings.at (path : String) : Settings := { path }

def Settings.throwaway : Settings := { path := "", temporary := true }

end Casebook.Store
