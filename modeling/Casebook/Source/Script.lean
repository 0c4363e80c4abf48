import Casebook.Source.Basic

namespace Casebook

abbrev Script := List (Except Error (List CaseId))

-- The last result is given again for ever.
def Script.scan : Script → Except Error (List CaseId) × Script
  | [] => (.ok [], [])
  | [last] => (last, [last])
  | next :: later => (next, later)

def Source.script : Source Script where
  scan := Script.scan
  withColumns _ _ script := (.ok .empty, script)
  withEdge _ _ script := (.ok .empty, script)

end Casebook
