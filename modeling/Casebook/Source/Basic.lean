import Casebook.Error
import Casebook.IdSet

namespace Casebook

-- Every call may fail, and may change the state.
structure Source (σ : Type) where
  -- All ids, in the order of the source.
  scan : σ → Except Error (List CaseId) × σ
  withColumns : List String → List String → σ → Except Error IdSet × σ
  withEdge : String → String → σ → Except Error IdSet × σ

end Casebook
