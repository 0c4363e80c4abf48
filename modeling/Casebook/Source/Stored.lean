import Casebook.Source.Basic
import Casebook.Store.Basic

namespace Casebook

def Source.stored : Source Store where
  scan store := (store.ids, store)
  withColumns names values store := (.ok (store.withColumns names values), store)
  withEdge name value store := (.ok (store.withEdge name value), store)

end Casebook
