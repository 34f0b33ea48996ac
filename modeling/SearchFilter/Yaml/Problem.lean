import SearchFilter.Failure

namespace SearchFilter.Yaml

inductive Problem
  | broken (fault : Fault)
  | failed (failure : Failure)
  deriving Repr

end SearchFilter.Yaml
