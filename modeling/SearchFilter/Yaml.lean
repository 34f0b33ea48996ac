import SearchFilter.Yaml.Node.Content
import SearchFilter.Yaml.Node.Grammar

namespace SearchFilter.Yaml

/-- The value that a text denotes. -/
def parse (text : String) : Except Problem Value := do
  let chars := text.toList
  if !chars.all isAllowed then throw (.broken .characters)
  match ← Node.ofTokens? (.ofText chars) with
  | some root => root.content
  | none => pure .null

end SearchFilter.Yaml
