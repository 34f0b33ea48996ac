namespace SearchFilter.Yaml

/-- What breaks a text: its characters, its tokens, their grammar, its references, or the values
that its scalars denote. -/
inductive Fault
  | characters
  | tokens
  | grammar
  | references
  | values
  deriving DecidableEq, Repr

end SearchFilter.Yaml
