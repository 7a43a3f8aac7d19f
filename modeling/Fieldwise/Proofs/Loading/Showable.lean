import Fieldwise.Manifest

/-! # Data that messages can show

A document can be shown as a whole exactly if each of its parts can. A manifest whose document can be
shown has no name that cannot. -/

namespace Fieldwise

namespace Datum

end Datum

namespace Manifest

end Manifest

end Fieldwise
