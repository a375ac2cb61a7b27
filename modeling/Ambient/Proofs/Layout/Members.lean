import Ambient.Proofs.Declaration.Parts
import Ambient.Proofs.Emission.Declared
import Ambient.Proofs.Layout.Parameters

namespace Ambient

open Text

/-!
# The layout of members

The members of plain classes and interfaces stand on lines that are indented by their
braces.
-/

section

variable {layout : Layout}

end

end Ambient
