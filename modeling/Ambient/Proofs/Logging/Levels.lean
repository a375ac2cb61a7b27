import Ambient.Logging
import Ambient.Proofs.Lexical.Name
import Mathlib.Data.List.Induction
import Mathlib.Data.String.Basic

namespace Ambient.Logging

/-!
# Levels

A text is a level exactly if it is the name of one, in small or capital letters, or its number.
-/

end Ambient.Logging
