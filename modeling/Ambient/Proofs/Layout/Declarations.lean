import Ambient.Proofs.Layout.Members

namespace Ambient

open Text

/-!
# The layout of declarations

The declarations of plain statements stand on lines that are indented by their braces. The
declarators of a variable statement stand one step further in.
-/

section

variable {layout : Layout}

theorem InterfaceBase.text_inline {base : InterfaceBase} (hid : base.id.isPlain = true)
    (harguments : FlowType.arePlain base.arguments = true) : base.text.Ensures IsInline := by
  refine (FlowType.texts_inline _ harguments).bind fun texts htexts => ?_
  refine (base.id.text_inline hid).bind fun name hname => ?_
  exact Written.ensures_pure (hname.append (isInline_generics htexts))

end

end Ambient
