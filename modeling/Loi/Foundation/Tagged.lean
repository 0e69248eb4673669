import Loi.Foundation.Projection

/-! A machine whose inputs carry tags, which it hands on with the outputs of each. What a
party alone has to say then comes with the tags of its own inputs. -/

set_option autoImplicit false

namespace Foundation.Machine

variable {State Local Input Output Error Tag : Type}

variable {machine : Machine State Input Output Error} {party : Machine Local Input Output Error}
  {view : State → Local} {own : Input → Bool} {mine : Output → Bool}
  {legal : List Input → Input → Prop} {invariant : List Input → State → Prop}

end Foundation.Machine
