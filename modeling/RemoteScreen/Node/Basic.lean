import RemoteScreen.Action.Basic

/-!
# Node/Basic — nodes of a screen's description

A node names a primitive and gives it properties, a style, children and actions for its events.
Its guards say when it shows and when it takes events.
-/

namespace RemoteScreen

/-- When a node shows, and when it takes events. -/
structure Guards where
  «show» : Option Condition := none
  hide : Option Condition := none
  enable : Option Condition := none
  disable : Option Condition := none
  deriving Inhabited

/-- A node of a screen's description. -/
structure Node where
  kind : String
  id : Option String := none
  props : Fields := []
  style : Fields := []
  children : List Node := []
  actions : Keyed Action := []
  guards : Guards := {}
  deriving Inhabited

/-- Equal as data. -/
def Guards.same (a b : Guards) : Bool :=
  sameOption Condition.same a.show b.show && sameOption Condition.same a.hide b.hide
    && sameOption Condition.same a.enable b.enable
    && sameOption Condition.same a.disable b.disable

/-- Equal as data: the same keys with equal values. -/
def sameEntries {α : Type} (same : α → α → Bool) : Keyed α → Keyed α → Bool
  | [], [] => true
  | (k, a) :: as, (l, b) :: bs => k == l && same a b && sameEntries same as bs
  | _, _ => false

namespace Node

/-- A node of a kind, with nothing else said. -/
def new (kind : String) : Node := { kind }

/-- The node under an id. -/
def withId (n : Node) (id : String) : Node := { n with id := some id }

/-- The node with a property. -/
def withProp (n : Node) (name : String) (v : Json) : Node :=
  { n with props := n.props.insert name v }

/-- The node with one more child. -/
def withChild (n child : Node) : Node := { n with children := n.children ++ [child] }

/-- The node with an action for an event. -/
def withAction (n : Node) (event : String) (a : Action) : Node :=
  { n with actions := n.actions.insert event a }

mutual

/-- Equal as data. -/
def same : Node → Node → Bool
  | ⟨k, i, p, s, cs, as, g⟩, ⟨k', i', p', s', cs', as', g'⟩ =>
    k == k' && i == i' && Json.sameFields p p' && Json.sameFields s s' && sameAll cs cs'
      && sameEntries Action.same as as' && g.same g'

/-- Equal as data, one by one. -/
def sameAll : List Node → List Node → Bool
  | [], [] => true
  | n :: ns, m :: ms => same n m && sameAll ns ms
  | _, _ => false

end

end Node

end RemoteScreen
