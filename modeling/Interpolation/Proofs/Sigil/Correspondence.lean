import Interpolation.Sigil

/-!
# Corresponding sigils

Trees correspond if they are built alike, their names and the places of their nodes correspond, and
where their arguments are not built alike they are given to correspond.
-/

namespace Interpolation

/-- What in two trees is taken to correspond: names, places in their sources, and arguments whatever
is in them. -/
structure Correspondence where
  name : Name → Name → Prop
  place : Span → Span → Prop
  /-- The arguments that are given to correspond. -/
  argument : Argument → Argument → Prop
  text_eq : ∀ {n n'}, name n n' → n'.text = n.text
  span : ∀ {n n'}, name n n' → place n.span n'.span
  join : ∀ {p p' q q'}, place p p' → place q q' → place (p.join q) (p'.join q')

namespace Correspondence

mutual

/-- Trees of corresponding nodes. Where sigils begin and end does not matter. -/
inductive Sigils (k : Correspondence) : Sigil → Sigil → Prop where
  | mk {root root' : Node} {members members' : List Node} {span span' : Span}
    (hroot : Nodes k root root') (hmembers : Members k members members') :
    Sigils k (.mk root members span) (.mk root' members' span')

inductive Members (k : Correspondence) : List Node → List Node → Prop where
  | nil : Members k [] []
  | cons {node node' : Node} {nodes nodes' : List Node} (hnode : Nodes k node node')
    (hnodes : Members k nodes nodes') :
    Members k (node :: nodes) (node' :: nodes')

inductive Nodes (k : Correspondence) : Node → Node → Prop where
  | mk {name name' : Name} {a a' : Option Argument} {span span' : Span} (hname : k.name name name')
    (ha : Options k a a') (hspan : k.place span span') :
    Nodes k (.mk name a span) (.mk name' a' span')

inductive Options (k : Correspondence) : Option Argument → Option Argument → Prop where
  | none : Options k none none
  | some {a a' : Argument} (h : Arguments k a a') : Options k (some a) (some a')

inductive Arguments (k : Correspondence) : Argument → Argument → Prop where
  | given {a a' : Argument} (h : k.argument a a') : Arguments k a a'
  | sigil {s s' : Sigil} (h : Sigils k s s') : Arguments k (.sigil s) (.sigil s')
  | variable {name name' : Name} (h : k.name name name') :
    Arguments k (.variable name) (.variable name')
  | literal {l : Literal} {span span' : Span} : Arguments k (.literal l span) (.literal l span')

end

end Correspondence
end Interpolation
