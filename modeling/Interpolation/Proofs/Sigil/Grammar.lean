import Interpolation.Sigil.Parser

/-!
# The grammar of sigils

The grammar of sigils, as relations between tokens and trees:

    sigil    := OPENING node ("." member)* CLOSING
    node     := IDENTIFIER ["=" argument]
    member   := (IDENTIFIER | NUMBER) ["=" argument]
    argument := sigil | STRING | ["-"] NUMBER | IDENTIFIER

An identifier as an argument is a literal if it is one of the seven keywords, and a variable
otherwise. Numbers are those of 64-bit integers. A tree tells where its parts stand in the source: a
name where its token does, a node from its name to its argument, and a sigil from its opening
delimiter to its closing one.
-/

namespace Interpolation

/-- The identifiers that are literals. -/
inductive Keyword : String → Literal → Prop where
  | true : Keyword "true" (.bool .true)
  | True : Keyword "True" (.bool .true)
  | false : Keyword "false" (.bool .false)
  | False : Keyword "False" (.bool .false)
  | NULL : Keyword "NULL" .null
  | null : Keyword "null" .null
  | None : Keyword "None" .null

theorem keyword?_eq_some {name : String} {l : Literal} :
    keyword? name = some l ↔ Keyword name l := by
  constructor
  · intro h
    unfold keyword? at h
    simp only [List.mem_cons, List.not_mem_nil, or_false] at h
    split at h
    · next hn =>
      cases h
      rcases hn with rfl | rfl
      · exact .true
      · exact .True
    split at h
    · next hn =>
      cases h
      rcases hn with rfl | rfl
      · exact .false
      · exact .False
    split at h
    · next hn =>
      cases h
      rcases hn with rfl | rfl | rfl
      · exact .NULL
      · exact .null
      · exact .None
    · exact absurd h nofun
  · rintro (_ | _ | _ | _ | _ | _ | _) <;> decide

/-- The token names a node, the first one of its sigil or a later one. -/
def Token.NamesNode (first : Bool) (t : Token) : Prop :=
  t.kind = .identifier ∨ first = false ∧ t.kind = .number

/-- A string stands between quotes. -/
def Token.Quoted (t : Token) :
    Prop := t.kind = .string → ∃ quote body, t.text = quote :: body ++ [quote]

/-- The number that digits stand for. -/
def digitsValue (cs : List Char) : Int := (Nat.ofDigitChars 10 cs 0 : Int)

mutual

inductive ReadsSigil : List Token → Sigil → Prop where
  | mk {opening closing : Token} {ts us : List Token} {root : Node} {members : List Node}
    (ho : opening.kind = .opening) (hroot : ReadsNode true ts root)
    (hmembers : ReadsMembers us members) (hc : closing.kind = .closing) :
    ReadsSigil (opening :: (ts ++ us ++ [closing]))
      (.mk root members (opening.span.join closing.span))

inductive ReadsMembers : List Token → List Node → Prop where
  | nil : ReadsMembers [] []
  | cons {dot : Token} {ts us : List Token} {node : Node} {nodes : List Node} (hd : dot.kind = .dot)
    (hnode : ReadsNode false ts node) (hmembers : ReadsMembers us nodes) :
    ReadsMembers (dot :: (ts ++ us)) (node :: nodes)

inductive ReadsNode : (first : Bool) → List Token → Node → Prop where
  | bare {first : Bool} {t : Token} (ht : t.NamesNode first) : ReadsNode first [t] (.bare t.name)
  | withArgument {first : Bool} {t equals : Token} {ts : List Token} {a : Argument}
    (ht : t.NamesNode first) (he : equals.kind = .equals) (ha : ReadsArgument ts a) :
    ReadsNode first (t :: equals :: ts) (.withArgument t.name a)

inductive ReadsArgument : List Token → Argument → Prop where
  | sigil {ts : List Token} {s : Sigil} (h : ReadsSigil ts s) : ReadsArgument ts (.sigil s)
  | variable {t : Token} (ht : t.kind = .identifier) (hv : ∀ l, ¬ Keyword t.name.text l) :
    ReadsArgument [t] (.variable t.name)
  | keyword {t : Token} {l : Literal} (ht : t.kind = .identifier) (hl : Keyword t.name.text l) :
    ReadsArgument [t] (.literal l t.span)
  | string {t : Token} {quote : Char} {body : List Char} (ht : t.kind = .string)
    (hs : t.text = quote :: body ++ [quote]) :
    ReadsArgument [t] (.literal (.string (String.ofList body)) t.span)
  | number {t : Token} {n : Int64} (ht : t.kind = .number) (hn : n.toInt = digitsValue t.text) :
    ReadsArgument [t] (.literal (.integer n) t.span)
  | negative {minus t : Token} {n : Int64} (hm : minus.kind = .minus) (ht : t.kind = .number)
    (hn : n.toInt = -digitsValue t.text) :
    ReadsArgument [minus, t] (.literal (.integer n) (minus.span.join t.span))

end

end Interpolation
