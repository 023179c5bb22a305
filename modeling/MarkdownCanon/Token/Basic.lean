import MarkdownCanon.Document.Absence
import MarkdownCanon.Value

/-! What a Markdown parser hands over. It comes as loose records. A field that is missing has a
default, but one that is there without a value has none: whether that is a fault is for those to say
who read the field. -/

namespace MarkdownCanon

/-- The attributes of a token. -/
structure Attributes where
  level : Option Int := some 1
  info : String := ""
  ordered : Bool := false
  start : Option Int := some 1
  checked : Bool := false
  align : Option String := none
  url : Option String := some ""
  title : Option String := none
  deriving DecidableEq, Repr, Inhabited

/-- What a token says of itself. `tag` names its type; it may be left out. `hasChildren` tells
whether there is a list of children, be it empty. -/
structure TokenData where
  tag : Option Value := none
  raw : Option String := some ""
  attributes : Option Attributes := some {}
  hasChildren : Bool := true
  style : String := ""
  marker : String := ""
  bullet : String := ""
  tight : Bool := true
  deriving Inhabited

/-- A piece of a parsed text with the pieces inside it. -/
inductive Token where
  | mk (data : TokenData) (children : List Token)
  deriving Inhabited

namespace Attributes

def ofValue (v : Value) : Attributes :=
  { level := ((v.get? "level").map Value.whole?).getD (some 1)
    info := ((v.get? "info").bind Value.text?).getD ""
    ordered := (v.get? "ordered").any Value.truthy
    start := ((v.get? "start").map Value.whole?).getD (some 1)
    checked := (v.get? "checked").any Value.truthy
    align := (v.get? "align").bind Value.text?
    url := ((v.get? "url").map Value.text?).getD (some "")
    title := (v.get? "title").bind Value.text? }

end Attributes

namespace TokenData

/-- Takes in one field of a token; fields that nothing depends on are left out. -/
def withField (data : TokenData) (key : String) (v : Value) : TokenData :=
  match key with
  | "type" => { data with tag := some v }
  | "raw" => { data with raw := v.text? }
  | "attrs" =>
    { data with attributes := if v.same .null then none else some (Attributes.ofValue v) }
  | "children" => { data with hasChildren := !v.same .null }
  | "style" => { data with style := v.text?.getD "" }
  | "marker" => { data with marker := v.text?.getD "" }
  | "bullet" => { data with bullet := v.text?.getD "" }
  | "tight" => { data with tight := v.truthy }
  | _ => data

end TokenData

namespace Token

def data : Token → TokenData
  | mk data _ => data

def children : Token → List Token
  | mk _ children => children

def raw (t : Token) : Option String := t.data.raw

def hasTag (data : TokenData) (tag : String) : Bool := data.tag.any (Value.same (.text tag))

def isA (t : Token) (tag : String) : Bool := hasTag t.data tag

/-- A token of plain text. -/
def ofText (raw : String) : Token := .mk { tag := some (.text "text"), raw := some raw } []

mutual

/-- Reads a token off a record of its fields. -/
def ofValue : Value → Token
  | .record fields => ofFields fields
  | _ => .mk {} []

def ofFields : List (String × Value) → Token
  | [] => .mk {} []
  | (key, v) :: rest =>
    match ofFields rest with
    | .mk data children =>
      .mk (data.withField key v) (if key == "children" then ofList v else children)

def ofList : Value → List Token
  | .list items => ofItems items
  | _ => []

def ofItems : List Value → List Token
  | [] => []
  | v :: rest => ofValue v :: ofItems rest

end

/-- Joins `x` with what follows it for as long as `join?` does, and so on with the rest. -/
def joinOnto (join? : α → α → Option α) (x : α) : List α → List α
  | [] => [x]
  | y :: rest =>
    match join? x y with
    | some z => joinOnto join? z rest
    | none => x :: joinOnto join? y rest

def joinAdjacent (join? : α → α → Option α) : List α → List α
  | [] => []
  | x :: rest => joinOnto join? x rest

/-- Two pieces of plain text as one. -/
def joinTexts? (a b : Token) : Option Token :=
  if a.isA "text" && b.isA "text" then some (ofText (a.raw.getD "" ++ b.raw.getD "")) else none

/-- What keeps two pieces of plain text from being joined. -/
def textFault? : Option String → Option String → Option Absence
  | some _, some _ => none
  | some _, none => some .suffixed
  | none, some _ => some (.extended "str")
  | none, none => some (.extended Absence.kindName)

/-- What keeps the runs of plain text among tokens from being joined, if anything does. -/
def joinFault? : List Token → Option Absence
  | a :: b :: rest =>
    ((if a.isA "text" && b.isA "text" then textFault? a.raw b.raw else none) <|>
      joinFault? (b :: rest))
  | _ => none

end Token

end MarkdownCanon
