import MarkdownCanon.Document.Node
import MarkdownCanon.FieldNames
import MarkdownCanon.Value

/-! Nodes from fields of no fixed type, which are checked one after the other. -/

namespace MarkdownCanon

/-- Why a node cannot be built. -/
inductive NodeError where
  | headingLevel (level : Int)
  | fenceChar (given : Value)
  | bullet (given : Value) (ordered : Bool)
  | listStart (start : Int)
  | field (e : FieldError)
  | absent (asked : Absence)
  deriving Repr

def NodeError.message : NodeError → String
  | .headingLevel level => "Heading level must be 1-6, got " ++ toString level
  | .fenceChar given => "fence_char must be '\x60' or '~', got " ++ given.literal
  | .bullet given ordered =>
    "Invalid bullet " ++ given.literal ++ " for " ++
      (if ordered then "ordered" else "unordered") ++ " list"
  | .listStart start => "List start must be non-negative, got " ++ toString start
  | .field e => e.message
  | .absent asked => asked.message

/-- The fields that a kind of node has no default for. -/
def Node.requiredFields (kind : String) : FieldNames :=
  let required :=
    match kind with
    | "Heading" => ["level"]
    | "List" => ["ordered"]
    | "Link" | "Image" => ["url"]
    | "AutoLink" => ["url", "label"]
    | "CodeBlock" | "HTMLBlock" | "Text" | "Code" | "HTMLInline" => ["content"]
    | _ => []
  { title := kind, required }

/-- Refuses to build a node without a field that it needs. -/
def Node.checkFields (kind : String) (given : List String) : Except NodeError Unit :=
  ((requiredFields kind).checkComplete given).mapError .field

def Alignment.ofText : String → Alignment
  | "left" => .left
  | "center" => .center
  | "right" => .right
  | name => .other name

def TaskStatus.ofText : String → TaskStatus
  | "checked" => .checked
  | "unchecked" => .unchecked
  | name => .other name

def HeadingLevel.build : Option Int → Except NodeError HeadingLevel
  | none => .error (.absent .atLeast)
  | some level =>
    if h : 1 ≤ level.toNat ∧ level.toNat ≤ 6 then .ok ⟨level.toNat, h⟩
    else .error (.headingLevel level)

def Fence.build (given : Value) : Except NodeError Fence :=
  match given with
  | .text "\x60" => .ok .backtick
  | .text "~" => .ok .tilde
  | given => .error (.fenceChar given)

/-- The marker of a list; a dash, the default, stands for a full stop in an ordered one. -/
def ListMarker.build (ordered : Bool) (given : Value) : Except NodeError ListMarker :=
  match ordered, given with
  | true, .text "-" | true, .text "." => .ok .dot
  | true, .text ")" => .ok .paren
  | false, .text "-" => .ok .dash
  | false, .text "*" => .ok .star
  | false, .text "+" => .ok .plus
  | _, given => .error (.bullet given ordered)

def ListStyle.build (marker : ListMarker) (start : Option Int) (tight blankBefore : Bool) :
    Except NodeError ListStyle :=
  match start with
  | none => .error (.absent .below)
  | some start =>
    if start < 0 then .error (.listStart start)
    else .ok { marker, start := start.toNat, tight, blankBefore }

end MarkdownCanon
