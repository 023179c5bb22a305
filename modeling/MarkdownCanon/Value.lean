import MarkdownCanon.Number.Shortest
import MarkdownCanon.Text.Literal

/-! Values of no fixed type, and how messages show them. -/

namespace MarkdownCanon

/-- A setting as callers give it, before it is known to be of the right kind. -/
inductive Value where
  | null
  | bool (b : Bool)
  | int (n : Int)
  | float (x : Double)
  | text (s : String)
  | list (items : List Value)
  | record (fields : List (String × Value))
  deriving Repr, Inhabited

namespace Value

mutual

/-- A value as messages show it. -/
def literal : Value → String
  | .null => "None"
  | .bool true => "True"
  | .bool false => "False"
  | .int n => toString n
  | .float x => x.literal
  | .text s => Text.quoted s
  | .list items => "[" ++ String.intercalate ", " (literals items) ++ "]"
  | .record fields => "\x7b" ++ String.intercalate ", " (fieldLiterals fields) ++ "\x7d"

def literals : List Value → List String
  | [] => []
  | v :: rest => literal v :: literals rest

def fieldLiterals : List (String × Value) → List String
  | [] => []
  | (key, v) :: rest => (Text.quoted key ++ ": " ++ literal v) :: fieldLiterals rest

end

def text? : Value → Option String
  | .text s => some s
  | _ => none

def items : Value → List Value
  | .list items => items
  | _ => []

def get? (key : String) : Value → Option Value
  | .record fields => fields.lookup key
  | _ => none

/-- The whole number a value is; truth values count as one and zero. -/
def whole? : Value → Option Int
  | .bool b => some (if b then 1 else 0)
  | .int n => some n
  | _ => none

/-- Equality of numbers, whatever their kinds are. -/
def sameNumber (v w : Value) : Bool :=
  match v, w with
  | .float x, .float y => x.same y
  | .float x, w => w.whole?.any x.isInt
  | v, .float y => v.whole?.any y.isInt
  | v, w => v.whole?.isSome && v.whole? == w.whole?

mutual

/-- Equality of values, which takes no account of the kinds of numbers. -/
def same : Value → Value → Bool
  | .null, .null => true
  | .text s, .text t => s == t
  | .list xs, .list ys => sameAll xs ys
  | .record fs, .record gs => fs.length == gs.length && sameFields fs gs
  | v, w => sameNumber v w

def sameAll : List Value → List Value → Bool
  | [], [] => true
  | v :: vs, w :: ws => same v w && sameAll vs ws
  | _, _ => false

def sameFields : List (String × Value) → List (String × Value) → Bool
  | [], _ => true
  | (key, v) :: rest, gs =>
    (match gs.lookup key with
      | some w => same v w
      | none => false) && sameFields rest gs

end

/-- Whether a value counts as true where only truth matters. -/
def truthy : Value → Bool
  | .null => false
  | .bool b => b
  | .int n => n != 0
  | .float x => !x.isZero
  | .text s => !s.isEmpty
  | .list items => !items.isEmpty
  | .record fields => !fields.isEmpty

end Value

end MarkdownCanon
