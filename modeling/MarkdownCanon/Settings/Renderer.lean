import MarkdownCanon.CodeFormatter.Basic
import MarkdownCanon.Settings.OptionError

/-! The choices that the canonical form leaves open, and the words they are named by. -/

namespace MarkdownCanon

inductive HeadingStyle where
  | atx
  | setext
  deriving DecidableEq, Repr, Inhabited

inductive SoftWraps where
  | collapse
  | preserve
  deriving DecidableEq, Repr, Inhabited

/-- The character that emphasis is delimited by. -/
inductive Delimiter where
  | star
  | underscore
  deriving DecidableEq, Repr, Inhabited

inductive ListIndent where
  | aligned
  | uniform
  deriving DecidableEq, Repr, Inhabited

abbrev IndentWidth := { n : Nat // 1 ≤ n ∧ n ≤ 8 }

def IndentWidth.standard : IndentWidth := ⟨4, by decide⟩

/-- The choices within the canonical form. Strong emphasis without a delimiter of its own takes
that of emphasis. -/
structure RendererSettings where
  headingStyle : HeadingStyle := .atx
  softWraps : SoftWraps := .collapse
  emphasis : Delimiter := .star
  strong : Option Delimiter := none
  listIndent : ListIndent := .aligned
  uniformWidth : IndentWidth := .standard
  formatters : FormatterMap := []

/-- An option's value as callers give it; formatters are no plain value. -/
inductive OptionValue where
  | plain (value : Value)
  | formatters (given : FormatterMap)

abbrev Overrides := List (String × OptionValue)

def HeadingStyle.all : List (String × HeadingStyle) := [("atx", .atx), ("setext", .setext)]

def SoftWraps.all : List (String × SoftWraps) := [("collapse", .collapse), ("preserve", .preserve)]

def Delimiter.all : List (String × Delimiter) := [("*", .star), ("_", .underscore)]

def Delimiter.allDoubled : List (String × Delimiter) := [("**", .star), ("__", .underscore)]

def ListIndent.all : List (String × ListIndent) := [("aligned", .aligned), ("uniform", .uniform)]

def Delimiter.char : Delimiter → Char
  | .star => '*'
  | .underscore => '_'

def OptionValue.toValue : OptionValue → Value
  | .plain value => value
  | .formatters _ => .null

namespace RendererSettings

def options : FieldNames :=
  { title := "MarkdownRendererOptions"
    optional := ["heading_style", "soft_wraps", "emphasis_token", "strong_token",
      "list_indent_style", OptionError.widthOption, "code_formatters"] }

/-- The word that stands for a setting. -/
def wordOf [BEq α] (words : List (String × α)) (setting : α) : String :=
  ((words.find? (·.2 == setting)).map (·.1)).getD ""

/-- The setting that a value names, refused unless it is one of the words. -/
def choose (option : String) (words : List (String × α)) (value : Value) :
    Except OptionError α :=
  match words.find? fun (word, _) => Value.same (.text word) value with
  | some (_, setting) => .ok setting
  | none => .error (.notAChoice option value (words.map (.text ·.1)))

def chooseStrong : Value → Except OptionError (Option Delimiter)
  | .null => .ok none
  | value => some <$> choose "strong_token" Delimiter.allDoubled value

def chooseWidth : Value → Except OptionError IndentWidth
  | .int n =>
    if h : 1 ≤ n.toNat ∧ n.toNat ≤ 8 then .ok ⟨n.toNat, h⟩ else .error (.widthOutOfRange n)
  | value => .error (.notAnInteger OptionError.widthOption value)

/-- A formatter map, refused at the first that cannot be called. -/
def chooseFormatters : OptionValue → Except OptionError FormatterMap
  | .plain _ => .ok []
  | .formatters given =>
    match given.find? (!·.2.callable) with
    | some (name, _) => .error (.formatterNotCallable name)
    | none => .ok given

/-- The value given for an option, read, or else the one that is kept. -/
def pick (overrides : Overrides) (option : String) (kept : α)
    (read : Value → Except OptionError α) : Except OptionError α :=
  match overrides.lookup option with
  | some given => read given.toValue
  | none => .ok kept

def pickFormatters (overrides : Overrides) (kept : FormatterMap) :
    Except OptionError FormatterMap :=
  match overrides.lookup "code_formatters" with
  | some given => chooseFormatters given
  | none => .ok kept

/-- Settings with some options replaced. The options are checked in a fixed order, whatever order
they are given in. -/
def override (base : RendererSettings) (overrides : Overrides) :
    Except OptionError RendererSettings := do
  checkNames options (overrides.map (·.1))
  let headingStyle ←
    pick overrides "heading_style" base.headingStyle (choose "heading_style" HeadingStyle.all)
  let softWraps ← pick overrides "soft_wraps" base.softWraps (choose "soft_wraps" SoftWraps.all)
  let emphasis ←
    pick overrides "emphasis_token" base.emphasis (choose "emphasis_token" Delimiter.all)
  let listIndent ←
    pick overrides "list_indent_style" base.listIndent (choose "list_indent_style" ListIndent.all)
  let strong ← pick overrides "strong_token" base.strong chooseStrong
  let uniformWidth ← pick overrides OptionError.widthOption base.uniformWidth chooseWidth
  let formatters ← pickFormatters overrides base.formatters
  return { headingStyle, softWraps, emphasis, strong, listIndent, uniformWidth, formatters }

def emphasisToken (settings : RendererSettings) : List Char := [settings.emphasis.char]

/-- The delimiter of strong emphasis: its own, or that of emphasis, written twice. -/
def strongToken (settings : RendererSettings) : List Char :=
  List.replicate 2 (settings.strong.getD settings.emphasis).char

/-- Equality of settings; formatter maps are equal whatever the order of their entries, and
formatters when they have the same name. -/
def same (a b : RendererSettings) : Bool :=
  a.headingStyle == b.headingStyle && a.softWraps == b.softWraps && a.emphasis == b.emphasis &&
    a.strong == b.strong && a.listIndent == b.listIndent && a.uniformWidth == b.uniformWidth &&
    a.formatters.length == b.formatters.length &&
    a.formatters.all fun (name, f) => (b.formatters.lookup name).any (·.name == f.name)

end RendererSettings

end MarkdownCanon
