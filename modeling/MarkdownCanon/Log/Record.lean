namespace MarkdownCanon.Log

/-- The part of the formatter that a record comes from. -/
inductive Source where
  | loading
  | reading
  | formatting
  | blocks
  | tables
  | delivery
  | library
  | files
  | program
  | setup
  deriving DecidableEq, Repr, Inhabited

/-- The name that a traced record is listed under. -/
def Source.name : Source → String
  | loading => "mdfmt.parsers.base"
  | reading => "mdfmt.parsers.markdown"
  | formatting => "mdfmt.formatters"
  | blocks => "mdfmt.renderers.markdown"
  | tables => "mdfmt.renderers.table"
  | delivery => "mdfmt.renderers.base"
  | library => "mdfmt.api"
  | files => "mdfmt.cli.processors"
  | program => "mdfmt.cli"
  | setup => "root"

def debug : Int := 10

def info : Int := 20

def warning : Int := 30

def error : Int := 40

def critical : Int := 50

structure Record where
  level : Int
  source : Source
  message : String
  deriving DecidableEq, Repr, Inhabited

/-- The name of a level; one without a name is called by its number. -/
def levelName (level : Int) : String :=
  if level == critical then "CRITICAL"
  else if level == error then "ERROR"
  else if level == warning then "WARNING"
  else if level == info then "INFO"
  else if level == debug then "DEBUG"
  else if level == 0 then "NOTSET"
  else "Level " ++ toString level

end MarkdownCanon.Log
