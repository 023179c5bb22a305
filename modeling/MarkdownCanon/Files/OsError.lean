import MarkdownCanon.Text.Literal

namespace MarkdownCanon

/-- Why the file system refuses a request. -/
inductive OsError where
  | notFound
  | permission
  | notDirectory
  | isDirectory
  deriving DecidableEq, Repr, Inhabited

namespace OsError

def number : OsError → Nat
  | notFound => 2
  | permission => 13
  | notDirectory => 20
  | isDirectory => 21

def message : OsError → String
  | notFound => "No such file or directory"
  | permission => "Permission denied"
  | notDirectory => "Not a directory"
  | isDirectory => "Is a directory"

/-- The error with its number and the path it is about. -/
def report (e : OsError) (path : String) : String :=
  "[Errno " ++ toString e.number ++ "] " ++ e.message ++ ": " ++ Text.quoted path

end OsError

end MarkdownCanon
