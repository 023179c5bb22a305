import MarkdownCanon.CommandLine.Program

namespace MarkdownCanon.CommandLine

def helpText : String :=
  "usage: mdfmt [flags] [path ...]\n\n" ++
  "Reformat Markdown documents into a canonical form.\n\n" ++
  "positional arguments:\n" ++
  "  path                  Files or directories to format\n\n" ++
  "options:\n" ++
  "  -h, --help            show this help message and exit\n" ++
  "  --version, -V         show program's version number and exit\n\n" ++
  "output mode:\n" ++
  "  -l, --list            List files whose formatting differs from mdfmt's\n" ++
  "  -w, --write           Write result to (source) file instead of stdout\n" ++
  "  -d, --diff            Display diffs instead of rewriting files\n" ++
  "  --color \x7bauto,always,never\x7d\n" ++
  "                        Colour diff output: auto (when stdout is a terminal),\n" ++
  "                        always or never (default: auto)\n\n" ++
  "formatting:\n" ++
  "  -u, --underline-headings\n" ++
  "                        Write setext (underlined) headings for levels 1 and 2\n" ++
  "  --soft-wraps          Preserve soft line breaks instead of joining lines with\n" ++
  "                        a space\n" ++
  "  --gofmt               Reformat Go code blocks with gofmt\n" ++
  "  --list-indent-style \x7baligned,uniform\x7d\n" ++
  "                        Indentation convention for list item children\n" ++
  "                        (default: aligned)\n" ++
  "  --emphasis-token \x7b*,_\x7d\n" ++
  "                        Delimiter to use for emphasis (default: *)\n" ++
  "  --strong-token \x7b**,__\x7d\n" ++
  "                        Delimiter to use for strong emphasis (default: emphasis\n" ++
  "                        token doubled)\n\n" ++
  "logging:\n" ++
  "  --log-level \x7bDEBUG,INFO,WARNING,ERROR,CRITICAL\x7d\n" ++
  "                        Set logging level (default: WARNING)\n" ++
  "  --log-file LOG_FILE   Also write log records to this file\n" ++
  "  --trace               Debug logging with timestamps and logger names\n\n" ++
  "With no paths, mdfmt reads standard input and writes the result to standard\n" ++
  "output. Directories are searched recursively for .md and .markdown files.\n\n" ++
  "Examples:\n" ++
  "  mdfmt README.md\n" ++
  "  mdfmt -w docs/\n" ++
  "  mdfmt -d -u --list-indent-style uniform notes.md\n" ++
  "  cat notes.md | mdfmt --soft-wraps\n"

/-- Whether a path stays in the working folder. -/
def isInside (path : Path) : Bool := !path.isAbsolute && !path.names.contains ".."

/-- Takes in the folder at a path, but nothing of what is in it. -/
def takeFolder (disk : Disk) (path : Path) : IO Disk := do
  if !isInside path then return disk
  match ← (IO.FS.realPath path.text).toBaseIO with
  | .error _ => return disk
  | .ok place => if ← place.isDir then return disk.putFolder path.names true else return disk

/-- Takes in what is at a path of the working folder. What cannot be read is there, but closed, and
a link to a folder is no way into it. -/
partial def takeIn (disk : Disk) (path : Path) : IO Disk := do
  if !isInside path then return disk
  match ← (IO.FS.realPath path.text).toBaseIO with
  | .error _ => return disk
  | .ok place =>
    if ← place.isDir then
      match ← place.readDir.toBaseIO with
      | .error _ => return disk.putFolder path.names false
      | .ok entries =>
        let mut disk := disk.putFolder path.names true
        for entry in entries do
          let link := (← entry.path.symlinkMetadata).type == .symlink
          unless link && (← entry.path.isDir) do
            disk ← takeIn disk (path.child entry.fileName)
        return disk
    else
      match ← (IO.FS.readBinFile place).toBaseIO with
      | .error _ => return disk.put path.names { readable := false }
      | .ok contents => return disk.put path.names { contents := contents.toList }

partial def readAll (stream : IO.FS.Stream) (sofar : ByteArray) : IO ByteArray := do
  let piece ← stream.read 65536
  if piece.isEmpty then return sofar else readAll stream (sofar ++ piece)

/-- The world as far as the words of a command line ask for it. -/
def World.observe (parser : Parser) (words : List String) : IO World := do
  let world : World :=
    { parser, help := helpText, disk := { location := (← IO.currentDir).toString } }
  match Arguments.parse words with
  | .error _ => return world
  | .ok arguments =>
    let places := (arguments.paths ++ arguments.logTo.toList).map Path.ofText
    let disk ← (places.map Path.parent).foldlM takeFolder world.disk
    let disk ← places.foldlM takeIn disk
    if arguments.paths.isEmpty && !arguments.write then
      let bytes ← readAll (← IO.getStdin) .empty
      return { world with disk, standardInput := bytes.toList }
    else return { world with disk }

def print : Channel × String → IO Unit
  | (.output, text) | (.processOutput, text) => do (← IO.getStdout).putStr text
  | (.errors, text) | (.processErrors, text) => do (← IO.getStderr).putStr text

/-- Writes the files that a run has changed or made. -/
def save (before after : Disk) : IO Unit := do
  let old := before.files
  for (path, stored) in after.files do
    unless old.contains (path, stored) do
      IO.FS.writeBinFile path.text stored.contents.toByteArray

/-- Runs the program in the working folder with a grammar of Markdown. -/
def execute (parser : Parser) (words : List String) : IO UInt32 := do
  let world ← World.observe parser words
  match world.run words with
  | .error e =>
    IO.eprintln ("mdfmt: " ++ e.message)
    return 1
  | .ok outcome =>
    outcome.sent.forM print
    save world.disk outcome.disk
    return outcome.code.toUInt32

end MarkdownCanon.CommandLine

/-- The program on its own has no grammar, so that every document is refused: it is there for its
command line. One that has a grammar at hand calls `execute` with it. -/
def main (words : List String) : IO UInt32 :=
  MarkdownCanon.CommandLine.execute (fun _ _ => .rendered) words
