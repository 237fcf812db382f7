import TableFlow.CommandLine.Run

/-!
# The program

Reads the files that the arguments name, runs the command line on them, shows its lines and notices
and writes its file. Only text is read and written here: a workbook or a columnar file has no text.
-/

namespace TableFlow

/-- The files among some names that can be read as text. -/
def readFiles : List String → IO Files
  | [] => pure []
  | name :: names => do
      let others ← readFiles names
      try
        let content ← IO.FS.readFile name
        pure ((name, .text content) :: others)
      catch _ => pure others

/-- Writes a file; tells if its content is text. -/
def writeFile (name : String) : FileContent → IO Bool
  | .text content => do
      IO.FS.writeFile name content
      pure true
  | .columnar _ | .workbook _ => pure false

end TableFlow

open TableFlow in
/-- Runs the program. -/
def main (argv : List String) : IO UInt32 := do
  let names := match CommandLine.readArguments argv with
    | .ok options => options.file :: options.config.toList
    | .error _ => []
  let files ← readFiles names
  match CommandLine.run files argv with
  | .exit e => pure (UInt32.ofNat e.code)
  | .failed _ => pure 1
  | .done outcome =>
      for notice in outcome.notices do
        IO.eprintln notice.line
      for line in outcome.lines do
        IO.println line
      match outcome.written with
      | none => pure 0
      | some (name, content) => pure (if ← writeFile name content then 0 else 1)
