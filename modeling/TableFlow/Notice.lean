/-!
# Notices

A notice tells a user what happened while rows were loaded or transformed. Notices have no effect
on the rows; they are computed beside the results.
-/

namespace TableFlow

/-- How important a notice is, the least important first. -/
inductive NoticeLevel where
  | debug
  | info
  | warning
deriving DecidableEq, Repr

def NoticeLevel.name : NoticeLevel → String
  | .debug => "DEBUG"
  | .info => "INFO"
  | .warning => "WARNING"

/-- A notice: its importance, the part of the program it comes from, and its text. -/
structure Notice where
  level : NoticeLevel
  origin : String
  text : String
deriving DecidableEq, Repr

/-- A notice as one line. -/
def Notice.line (notice : Notice) : String :=
  notice.level.name ++ " " ++ notice.origin ++ ": " ++ notice.text

/-- The notices that are shown: all of them, or only warnings. -/
def Notice.isShown (verbose : Bool) (notice : Notice) : Bool :=
  verbose || notice.level == .warning

end TableFlow
