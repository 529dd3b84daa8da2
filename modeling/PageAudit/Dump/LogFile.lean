import PageAudit.Dump.Basic
import PageAudit.Files
import PageAudit.Trace

/-!
# Dumps in files
-/
namespace PageAudit

/-- The dump that a log file shows, and the log of reading it.
mirrors src/io.rs:31-36 -/
def Dump.ofFile (s : Storage) (path : Text) : List Record × Except Fault Dump :=
  match s.readText path with
  | .error cause => ([], .error (.unreadable path cause))
  | .ok log =>
    ([⟨.debug, "read ".toList ++ Text.decimal (Text.utf8Size log) ++ " bytes from ".toList ++ path⟩],
      Dump.parse log)

end PageAudit
