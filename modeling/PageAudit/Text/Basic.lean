/-!
# Text as a list of characters

Logs, dump lines, rows of a report and messages are all a `Text`. Every fixed length of the
audit (512 frame tags, 1536 characters of an address space) counts characters, so a list of
characters is the form in which the rules are stated.
-/
namespace PageAudit

/-- A text is the list of its characters. -/
abbrev Text := List Char

end PageAudit
