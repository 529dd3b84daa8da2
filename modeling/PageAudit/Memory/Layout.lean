import PageAudit.Text.Basic

/-!
# The machine whose memory is audited

Sizes in pages, the landmarks of the two kinds of memory, and the characters of a dump.
-/
namespace PageAudit

/-! ## Sizes and landmarks

mirrors src/constants.rs:1-15 -/

/-- Frames of physical memory. -/
def frameCount : Nat := 512

/-- Pages of an address space. -/
def pageCount : Nat := 768

/-- The first virtual page of user memory; the pages below are the kernel's. -/
def kernelBoundary : Nat := 256

/-- The page of the console at address 0xB8000, in kernel memory. -/
def consolePage : Nat := 184

/-- The last virtual page, where a process has its stack. -/
def stackPage : Nat := pageCount - 1

/-- The bytes of a page.
mirrors src/checks.rs:193 -/
def pageBytes : Nat := 0x1000

/-- The test processes. -/
def processIds : List UInt8 := [1, 2, 3, 4]

/-- Pages that are set up for the processes. -/
def setupPages : Nat := 64

/-- Page-table levels per page set up. -/
def tableLevels : Nat := 2

/-- Frames that the kernel may need besides. -/
def slackPages : Nat := 7

/-- The frames below this one are in use once virtual allocation works. -/
def progressEnd : Nat := kernelBoundary + setupPages * tableLevels + slackPages

/-! ## Characters of a dump

mirrors src/constants.rs:17-20 -/

/-- Stands for a free frame or an unmapped page. -/
def vacantTag : Char := '.'

/-- Follows the tag of a page that user code can access. -/
def userFlag : Char := 'u'

/-- Follows the tag of any other page. -/
def closedFlag : Char := ' '

/-! ## Headers of a log

mirrors src/constants.rs:22-26 -/

/-- The first line of a log. -/
def bannerHeader : Text := "Starting WeensyOS".toList

/-- The line before the physical dump. -/
def physicalHeader : Text := "PHYSICAL MEMORY DUMP".toList

/-- What the line before a virtual dump says, up to the process. -/
def virtualHeaderStem : Text := "VIRTUAL MEMORY FOR PROCESS ".toList

/-- The lines of a log that are read. -/
def logLength : Nat := 3 + 2 * processIds.length

end PageAudit
