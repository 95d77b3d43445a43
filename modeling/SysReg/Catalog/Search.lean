import SysReg.Catalog.Basic
import SysReg.Text.Ascii
import SysReg.Text.Blank
import SysReg.Text.Lower

/-!
# Looking things up

A query is looked for in names, descriptions and field labels, letter case aside. A register matches
at most once as a whole, by its name or else by its description; then follow its matching fields. A
blank query matches nothing.

The abbreviations that register names and field labels are put together from have a table of their
own.
-/

/-! ## Abbreviations -/

namespace SysReg.Abbreviation

/-- Each abbreviation with its expansion, in the order of the abbreviations. -/
def table : List (String × String) :=
  [("ACC", "Apple Core Cluster"),
   ("AIC", "Apple Interrupt Controller"),
   ("APRR", "Access Protection and Read-only Region"),
   ("CTRR", "Configurable Text Read-only Region"),
   ("DAIF", "Debug, Abort, IRQ and FIQ mask bits"),
   ("EHID", "Hardware Implementation Defined register of an efficiency core"),
   ("FED", "Front End Decoder"),
   ("FIQ", "Fast Interrupt Request"),
   ("HID", "Hardware Implementation Defined register"),
   ("HVC", "Hypervisor Call"),
   ("IPI", "Inter-processor Interrupt"),
   ("IRQ", "Interrupt Request"),
   ("L2C", "L2 Cache"),
   ("LSU", "Load Store Unit"),
   ("MMU", "Memory Management Unit"),
   ("PMC", "Performance Monitor Counter"),
   ("PMCR", "Performance Monitor Control Register"),
   ("PMI", "Performance Monitor Interrupt"),
   ("PXN", "Privileged Execute Never"),
   ("SMC", "Secure Monitor Call"),
   ("UXN", "User Execute Never"),
   ("VMSA", "Virtual Memory System Architecture"),
   ("WFI", "Wait For Interrupt")]

/-- The expansion of a term, blanks around it and ASCII case aside. -/
def expand? (term : String) : Option String :=
  (table.find? fun entry => Text.fold entry.1 = Text.fold (Text.trimmed term)).map (·.2)

end SysReg.Abbreviation

/-! ## Searching a catalog -/

namespace SysReg

/-- The part of a register that matches a query. -/
inductive MatchedPart where
  | name
  | description
  | field (f : Field)
  deriving DecidableEq

/-- The name of a part in reports. -/
def MatchedPart.kind : MatchedPart → String
  | name => "name"
  | description => "description"
  | field _ => "field"

/-- A register, and the part of it that matches. -/
structure SearchHit where
  definition : Definition
  part : MatchedPart
  deriving DecidableEq

/-- A query without blanks at its ends, in lower case. -/
def needleOf (query : String) : List Char :=
  Text.lower (Text.trim query.toList)

/-- The lower case of the text contains the needle. -/
def matchesNeedle (needle : List Char) (text : String) : Bool :=
  Text.contains needle (Text.lower text.toList)

namespace Definition

/-- The match of the register as a whole. -/
def wholeMatch (d : Definition) (needle : List Char) : List SearchHit :=
  if matchesNeedle needle d.name then [⟨d, .name⟩]
  else if d.description.any (matchesNeedle needle) then [⟨d, .description⟩]
  else []

/-- All matches of the register. -/
def search (d : Definition) (needle : List Char) : List SearchHit :=
  d.wholeMatch needle ++
    (d.fields.filter fun f => matchesNeedle needle f.label).map fun f => ⟨d, .field f⟩

end Definition

namespace Catalog

/-- All matches of a query, in the order of the catalog. -/
def search (c : Catalog) (query : String) : List SearchHit :=
  if (needleOf query).isEmpty then []
  else c.registers.flatMap fun d => d.search (needleOf query)

end Catalog
end SysReg
