import SysReg.Text.Ascii

/-!
# Categories

The closed set of functional groups of registers, in the order in which they are presented.
-/

namespace SysReg

/-- The functional group of a register. -/
inductive Category where
  | hid
  | perfCounter
  | errorHandling
  | appleSpecific
  | memoryProtection
  | interrupts
  | powerManagement
  | uncorePerf
  | other
  deriving DecidableEq, Repr

namespace Category

/-- Every category, in the order of presentation. -/
def all : List Category :=
  [hid, perfCounter, errorHandling, appleSpecific, memoryProtection, interrupts, powerManagement,
    uncorePerf, other]

/-- The name of a category in reports and snapshots. -/
def name : Category → String
  | hid => "HID"
  | perfCounter => "PerfCounter"
  | errorHandling => "ErrorHandling"
  | appleSpecific => "AppleSpecific"
  | memoryProtection => "MemoryProtection"
  | interrupts => "Interrupts"
  | powerManagement => "PowerManagement"
  | uncorePerf => "UncorePerf"
  | other => "Other"

/-- The spellings by which a category is known, besides case, dashes and underscores. -/
def spellings : Category → List String
  | hid => ["hid"]
  | perfCounter => ["perfcounter", "perfcounters", "performancecounters", "pmc"]
  | errorHandling => ["errorhandling", "errors"]
  | appleSpecific => ["applespecific", "apple"]
  | memoryProtection => ["memoryprotection", "protection"]
  | interrupts => ["interrupts", "ipi"]
  | powerManagement => ["powermanagement", "power"]
  | uncorePerf => ["uncoreperf", "uncoreperformance", "upmc"]
  | other => ["other"]

/-- The category of a spelling, whatever its ASCII case and with dashes and underscores left aside. -/
def ofText? (text : String) : Option Category :=
  let key := String.ofList (Text.asciiLower (text.toList.filter fun c => c != '_' && c != '-'))
  all.find? fun category => category.spellings.contains key

/-- The message on a text that names no category. -/
def unknownMessage (text : String) : String :=
  "Unknown category: " ++ text ++ ". Use one of " ++ ", ".intercalate (all.map name)

theorem mem_all (c : Category) : c ∈ all := by
  cases c <;> decide

/-- The name of a category is one of its spellings. -/
theorem ofText?_name (c : Category) : ofText? c.name = some c := by
  cases c <;> decide

end Category
end SysReg
