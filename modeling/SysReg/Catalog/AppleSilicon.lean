import SysReg.Catalog.Basic

/-!
# The registers of Apple Silicon

A table put together from public reverse engineering, not from documents of the vendor: boundaries
and meanings of fields are a starting point for verification of one's own and differ between
generations of cores. `Catalog.appleSilicon` holds it as a catalog, so it has no violation.
-/

namespace SysReg.AppleSilicon

/-- An entry of the table. -/
def register (category : Category) (name : String) (op0 op1 crn crm op2 : Nat)
    (description : String) (fields : List Field) : Definition :=
  ⟨name, .truncating op0 op1 crn crm op2, category, some description, fields⟩

/-- A numbered family of registers without a known layout. -/
def family (category : Category) (name : Nat → String) (description : String)
    (members : List (Nat × Encoding)) (fields : List Field) : List Definition :=
  members.map fun member =>
    ⟨name member.1, member.2, category, some (description ++ Numeral.decimal member.1), fields⟩

/-! ## Hardware implementation defined registers -/

/-- The name of a hardware implementation defined register. -/
def hidName (n : Nat) : String :=
  "SYS_APL_HID" ++ Numeral.decimal n ++ "_EL1"

/-- The registers that mostly switch features of the cores. -/
def hid : List Definition :=
  [register .hid "SYS_APL_HID0_EL1" 3 0 15 0 0 "Hardware Implementation Defined Register 0"
     [.flag 20 "Loop Buffer Disable",
      .flag 21 "AMX Cache Fusion Disable",
      .flag 25 "IC Prefetch Limit One Brn",
      .flag 28 "Fetch Width Disable",
      .flag 33 "PMULL Fuse Disable",
      .flag 36 "Cache Fusion Disable",
      .flag 45 "Same Pg Power Optimization",
      .counter 62 60 "Instruction Cache Prefetch Depth"],
   register .hid "SYS_APL_EHID0_EL1" 3 0 15 0 1 "E-core Hardware Implementation Defined Register 0"
     [.flag 45 "nfpRetFwdDisb"],
   register .hid "SYS_APL_HID1_EL1" 3 0 15 1 0 "Hardware Implementation Defined Register 1"
     [.flag 14 "Disable CMP-Branch Fusion",
      .flag 15 "ForceMextL3ClkOn",
      .flag 23 "rccForceAllIexL3ClksOn",
      .flag 24 "rccDisStallInactiveIexCtl",
      .flag 25 "disLspFlushWithContextSwitch",
      .flag 44 "Disable AES Fusion across groups",
      .flag 49 "Disable MSR Speculation DAIF",
      .flag 54 "Trap SMC",
      .flag 58 "enMDSBStallPipeLineECO",
      .flag 60 "Enable Branch Kill Limit / SpareBit6"],
   register .hid "SYS_APL_EHID1_EL1" 3 0 15 1 1 "E-core Hardware Implementation Defined Register 1"
     [.flag 30 "Disable MSR Speculation DAIF"]] ++
  family .hid hidName "Hardware Implementation Defined Register "
    (((List.range' 2 10).map fun n => (n, .truncating 3 0 15 n 0)) ++
      [(13, .truncating 3 0 15 14 0), (14, .truncating 3 0 15 15 0), (16, .truncating 3 0 15 15 2),
       (17, .truncating 3 0 15 15 5), (18, .truncating 3 0 15 11 2), (21, .truncating 3 0 15 1 3)])
    []

/-! ## Performance monitors of the cores -/

/-- What an overflowing counter causes. -/
def interruptMode : List (Word × String) :=
  [(0, "off"), (1, "PMI"), (2, "AIC"), (3, "HALT"), (4, "FIQ")]

/-- Control, event selection and counters of the performance monitor. -/
def perfCounters : List Definition :=
  [register .perfCounter "SYS_APL_PMCR0_EL1" 3 1 15 0 0 "Performance Monitor Control Register 0"
     [.raw 7 0 "Counter Enable PMC 7-0",
      .enumerated 10 8 "Interrupt Mode" interruptMode,
      .flag 11 "PMI Interrupt Active",
      .raw 19 12 "Enable PMI for PMC 7-0",
      .flag 20 "Disable Counting on PMI",
      .flag 22 "Block PMIs until after eret",
      .flag 23 "Count Global L2C Events",
      .flag 30 "User-mode Access Enable",
      .raw 33 32 "Counter Enable PMC 9-8",
      .raw 45 44 "Enable PMI for PMC 9-8"]] ++
  family .perfCounter (fun n => "SYS_APL_PMCR" ++ Numeral.decimal n ++ "_EL1")
    "Performance Monitor Control Register "
    ((List.range' 1 4).map fun n => (n, .truncating 3 1 15 n 0)) [] ++
  [register .perfCounter "SYS_APL_PMESR0_EL1" 3 1 15 5 0 "Event selection for PMC 2-5" [],
   register .perfCounter "SYS_APL_PMESR1_EL1" 3 1 15 6 0 "Event selection for PMC 6-9" [],
   register .perfCounter "SYS_APL_PMSR_EL1" 3 1 15 13 0
     "Performance Monitor Status Register (overflow bits)" []] ++
  family .perfCounter (fun n => "SYS_APL_PMC" ++ Numeral.decimal n ++ "_EL1")
    "Performance Monitor Counter "
    (((List.range 8).map fun n => (n, .truncating 3 2 15 n 0)) ++
      [(8, .truncating 3 2 15 9 0), (9, .truncating 3 2 15 10 0)])
    [.counter 46 0 "Counter Value", .flag 47 "Overflow"]

/-! ## Error status -/

/-- The access that met an error. -/
def accessType : List (Word × String) :=
  [(5, "data write"), (6, "data read"), (7, "instruction fetch")]

/-- Error status of the load/store unit, the cache, the decoder and the memory management unit. -/
def errorHandling : List Definition :=
  [register .errorHandling "SYS_APL_LSU_ERR_STS_EL1" 3 3 15 0 0 "Load/Store Unit Error Status" [],
   register .errorHandling "SYS_APL_LSU_ERR_CTL_EL1" 3 3 15 1 0 "Load/Store Unit Error Control" [],
   register .errorHandling "SYS_APL_L2C_ERR_STS_EL1" 3 3 15 8 0 "L2 Cache Error Status Register"
     [.flag 1 "Recursive Fault",
      .flag 7 "Access Fault",
      .raw 38 34 "Enable Flags 38-34",
      .flag 39 "Enable SError Interrupts",
      .raw 43 40 "Enable Flags 43-40",
      .flag 56 "Write-1-to-clear Behavior",
      .flag 60 "Some Enable"],
   register .errorHandling "SYS_APL_L2C_ERR_ADR_EL1" 3 3 15 9 0 "L2 Cache Error Address Register"
     [.raw 41 0 "Physical Address",
      .flag 42 "Unknown Bit 42",
      .enumerated 57 55 "Access Type" accessType,
      .counter 62 61 "Core within Cluster"],
   register .errorHandling "SYS_APL_L2C_ERR_INF_EL1" 3 3 15 10 0 "L2 Cache Error Information"
     [.raw 25 0 "Error Information",
      .flag 26 "Address Alignment"],
   register .errorHandling "SYS_APL_FED_ERR_STS_EL1" 3 4 15 0 0 "Fetch/Decode Error Status" [],
   register .errorHandling "SYS_APL_MMU_ERR_STS_EL1" 3 6 15 0 0 "MMU Error Status" [],
   register .errorHandling "SYS_APL_E_MMU_ERR_STS_EL1" 3 6 15 2 0 "E-core MMU Error Status" [],
   register .errorHandling "SYS_APL_DPC_ERR_STS_EL1" 3 5 15 0 5 "DPC Error Status" []]

/-! ## Control and keys -/

/-- Pointer authentication, kernel keys and floating point control. -/
def appleSpecific : List Definition :=
  [register .appleSpecific "SYS_APL_APCTL_EL1" 3 4 15 0 4 "Pointer authentication control" [],
   register .appleSpecific "SYS_APL_KERNELKEYLO_EL1" 3 4 15 1 0 "Kernel key, low half" [],
   register .appleSpecific "SYS_APL_KERNELKEYHI_EL1" 3 4 15 1 1 "Kernel key, high half" [],
   register .appleSpecific "SYS_APL_AFPCR_EL0" 3 6 15 2 5 "Apple floating point control" [],
   register .appleSpecific "SYS_APL_APSTS_EL1" 3 6 15 12 4 "Pointer authentication status" []]

/-! ## Memory protection -/

/-- The letters of a permission: execute is bit 0, write bit 1 and read bit 2. -/
def permission (value : Nat) : String :=
  String.ofList
    [if value.testBit 2 then 'r' else '-', if value.testBit 1 then 'w' else '-',
      if value.testBit 0 then 'x' else '-']

/-- The sixteen permissions of four bits each. -/
def permissionEntries : List Field :=
  (List.range 16).map fun n =>
    .enumerated (n * 4 + 3) (n * 4) ("Entry " ++ Numeral.decimal n)
      ((List.range 8).map fun value => (BitVec.ofNat 64 value, permission value))

/-- Locks, bounds and permissions of protected regions. -/
def memoryProtection : List Definition :=
  [register .memoryProtection "SYS_APL_VMSA_LOCK_EL1" 3 4 15 1 2 "VMSA lock" [],
   register .memoryProtection "SYS_APL_APRR_EL0" 3 4 15 2 0
     "Access Protection and Read-only Region Register (EL0)" permissionEntries,
   register .memoryProtection "SYS_APL_APRR_EL1" 3 4 15 2 1
     "Access Protection and Read-only Region Register (EL1)" permissionEntries,
   register .memoryProtection "SYS_APL_CTRR_LOCK_EL1" 3 4 15 2 2 "CTRR lock (EL1)"
     [.flag 0 "Lock Status"],
   register .memoryProtection "SYS_APL_CTRR_A_LWR_EL1" 3 4 15 2 3 "CTRR region A lower bound (EL1)"
     [.raw 47 0 "Lower Address"],
   register .memoryProtection "SYS_APL_CTRR_A_UPR_EL1" 3 4 15 2 4 "CTRR region A upper bound (EL1)"
     [.raw 47 0 "Upper Address"],
   register .memoryProtection "SYS_APL_CTRR_CTL_EL1" 3 4 15 2 5
     "Configurable Text Read-only Region Control Register"
     [.flag 0 "A MMU off write protect",
      .flag 1 "A MMU on write protect",
      .flag 2 "B MMU off write protect",
      .flag 3 "B MMU on write protect",
      .flag 4 "A PXN",
      .flag 5 "B PXN",
      .flag 6 "A UXN",
      .flag 7 "B UXN"],
   register .memoryProtection "SYS_APL_APRR_JIT_ENABLE_EL2" 3 4 15 2 6 "APRR JIT enable" [],
   register .memoryProtection "SYS_APL_APRR_JIT_MASK_EL2" 3 4 15 2 7 "APRR JIT mask" [],
   register .memoryProtection "SYS_APL_CTRR_A_LWR_EL2" 3 4 15 11 0 "CTRR region A lower bound (EL2)"
     [.raw 47 0 "Lower Address"],
   register .memoryProtection "SYS_APL_CTRR_A_UPR_EL2" 3 4 15 11 1 "CTRR region A upper bound (EL2)"
     [.raw 47 0 "Upper Address"],
   register .memoryProtection "SYS_APL_CTRR_CTL_EL2" 3 4 15 11 4 "CTRR control (EL2)" [],
   register .memoryProtection "SYS_APL_CTRR_LOCK_EL2" 3 4 15 11 5 "CTRR lock (EL2)"
     [.flag 0 "Lock Status"]]

/-! ## Interrupts -/

/-- How an interrupt is requested. -/
def requestType : List (Word × String) :=
  [(0, "immediate"), (1, "retract"), (2, "deferred"), (3, "nowake")]

/-- Fast interrupts between processors and timers of guests. -/
def interrupts : List Definition :=
  [register .interrupts "SYS_APL_IPI_RR_LOCAL_EL1" 3 5 15 0 0 "Fast IPI request, local cluster"
     [.counter 3 0 "Target CPU",
      .enumerated 29 28 "RR Type" requestType],
   register .interrupts "SYS_APL_IPI_RR_GLOBAL_EL1" 3 5 15 0 1 "Fast IPI request, any cluster"
     [.counter 3 0 "Target CPU",
      .counter 20 16 "Target Cluster",
      .enumerated 29 28 "RR Type" requestType],
   register .interrupts "SYS_APL_IPI_SR_EL1" 3 5 15 1 1 "Fast IPI status"
     [.flag 0 "IPI Pending"],
   register .interrupts "SYS_APL_VM_TMR_LR_EL2" 3 5 15 1 2 "VM timer list register"
     [.raw 63 62 "State"],
   register .interrupts "SYS_APL_VM_TMR_FIQ_ENA_EL2" 3 5 15 1 3 "VM timer FIQ enable"
     [.flag 0 "CNTV Guest Timer Mask",
      .flag 1 "CNTP Guest Timer Mask"],
   register .interrupts "SYS_APL_IPI_CR_EL1" 3 5 15 3 1 "Fast IPI control"
     [.counter 15 0 "Deferred IPI Countdown"]]

/-! ## Power -/

/-- Configuration and overrides of the core clusters. -/
def powerManagement : List Definition :=
  [register .powerManagement "SYS_APL_ACC_CFG_EL1" 3 5 15 4 0 "Apple Core Cluster configuration"
     [.raw 3 2 "BP Sleep"],
   register .powerManagement "SYS_APL_CYC_OVRD_EL1" 3 5 15 5 0 "Cycle override"
     [.flag 0 "Disable WFI Return",
      .raw 21 20 "FIQ Mode",
      .raw 23 22 "IRQ Mode",
      .raw 25 24 "OK To Power Down"],
   register .powerManagement "SYS_APL_ACC_OVRD_EL1" 3 5 15 6 0 "Apple Core Cluster override"
     [.raw 14 13 "OK To Power Down SRM",
      .raw 16 15 "Disable L2 Flush For ACC Sleep",
      .raw 18 17 "OK To Train Down Link",
      .raw 26 25 "OK To Power Down CPM",
      .raw 28 27 "CPM Wakeup",
      .flag 29 "Disable Clock Dtr",
      .flag 32 "Disable PIO On WFI CPU",
      .flag 34 "Enable Deep Sleep"],
   register .powerManagement "SYS_APL_ACC_EBLK_OVRD_EL1" 3 5 15 6 1 "E-block override" []]

/-! ## Performance monitors of the clusters -/

/-- Control, event selection and counters of the uncore performance monitor. -/
def uncorePerf : List Definition :=
  [register .uncorePerf "SYS_APL_UPMCR0_EL1" 3 7 15 0 4 "Uncore PMU control" [],
   register .uncorePerf "SYS_APL_UPMESR0_EL1" 3 7 15 1 4 "Uncore PMU event selection 0" [],
   register .uncorePerf "SYS_APL_UPMECM0_EL1" 3 7 15 3 4 "Uncore PMU core mask 0" [],
   register .uncorePerf "SYS_APL_UPMECM1_EL1" 3 7 15 4 4 "Uncore PMU core mask 1" [],
   register .uncorePerf "SYS_APL_UPMPCM_EL1" 3 7 15 5 4 "Uncore PMU PMI core mask" [],
   register .uncorePerf "SYS_APL_UPMSR_EL1" 3 7 15 6 4 "Uncore PMU status" [],
   register .uncorePerf "SYS_APL_UPMECM2_EL1" 3 7 15 8 5 "Uncore PMU core mask 2" [],
   register .uncorePerf "SYS_APL_UPMECM3_EL1" 3 7 15 9 5 "Uncore PMU core mask 3" [],
   register .uncorePerf "SYS_APL_UPMESR1_EL1" 3 7 15 11 5 "Uncore PMU event selection 1" []] ++
  family .uncorePerf (fun n => "SYS_APL_UPMC" ++ Numeral.decimal n ++ "_EL1")
    "Uncore Performance Monitor Counter "
    (((List.range 8).map fun n => (n, .truncating 3 7 15 (n + 7) 4)) ++
      (List.range' 8 8).map fun n => (n, .truncating 3 7 15 (n - 8) 5))
    [.counter 62 0 "Counter Value", .flag 63 "Overflow"]

/-! ## Architectural registers -/

/-- The cause of an exception. -/
def exceptionClass : List (Word × String) :=
  [(0x00, "Unknown reason"),
   (0x01, "Trapped WFI/WFE"),
   (0x07, "SVE/SIMD/FP access"),
   (0x15, "SVC (AArch64)"),
   (0x16, "HVC (AArch64)"),
   (0x17, "SMC (AArch64)"),
   (0x18, "MSR/MRS trap"),
   (0x20, "Instruction Abort (lower EL)"),
   (0x21, "Instruction Abort (same EL)"),
   (0x22, "PC alignment fault"),
   (0x24, "Data Abort (lower EL)"),
   (0x25, "Data Abort (same EL)"),
   (0x26, "SP alignment fault"),
   (0x2C, "Floating-point exception"),
   (0x2F, "SError"),
   (0x30, "Breakpoint (lower EL)"),
   (0x31, "Breakpoint (same EL)"),
   (0x32, "Software step (lower EL)"),
   (0x33, "Software step (same EL)"),
   (0x34, "Watchpoint (lower EL)"),
   (0x35, "Watchpoint (same EL)"),
   (0x3C, "BRK instruction")]

/-- Registers of the architecture, kept for convenience. -/
def other : List Definition :=
  [register .other "ESR_EL1" 3 0 5 2 0 "Exception Syndrome Register (EL1)"
     [.raw 24 0 "ISS",
      .flag 25 "IL",
      .enumerated 31 26 "EC" exceptionClass,
      .raw 36 32 "ISS2"]]

/-- Every register, grouped by category. -/
def registers : List Definition :=
  hid ++ perfCounters ++ errorHandling ++ appleSpecific ++ memoryProtection ++ interrupts ++
    powerManagement ++ uncorePerf ++ other

/-! ## The catalog -/

/-- A number that determines a list of characters; two numbers are compared at once. -/
def nameKey (cs : List Char) : Nat :=
  cs.foldl (fun key c => key * 0x200000 + c.toNat) 0

/-- Both facts about names are evaluated together, so that each name is spelled out once. -/
theorem names_registers :
    (∀ d ∈ registers, Text.trim d.name.toList ≠ []) ∧
      registers.Pairwise fun a b => Violation.foldedName a ≠ Violation.foldedName b := by
  have h : (∀ d ∈ registers, Text.trim d.name.toList ≠ []) ∧
      (registers.map fun d => nameKey (Violation.foldedName d)).Pairwise (· ≠ ·) := by
    decide +kernel
  exact ⟨h.1, (List.pairwise_map.1 h.2).imp fun hne heq => hne (congrArg nameKey heq)⟩

theorem encodings_registers : registers.Pairwise fun a b => a.encoding ≠ b.encoding := by
  have h : (registers.map fun d => d.encoding.packed).Pairwise (· ≠ ·) := by
    decide +kernel
  exact (List.pairwise_map.1 h).imp fun hne heq => hne (congrArg Encoding.packed heq)

theorem layouts_registers : ∀ d ∈ registers, d.WellLaidOut := by
  have h : ∀ d ∈ registers, Violation.ofFields d = [] := by
    decide +kernel
  exact fun d hd => (Violation.ofFields_eq_nil_iff d).1 (h d hd)

theorem wellFormed_registers : WellFormed registers where
  named := names_registers.1
  system := by decide +kernel
  names := names_registers.2
  encodings := encodings_registers
  layouts := layouts_registers

end SysReg.AppleSilicon

/-- The registers of Apple Silicon. -/
def SysReg.Catalog.appleSilicon : SysReg.Catalog where
  registers := SysReg.AppleSilicon.registers
  wellFormed := SysReg.AppleSilicon.wellFormed_registers
