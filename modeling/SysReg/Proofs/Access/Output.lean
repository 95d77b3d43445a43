import SysReg.Proofs.Access.Debugger
import SysReg.Proofs.Word.Typed

/-!
# What a run of the debugger says of a register

A read succeeds exactly if the debugger ended well, no line of either stream reports an error, and
its output holds a value; whatever else happens is a register that could not be read, under its
canonical spelling (`read_exact`).

Where a line names the register, is no echo of the command and assigns a literal, the first such line
decides.  Neither the lines that do not name the register nor the two fallbacks, which look at any
line, have a say then: of the output only the lines that name the register count, in their order.
-/

namespace SysReg

/-! ## First occurrences -/

namespace Text

/-- The text holds `needle` between the two parts, and nowhere before that. -/
structure FirstBetween (needle text before after : List Char) : Prop where
  split : text = before ++ (needle ++ after)
  first : ∀ before' after', text = before' ++ (needle ++ after') → before.length ≤ before'.length

lemma after?_eq_some_iff {needle text rest : List Char} :
    after? needle text = some rest ↔ ∃ before, FirstBetween needle text before rest := by
  induction text with
  | nil =>
    rw [after?, dropPrefix?_eq_some_iff]
    constructor
    · exact fun h => ⟨[], h, fun _ _ _ => Nat.zero_le _⟩
    · rintro ⟨before, hsplit, -⟩
      obtain ⟨rfl, -⟩ := List.append_eq_nil_iff.1 hsplit.symm
      exact hsplit
  | cons c cs ih =>
    rw [after?]
    split
    · next found hfound =>
      rw [dropPrefix?_eq_some_iff] at hfound
      constructor
      · rintro ⟨⟩
        exact ⟨[], hfound, fun _ _ _ => Nat.zero_le _⟩
      · rintro ⟨before, hsplit, hfirst⟩
        obtain rfl : before = [] := List.length_eq_zero_iff.1 (Nat.le_zero.1 (hfirst [] found hfound))
        exact congrArg some (List.append_cancel_left (hfound.symm.trans hsplit))
    · next hnone =>
      rw [ih]
      constructor
      · rintro ⟨before, hsplit, hfirst⟩
        refine ⟨c :: before, congrArg (c :: ·) hsplit, fun before' after' hsplit' => ?_⟩
        cases before' with
        | nil => cases hnone.symm.trans (dropPrefix?_eq_some_iff.2 hsplit')
        | cons c' before' =>
          exact Nat.succ_le_succ (hfirst before' after' (List.cons.inj hsplit').2)
      · rintro ⟨before, hsplit, hfirst⟩
        cases before with
        | nil => cases hnone.symm.trans (dropPrefix?_eq_some_iff.2 hsplit)
        | cons c' before =>
          refine ⟨before, (List.cons.inj hsplit).2, fun before' after' hsplit' => ?_⟩
          exact Nat.le_of_succ_le_succ (hfirst (c :: before') after' (congrArg (c :: ·) hsplit'))

lemma cutAt?_eq_some_iff {sep : Char} {text before after : List Char} :
    cutAt? sep text = some (before, after) ↔ text = before ++ sep :: after ∧ sep ∉ before := by
  refine ⟨fun h => ?_, fun ⟨hsplit, hnot⟩ => hsplit ▸ cutAt?_append hnot after⟩
  induction text generalizing before with
  | nil => cases h
  | cons c cs ih =>
    rw [cutAt?] at h
    split at h
    · next hc =>
      cases h
      exact ⟨congrArg (· :: _) hc, List.not_mem_nil⟩
    · next hc =>
      obtain ⟨⟨front, back⟩, hcut, hpair⟩ := Option.map_eq_some_iff.1 h
      cases hpair
      obtain ⟨rfl, hnot⟩ := ih hcut
      refine ⟨rfl, fun hmem => ?_⟩
      rcases List.mem_cons.1 hmem with hsep | hmem
      · exact hc hsep.symm
      · exact hnot hmem

/-- The bytes of an ASCII text are the codes of its characters. -/
lemma decodeBytes_ascii {text : List Char} (h : ∀ c ∈ text, c.toNat < 0x80) :
    decodeBytes (text.map Char.toNat) = text := by
  induction text with
  | nil => rw [List.map_nil, decodeBytes, decodeFrom]
  | cons c cs ih =>
    rw [List.forall_mem_cons] at h
    rw [List.map_cons, decodeBytes, decodeFrom, decodeFrom.first, if_pos h.1, Char.ofNat_toNat,
      ← decodeBytes, ih h.2]

end Text

namespace Debugger

open Text

variable {e : Encoding} {v : Word} {line output : List Char}

/-! ## Lines -/

/-- Behind the first `0x` of the text stand hexadecimal digits, which all together denote the
value. -/
def BeginsLiteral (v : Word) (text : List Char) : Prop :=
  ∃ before digits rest, FirstBetween ['0', 'x'] text before (digits ++ rest) ∧
    Numeral.Denotes 16 digits v.toNat ∧ ∀ c ∈ rest.head?, Numeral.isHexDigit c = false

/-- The part of the line behind its first equals sign begins with a literal of the value. -/
def Assigns (v : Word) (line : List Char) : Prop :=
  ∃ before after, line = before ++ '=' :: after ∧ '=' ∉ before ∧ BeginsLiteral v after

/-- The line names the register, is no echo of the command, and assigns the value. -/
structure Decides (e : Encoding) (v : Word) (line : List Char) : Prop where
  names : e.canonical.toList <:+: line
  noEcho : ¬"(lldb)".toList <+: trimStart line
  assigns : Assigns v line

lemma isHexDigit_of_denotes {digits : List Char} {n : Nat} (h : Numeral.Denotes 16 digits n) :
    ∀ c ∈ digits, Numeral.isHexDigit c = true := by
  intro c hc
  obtain ⟨d, -, hd⟩ := h.exists_digitValue? hc
  rw [Numeral.isHexDigit, hd]
  rfl

/-- Hexadecimal digits are the numeral of a value by what they denote: no sign is among them. -/
lemma ofNumeral_hex_eq_ok_iff {digits : List Char}
    (hdigits : ∀ c ∈ digits, Numeral.isHexDigit c = true) :
    Word.ofNumeral 16 digits = .ok v ↔ Numeral.Denotes 16 digits v.toNat := by
  rw [Word.ofNumeral_eq_ok_iff (by decide), or_iff_left]
  rintro ⟨rest, rfl, -⟩
  exact absurd (hdigits '+' List.mem_cons_self) (by decide)

lemma toOption_eq_some_iff {ε α : Type} {result : Except ε α} {a : α} :
    result.toOption = some a ↔ result = .ok a := by
  cases result <;> simp [Except.toOption]

lemma hexLiteral?_eq_some_iff {text : List Char} :
    hexLiteral? text = some v ↔ BeginsLiteral v text := by
  rw [hexLiteral?]
  constructor
  · intro h
    split at h
    · cases h
    · next rest hrest =>
      obtain ⟨before, hbefore⟩ := after?_eq_some_iff.1 hrest
      have hdigits : ∀ c ∈ rest.takeWhile Numeral.isHexDigit, Numeral.isHexDigit c = true :=
        fun c => List.mem_takeWhile_imp
      have hvalue : Word.ofNumeral 16 (rest.takeWhile Numeral.isHexDigit) = .ok v := by
        split at h
        · cases h
        · exact toOption_eq_some_iff.1 h
      refine ⟨before, rest.takeWhile Numeral.isHexDigit, rest.dropWhile Numeral.isHexDigit, ?_,
        (ofNumeral_hex_eq_ok_iff hdigits).1 hvalue, fun c hc => ?_⟩
      · rwa [List.takeWhile_append_dropWhile]
      · have hnot := List.head?_dropWhile_not Numeral.isHexDigit rest
        rwa [Option.mem_def.1 hc] at hnot
  · rintro ⟨before, digits, rest, hbefore, hdenotes, hend⟩
    have hdigits := isHexDigit_of_denotes hdenotes
    rw [after?_eq_some_iff.2 ⟨before, hbefore⟩]
    simp only [(takeWhile_and_dropWhile_append hdigits hend).1]
    obtain ⟨c, cs, rfl⟩ := List.exists_cons_of_ne_nil hdenotes.nonempty
    exact toOption_eq_some_iff.2 ((ofNumeral_hex_eq_ok_iff hdigits).2 hdenotes)

lemma assigned?_eq_some_iff : assigned? line = some v ↔ Assigns v line := by
  rw [assigned?]
  constructor
  · intro h
    split at h
    · next before after hcut =>
      obtain ⟨hsplit, hnot⟩ := cutAt?_eq_some_iff.1 hcut
      exact ⟨before, after, hsplit, hnot, hexLiteral?_eq_some_iff.1 h⟩
    · cases h
  · rintro ⟨before, after, hsplit, hnot, hliteral⟩
    rw [cutAt?_eq_some_iff.2 ⟨hsplit, hnot⟩]
    exact hexLiteral?_eq_some_iff.2 hliteral

lemma isOwnLine_iff {register : List Char} :
    isOwnLine register line = true ↔
      register <:+: line ∧ ¬"(lldb)".toList <+: trimStart line := by
  rw [isOwnLine, Bool.and_eq_true, contains_iff, Bool.not_eq_true', ← Bool.not_eq_true,
    startsWith_iff]

lemma decides_iff :
    Decides e v line ↔ isOwnLine e.canonical.toList line = true ∧ assigned? line = some v := by
  rw [isOwnLine_iff, assigned?_eq_some_iff]
  exact ⟨fun h => ⟨⟨h.names, h.noEcho⟩, h.assigns⟩, fun h => ⟨h.1.1, h.1.2, h.2⟩⟩

/-! ## Outputs -/

/-- The first line that decides, with the lines around it. -/
structure FirstDecides (e : Encoding) (v : Word) (output : List Char) (before : List (List Char))
    (line : List Char) (after : List (List Char)) : Prop where
  split : lines output = before ++ line :: after
  decides : Decides e v line
  first : ∀ l ∈ before, ∀ u, ¬Decides e u l

lemma exists_firstDecides (h : ∃ line ∈ lines output, ∃ v, Decides e v line) :
    ∃ v before line after, FirstDecides e v output before line after := by
  classical
  obtain ⟨line, hfound⟩ : ∃ line, (lines output).find? (fun l => ∃ v, Decides e v l) = some line := by
    rw [← Option.isSome_iff_exists, List.find?_isSome]
    simpa only [decide_eq_true_eq] using h
  obtain ⟨hdecides, before, after, hsplit, hbefore⟩ := List.find?_eq_some_iff_append.1 hfound
  obtain ⟨v, hdecides⟩ := of_decide_eq_true hdecides
  refine ⟨v, before, line, after, hsplit, hdecides, fun l hl u hu => ?_⟩
  have hnone : ¬∃ u, Decides e u l := by
    simpa only [Bool.not_eq_true', decide_eq_false_iff_not] using hbefore l hl
  exact hnone ⟨u, hu⟩

/-- The outputs have the same lines that name the register, in the same order; any others may stand
in one of them alone. -/
def AgreeOnNamed (e : Encoding) (output output' : List Char) : Prop :=
  (lines output).filter (contains e.canonical.toList) =
    (lines output').filter (contains e.canonical.toList)

lemma filter_isOwnLine (e : Encoding) (output : List Char) :
    (lines output).filter (isOwnLine e.canonical.toList) =
      ((lines output).filter (contains e.canonical.toList)).filter
        (isOwnLine e.canonical.toList) := by
  rw [List.filter_filter]
  refine List.filter_congr fun line _ => ?_
  rw [isOwnLine]
  cases contains e.canonical.toList line <;> simp

/-- The first line that decides is the first of the register's own lines that assigns something. -/
lemma findSome?_ownLines {before after : List (List Char)}
    (h : FirstDecides e v output before line after) :
    ((lines output).filter (isOwnLine e.canonical.toList)).findSome? assigned? = some v := by
  obtain ⟨hown, hassigned⟩ := decides_iff.1 h.decides
  have hbefore : (before.filter (isOwnLine e.canonical.toList)).findSome? assigned? = none := by
    rw [List.findSome?_eq_none_iff]
    intro l hl
    obtain ⟨hmem, hl⟩ := List.mem_filter.1 hl
    rw [Option.eq_none_iff_forall_ne_some]
    exact fun u hu => h.first l hmem u (decides_iff.2 ⟨hl, hu⟩)
  rw [h.split, List.filter_append, List.filter_cons_of_pos hown, List.findSome?_append, hbefore,
    List.findSome?_cons, hassigned]
  rfl

/-- Of the output only the lines that name the register count, if one of them decides. -/
lemma valueIn?_of_firstDecides {before after : List (List Char)}
    (h : FirstDecides e v output before line after) {output' : List Char}
    (hagree : AgreeOnNamed e output output') : valueIn? output' e.canonical = some v := by
  have hfirst := findSome?_ownLines h
  rw [filter_isOwnLine, hagree, ← filter_isOwnLine] at hfirst
  simp only [valueIn?, hfirst, Option.some_or]

/-! ## Runs -/

/-- The run ended with status zero, and no line of either stream reports an error. -/
structure Clean (run : Finished) : Prop where
  ending : run.ending = .exited 0
  noError : ∀ line ∈ lines (decodeBytes run.stdout) ++ lines (decodeBytes run.stderr),
    ¬"error:".toList <+: trimStart line

lemma isErrorLine_iff : isErrorLine line = true ↔ "error:".toList <+: trimStart line :=
  startsWith_iff

lemma find?_isErrorLine_eq_none_iff {found : List (List Char)} :
    found.find? isErrorLine = none ↔ ∀ line ∈ found, ¬"error:".toList <+: trimStart line := by
  simp only [List.find?_eq_none, isErrorLine_iff]

lemma outcome_eq_value_iff {run : Finished} :
    outcome e run = .value v ↔
      Clean run ∧ valueIn? (decodeBytes run.stdout) e.canonical = some v := by
  rw [outcome]
  constructor
  · intro h
    split at h
    · cases h
    · next hnone =>
      split at h
      · cases h
      · next hending =>
        refine ⟨⟨not_not.1 hending, find?_isErrorLine_eq_none_iff.1 hnone⟩, ?_⟩
        split at h
        · next found hfound =>
          cases h
          exact hfound
        · cases h
  · rintro ⟨⟨hending, hnoError⟩, hvalue⟩
    simp only [find?_isErrorLine_eq_none_iff.2 hnoError, hending, hvalue, ne_eq, not_true_eq_false,
      if_false]

variable {d : Debugger} {result : Except FileFault Finished}

lemma answer_eq_ok_iff :
    d.answer e result = .ok v ↔ ∃ run, result = .ok run ∧ Clean run ∧
      valueIn? (decodeBytes run.stdout) e.canonical = some v := by
  cases result with
  | error fault => simp only [answer, reduceCtorEq, false_and, exists_false]
  | ok run =>
    simp only [Except.ok.injEq, exists_eq_left', ← outcome_eq_value_iff, answer]
    cases outcome e run <;> simp

/-- A read that fails says so of the register, whatever went wrong. -/
lemma exists_detail_of_answer {failure : Failure} (h : d.answer e result = .error failure) :
    ∃ detail, failure = .unreadable e.canonical detail := by
  cases result with
  | error fault => exact ⟨_, (Except.error.inj h).symm⟩
  | ok run =>
    simp only [answer] at h
    split at h
    · cases h
    · exact ⟨_, (Except.error.inj h).symm⟩

/-- **A read takes the value of a clean run from the register's own line.**  A read runs the debugger
once, and succeeds with a value exactly if the run was clean and its output holds the value; in every
other case, also if the debugger could not be run, it fails for the register under its canonical
spelling.  The value in an output is that of the first line that decides, if there is one, and no
output that has the same lines naming the register holds another. -/
theorem read_exact {σ : Type} (d : Debugger)
    (spawn : String → List String → StateM σ (Except FileFault Finished)) (e : Encoding) (w : σ) :
    (∃ result answer w', (spawn d.program (d.arguments e)).run w = (result, w') ∧
      (d.read spawn e).run w = (answer, w') ∧
      (∀ v, answer = .ok v ↔ ∃ run, result = .ok run ∧ Clean run ∧
        valueIn? (decodeBytes run.stdout) e.canonical = some v) ∧
      ((¬∃ v, answer = .ok v) ↔ ∃ detail, answer = .error (.unreadable e.canonical detail))) ∧
    ∀ output, (∃ line ∈ lines output, ∃ v, Decides e v line) →
      ∃ v before line after, FirstDecides e v output before line after ∧
        ∀ output', AgreeOnNamed e output output' → valueIn? output' e.canonical = some v := by
  constructor
  · obtain ⟨result, w', hspawn⟩ : ∃ result w',
        (spawn d.program (d.arguments e)).run w = (result, w') := ⟨_, _, rfl⟩
    refine ⟨result, d.answer e result, w', hspawn, ?_, fun v => answer_eq_ok_iff, ?_⟩
    · rw [read, StateT.run_bind, hspawn]
      rfl
    · rw [← exists_eq_error_iff]
      constructor
      · rintro ⟨failure, hfailure⟩
        obtain ⟨detail, rfl⟩ := exists_detail_of_answer hfailure
        exact ⟨detail, hfailure⟩
      · exact fun ⟨detail, hdetail⟩ => ⟨_, hdetail⟩
  · intro output hdecides
    obtain ⟨v, before, line, after, h⟩ := exists_firstDecides hdecides
    exact ⟨v, before, line, after, h, fun output' => valueIn?_of_firstDecides h⟩

/-- A debugger that shows another register, repeats the command with a value and then answers. -/
def echoing : String :=
  "  x0 = 0x1111\n(lldb) register read s3_0_c15_c0_0 = 0x2222\n    s3_0_c15_c0_0 = 0x20\n"

/-- Neither the register that is shown first nor the repeated command misleads a read, and no text
without the name of the register changes what is read. -/
theorem read_exact_echoing :
    (read ⟨"lldb", .process 1⟩
      (fun _ _ => (pure (.ok ⟨echoing.toList.map Char.toNat, [], .exited 0⟩) : StateM Nat _))
      (.truncating 3 0 15 0 0)).run 7 = (.ok 0x20, 7) ∧
    ∀ output, AgreeOnNamed (.truncating 3 0 15 0 0) echoing.toList output →
      valueIn? output "s3_0_c15_c0_0" = some 0x20 := by
  have hascii : echoing.toList.all (·.toNat < 0x80) = true := by decide
  have hdecode : decodeBytes (echoing.toList.map Char.toNat) = echoing.toList :=
    decodeBytes_ascii (by simpa using hascii)
  have hsilent : decodeBytes [] = [] := @decodeBytes_ascii [] nofun
  have hvalue : valueIn? echoing.toList "s3_0_c15_c0_0" = some 0x20 := by decide
  obtain ⟨⟨result, answer, w', hspawn, hread, hanswer, -⟩, hlines⟩ :=
    read_exact ⟨"lldb", .process 1⟩
      (fun _ _ => (pure (.ok ⟨echoing.toList.map Char.toNat, [], .exited 0⟩) : StateM Nat _))
      (.truncating 3 0 15 0 0) 7
  obtain ⟨rfl, rfl⟩ := Prod.mk.inj hspawn
  constructor
  · rw [hread, (hanswer 0x20).2 ⟨_, rfl, ⟨rfl, ?_⟩, ?_⟩]
    · simp only [hdecode, hsilent]
      decide
    · rw [hdecode]
      exact hvalue
  · obtain ⟨v, before, line, after, -, hagree⟩ := hlines echoing.toList
      ⟨"    s3_0_c15_c0_0 = 0x20".toList, by decide, 0x20, decides_iff.2 (by decide)⟩
    have hv : v = 0x20 := Option.some.inj ((hagree echoing.toList rfl).symm.trans hvalue)
    exact hv ▸ hagree

end Debugger
end SysReg
