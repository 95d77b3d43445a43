import SysReg.Proofs.Encoding.Notation
import SysReg.Proofs.Json.Source
import SysReg.Proofs.Result
import SysReg.Proofs.Snapshot.Basic
import SysReg.Proofs.Time.Text
import SysReg.Proofs.Word
import SysReg.Snapshot.Document

/-!
# Snapshots read back from their documents

A snapshot passes through four forms on its way to a text: its records, the document, the JSON value
and the laid out text.  Each form is read back as the one before it; the lemmas are ordered from the
single values of a record up to the whole document.

The one thing that a document cannot hold is the encoding of an instruction: `op0` 0 and 1 can be
written but are refused when they are read, so every statement from the record on asks for encodings
of system registers.
-/

namespace SysReg

/-! ## Single values -/

namespace Document

/-- A value in either hexadecimal spelling is read as the value. -/
lemma wordOfText_of_mem_hexSpellings {w : Word} {hex : String} (h : hex ∈ w.hexSpellings) :
    wordOfText hex = .ok w := by
  obtain ⟨digits, htext, hspelt⟩ := Word.exists_speltBy h
  have hempty : digits.isEmpty = false := List.isEmpty_eq_false_iff.2 hspelt.nonempty
  have hdigits : digits.all Numeral.isHexDigit = true := List.all_eq_true.2 hspelt.hex
  unfold wordOfText
  simp only [htext, hexBody?, hempty, hdigits, Bool.not_true, Bool.or_self, Bool.false_eq_true,
    if_false, hspelt.value]
  rfl

open Json (Source tree trees memberTrees)

lemma readText_tree (s : String) : readText (tree (.string s)) = .ok s := by
  simp [tree, readText]

lemma readBool_tree (b : Bool) : readBool (tree (.bool b)) = .ok b := by
  simp [tree, readBool]

lemma readVersion_tree {n : Nat} (hn : n < 0x100000000) :
    readVersion (tree (.number n)) = .ok n := by
  have hdigits : (Nat.toDigits 10 n).all Char.isDigit = true :=
    List.all_eq_true.2 fun _ => Numeral.isDigit_of_mem_decimal
  simp [tree, readVersion, hdigits, hn]

/-- What reads back every text that a value is written as reads back an optional value. -/
lemma readOptional_tree {α : Type} {read : Source → Result α} {write : α → String}
    (h : ∀ a, read (tree (.string (write a))) = .ok a) (o : Option α) :
    readOptional read (tree (Json.optionalString (o.map write))) = .ok o := by
  cases o with
  | none => simp [Json.optionalString, tree, readOptional]
  | some a =>
    have ha := h a
    simp only [tree] at ha
    simp [Json.optionalString, tree, readOptional, ha, Except.map]

lemma readCategory_tree (c : Category) : readCategory (tree (.string c.name)) = .ok c := by
  rw [readCategory, readText_tree]
  simp [bind, Except.bind, Category.ofText?_name]

lemma readEncoding_tree {e : Encoding} (h : e.isSystemRegister = true) :
    readEncoding (tree (.string e.canonical)) = .ok e := by
  rw [readEncoding, readText_tree]
  simp [bind, Except.bind, Encoding.ofCanonical_canonical h, Except.mapError]

lemma readTime_tree (t : Time) : readTime (tree (.string t.zuluText)) = .ok t := by
  rw [readTime, readText_tree]
  simp [bind, Except.bind, Time.ofText?_zuluText]

lemma readWord_tree (w : Word) : readWord (tree (.string w.padded)) = .ok w := by
  rw [readWord, readText_tree]
  exact wordOfText_of_mem_hexSpellings List.mem_cons_self

/-! ## Objects -/

lemma fill_none {α : Type} {value : Result α} {a : α} (h : value = .ok a) :
    fill none value = .ok (some a) := by
  rw [fill, h]
  rfl

/-- The object of a record is read as the record. -/
lemma readRecord_tree {r : Record} (h : r.encoding.isSystemRegister = true) :
    readRecord (tree r.json) = .ok r := by
  obtain ⟨name, encoding, value, success, time, error⟩ := r
  have hname := fill_none (readText_tree name)
  have hencoding := fill_none (readEncoding_tree h)
  have hvalue := fill_none (readOptional_tree readWord_tree value)
  have hsuccess := fill_none (readBool_tree success)
  have htime := fill_none (readTime_tree time)
  cases error with
  | none =>
    simp [Record.json, Json.optionalMember, Json.tree_object, memberTrees, readRecord, addMembers,
      RecordParts.add, RecordParts.empty, RecordParts.finish, filled, hname, hencoding, hvalue,
      hsuccess, htime, bind, Except.bind, pure, Except.pure]
  | some detail =>
    have herror : fill none (readOptional readText (tree (.string detail))) =
        .ok (some (some detail)) :=
      fill_none (readOptional_tree readText_tree (some detail))
    simp [Record.json, Json.optionalMember, Json.tree_object, memberTrees, readRecord, addMembers,
      RecordParts.add, RecordParts.empty, RecordParts.finish, filled, hname, hencoding, hvalue,
      hsuccess, htime, herror, bind, Except.bind, pure, Except.pure]

lemma readRecords_tree {records : List Record}
    (h : ∀ r ∈ records, r.encoding.isSystemRegister = true) :
    readRecords (tree (.array (records.map Record.json))) = .ok records := by
  rw [Json.tree_array, List.map_map, readRecords]
  exact mapM_map_eq_ok fun r hr => readRecord_tree (h r hr)

/-- The object of a document of the present version is read as the document. -/
lemma ofSource_tree {d : Document} (hversion : d.version < 0x100000000)
    (h : ∀ r ∈ d.records, r.encoding.isSystemRegister = true) :
    ofSource (tree d.json) = .ok d := by
  obtain ⟨version, label, filter, createdAt, records⟩ := d
  have hversion := fill_none (readVersion_tree hversion)
  have hlabel := fill_none (readText_tree label)
  have hfilter := fill_none (readOptional_tree readCategory_tree filter)
  have hcreatedAt := fill_none (readTime_tree createdAt)
  have hrecords := fill_none (readRecords_tree h)
  simp [Document.json, Json.tree_object, memberTrees, ofSource, addMembers, Parts.add, Parts.empty,
    Parts.finish, filled, hversion, hlabel, hfilter, hcreatedAt, hrecords, bind, Except.bind, pure,
    Except.pure]

/-- The text of a document is read as the document. -/
theorem ofText_text_json {d : Document} (hversion : d.version < 0x100000000)
    (h : ∀ r ∈ d.records, r.encoding.isSystemRegister = true) :
    Document.ofText d.json.text = .ok d := by
  rw [Document.ofText, Json.ofText_toList_text]
  simp [ofSource_tree hversion h, bind, Except.bind, pure, Except.pure]

end Document

/-! ## Snapshots -/

/-- The record of a reading is the record of no other reading. -/
lemma Record.reading_ofReading (r : Reading) : (Record.ofReading r).reading = .ok r := by
  obtain ⟨name, encoding, time, outcome⟩ := r
  cases outcome <;> rfl

namespace Snapshot

lemma pushRecord_ofReading (s : Snapshot) (r : Reading) :
    s.pushRecord (.ofReading r) = s.push? r := by
  rw [pushRecord, Record.reading_ofReading]
  rfl

lemma ofDocument_ofSnapshot (s : Snapshot) : ofDocument (.ofSnapshot s) = .ok s := by
  have hfold : ∀ (readings : List Reading) (start : Snapshot),
      (readings.map Record.ofReading).foldlM pushRecord start = readings.foldlM push? start := by
    intro readings start
    rw [List.foldlM_map]
    simp only [pushRecord_ofReading]
  have hversion : (Document.ofSnapshot s).version ≤ documentVersion := Nat.le_refl _
  rw [ofDocument, if_pos hversion]
  exact (hfold s.readings _).trans (foldlM_push?_of_append rfl rfl rfl rfl)

/-- A snapshot of system registers is read back from its text. -/
theorem ofText_text {s : Snapshot} (h : ∀ r ∈ s.readings, r.encoding.isSystemRegister = true) :
    Snapshot.ofText s.text = .ok s := by
  have hrecords : ∀ r ∈ (Document.ofSnapshot s).records, r.encoding.isSystemRegister = true := by
    intro record hrecord
    obtain ⟨r, hr, rfl⟩ := List.mem_map.1 hrecord
    exact h r hr
  have hdocument : Document.ofText s.text = .ok (.ofSnapshot s) :=
    Document.ofText_text_json (by decide : documentVersion < 0x100000000) hrecords
  rw [Snapshot.ofText, hdocument]
  exact ofDocument_ofSnapshot s

/-- **Persistence is lossless.**  Readings of system registers that were added one after the other
are read back from the text of their snapshot: label, filter and creation time are those given, and
the readings are those that were added, in their order, with name, encoding, time and outcome.  Any
text may stand for a name or a detail and any time for a time. -/
theorem ofText_text_of_pushes {label : String} {filter : Option Category} {createdAt : Time}
    {readings : List Reading} {s : Snapshot}
    (hpushes : readings.foldlM push? (.empty label filter createdAt) = .ok s)
    (hsystem : ∀ r ∈ readings, r.encoding.isSystemRegister = true) :
    Snapshot.ofText s.text = .ok s ∧ s.label = label ∧ s.filter = filter ∧
      s.createdAt = createdAt ∧ s.readings = readings := by
  obtain ⟨hlabel, hfilter, hcreatedAt, hreadings⟩ := foldlM_push?_eq_ok hpushes
  have hall : s.readings = readings := hreadings
  refine ⟨ofText_text ?_, hlabel, hfilter, hcreatedAt, hall⟩
  rw [hall]
  exact hsystem

/-- A snapshot whose document needs everything that the format has: a name with a quote, a backslash
and a control character, one beyond the basic plane, a leap second before the first year, the
largest value, and a year of five digits. -/
def exacting : Snapshot where
  label := ""
  filter := some .perfCounter
  createdAt := { Time.epoch with date := ⟨10000, 2, 29, by decide⟩ }
  readings :=
    [⟨"\"\x01\\", .truncating 3 0 15 0 0,
        ⟨⟨-44, 3, 15, by decide⟩, Fin.last 23, Fin.last 59, Fin.last 60, Fin.last 999999999⟩,
        .value (BitVec.allOnes 64)⟩,
      ⟨"😀", .truncating 2 7 0 15 7, .epoch, .failed "\n"⟩]
  distinct := by decide

theorem exacting_persists :
    exacting.readings.foldlM push?
        (.empty exacting.label exacting.filter exacting.createdAt) = .ok exacting ∧
      (∀ r ∈ exacting.readings, r.encoding.isSystemRegister = true) ∧
      Snapshot.ofText exacting.text = .ok exacting := by
  have hpushes : exacting.readings.foldlM push?
      (.empty exacting.label exacting.filter exacting.createdAt) = .ok exacting :=
    foldlM_push?_of_append rfl rfl rfl rfl
  have hsystem : ∀ r ∈ exacting.readings, r.encoding.isSystemRegister = true := by decide
  exact ⟨hpushes, hsystem, (ofText_text_of_pushes hpushes hsystem).1⟩

end Snapshot
end SysReg
