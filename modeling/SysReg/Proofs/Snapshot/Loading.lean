import SysReg.Proofs.Snapshot.Document
import SysReg.Proofs.Snapshot.Parts

/-!
# Loading snapshots

A snapshot that is loaded holds one reading for each record of its document, in the order of the
records, and each reading tells what its record says.  A document whose parts could all be read is
refused exactly if it is flawed, and always as a faulty snapshot (`loading_exact`).

The loader adds the readings one after the other and stops at the first fault.  Its fold is split
into two questions that do not depend on order: whether each record by itself makes a reading
(`Record.reading_eq_ok_iff`), and whether the names of all of them differ.
-/

namespace SysReg

/-! ## Records -/

/-- The reading tells what its record says: a value if the record says success, and the detail of a
failure if it does not. -/
structure Record.Becomes (record : Record) (r : Reading) : Prop where
  name : r.name = record.name
  encoding : r.encoding = record.encoding
  time : r.time = record.time
  value : record.success = true → ∃ w, record.value = some w ∧ r.value? = some w ∧ r.detail? = none
  detail : record.success = false →
    r.value? = none ∧ r.detail? = some (record.error.getD defaultDetail)

lemma Reading.outcome_eq_value_iff {r : Reading} {w : Word} :
    r.value? = some w ↔ r.outcome = .value w := by
  rw [value?]
  cases r.outcome <;> simp

lemma Reading.outcome_eq_failed_iff {r : Reading} {detail : String} :
    r.detail? = some detail ↔ r.outcome = .failed detail := by
  rw [detail?]
  cases r.outcome <;> simp

/-- A record makes a reading exactly if its outcome agrees with its value. -/
lemma Record.reading_eq_ok_iff {record : Record} {r : Reading} :
    record.reading = .ok r ↔ record.success = record.value.isSome ∧ record.Becomes r := by
  obtain ⟨name, encoding, value, success, time, error⟩ := record
  obtain ⟨name', encoding', time', outcome⟩ := r
  constructor
  · intro h
    cases success <;> cases value <;> cases h
    · exact ⟨rfl, rfl, rfl, rfl, nofun, fun _ => ⟨rfl, rfl⟩⟩
    · exact ⟨rfl, rfl, rfl, rfl, fun _ => ⟨_, rfl, rfl, rfl⟩, nofun⟩
  · rintro ⟨hagree, hname, hencoding, htime, hvalue, hdetail⟩
    cases hname
    cases hencoding
    cases htime
    cases success with
    | false =>
      obtain ⟨-, houtcome⟩ := hdetail rfl
      cases Reading.outcome_eq_failed_iff.1 houtcome
      cases value <;> cases hagree
      rfl
    | true =>
      obtain ⟨w, hw, houtcome, -⟩ := hvalue rfl
      cases Reading.outcome_eq_value_iff.1 houtcome
      cases hw
      rfl

/-- A record whose outcome agrees with its value makes a reading. -/
lemma Record.exists_reading {record : Record} (h : record.success = record.value.isSome) :
    ∃ r, record.reading = .ok r := by
  obtain ⟨name, encoding, value, success, time, error⟩ := record
  cases success <;> cases value <;> cases h <;> exact ⟨_, rfl⟩

/-! ## Documents -/

/-- The snapshot holds what the document says: a reading for each of its records, in their order,
with names that differ and encodings of system registers. -/
structure Document.HeldBy (d : Document) (s : Snapshot) : Prop where
  label : s.label = d.label
  filter : s.filter = d.filter
  createdAt : s.createdAt = d.createdAt
  readings : List.Forall₂ Record.Becomes d.records s.readings
  names : s.readings.Pairwise fun a b => a.name ≠ b.name
  encodings : ∀ r ∈ s.readings, r.encoding.op0 = 2 ∨ r.encoding.op0 = 3

/-- What can be wrong with a document whose parts could all be read. -/
inductive Document.Flawed (d : Document) : Prop
  /-- It is of a newer version. -/
  | version (h : 1 < d.version)
  /-- A record says success without a value, or failure with one. -/
  | outcome (record : Record) (hmem : record ∈ d.records)
      (h : record.success ≠ record.value.isSome)
  /-- A record repeats the name of an earlier one. -/
  | name (i j : Fin d.records.length) (hlt : i < j) (h : d.records[i].name = d.records[j].name)

lemma Document.pairwise_names_iff {d : Document} :
    (d.records.Pairwise fun a b => a.name ≠ b.name) ↔
      ∀ i j : Fin d.records.length, i < j → d.records[i].name ≠ d.records[j].name := by
  rw [List.pairwise_iff_getElem]
  exact ⟨fun h i j hlt => h i j i.isLt j.isLt hlt, fun h i j hi hj hlt => h ⟨i, hi⟩ ⟨j, hj⟩ hlt⟩

/-- A document is without flaw if none of the three things is wrong. -/
lemma Document.not_flawed_iff {d : Document} :
    ¬d.Flawed ↔ d.version ≤ documentVersion ∧
      (∀ record ∈ d.records, record.success = record.value.isSome) ∧
      d.records.Pairwise fun a b => a.name ≠ b.name := by
  rw [pairwise_names_iff]
  constructor
  · intro h
    refine ⟨Nat.le_of_not_lt fun hlt => h (.version hlt), fun record hmem => ?_, fun i j hlt heq =>
      h (.name i j hlt heq)⟩
    by_contra hne
    exact h (.outcome record hmem hne)
  · rintro ⟨hversion, houtcomes, hnames⟩ (hlt | ⟨record, hmem, hne⟩ | ⟨i, j, hlt, heq⟩)
    · exact Nat.not_lt_of_le hversion hlt
    · exact hne (houtcomes record hmem)
    · exact hnames i j hlt heq

namespace Snapshot

open Document (readRecord Lists)

/-! ## Adding records -/

/-- Adding records one after the other is adding the readings that they make. -/
lemma foldlM_pushRecord_eq_ok_iff {records : List Record} {s s' : Snapshot} :
    records.foldlM pushRecord s = .ok s' ↔ ∃ readings,
      List.Forall₂ (fun record r => record.reading = .ok r) records readings ∧
        readings.foldlM push? s = .ok s' := by
  induction records generalizing s with
  | nil => simp
  | cons record records ih =>
    have hpush (next : Snapshot) : s.pushRecord record = .ok next ↔
        ∃ r, record.reading = .ok r ∧ s.push? r = .ok next := by
      rw [pushRecord, bind_eq_ok_iff]
      cases record.reading <;> simp [Except.mapError]
    rw [List.foldlM_cons, bind_eq_ok_iff]
    simp only [hpush, ih]
    constructor
    · rintro ⟨next, ⟨r, hr, hnext⟩, readings, hall, hrest⟩
      exact ⟨r :: readings, .cons hr hall, bind_eq_ok_iff.2 ⟨next, hnext, hrest⟩⟩
    · rintro ⟨readings, hall, hfold⟩
      obtain ⟨r, rest, hr, hrest, rfl⟩ := List.forall₂_cons_left_iff.1 hall
      obtain ⟨next, hnext, hrest'⟩ := bind_eq_ok_iff.1 hfold
      exact ⟨next, ⟨r, hr, hnext⟩, rest, hrest, hrest'⟩

/-- Whatever keeps a record from being added is a fault of the snapshot. -/
lemma exists_fault_of_foldlM_pushRecord {records : List Record} {s : Snapshot} {failure : Failure}
    (h : records.foldlM pushRecord s = .error failure) : ∃ fault, failure = .snapshot fault := by
  induction records generalizing s with
  | nil => cases h
  | cons record records ih =>
    rw [List.foldlM_cons] at h
    cases hpush : s.pushRecord record with
    | ok next =>
      rw [hpush] at h
      exact ih h
    | error found =>
      rw [hpush] at h
      cases h
      unfold pushRecord at hpush
      cases hreading : record.reading with
      | error fault =>
        rw [hreading] at hpush
        cases hpush
        exact ⟨fault, rfl⟩
      | ok r =>
        rw [hreading] at hpush
        change s.push? r = _ at hpush
        unfold push? at hpush
        split at hpush <;> cases hpush
        exact ⟨_, rfl⟩

/-! ## Loading documents -/

/-- The snapshots that a document is loaded as. -/
lemma ofDocument_eq_ok_iff {d : Document} {s : Snapshot} :
    ofDocument d = .ok s ↔ d.version ≤ documentVersion ∧
      (s.label = d.label ∧ s.filter = d.filter ∧ s.createdAt = d.createdAt) ∧
      List.Forall₂ (fun record r => record.reading = .ok r) d.records s.readings := by
  unfold ofDocument
  split
  · next hversion =>
    rw [foldlM_pushRecord_eq_ok_iff]
    constructor
    · rintro ⟨readings, hall, hfold⟩
      obtain ⟨hlabel, hfilter, hcreatedAt, hreadings⟩ := foldlM_push?_eq_ok hfold
      have hreadings : s.readings = readings := hreadings
      exact ⟨hversion, ⟨hlabel, hfilter, hcreatedAt⟩, hreadings ▸ hall⟩
    · rintro ⟨-, ⟨hlabel, hfilter, hcreatedAt⟩, hall⟩
      exact ⟨s.readings, hall, foldlM_push?_of_append hlabel hfilter hcreatedAt rfl⟩
  · next hversion => exact iff_of_false nofun fun h => hversion h.1

/-- A document is loaded exactly if it is without flaw. -/
lemma exists_ofDocument_eq_ok_iff {d : Document} : (∃ s, ofDocument d = .ok s) ↔ ¬d.Flawed := by
  have hnames {readings : List Reading}
      (hall : List.Forall₂ (fun record r => record.reading = .ok r) d.records readings) :
      (d.records.Pairwise fun a b => a.name ≠ b.name) ↔
        readings.Pairwise fun a b => a.name ≠ b.name := by
    have hmap : readings.map Reading.name = d.records.map Record.name := by
      rw [← List.forall₂_eq_eq_eq, List.forall₂_map_left_iff, List.forall₂_map_right_iff]
      exact hall.flip.imp fun r record h => (Record.reading_eq_ok_iff.1 h).2.name
    rw [← List.pairwise_map (R := (· ≠ ·)), ← hmap, List.pairwise_map]
  rw [Document.not_flawed_iff]
  constructor
  · rintro ⟨s, hs⟩
    obtain ⟨hversion, -, hall⟩ := ofDocument_eq_ok_iff.1 hs
    refine ⟨hversion, fun record hmem => ?_, (hnames hall).2 s.distinct⟩
    obtain ⟨r, -, hr⟩ := exists_mem_of_forall₂ hall hmem
    exact (Record.reading_eq_ok_iff.1 hr).1
  · rintro ⟨hversion, houtcomes, hdistinct⟩
    obtain ⟨readings, -, hall⟩ : ∃ readings, d.records.mapM Record.reading = .ok readings ∧
        List.Forall₂ (fun record r => record.reading = .ok r) d.records readings := by
      refine exists_mapM_eq_ok fun record hmem => ?_
      obtain ⟨r, hr⟩ := Record.exists_reading (houtcomes record hmem)
      exact ⟨r, hr, hr⟩
    exact ⟨⟨d.label, d.filter, d.createdAt, readings, (hnames hall).1 hdistinct⟩,
      ofDocument_eq_ok_iff.2 ⟨hversion, ⟨rfl, rfl, rfl⟩, hall⟩⟩

/-- A document that is refused is refused as a faulty snapshot. -/
lemma exists_fault_of_ofDocument {d : Document} {failure : Failure}
    (h : ofDocument d = .error failure) : ∃ fault, failure = .snapshot fault := by
  unfold ofDocument at h
  split at h
  · exact exists_fault_of_foldlM_pushRecord h
  · cases h
    exact ⟨_, rfl⟩

/-! ## Loading texts -/

/-- A text is loaded as its document is. -/
lemma ofText_of_document {text : String} {d : Document} (h : Document.ofText text = .ok d) :
    ofText text = ofDocument d := by
  rw [ofText, h]
  rfl

lemma ofText_eq_ok_iff {text : String} {s : Snapshot} :
    ofText text = .ok s ↔ ∃ d, Document.ofText text = .ok d ∧ ofDocument d = .ok s := by
  rw [ofText, bind_eq_ok_iff]
  cases Document.ofText text <;> simp [Except.mapError]

/-- What was loaded is of system registers only. -/
lemma isSystemRegister_of_ofText {text : String} {s : Snapshot} (h : ofText text = .ok s) {r : Reading}
    (hr : r ∈ s.readings) : r.encoding.isSystemRegister = true := by
  obtain ⟨d, hd, hs⟩ := ofText_eq_ok_iff.1 h
  obtain ⟨items, -, hitems⟩ := Document.exists_items_of_ofSource (Document.ofText_eq_ok_iff.1 hd).1
  obtain ⟨-, -, hall⟩ := ofDocument_eq_ok_iff.1 hs
  obtain ⟨record, hrecord, hreading⟩ := exists_mem_of_forall₂ hall.flip hr
  obtain ⟨item, -, hitem⟩ := exists_mem_of_forall₂ hitems.flip hrecord
  rw [(Record.reading_eq_ok_iff.1 hreading).2.encoding]
  exact Document.isSystemRegister_of_readRecord hitem

/-- **Loading is exact.**  What is loaded from a text is complete and well formed: each element of
the list of registers was read as a record, and each record is held as a reading.  A text whose
document could be read is refused exactly if the document is flawed, and always as a faulty
snapshot. -/
theorem loading_exact (text : String) :
    (∀ s, ofText text = .ok s → ∃ d items, Document.ofText text = .ok d ∧
      Lists (Json.Source.ofText text.toList).1 items ∧
      List.Forall₂ (fun item record => readRecord item = .ok record) items d.records ∧
      d.HeldBy s) ∧
    ∀ d, Document.ofText text = .ok d →
      ((∃ failure, ofText text = .error failure) ↔ d.Flawed) ∧
      ∀ failure, ofText text = .error failure → ∃ fault, failure = .snapshot fault := by
  constructor
  · intro s hs
    obtain ⟨d, hd, hload⟩ := ofText_eq_ok_iff.1 hs
    obtain ⟨items, hlists, hitems⟩ :=
      Document.exists_items_of_ofSource (Document.ofText_eq_ok_iff.1 hd).1
    obtain ⟨-, ⟨hlabel, hfilter, hcreatedAt⟩, hall⟩ := ofDocument_eq_ok_iff.1 hload
    refine ⟨d, items, hd, hlists, hitems, hlabel, hfilter, hcreatedAt, ?_, s.distinct, ?_⟩
    · exact hall.imp fun record r h => (Record.reading_eq_ok_iff.1 h).2
    · exact fun r hr => Encoding.isSystemRegister_iff.1 (isSystemRegister_of_ofText hs hr)
  · intro d hd
    rw [ofText_of_document hd]
    refine ⟨?_, fun failure => exists_fault_of_ofDocument⟩
    rw [exists_eq_error_iff, exists_ofDocument_eq_ok_iff, not_not]

/-- A document in which one register is recorded twice, with failures that give no detail. -/
def twofold : Document :=
  ⟨1, "", none, .epoch, [⟨"HID0", .truncating 3 0 15 0 0, none, false, .epoch, none⟩,
    ⟨"HID0", .truncating 3 0 15 1 0, none, false, .epoch, none⟩]⟩

/-- The same document with the first record alone. -/
def single : Document :=
  { twofold with records := twofold.records.take 1 }

/-- The parts of the one can all be read, and it is refused as a faulty snapshot.  The other one is
loaded. -/
theorem loading_twofold : Document.ofText twofold.json.text = .ok twofold ∧ twofold.Flawed ∧
    (∃ fault, ofText twofold.json.text = .error (.snapshot fault)) ∧
    ∃ s, ofText single.json.text = .ok s ∧ single.HeldBy s := by
  have hread : Document.ofText twofold.json.text = .ok twofold :=
    Document.ofText_text_json (by decide) (by decide)
  have hflawed : twofold.Flawed := .name ⟨0, by decide⟩ ⟨1, by decide⟩ (by decide) rfl
  obtain ⟨hrefused, hfault⟩ := (loading_exact twofold.json.text).2 twofold hread
  obtain ⟨failure, hfailure⟩ := hrefused.2 hflawed
  obtain ⟨fault, rfl⟩ := hfault failure hfailure
  refine ⟨hread, hflawed, ⟨fault, hfailure⟩, ?_⟩
  have hread' : Document.ofText single.json.text = .ok single :=
    Document.ofText_text_json (by decide) (by decide)
  have hsound : ¬single.Flawed := Document.not_flawed_iff.2 (by decide)
  rw [← ((loading_exact _).2 single hread').1, exists_eq_error_iff, not_not] at hsound
  obtain ⟨s, hs⟩ := hsound
  obtain ⟨d, items, hd, -, -, hheld⟩ := (loading_exact _).1 s hs
  cases hread'.symm.trans hd
  exact ⟨s, hs, hheld⟩

end Snapshot
end SysReg
