import MarkdownIntake.Review.Finding

/-!
This module contains the reading of comma separated values, one character after the other. Reading gives
the written records back, and so it gives the findings back that were exported.
-/

namespace MarkdownIntake.Csv

inductive Position where
  | fieldStart
  | plain
  | quoted
  /-- After a double quote in a quoted field: it ends the field, or another one follows. -/
  | closing
deriving Repr, DecidableEq

structure Reader where
  position : Position := .fieldStart
  field : List Char := []
  record : List (List Char) := []
  records : List (List (List Char)) := []
deriving Repr, DecidableEq

namespace Reader

def add (reader : Reader) (position : Position) (c : Char) : Reader :=
  { reader with position, field := reader.field ++ [c] }

def endField (reader : Reader) : Reader :=
  { record := reader.record ++ [reader.field], records := reader.records }

def endRecord (reader : Reader) : Reader :=
  { records := reader.records ++ [reader.record ++ [reader.field]] }

def stepOutside (reader : Reader) (c : Char) : Reader :=
  if c = ',' then reader.endField
  else if c = '\n' then reader.endRecord
  else reader.add .plain c

def step (reader : Reader) (c : Char) : Reader :=
  match reader.position with
  | .fieldStart => if c = '"' then { reader with position := .quoted } else reader.stepOutside c
  | .plain => reader.stepOutside c
  | .quoted => if c = '"' then { reader with position := .closing } else reader.add .quoted c
  | .closing => if c = '"' then reader.add .quoted c else reader.stepOutside c

def finish (reader : Reader) : List (List (List Char)) :=
  if reader.position = .fieldStart ∧ reader.record = [] then reader.records
  else reader.endRecord.records

theorem step_comma {reader : Reader} (h : reader.position ≠ .quoted) :
    reader.step ',' = reader.endField := by
  unfold step
  split
  . rfl
  . rfl
  . contradiction
  . rfl

theorem step_lineFeed {reader : Reader} (h : reader.position ≠ .quoted) :
    reader.step '\n' = reader.endRecord := by
  unfold step
  split
  . rfl
  . rfl
  . contradiction
  . rfl

end Reader

def read (cs : List Char) : List (List (List Char)) :=
  (cs.foldl Reader.step {}).finish

/-! ### Fields -/

theorem needsQuotes_eq_false_iff (field : List Char) :
    needsQuotes field = false ↔ ∀ c ∈ field, c ≠ ',' ∧ c ≠ '"' ∧ c ≠ '\n' := by
  simp [needsQuotes, and_assoc]

section

variable (field : List Char) (record : List (List Char)) (records : List (List (List Char)))

theorem foldl_step_plain {cs : List Char} (h : needsQuotes cs = false) :
    cs.foldl Reader.step { position := .plain, field, record, records }
      =
    { position := .plain, field := field ++ cs, record, records } := by
  rw [needsQuotes_eq_false_iff] at h
  induction cs generalizing field with
  | nil => simp
  | cons c cs ih =>
    rw [List.forall_mem_cons] at h
    obtain ⟨⟨hcomma, -, hbreak⟩, hrest⟩ := h
    rw [List.foldl_cons]
    simp only [Reader.step, Reader.stepOutside, hcomma, hbreak, if_false, Reader.add]
    rw [ih _ hrest, List.append_assoc, List.singleton_append]

theorem foldl_step_doubleQuotes (cs : List Char) :
    (doubleQuotes cs).foldl Reader.step { position := .quoted, field, record, records }
      =
    { position := .quoted, field := field ++ cs, record, records } := by
  induction cs generalizing field with
  | nil => simp [doubleQuotes]
  | cons c cs ih =>
    unfold doubleQuotes
    split
    . next hquote =>
      simp only [List.foldl_cons, Reader.step, Reader.add, if_true]
      rw [ih, hquote, List.append_assoc, List.singleton_append]
    . next hquote =>
      simp only [List.foldl_cons, Reader.step, Reader.add, hquote, if_false]
      rw [ih, List.append_assoc, List.singleton_append]

def Position.after : Position :=
  if needsQuotes field then .closing else if field = [] then .fieldStart else .plain

theorem Position.after_ne_quoted : Position.after field ≠ .quoted := by
  unfold Position.after
  split
  . simp
  . split
    . simp
    . simp

theorem foldl_step_fieldText :
    (fieldText field).foldl Reader.step { record, records }
      =
    { position := .after field, field, record, records } := by
  unfold fieldText Position.after
  split
  . simp only [List.foldl_cons, List.foldl_append, List.foldl_nil]
    have hopen : Reader.step { record, records } '"' = { position := .quoted, record, records } := rfl
    rw [hopen, foldl_step_doubleQuotes]
    rfl
  . next h =>
    rw [Bool.not_eq_true] at h
    cases field with
    | nil => rfl
    | cons c cs =>
      have hchars := (needsQuotes_eq_false_iff _).mp h
      obtain ⟨hcomma, hquote, hbreak⟩ := hchars c (List.mem_cons_self ..)
      have hrest : needsQuotes cs = false := by
        rw [needsQuotes_eq_false_iff]
        intro d hd
        exact hchars d (List.mem_cons_of_mem _ hd)
      simp only [List.foldl_cons, Reader.step, Reader.stepOutside, hcomma, hquote, hbreak, if_false,
        Reader.add]
      rw [foldl_step_plain _ _ _ hrest]
      rfl

end

/-! ### Records -/

theorem foldl_step_recordText {fields : List (List Char)} (h : fields ≠ [])
    (record : List (List Char)) (records : List (List (List Char))) :
    (recordText fields).foldl Reader.step { record, records }
      =
    { position := .after (fields.getLast h)
      field := fields.getLast h
      record := record ++ fields.dropLast
      records } := by
  induction fields generalizing record with
  | nil => exact absurd rfl h
  | cons field fields ih =>
    cases fields with
    | nil => simp [recordText, foldl_step_fieldText]
    | cons next fields =>
      have hnext : next :: fields ≠ [] := by simp
      rw [recordText, List.foldl_append, foldl_step_fieldText, List.foldl_cons,
        Reader.step_comma (Position.after_ne_quoted field), Reader.endField, ih hnext]
      . simp
      . exact hnext

theorem endRecord_foldl_step_recordText {fields : List (List Char)} (h : fields ≠ [])
    (records : List (List (List Char))) :
    ((recordText fields).foldl Reader.step { records }).endRecord
      =
    { records := records ++ [fields] } := by
  simp only [foldl_step_recordText h, Reader.endRecord, List.nil_append,
    List.dropLast_concat_getLast h]

def linesText (records : List (List (List Char))) : List Char :=
  records.flatMap fun record => recordText record ++ ['\n']

theorem text_cons (record : List (List Char)) {records : List (List (List Char))}
    (h : records ≠ []) : text (record :: records) = recordText record ++ '\n' :: text records := by
  cases records with
  | nil => contradiction
  | cons => rfl

theorem text_concat (records : List (List (List Char))) (record : List (List Char)) :
    text (records ++ [record]) = linesText records ++ recordText record := by
  induction records with
  | nil => rfl
  | cons first rest ih =>
    have hrest : rest ++ [record] ≠ [] := by simp
    have hlines : linesText (first :: rest) = recordText first ++ '\n' :: linesText rest := by
      simp [linesText]
    rw [List.cons_append, text_cons first hrest, ih, hlines]
    simp

theorem text_lineFeed {records : List (List (List Char))} (h : records ≠ []) :
    text records ++ ['\n'] = linesText records := by
  rcases List.eq_nil_or_concat records with hnil | ⟨rows, row, hconcat⟩
  . contradiction
  . rw [List.concat_eq_append] at hconcat
    rw [hconcat, text_concat]
    simp [linesText]

theorem foldl_step_linesText {rows : List (List (List Char))} (h : ∀ row ∈ rows, row ≠ [])
    (records : List (List (List Char))) :
    (linesText rows).foldl Reader.step { records } = { records := records ++ rows } := by
  induction rows generalizing records with
  | nil => simp [linesText]
  | cons row rows ih =>
    rw [List.forall_mem_cons] at h
    have hposition : ((recordText row).foldl Reader.step { records }).position ≠ .quoted := by
      rw [foldl_step_recordText h.1]
      exact Position.after_ne_quoted _
    rw [linesText, List.flatMap_cons, ← linesText, List.append_assoc, List.foldl_append,
      List.singleton_append, List.foldl_cons, Reader.step_lineFeed hposition,
      endRecord_foldl_step_recordText h.1, ih h.2, List.append_assoc, List.singleton_append]

theorem read_linesText {records : List (List (List Char))} (h : ∀ record ∈ records, record ≠ []) :
    read (linesText records) = records := by
  rw [read, foldl_step_linesText h]
  rfl

/-- A record of a single empty field would look like no record at the end of a text. -/
theorem read_text {records : List (List (List Char))} (h : ∀ record ∈ records, 2 ≤ record.length) :
    read (text records) = records := by
  rcases List.eq_nil_or_concat records with rfl | ⟨rows, row, hconcat⟩
  . rfl
  . rw [List.concat_eq_append] at hconcat
    subst hconcat
    simp only [List.forall_mem_append, List.forall_mem_singleton] at h
    obtain ⟨hrows, hrow⟩ := h
    have hrow_ne : row ≠ [] := by
      rintro rfl
      simp at hrow
    have hrows_ne : ∀ other ∈ rows, other ≠ [] := by
      rintro other hother rfl
      simpa using hrows [] hother
    have hrecord : row.dropLast ≠ [] := by
      rw [← List.length_pos_iff, List.length_dropLast]
      omega
    rw [read, text_concat, List.foldl_append, foldl_step_linesText hrows_ne,
      List.nil_append, Reader.finish, if_neg, endRecord_foldl_step_recordText hrow_ne]
    rw [foldl_step_recordText hrow_ne]
    simp [hrecord]

def readText (text : String) : List (List String) :=
  (read text.toList).map (·.map String.ofList)

end MarkdownIntake.Csv

namespace MarkdownIntake.Review

open MarkdownIntake.Csv

def findingsRows (findings : List Finding) : List (List String) :=
  columns :: findings.map Finding.row

theorem length_of_mem_findingsRows {findings : List Finding} {row : List String}
    (h : row ∈ findingsRows findings) : row.length = 6 := by
  rw [findingsRows, List.mem_cons, List.mem_map] at h
  rcases h with rfl | ⟨finding, -, rfl⟩
  . rfl
  . rfl

theorem read_findingsText (findings : List Finding) :
    read (findingsText findings).toList
      =
    (findingsRows findings).map (·.map String.toList) := by
  rw [findingsText, String.toList_ofList]
  apply read_text
  intro record hrecord
  obtain ⟨row, hrow, rfl⟩ := List.mem_map.mp hrecord
  rw [List.length_map, length_of_mem_findingsRows hrow]
  decide

theorem readText_findingsText (findings : List Finding) :
    readText (findingsText findings) = findingsRows findings := by
  rw [readText, read_findingsText, List.map_map]
  simp [Function.comp_def]

theorem findingsText_lineFeed (findings : List Finding) :
    (findingsText findings).toList ++ ['\n']
      =
    linesText ((findingsRows findings).map (·.map String.toList)) := by
  rw [findingsText, String.toList_ofList]
  apply text_lineFeed
  simp

theorem read_findingsText_lineFeed (findings : List Finding) :
    read ((findingsText findings).toList ++ ['\n']) = read (findingsText findings).toList := by
  rw [findingsText_lineFeed, read_findingsText]
  apply read_linesText
  rintro record hrecord rfl
  obtain ⟨row, hrow, hnil⟩ := List.mem_map.mp hrecord
  have hlength := length_of_mem_findingsRows hrow
  rw [List.map_eq_nil_iff.mp hnil] at hlength
  simp at hlength

/--
The table of findings is read back as it was written, whatever characters the findings hold: the
names of the columns, and then one row of as many fields for each finding. It is the lines of the
rows without the last line feed, which is no part of a field.
-/
theorem findingsText_roundTrip (findings : List Finding) :
    readText (findingsText findings) = columns :: findings.map Finding.row
      ∧ (readText (findingsText findings)).length = 1 + findings.length
      ∧ (∀ row ∈ readText (findingsText findings), row.length = 6)
      ∧ (findingsText findings).toList ++ ['\n']
        =
      linesText ((columns :: findings.map Finding.row).map (·.map String.toList))
      ∧ read ((findingsText findings).toList ++ ['\n']) = read (findingsText findings).toList
      ∧ ∀ others : List Finding, findingsText findings = findingsText others →
        findings.map Finding.row = others.map Finding.row := by
  have hread := readText_findingsText findings
  refine ⟨hread, ?_, ?_, findingsText_lineFeed findings, read_findingsText_lineFeed findings, ?_⟩
  . rw [hread, findingsRows, List.length_cons, List.length_map, Nat.add_comm]
  . intro row hrow
    rw [hread] at hrow
    exact length_of_mem_findingsRows hrow
  . intro others hsame
    rw [hsame, readText_findingsText] at hread
    exact (List.cons.inj hread).2.symm

end MarkdownIntake.Review
