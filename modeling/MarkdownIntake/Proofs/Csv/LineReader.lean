import MarkdownIntake.Proofs.Csv

/-!
This module contains the reading of comma separated values line by line, the way most readers do it: a
carriage return outside double quotes ends a record just as a line feed does, and nothing else may follow
it in its line. Such a reader gives the written records back as long as all returns stand in quotes.
-/

namespace MarkdownIntake.Csv

inductive LinePosition where
  | recordStart
  | fieldStart
  | plain
  | quoted
  | closing
  /-- After a line break outside of quotes: nothing but line breaks may follow in the line. -/
  | recordEnd
deriving Repr, DecidableEq

structure LineReader where
  position : LinePosition := .recordStart
  field : List Char := []
  record : List (List Char) := []
  records : List (List (List Char)) := []
deriving Repr, DecidableEq

def isLineBreak (c : Char) : Bool :=
  c = '\n' || c = '\r'

namespace LineReader

def add (reader : LineReader) (position : LinePosition) (c : Char) : LineReader :=
  { reader with position, field := reader.field ++ [c] }

def endField (reader : LineReader) (position : LinePosition) : LineReader :=
  { reader with position, field := [], record := reader.record ++ [reader.field] }

def stepOutside (reader : LineReader) (c : Char) : LineReader :=
  if c = ',' then reader.endField .fieldStart
  else if isLineBreak c then reader.endField .recordEnd
  else reader.add .plain c

def stepStart (reader : LineReader) (c : Char) : LineReader :=
  if c = '"' then { reader with position := .quoted } else reader.stepOutside c

/-- A text that is refused yields no more than the records that are complete by then. -/
def step (reader : LineReader) (c : Char) : Except (List (List (List Char))) LineReader :=
  match reader.position with
  | .recordStart =>
    .ok (if isLineBreak c then { reader with position := .recordEnd } else reader.stepStart c)
  | .fieldStart => .ok (reader.stepStart c)
  | .plain => .ok (reader.stepOutside c)
  | .quoted => .ok (if c = '"' then { reader with position := .closing } else reader.add .quoted c)
  | .closing => .ok (if c = '"' then reader.add .quoted c else reader.stepOutside c)
  | .recordEnd => if isLineBreak c then .ok reader else .error reader.records

def endLine (reader : LineReader) : LineReader :=
  match reader.position with
  | .recordStart => reader
  | .quoted => reader
  | .recordEnd => { records := reader.records ++ [reader.record] }
  | _ => { records := reader.records ++ [reader.record ++ [reader.field]] }

def readChar (reader : LineReader) (c : Char) : Except (List (List (List Char))) LineReader :=
  (reader.step c).map fun next => if c = '\n' then next.endLine else next

def finish (reader : LineReader) : List (List (List Char)) :=
  let last := reader.endLine
  if last.position = .quoted then last.records ++ [last.record ++ [last.field]] else last.records

end LineReader

def readLines (cs : List Char) : Except (List (List (List Char))) (List (List (List Char))) :=
  (cs.foldlM LineReader.readChar {}).map LineReader.finish

/-! ### Fields -/

/-- Where a carriage return stands in a field, something else is there that calls for quotes. -/
def QuotesReturns (field : List Char) : Prop :=
  '\r' ∈ field → ',' ∈ field ∨ '"' ∈ field ∨ '\n' ∈ field

instance (field : List Char) : Decidable (QuotesReturns field) :=
  inferInstanceAs (Decidable (_ → _))

theorem needsQuotes_iff (field : List Char) :
    needsQuotes field = true ↔ ',' ∈ field ∨ '"' ∈ field ∨ '\n' ∈ field := by
  simp only [needsQuotes, List.any_eq_true, Bool.or_eq_true, decide_eq_true_eq, or_assoc]
  grind

theorem recordText_cons (field : List Char) {fields : List (List Char)} (h : fields ≠ []) :
    recordText (field :: fields) = fieldText field ++ ',' :: recordText fields := by
  cases fields with
  | nil => contradiction
  | cons => rfl

theorem QuotesReturns.of_not_mem {field : List Char} (h : '\r' ∉ field) : QuotesReturns field :=
  fun hreturn => absurd hreturn h

def LinePosition.after (start : LinePosition) (field : List Char) : LinePosition :=
  if needsQuotes field then .closing else if field = [] then start else .plain

def LinePosition.InField (position : LinePosition) : Prop :=
  position = .fieldStart ∨ position = .plain ∨ position = .closing

theorem LinePosition.after_of_start {start : LinePosition}
    (h : start = .recordStart ∨ start = .fieldStart) (field : List Char) :
    start.after field = .recordStart ∨ (start.after field).InField := by
  unfold after
  split
  . exact .inr (.inr (.inr rfl))
  . split
    . exact h.imp_right .inl
    . exact .inr (.inr (.inl rfl))

theorem LinePosition.inField_after (field : List Char) :
    (LinePosition.fieldStart.after field).InField := by
  unfold after
  split
  . exact .inr (.inr rfl)
  . split
    . exact .inl rfl
    . exact .inr (.inl rfl)

namespace LineReader

theorem readChar_of_step {reader next : LineReader} {c : Char} (h : reader.step c = .ok next)
    (hc : c ≠ '\n') : reader.readChar c = .ok next := by
  rw [readChar, h]
  simp [Except.map, hc]

theorem foldlM_readChar_append {reader next : LineReader} {cs : List Char} (rest : List Char)
    (h : cs.foldlM readChar reader = .ok next) :
    (cs ++ rest).foldlM readChar reader = rest.foldlM readChar next := by
  rw [List.foldlM_append, h]
  rfl

theorem foldlM_readChar_cons {reader next : LineReader} {c : Char} (rest : List Char)
    (h : reader.readChar c = .ok next) :
    (c :: rest).foldlM readChar reader = rest.foldlM readChar next := by
  rw [List.foldlM_cons, h]
  rfl

section

variable (field : List Char) (record : List (List Char)) (records : List (List (List Char)))

theorem foldlM_readChar_plain {cs : List Char} (hquotes : needsQuotes cs = false)
    (hreturn : '\r' ∉ cs) :
    cs.foldlM readChar { position := .plain, field, record, records }
      =
    .ok { position := .plain, field := field ++ cs, record, records } := by
  rw [needsQuotes_eq_false_iff] at hquotes
  induction cs generalizing field with
  | nil => simp [pure, Except.pure]
  | cons c cs ih =>
    rw [List.forall_mem_cons] at hquotes
    obtain ⟨⟨hcomma, -, hfeed⟩, hrest⟩ := hquotes
    rw [List.mem_cons, not_or] at hreturn
    have hstep : step { position := .plain, field, record, records } c
        = .ok { position := .plain, field := field ++ [c], record, records } := by
      simp [step, stepOutside, hcomma, isLineBreak, hfeed, Ne.symm hreturn.1, add]
    rw [foldlM_readChar_cons cs (readChar_of_step hstep hfeed), ih _ hrest hreturn.2,
      List.append_assoc, List.singleton_append]

theorem readChar_quoted {c : Char} (h : c ≠ '"') :
    readChar { position := .quoted, field, record, records } c
      =
    .ok { position := .quoted, field := field ++ [c], record, records } := by
  simp [readChar, step, h, add, Except.map, endLine]

theorem foldlM_readChar_doubleQuotes (cs : List Char) :
    (doubleQuotes cs).foldlM readChar { position := .quoted, field, record, records }
      =
    .ok { position := .quoted, field := field ++ cs, record, records } := by
  induction cs generalizing field with
  | nil => simp [doubleQuotes, pure, Except.pure]
  | cons c cs ih =>
    unfold doubleQuotes
    split
    . next hquote =>
      rw [foldlM_readChar_cons _ (readChar_of_step rfl (by decide)),
        foldlM_readChar_cons _ (readChar_of_step rfl (by decide))]
      simp only [if_true, add]
      rw [ih, hquote, List.append_assoc, List.singleton_append]
    . next hquote =>
      rw [foldlM_readChar_cons _ (readChar_quoted field record records hquote), ih,
        List.append_assoc, List.singleton_append]

theorem foldlM_readChar_fieldText {start : LinePosition}
    (hstart : start = .recordStart ∨ start = .fieldStart) (h : QuotesReturns field) :
    (fieldText field).foldlM readChar { position := start, record, records }
      =
    .ok { position := start.after field, field, record, records } := by
  unfold fieldText LinePosition.after
  split
  . have hopen : readChar { position := start, record, records } '"'
        = .ok { position := .quoted, record, records } := by
      rcases hstart with rfl | rfl <;> rfl
    rw [foldlM_readChar_cons _ hopen,
      foldlM_readChar_append _ (foldlM_readChar_doubleQuotes [] record records field)]
    rfl
  . next hquotes =>
    have hreturn : '\r' ∉ field := fun hreturn =>
      hquotes ((needsQuotes_iff field).mpr (h hreturn))
    rw [Bool.not_eq_true, needsQuotes_eq_false_iff] at hquotes
    cases field with
    | nil => rfl
    | cons c cs =>
      obtain ⟨⟨hcomma, hquote, hfeed⟩, hrest⟩ := List.forall_mem_cons.mp hquotes
      rw [List.mem_cons, not_or] at hreturn
      have hbreak : isLineBreak c = false := by simp [isLineBreak, hfeed, Ne.symm hreturn.1]
      have hstep : step { position := start, record, records } c
          = .ok { position := .plain, field := [c], record, records } := by
        rcases hstart with rfl | rfl <;>
          simp [step, stepStart, stepOutside, hcomma, hquote, hbreak, add]
      rw [foldlM_readChar_cons cs (readChar_of_step hstep hfeed),
        foldlM_readChar_plain _ _ _ ((needsQuotes_eq_false_iff cs).mpr hrest) hreturn.2]
      rfl

end

/-! ### Records -/

theorem readChar_comma (reader : LineReader)
    (h : reader.position = .recordStart ∨ reader.position.InField) :
    reader.readChar ',' = .ok (reader.endField .fieldStart) := by
  apply readChar_of_step _ (by decide)
  rcases h with h | h | h | h
  all_goals simp [step, h, stepStart, stepOutside, isLineBreak]

theorem endLine_of_inField {reader : LineReader} (h : reader.position.InField) :
    reader.endLine = { records := reader.records ++ [reader.record ++ [reader.field]] } := by
  rcases h with h | h | h
  all_goals simp [endLine, h]

theorem readChar_lineFeed {reader : LineReader} (h : reader.position.InField) :
    reader.readChar '\n' = .ok reader.endLine := by
  rw [endLine_of_inField h]
  rcases h with h | h | h
  all_goals simp [readChar, step, h, stepStart, stepOutside, isLineBreak, endField, endLine, Except.map]

theorem foldlM_readChar_recordText {fields : List (List Char)} (h : fields ≠ [])
    (hreturns : ∀ field ∈ fields, QuotesReturns field) (record : List (List Char))
    (records : List (List (List Char))) :
    (recordText fields).foldlM readChar { position := .fieldStart, record, records }
      =
    .ok
      { position := LinePosition.fieldStart.after (fields.getLast h)
        field := fields.getLast h
        record := record ++ fields.dropLast
        records } := by
  induction fields generalizing record with
  | nil => exact absurd rfl h
  | cons field fields ih =>
    obtain ⟨hfield, hfields⟩ := List.forall_mem_cons.mp hreturns
    have hread := foldlM_readChar_fieldText field record records (.inr rfl) hfield
    cases fields with
    | nil => simpa [recordText] using hread
    | cons next fields =>
      have hcomma := readChar_comma
        { position := LinePosition.fieldStart.after field, field, record, records }
        (.inr (LinePosition.inField_after field))
      rw [recordText_cons field (by simp), foldlM_readChar_append _ hread,
        foldlM_readChar_cons _ hcomma, endField, ih (by simp) hfields]
      simp

/-- A record of a single empty field would look like no record, so it takes two fields. -/
theorem exists_foldlM_readChar_row {row : List (List Char)} (hlength : 2 ≤ row.length)
    (hreturns : ∀ field ∈ row, QuotesReturns field) (records : List (List (List Char))) :
    ∃ reader : LineReader, (recordText row).foldlM readChar { records } = .ok reader
      ∧ reader.position.InField ∧ reader.endLine = { records := records ++ [row] } := by
  match row, hlength with
  | first :: second :: rest, _ =>
    obtain ⟨hfirst, hrest⟩ := List.forall_mem_cons.mp hreturns
    have hne : second :: rest ≠ [] := by simp
    have hread := foldlM_readChar_fieldText first [] records (.inl rfl) hfirst
    have hcomma := readChar_comma
      { position := LinePosition.recordStart.after first, field := first, records }
      (LinePosition.after_of_start (.inl rfl) first)
    have hrow := foldlM_readChar_recordText hne hrest [first] records
    have hinField := LinePosition.inField_after ((second :: rest).getLast hne)
    refine ⟨_, .trans ?_ hrow, hinField, ?_⟩
    . rw [recordText_cons first hne, foldlM_readChar_append _ hread,
        foldlM_readChar_cons _ hcomma]
      rfl
    . rw [endLine_of_inField hinField]
      simp only [List.cons_append, List.nil_append, List.dropLast_concat_getLast]

theorem foldlM_readChar_linesText {rows : List (List (List Char))}
    (hlength : ∀ row ∈ rows, 2 ≤ row.length) (hreturns : ∀ row ∈ rows, ∀ field ∈ row, QuotesReturns field)
    (records : List (List (List Char))) :
    (linesText rows).foldlM readChar { records } = .ok { records := records ++ rows } := by
  induction rows generalizing records with
  | nil => simp [linesText, pure, Except.pure]
  | cons row rows ih =>
    rw [List.forall_mem_cons] at hlength hreturns
    obtain ⟨reader, hread, hinField, hend⟩ :=
      exists_foldlM_readChar_row hlength.1 hreturns.1 records
    rw [linesText, List.flatMap_cons, ← linesText, List.append_assoc, List.singleton_append,
      foldlM_readChar_append _ hread, foldlM_readChar_cons _ (readChar_lineFeed hinField), hend,
      ih hlength.2 hreturns.2, List.append_assoc, List.singleton_append]

theorem finish_of_inField {reader : LineReader} (h : reader.position.InField) :
    reader.finish = reader.records ++ [reader.record ++ [reader.field]] := by
  rw [finish, endLine_of_inField h]
  rfl

/-! ### Refused records -/

theorem exists_readChar_return (reader : LineReader) (h : reader.position ≠ .quoted) :
    ∃ next, reader.readChar '\r' = .ok next ∧ next.position = .recordEnd
      ∧ next.records = reader.records := by
  cases hposition : reader.position with
  | quoted => contradiction
  | _ =>
    refine ⟨_, readChar_of_step (by simp [step, hposition]; rfl) (by decide), ?_⟩
    simp [stepStart, stepOutside, isLineBreak, endField, hposition]

theorem foldlM_readChar_recordEnd {reader : LineReader} (h : reader.position = .recordEnd)
    {cs : List Char} (hfeed : '\n' ∉ cs) (rest : List Char) :
    (cs ++ ',' :: rest).foldlM readChar reader = .error reader.records := by
  have hrefused : ∀ c, isLineBreak c = false → readChar reader c = .error reader.records := by
    intro c hc
    simp [readChar, step, h, hc, Except.map]
  induction cs with
  | nil =>
    rw [List.nil_append, List.foldlM_cons, hrefused ',' (by decide)]
    rfl
  | cons c cs ih =>
    rw [List.mem_cons, not_or] at hfeed
    rw [List.cons_append]
    by_cases hreturn : c = '\r'
    . have hstep : reader.step c = .ok reader := by simp [step, h, hreturn, isLineBreak]
      rw [foldlM_readChar_cons _ (readChar_of_step hstep (Ne.symm hfeed.1)), ih hfeed.2]
    . rw [List.foldlM_cons, hrefused c (by simp [isLineBreak, hreturn, Ne.symm hfeed.1])]
      rfl

theorem foldlM_readChar_return {start : LinePosition}
    (hstart : start = .recordStart ∨ start = .fieldStart) {field : List Char}
    (h : ¬ QuotesReturns field) (record : List (List Char)) (records : List (List (List Char)))
    (rest : List Char) :
    (fieldText field ++ ',' :: rest).foldlM readChar { position := start, record, records }
      =
    .error records := by
  rw [QuotesReturns, Classical.not_imp, ← needsQuotes_iff, Bool.not_eq_true] at h
  obtain ⟨hreturn, hquotes⟩ := h
  have htext : fieldText field = field := by simp [fieldText, hquotes]
  rw [htext]
  -- What stands before the first return is read like a field of its own.
  obtain ⟨before, after, rfl, hbefore⟩ := List.eq_append_cons_of_mem hreturn
  rw [needsQuotes_eq_false_iff, List.forall_mem_append, List.forall_mem_cons,
    ← needsQuotes_eq_false_iff] at hquotes
  obtain ⟨hbeforeQuotes, -, hafter⟩ := hquotes
  have hread := foldlM_readChar_fieldText before record records hstart (.of_not_mem hbefore)
  have hbeforeText : fieldText before = before := by simp [fieldText, hbeforeQuotes]
  rw [hbeforeText] at hread
  have hposition : start.after before ≠ .quoted := by
    rcases LinePosition.after_of_start hstart before with h | h | h | h
    all_goals simp [h]
  obtain ⟨next, hnext, hend, hrecords⟩ := exists_readChar_return
    { position := start.after before, field := before, record, records } hposition
  have hfeed : '\n' ∉ after := fun hmem => (hafter _ hmem).2.2 rfl
  rw [List.append_assoc, foldlM_readChar_append _ hread, List.cons_append,
    foldlM_readChar_cons _ hnext, foldlM_readChar_recordEnd hend hfeed, hrecords]

theorem foldlM_readChar_recordText_of_return {kept : List (List Char)}
    (hkept : ∀ field ∈ kept, QuotesReturns field) {field : List Char} (h : ¬ QuotesReturns field)
    {later : List (List Char)} (hlater : later ≠ []) {start : LinePosition}
    (hstart : start = .recordStart ∨ start = .fieldStart) (record : List (List Char))
    (records : List (List (List Char))) (rest : List Char) :
    (recordText (kept ++ field :: later) ++ rest).foldlM readChar { position := start, record, records }
      =
    .error records := by
  induction kept generalizing start record with
  | nil =>
    rw [List.nil_append, recordText_cons field hlater, List.append_assoc, List.cons_append,
      foldlM_readChar_return hstart h]
  | cons first kept ih =>
    obtain ⟨hfirst, hkept⟩ := List.forall_mem_cons.mp hkept
    have hread := foldlM_readChar_fieldText first record records hstart hfirst
    have hcomma := readChar_comma
      { position := start.after first, field := first, record, records }
      (LinePosition.after_of_start hstart first)
    rw [List.cons_append, recordText_cons first (by simp), List.append_assoc, List.cons_append,
      foldlM_readChar_append _ hread, foldlM_readChar_cons _ hcomma]
    exact ih hkept (.inr rfl) (record ++ [first])

end LineReader

/-! ### Texts -/

theorem exists_text_eq_append (before : List (List (List Char))) (record : List (List Char))
    (after : List (List (List Char))) :
    ∃ rest, text (before ++ record :: after) = linesText before ++ (recordText record ++ rest) := by
  induction before with
  | nil =>
    by_cases hafter : after = []
    . subst hafter
      exact ⟨[], (List.append_nil _).symm⟩
    . exact ⟨'\n' :: text after, text_cons record hafter⟩
  | cons first before ih =>
    obtain ⟨rest, hrest⟩ := ih
    refine ⟨rest, ?_⟩
    rw [List.cons_append, text_cons first (by simp), hrest]
    simp [linesText]

theorem readLines_text {records : List (List (List Char))}
    (hlength : ∀ record ∈ records, 2 ≤ record.length)
    (hreturns : ∀ record ∈ records, ∀ field ∈ record, QuotesReturns field) :
    readLines (text records) = .ok records := by
  rcases List.eq_nil_or_concat records with rfl | ⟨rows, row, hconcat⟩
  . rfl
  . rw [List.concat_eq_append] at hconcat
    subst hconcat
    rw [List.forall_mem_append, List.forall_mem_singleton] at hlength hreturns
    obtain ⟨reader, hread, hinField, hend⟩ :=
      LineReader.exists_foldlM_readChar_row hlength.2 hreturns.2 rows
    have hlines := LineReader.foldlM_readChar_linesText hlength.1 hreturns.1 []
    rw [LineReader.endLine_of_inField hinField] at hend
    rw [readLines, text_concat, LineReader.foldlM_readChar_append _ hlines, List.nil_append, hread]
    simp only [Except.map, LineReader.finish_of_inField hinField]
    exact congrArg (fun last : LineReader => Except.ok last.records) hend

theorem readLines_text_of_return {before : List (List (List Char))}
    (hlength : ∀ record ∈ before, 2 ≤ record.length)
    (hreturns : ∀ record ∈ before, ∀ field ∈ record, QuotesReturns field) {kept : List (List Char)}
    (hkept : ∀ field ∈ kept, QuotesReturns field) {field : List Char} (h : ¬ QuotesReturns field)
    {later : List (List Char)} (hlater : later ≠ []) (after : List (List (List Char))) :
    readLines (text (before ++ (kept ++ field :: later) :: after)) = .error before := by
  obtain ⟨rest, htext⟩ := exists_text_eq_append before (kept ++ field :: later) after
  have hlines := LineReader.foldlM_readChar_linesText hlength hreturns []
  rw [readLines, htext, LineReader.foldlM_readChar_append _ hlines, List.nil_append,
    LineReader.foldlM_readChar_recordText_of_return hkept h hlater (.inl rfl)]
  rfl

def stringRows (records : List (List (List Char))) : List (List String) :=
  records.map (·.map String.ofList)

theorem stringRows_map_toList (rows : List (List String)) :
    stringRows (rows.map (·.map String.toList)) = rows := by
  simp [stringRows, Function.comp_def]

def readTextLines (text : String) : Except (List (List String)) (List (List String)) :=
  ((readLines text.toList).map stringRows).mapError stringRows

end MarkdownIntake.Csv
