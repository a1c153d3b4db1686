import Mathlib.Data.List.Basic

/-! # Records of comma-separated fields

A field that holds a comma, a quote or the end of a line is written between quotes, with its own
quotes doubled, and a record of one empty field as an empty pair of quotes. A reader that goes over
the characters one by one reads back every list of records that was written, whatever characters its
fields have.
-/

namespace Csv

abbrev Field := List Char

/-- A record ends here. -/
def isNewline (c : Char) : Bool := c = '\r' || c = '\n'

/-- The characters that a field cannot hold without quotes. -/
def isSpecial (c : Char) : Bool := c = ',' || c = '"' || isNewline c

/-! ## Writing -/

/-- Quotes within quotes are doubled. -/
def escape : Field → List Char
  | [] => []
  | c :: rest => if c = '"' then '"' :: '"' :: escape rest else c :: escape rest

def quoteField (field : Field) : List Char := '"' :: (escape field ++ ['"'])

/-- A field, between quotes only where it needs them. -/
def writeField (field : Field) : List Char := if field.any isSpecial then quoteField field
    else field

def joinFields : List Field → List Char
  | [] => []
  | [field] => writeField field
  | field :: rest => writeField field ++ ',' :: joinFields rest

/-- A record with the end of its line. -/
def writeRecord (fields : List Field) : List Char :=
  (if fields = [[]] then quoteField [] else joinFields fields) ++ ['\r', '\n']

def write (records : List (List Field)) : List Char := records.flatMap writeRecord

/-! ## Reading -/

/-- Where a reader is. -/
inductive Place
  | startRecord
  | afterReturn
  | startField
  | inField
  | inQuotes
  | afterQuote
deriving DecidableEq, Repr

/-- A reader with the field, the fields of the record and the records that it has read. -/
structure Reader where
  place : Place := .startRecord
  field : Field := []
  fields : List Field := []
  records : List (List Field) := []
deriving DecidableEq, Repr

namespace Reader

def endField (reader : Reader) : Reader :=
  { reader with place := .startField, field := [], fields := reader.fields ++ [reader.field] }

def endRecord (reader : Reader) (record : List Field) (c : Char) : Reader :=
  { place := if c = '\r' then .afterReturn else .startRecord,
    records := reader.records ++ [record] }

def addTo (reader : Reader) (place : Place) (c : Char) : Reader :=
  { reader with place, field := reader.field ++ [c] }

/-- A character at the start of a field. -/
def openField (reader : Reader) (c : Char) : Reader :=
  if isNewline c then reader.endRecord (reader.fields ++ [reader.field]) c
  else if c = ',' then reader.endField
  else if c = '"' then { reader with place := .inQuotes }
  else reader.addTo .inField c

/-- A character at the start of a record, which has no field when its line is empty. -/
def openRecord (reader : Reader) (c : Char) : Reader :=
  if isNewline c then reader.endRecord [] c else reader.openField c

def read (reader : Reader) (c : Char) : Reader :=
  match reader.place with
  | .startRecord => reader.openRecord c
  | .afterReturn => if c = '\n' then { reader with place := .startRecord } else reader.openRecord c
  | .startField => reader.openField c
  | .inField =>
    if isNewline c then reader.endRecord (reader.fields ++ [reader.field]) c
    else if c = ',' then reader.endField
    else reader.addTo .inField c
  | .inQuotes => if c = '"' then { reader with place := .afterQuote } else reader.addTo .inQuotes c
  | .afterQuote =>
    if c = '"' then reader.addTo .inQuotes c
    else if isNewline c then reader.endRecord (reader.fields ++ [reader.field]) c
    else if c = ',' then reader.endField
    else reader.addTo .inField c

/-- The records, with the one that the end of the text cuts off. -/
def finish (reader : Reader) : List (List Field) :=
  match reader.place with
  | .startRecord | .afterReturn => reader.records
  | _ => reader.records ++ [reader.fields ++ [reader.field]]

end Reader

def read (text : List Char) : List (List Field) := (text.foldl Reader.read {}).finish

/-! ## Fields are read back -/

variable {field : Field} {fields : List Field} {records : List (List Field)}

private theorem isNewline_special {c : Char} (plain : isSpecial c = false) : c ≠ ',' ∧ c ≠ '"' ∧
    isNewline c = false := by
  simpa [isSpecial, and_assoc] using plain

private theorem read_escape (field before : Field) :
    (escape field).foldl Reader.read ⟨.inQuotes, before, fields, records⟩ =
    ⟨.inQuotes, before ++ field, fields, records⟩ := by
  induction field generalizing before with
  | nil => simp [escape]
  | cons c rest ih =>
    by_cases quote : c = '"'
    · subst quote
      have step := ih (before ++ ['"'])
      rw [List.append_assoc, List.singleton_append] at step
      simpa [escape, Reader.read, Reader.addTo] using step
    · have step := ih (before ++ [c])
      rw [List.append_assoc, List.singleton_append] at step
      simpa [escape, quote, Reader.read, Reader.addTo] using step

private theorem read_plain (plain : ∀ c ∈ field, isSpecial c = false) (before : Field) :
    field.foldl Reader.read ⟨.inField, before, fields, records⟩ =
    ⟨.inField, before ++ field, fields, records⟩ := by
  induction field generalizing before with
  | nil => simp
  | cons c rest ih =>
    obtain ⟨first, later⟩ := List.forall_mem_cons.mp plain
    obtain ⟨comma, quote, newline⟩ := isNewline_special first
    have step := ih later (before ++ [c])
    rw [List.append_assoc, List.singleton_append] at step
    simpa [Reader.read, Reader.addTo, comma, newline] using step

/-- Where the reader is at the end of a field. -/
def fieldEnd (field : Field) : Place :=
  if field.any isSpecial then .afterQuote else if field = [] then .startField else .inField

private theorem read_quoteField (field : Field) :
    (quoteField field).foldl Reader.read ⟨.startField, [], fields, records⟩ =
    ⟨.afterQuote, field, fields, records⟩ := by
  have opened : Reader.read ⟨.startField, [], fields, records⟩ '"' =
    ⟨.inQuotes, [], fields, records⟩ := rfl
  rw [quoteField, List.foldl_cons, opened, List.foldl_append, read_escape]
  rfl

private theorem read_writeField (field : Field) :
    (writeField field).foldl Reader.read ⟨.startField, [], fields, records⟩ =
    ⟨fieldEnd field, field, fields, records⟩ := by
  unfold writeField fieldEnd
  by_cases quoted : field.any isSpecial = true
  · simp only [quoted, if_true]
    exact read_quoteField field
  · simp only [quoted, if_false, Bool.false_eq_true]
    have plain : ∀ c ∈ field, isSpecial c = false := by simpa using quoted
    cases field with
    | nil => rfl
    | cons c rest =>
      obtain ⟨first, later⟩ := List.forall_mem_cons.mp plain
      obtain ⟨comma, quote, newline⟩ := isNewline_special first
      have opened : Reader.read ⟨.startField, [], fields, records⟩ c =
          ⟨.inField, [c], fields, records⟩ := by
        simp [Reader.read, Reader.openField, Reader.addTo, comma, quote, newline]
      rw [List.foldl_cons, opened, read_plain later]
      rfl

/-- Wherever a field has ended, a comma or the end of the line goes on from there. -/
theorem read_fieldEnd (field : Field) :
    Reader.read ⟨fieldEnd field, field, fields, records⟩ ',' = ⟨.startField, [], fields ++ [field],
      records⟩ ∧
      Reader.read ⟨fieldEnd field, field, fields, records⟩ '\r' =
      ⟨.afterReturn, [], [], records ++ [fields ++ [field]]⟩ := by
  unfold fieldEnd
  split
  · exact ⟨rfl, rfl⟩
  · split <;> exact ⟨rfl, rfl⟩

/-! ## Records are read back -/

private theorem read_joinFields (field : Field) (rest before : List Field) :
    (joinFields (field :: rest) ++ ['\r', '\n']).foldl Reader.read
    ⟨.startField, [], before, records⟩ =
      ⟨.startRecord, [], [], records ++ [before ++ field :: rest]⟩ := by
  induction rest generalizing field before with
  | nil =>
    rw [joinFields, List.foldl_append, read_writeField, List.foldl_cons, (read_fieldEnd field).2]
    rfl
  | cons next rest ih =>
    rw [joinFields, List.append_assoc, List.foldl_append, read_writeField, List.cons_append,
      List.foldl_cons, (read_fieldEnd field).1, ih, List.append_assoc, List.singleton_append]
    exact List.cons_ne_nil next rest

/-- A record does not begin with the end of its line, unless it has no field or a single empty
one. -/
theorem joinFields_opens (field : Field) (rest : List Field) (filled : field :: rest ≠ [[]]) :
    ∃ c text, joinFields (field :: rest) = c :: text ∧ isNewline c = false := by
  have opens : ∀ tail : List Char, field ≠ [] → ∃ c text, writeField field ++ tail = c :: text ∧
      isNewline c = false := by
    intro tail nonempty
    unfold writeField
    split
    · exact ⟨'"', _, rfl, by decide⟩
    · next plain =>
      cases field with
      | nil => exact absurd rfl nonempty
      | cons c text =>
        have first : isSpecial c = false := by simp_all
        exact ⟨c, text ++ tail, rfl, (isNewline_special first).2.2⟩
  cases rest with
  | nil =>
    have nonempty : field ≠ [] := fun empty => filled (empty ▸ rfl)
    obtain ⟨c, text, same, newline⟩ := opens [] nonempty
    exact ⟨c, text, by rw [joinFields, ← same, List.append_nil], newline⟩
  | cons next rest =>
    rw [joinFields.eq_3 _ _ (List.cons_ne_nil next rest)]
    cases field with
    | nil => exact ⟨',', _, rfl, by decide⟩
    | cons c text => exact opens _ (List.cons_ne_nil c text)

private theorem read_writeRecord (fields : List Field) :
    (writeRecord fields).foldl Reader.read ⟨.startRecord, [], [], records⟩ =
    ⟨.startRecord, [], [], records ++ [fields]⟩ := by
  unfold writeRecord
  split
  · next single =>
    rw [single]
    rfl
  · next filled =>
    cases fields with
    | nil => rfl
    | cons field rest =>
      obtain ⟨c, text, same, newline⟩ := joinFields_opens field rest filled
      have opened : (joinFields (field :: rest) ++ ['\r', '\n']).foldl Reader.read
          ⟨.startField, [], [], records⟩ = ⟨.startRecord, [], [], records ++ [field :: rest]⟩ :=
          read_joinFields field rest []
      rw [same, List.cons_append, List.foldl_cons] at opened ⊢
      rw [← opened]
      have here : Reader.read ⟨.startRecord, [], [], records⟩ c = Reader.read
          ⟨.startField, [], [], records⟩ c := by
        simp [Reader.read, Reader.openRecord, Reader.openField, Reader.endField, Reader.addTo,
          newline]
      rw [here]

private theorem read_records (more : List (List Field)) :
    (write more).foldl Reader.read ⟨.startRecord, [], [], records⟩ =
    ⟨.startRecord, [], [], records ++ more⟩ := by
  induction more generalizing records with
  | nil => simp [write]
  | cons fields rest ih =>
    rw [write, List.flatMap_cons, List.foldl_append, read_writeRecord, ← write, ih,
      List.append_assoc, List.singleton_append]

/-- What is written is read back. -/
theorem read_write (records : List (List Field)) : read (write records) = records := by
  rw [read, read_records]
  rfl

end Csv
