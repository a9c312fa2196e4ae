import Mathlib.Data.List.Basic

/-! # CSV

How a record of texts is written on a line and read back. A field with a comma, a
quote or a line feed is quoted, and the quotes in it are doubled. The reader takes
no quote inside a field that is not quoted. -/
namespace Encoding.Csv

/-! ## Writing -/

/-- A field needs quotes. -/
def isSpecial (field : List Char) : Bool :=
  field.contains ',' || field.contains '"' || field.contains '\n'

def doubled (field : List Char) : List Char :=
  field.flatMap fun c => if c = '"' then ['"', '"'] else [c]

def escape (field : List Char) : List Char :=
  if isSpecial field then '"' :: (doubled field ++ ['"']) else field

/-- The fields of a record, with commas between them. -/
def line (record : List (List Char)) : List Char := ",".toList.intercalate (record.map escape)

/-- The records, with line feeds between them. -/
def document (records : List (List (List Char))) : List Char :=
  "\n".toList.intercalate (records.map line)

/-! ## Reading -/

/-- Where the reader is in a field. -/
inductive Mode
  | plain
  | quoted
  | afterQuote
  deriving DecidableEq

/-- Read on, with the field and the record so far. -/
def scan : Mode → List Char → List (List Char) → List Char → Option (List (List (List Char)))
  | .quoted, _, _, [] => none
  | _, field, record, [] => some [record ++ [field]]
  | .quoted, field, record, c :: cs =>
    if c = '"' then scan .afterQuote field record cs else scan .quoted (field ++ [c]) record cs
  | .plain, field, record, c :: cs =>
    if c = ',' then scan .plain [] (record ++ [field]) cs
    else if c = '\n' then (scan .plain [] [] cs).map ((record ++ [field]) :: ·)
    else if c = '"' then if field = [] then scan .quoted [] record cs else none
    else scan .plain (field ++ [c]) record cs
  | .afterQuote, field, record, c :: cs =>
    if c = ',' then scan .plain [] (record ++ [field]) cs
    else if c = '\n' then (scan .plain [] [] cs).map ((record ++ [field]) :: ·)
    else if c = '"' then scan .quoted (field ++ ['"']) record cs
    else none

def read (text : List Char) : Option (List (List (List Char))) := scan .plain [] [] text

/-! ## A field reads back -/

section Fields
variable {xs field : List Char} {record fields : List (List Char)} {rest : List Char}

theorem isSpecial_cons {c : Char} : isSpecial (c :: xs) = false ↔
    (c ≠ ',' ∧ c ≠ '"' ∧ c ≠ '\n') ∧ isSpecial xs = false := by
  simp only [isSpecial, List.contains_cons, Bool.or_eq_false_iff, beq_eq_false_iff_ne, ne_eq,
    eq_comm (b := c)]
  tauto

/-- What needs no quotes is read to its end. -/
theorem scan_plain (h : isSpecial xs = false) :
    scan .plain field record (xs ++ rest) = scan .plain (field ++ xs) record rest := by
  induction xs generalizing field with
  | nil => simp
  | cons c xs ih =>
    obtain ⟨⟨hcomma, hquote, hfeed⟩, hxs⟩ := isSpecial_cons.mp h
    rw [List.cons_append, scan, if_neg hcomma, if_neg hfeed, if_neg hquote, ih hxs]
    simp

/-- What is quoted is read up to the closing quote. -/
theorem scan_quoted : scan .quoted field record (doubled xs ++ '"' :: rest) =
    scan .afterQuote (field ++ xs) record rest := by
  induction xs generalizing field with
  | nil => simp [doubled, scan]
  | cons c xs ih =>
    have hcons : doubled (c :: xs) = (if c = '"' then ['"', '"'] else [c]) ++ doubled xs := rfl
    rw [hcons, List.append_assoc]
    split
    · rename_i hc
      subst hc
      -- The first quote may close the field; the second says that it does not.
      have hpair : scan .quoted field record ('"' :: '"' :: (doubled xs ++ '"' :: rest)) =
          scan .quoted (field ++ ['"']) record (doubled xs ++ '"' :: rest) := by
        simp [scan]
      rw [List.cons_append, List.singleton_append, hpair, ih]
      simp
    · rename_i hc
      rw [List.singleton_append, scan, if_neg hc, ih]
      simp

/-- The field ends here. -/
inductive Ends : List Char → Prop
  | nil : Ends []
  | comma (cs : List Char) : Ends (',' :: cs)
  | feed (cs : List Char) : Ends ('\n' :: cs)

/-- A closing quote at the end of a field changes nothing. -/
theorem Ends.afterQuote (h : Ends rest) :
    scan .afterQuote field record rest = scan .plain field record rest := by
  cases h with
  | nil => rfl
  | comma cs => simp [scan]
  | feed cs => simp [scan]

theorem Ends.escape (h : Ends rest) :
    scan .plain [] record (escape xs ++ rest) = scan .plain xs record rest := by
  unfold Csv.escape
  split
  · have hopen : scan .plain [] record ('"' :: (doubled xs ++ '"' :: rest)) =
        scan .quoted [] record (doubled xs ++ '"' :: rest) := by
      simp [scan]
    rw [List.cons_append, List.append_assoc, List.singleton_append, hopen, scan_quoted,
      List.nil_append, h.afterQuote]
  · rename_i hplain
    rw [scan_plain (by simpa using hplain), List.nil_append]

end Fields

/-! ## A text reads back -/

section Texts
variable {record fields : List (List Char)} {records : List (List (List Char))}

theorem line_singleton (field : List Char) : line [field] = escape field := by
  simp [line, List.intercalate]

theorem line_cons_cons (field next : List Char) (fields : List (List Char)) :
    line (field :: next :: fields) = escape field ++ ',' :: line (next :: fields) := by
  simp [line, List.intercalate]

theorem document_singleton (record : List (List Char)) : document [record] = line record := by
  simp [document, List.intercalate]

theorem document_cons_cons (record next : List (List Char)) (records : List (List (List Char))) :
    document (record :: next :: records) = line record ++ '\n' :: document (next :: records) := by
  simp [document, List.intercalate]

/-- A line that ends the text. -/
theorem scan_line (h : fields ≠ []) : scan .plain [] record (line fields) = some [record ++ fields] := by
  induction fields generalizing record with
  | nil => exact absurd rfl h
  | cons field fields ih =>
    cases fields with
    | nil =>
      have hfield : scan .plain [] record (escape field ++ []) = scan .plain field record [] :=
        Ends.nil.escape
      rw [List.append_nil] at hfield
      rw [line_singleton, hfield, scan]
      simp
    | cons next fields =>
      rw [line_cons_cons, (Ends.comma _).escape, scan, if_pos rfl, ih (by simp)]
      simp

/-- A line that others follow. -/
theorem scan_line_feed (h : fields ≠ []) (rest : List Char) :
    scan .plain [] record (line fields ++ '\n' :: rest) =
      (scan .plain [] [] rest).map ((record ++ fields) :: ·) := by
  induction fields generalizing record with
  | nil => exact absurd rfl h
  | cons field fields ih =>
    cases fields with
    | nil => rw [line_singleton, (Ends.feed rest).escape, scan, if_neg (by decide), if_pos rfl]
    | cons next fields =>
      rw [line_cons_cons, List.append_assoc, List.cons_append, (Ends.comma _).escape, scan,
        if_pos rfl, ih (by simp)]
      simp

/-- **CSV reads back.** Whatever the fields hold, a text of records that are not
empty is read as these records. -/
theorem read_document (hne : records ≠ []) (h : ∀ record ∈ records, record ≠ []) :
    read (document records) = some records := by
  induction records with
  | nil => exact absurd rfl hne
  | cons record records ih =>
    obtain ⟨hrecord, hrecords⟩ := List.forall_mem_cons.mp h
    cases records with
    | nil =>
      rw [document_singleton]
      exact scan_line hrecord
    | cons next records =>
      rw [read, document_cons_cons, scan_line_feed hrecord, List.nil_append]
      have hrest : scan .plain [] [] (document (next :: records)) = some (next :: records) :=
        ih (by simp) hrecords
      rw [hrest, Option.map_some]

end Texts
end Encoding.Csv
