import Mathlib.Data.List.Forall2
import Rollup.Csv
/-!
Reading comma-separated values. A reader takes one character after the other: fields end at commas,
records at the ends of lines, and between quotes both are text, as is a quote written twice. Lines
with nothing on them are no records. Every text of records is read back as the records.
-/
namespace Rollup.Csv

open Store (Row)

/-- Where a reader stands. -/
inductive Place where
  /-- In front of a field. -/
  | start
  /-- In a field that did not start with a quote. -/
  | plain
  /-- Between quotes. -/
  | quoted
  /-- Behind a quote that ends the quoted text, or that another one follows. -/
  | closed
  deriving Repr, DecidableEq

/-- What has been read: whole records, the fields of the next one, and characters of its next
field. -/
structure Reader where
  place : Place := .start
  field : List Char := []
  fields : List String := []
  records : List (List String) := []
  deriving Repr, DecidableEq

namespace Reader

def take (r : Reader) (place : Place) (c : Char) : Reader :=
  { r with place := place, field := r.field ++ [c] }

def endField (r : Reader) : Reader :=
  { r with place := .start, field := [], fields := r.fields ++ [String.ofList r.field] }

def endRecord (r : Reader) : Reader :=
  { records := r.records ++ [r.fields ++ [String.ofList r.field]] }

/-- Reads a character. Outside of quotes, quotes stand around whole fields only and a carriage
return stands nowhere. -/
def step (r : Reader) (c : Char) : Option Reader :=
  match r.place, c with
  | .quoted, '"' => some { r with place := .closed }
  | .quoted, c => some (r.take .quoted c)
  | .start, '"' => some { r with place := .quoted }
  | .closed, '"' => some (r.take .quoted '"')
  | .plain, '"' => none
  | _, ',' => some r.endField
  | .start, '\n' => some (if r.fields.isEmpty then r else r.endRecord)
  | _, '\n' => some r.endRecord
  | _, '\r' => none
  | .closed, _ => none
  | _, c => some (r.take .plain c)

def run (r : Reader) (cs : List Char) : Option Reader := cs.foldlM step r

/-- The records at the end of a text, the last of which may lack the end of its line. -/
def finish (r : Reader) : Option (List (List String)) :=
  match r.place with
  | .quoted => none
  | .start => some (if r.fields.isEmpty then r.records else r.endRecord.records)
  | .plain | .closed => some r.endRecord.records

end Reader

/-- The records of a text of comma-separated values. -/
def read? (s : String) : Option (List (List String)) := do
  let r ← Reader.run {} s.toList
  r.finish

example : read? "a,\"b\"\"\n,\"\n\n\"\",x" = some [["a", "b\"\n,"], ["", "x"]] := by decide +kernel

namespace Reader

variable {r : Reader} {c : Char} {cs ds : List Char}

/-! ### Runs -/

@[simp] theorem run_nil (r : Reader) : r.run [] = some r := rfl

theorem run_cons (r : Reader) (c : Char) (cs : List Char) :
    r.run (c :: cs) = (r.step c).bind fun s => s.run cs := rfl

theorem run_cons_of_step {s : Reader} (h : r.step c = some s) (cs : List Char) :
    r.run (c :: cs) = s.run cs := by
  rw [run_cons, h, Option.bind_some]

theorem run_append {s : Reader} (h : r.run cs = some s) (ds : List Char) :
    r.run (cs ++ ds) = s.run ds := by
  unfold run at h ⊢
  rw [List.foldlM_append, h]
  rfl

section Fields

variable {p : Place} {field : List Char} {fields : List String} {records : List (List String)}

/-! ### One field -/

theorem step_plain (hplace : p = .start ∨ p = .plain) (hc : needsQuotes c = false) :
    step ⟨p, field, fields, records⟩ c = some ⟨.plain, field ++ [c], fields, records⟩ := by
  simp only [needsQuotes, Bool.or_eq_false_iff, beq_eq_false_iff_ne, ne_eq] at hc
  obtain ⟨⟨⟨hcomma, hquote⟩, hreturn⟩, hnewline⟩ := hc
  unfold step take
  rcases hplace with rfl | rfl <;> split <;> simp_all

theorem step_comma (hplace : p ≠ .quoted) : step ⟨p, field, fields, records⟩ ',' =
    some ⟨.start, [], fields ++ [String.ofList field], records⟩ := by
  cases p with
  | quoted => exact absurd rfl hplace
  | start | plain | closed => rfl

/-- The end of a line ends a record, unless nothing stands on the line. -/
theorem step_newline (hplace : p ≠ .quoted) (hline : p = .start → fields ≠ []) :
    step ⟨p, field, fields, records⟩ '\n' =
      some ⟨.start, [], [], records ++ [fields ++ [String.ofList field]]⟩ := by
  cases p with
  | quoted => exact absurd rfl hplace
  | start =>
    have hfields : fields.isEmpty = false := by simpa using hline rfl
    simp [step, endRecord, hfields]
  | plain | closed => rfl

theorem run_plain (hcs : ∀ c ∈ cs, needsQuotes c = false) :
    run ⟨.plain, field, fields, records⟩ cs = some ⟨.plain, field ++ cs, fields, records⟩ := by
  induction cs generalizing field with
  | nil => simp
  | cons c cs ih =>
    rw [run_cons_of_step (step_plain (.inr rfl) (hcs c List.mem_cons_self)),
      ih fun d hd => hcs d (List.mem_cons_of_mem _ hd), List.append_assoc, List.singleton_append]

/-- Between quotes a quote is read from two, every other character from itself. -/
theorem run_escapeChar (c : Char) : run ⟨.quoted, field, fields, records⟩ (escapeChar c) =
    some ⟨.quoted, field ++ [c], fields, records⟩ := by
  unfold escapeChar
  split
  next hc =>
    subst hc
    rfl
  next hc =>
    have hstep : step ⟨.quoted, field, fields, records⟩ c =
        some ⟨.quoted, field ++ [c], fields, records⟩ := by
      simp [step, take]
    rw [run_cons_of_step hstep, run_nil]

theorem run_escaped (cs : List Char) : run ⟨.quoted, field, fields, records⟩
    (cs.flatMap escapeChar) = some ⟨.quoted, field ++ cs, fields, records⟩ := by
  induction cs generalizing field with
  | nil => simp
  | cons c cs ih =>
    rw [List.flatMap_cons, run_append (run_escapeChar c), ih, List.append_assoc,
      List.singleton_append]

/-- A field is read from its text. Only in front of the empty field the reader stays at the
start. -/
theorem run_field (s : String) : ∃ p, p ≠ .quoted ∧ (p = .start → s = "") ∧
    run ⟨.start, [], fields, records⟩ (Csv.field s).toList =
      some ⟨p, s.toList, fields, records⟩ := by
  -- The reader ends behind the closing quote, where it started, or among plain characters.
  unfold Csv.field
  split
  next =>
    refine ⟨.closed, by decide, (fun h => by cases h), ?_⟩
    have hopen : step ⟨.start, [], fields, records⟩ '"' = some ⟨.quoted, [], fields, records⟩ := rfl
    have hclose : step ⟨.quoted, s.toList, fields, records⟩ '"' =
        some ⟨.closed, s.toList, fields, records⟩ := rfl
    rw [String.toList_ofList, List.cons_append, run_cons_of_step hopen,
      run_append (run_escaped s.toList), List.nil_append, run_cons_of_step hclose, run_nil]
  next hplain =>
    have hplain : ∀ c ∈ s.toList, needsQuotes c = false := by simpa using hplain
    cases hs : s.toList with
    | nil =>
      exact ⟨.start, by decide, fun _ => String.toList_eq_nil_iff.mp hs, rfl⟩
    | cons c cs =>
      rw [hs] at hplain
      refine ⟨.plain, by decide, (fun h => by cases h), ?_⟩
      rw [run_cons_of_step (step_plain (.inl rfl) (hplain c List.mem_cons_self)),
        run_plain fun d hd => hplain d (List.mem_cons_of_mem _ hd)]
      rfl

/-! ### One record -/

/-- The fields of a line go behind those that the record has already. -/
theorem run_line {fs : List String} (hfs : fs ≠ [])
    (hline : fields ≠ [] ∨ ",".intercalate (fs.map Csv.field) ≠ "") :
    run ⟨.start, [], fields, records⟩ ((",".intercalate (fs.map Csv.field)).toList ++ ['\n']) =
      some ⟨.start, [], [], records ++ [fields ++ fs]⟩ := by
  induction fs generalizing fields with
  | nil => exact absurd rfl hfs
  | cons s fs ih =>
    obtain ⟨p, hp, hempty, hrun⟩ := @run_field fields records s
    cases fs with
    | nil =>
      rw [List.map_singleton, String.intercalate_singleton] at hline ⊢
      rw [run_append hrun]
      have hstart : p = .start → fields ≠ [] := by
        intro hstart
        refine hline.resolve_right fun hne => hne ?_
        rw [hempty hstart]
        rfl
      rw [run_cons_of_step (step_newline hp hstart), run_nil, String.ofList_toList]
    | cons t fs =>
      rw [List.map_cons, List.map_cons, String.intercalate_cons_cons, ← List.map_cons]
      simp only [String.toList_append, List.append_assoc]
      rw [run_append hrun, show ",".toList = [','] from rfl, List.singleton_append,
        run_cons_of_step (step_comma hp), String.ofList_toList,
        ih (by simp) (.inl (by simp)), List.append_assoc, List.singleton_append]

theorem field_eq_empty {s : String} (h : Csv.field s = "") : s = "" := by
  unfold Csv.field at h
  split at h
  · exact absurd (congrArg String.toList h) (by simp)
  · exact h

/-- The only record that shows nothing is a single empty field. -/
theorem eq_singleton_of_line_empty {fs : List String} (hfs : fs ≠ [])
    (hline : ",".intercalate (fs.map Csv.field) = "") : fs = [""] := by
  match fs, hfs with
  | [s], _ =>
    have hs : s = "" := field_eq_empty (by simpa using hline)
    rw [hs]
  | s :: t :: fs, _ =>
    rw [List.map_cons, List.map_cons, String.intercalate_cons_cons] at hline
    exact absurd (congrArg String.toList hline) (by simp)

/-- A record is read back, a single empty field too. -/
theorem run_record {fs : List String} (hfs : fs ≠ []) :
    run ⟨.start, [], [], records⟩ (record fs).toList =
      some ⟨.start, [], [], records ++ [fs]⟩ := by
  unfold record
  dsimp only
  split
  next hline =>
    rw [eq_singleton_of_line_empty hfs (by simpa using hline)]
    rfl
  next hline =>
    rw [String.toList_append]
    exact run_line hfs (.inr (by simpa using hline))

theorem run_records {rows : List (List String)} (hrows : ∀ fs ∈ rows, fs ≠ []) :
    run ⟨.start, [], [], records⟩ (String.join (rows.map record)).toList =
      some ⟨.start, [], [], records ++ rows⟩ := by
  induction rows generalizing records with
  | nil => simp
  | cons fs rows ih =>
    rw [List.map_cons, String.join_cons, String.toList_append,
      run_append (run_record (hrows fs List.mem_cons_self)),
      ih fun gs hgs => hrows gs (List.mem_cons_of_mem _ hgs), List.append_assoc,
      List.singleton_append]

end Fields

end Reader

/-! ### Whole texts -/

/-- The text of records is read back as the records. -/
theorem read?_join {rows : List (List String)} (hrows : ∀ fs ∈ rows, fs ≠ []) :
    read? (String.join (rows.map record)) = some rows := by
  unfold read?
  rw [Reader.run_records hrows]
  rfl

/-- Rows of the same names have a text: the header of the names and a record for each row. -/
theorem ofRows_of_same_names {names : List String} {rows : List Row} (hrows : rows ≠ [])
    (hnames : ∀ row ∈ rows, row.map Prod.fst = names) :
    ofRows rows = .ok (String.join
      ((names :: rows.map fun row => row.map fun cell => fieldText cell.2).map record)) := by
  obtain ⟨first, rest, rfl⟩ := List.exists_cons_of_ne_nil hrows
  have hlength : ∀ row ∈ first :: rest, row.length = names.length := fun row hrow => by
    rw [← hnames row hrow, List.length_map]
  have heven : (first :: rest).find? (fun row => row.length != first.length) = none := by
    rw [List.find?_eq_none]
    intro row hrow
    simp [hlength row hrow, hlength first List.mem_cons_self]
  unfold ofRows
  dsimp only
  rw [heven, hnames first List.mem_cons_self, List.map_cons (f := record), String.join_cons,
    List.map_map]
  rfl

theorem exists_ofRows {names : List String} {rows : List Row}
    (hnames : ∀ row ∈ rows, row.map Prod.fst = names) : ∃ content, ofRows rows = .ok content := by
  by_cases hrows : rows = []
  · subst hrows
    exact ⟨"", rfl⟩
  · exact ⟨_, ofRows_of_same_names hrows hnames⟩

end Rollup.Csv
