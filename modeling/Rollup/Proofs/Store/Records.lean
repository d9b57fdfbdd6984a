import Mathlib.Data.List.Induction
import Rollup.Proofs.Csv.Reading
import Rollup.Proofs.Json.Settling
import Rollup.Store.Evaluate
/-!
The rows of a result. A row names each column once, in the order in which the names first come, and
has the value of the last column of a name. All rows of a result have the same names, so they have
a text of comma-separated values, which is read back as the names and the values.
-/
namespace Rollup

namespace Json

variable {name : String} {value : Json} {members : List (String × Json)}

/-! ### Names and values of merged members -/

theorem map_fst_put : (put name value members).map Prod.fst =
    if name ∈ members.map Prod.fst then members.map Prod.fst
    else members.map Prod.fst ++ [name] := by
  induction members with
  | nil => rfl
  | cons m ms ih =>
    obtain ⟨n, v⟩ := m
    unfold put
    split
    next hn => simp [hn]
    next hn =>
      have hn : name ≠ n := Ne.symm hn
      simp only [List.map_cons, List.mem_cons, ih, hn, false_or]
      split <;> rfl

theorem merge_append_singleton (ms : List (String × Json)) (m : String × Json) :
    merge (ms ++ [m]) = put m.1 m.2 (merge ms) := List.foldl_concat ..

/-- Every name is there once, in the order in which the names first come. -/
theorem map_fst_merge (ms : List (String × Json)) :
    (merge ms).map Prod.fst = (ms.map Prod.fst).eraseDups := by
  induction ms using List.reverseRecOn with
  | nil => rfl
  | append_singleton ms m ih =>
    rw [merge_append_singleton, map_fst_put, ih, List.map_append, List.map_singleton,
      List.eraseDups_append]
    by_cases hm : m.1 ∈ ms.map Prod.fst
    · simp [hm, List.removeAll, List.mem_eraseDups]
    · simp [hm, List.removeAll, List.mem_eraseDups, List.eraseDups_cons]

theorem lookup_merge (ms : List (String × Json)) :
    lookup name (merge ms) = lookup name ms.reverse := by
  induction ms using List.reverseRecOn with
  | nil => rfl
  | append_singleton ms m ih =>
    obtain ⟨n, v⟩ := m
    rw [merge_append_singleton, lookup_put, List.reverse_append, ih]
    simp [lookup, eq_comm]

theorem lookup_append_of_not_mem {before : List (String × Json)} (h : name ∉ before.map Prod.fst)
    (after : List (String × Json)) : lookup name (before ++ after) = lookup name after := by
  induction before with
  | nil => rfl
  | cons m ms ih =>
    obtain ⟨n, v⟩ := m
    simp only [List.map_cons, List.mem_cons, not_or] at h
    rw [List.cons_append, lookup, if_neg (Ne.symm h.1), ih h.2]

/-- The last value of a name stays. -/
theorem lookup_merge_of_last {after : List (String × Json)} (h : name ∉ after.map Prod.fst)
    (before : List (String × Json)) :
    lookup name (merge (before ++ (name, value) :: after)) = some value := by
  rw [lookup_merge, List.reverse_append, List.reverse_cons, List.append_assoc,
    lookup_append_of_not_mem (by simpa using h), List.singleton_append, lookup, if_pos rfl]

theorem lookup_of_mem {m : String × Json} (hnames : (members.map Prod.fst).Nodup)
    (hm : m ∈ members) : lookup m.1 members = some m.2 := by
  obtain ⟨before, after, rfl⟩ := List.append_of_mem hm
  have hfresh : m.1 ∉ before.map Prod.fst := by
    rw [List.map_append, List.map_cons] at hnames
    exact fun hmem => (List.nodup_append.mp hnames).2.2 _ hmem _ List.mem_cons_self rfl
  rw [lookup_append_of_not_mem hfresh, lookup, if_pos rfl]

/-- Members that name each of them once are the names with what is found under them. -/
theorem map_member {α : Type} (f : Json → α) (hnames : (members.map Prod.fst).Nodup) :
    (members.map Prod.fst).map (fun n => f (member n (.record members))) =
      members.map fun m => f m.2 := by
  rw [List.map_map]
  refine List.map_congr_left fun m hm => ?_
  simp [member, lookup_of_mem hnames hm]

end Json

namespace Store

open Fallible

/-! ### Rows -/

/-- A row of cells under the names of their columns. -/
def rowOf (names : List String) (cells : List Cell) : Row :=
  Json.merge (names.zip (cells.map Cell.toJson))

variable {names : List String} {cells : List Cell}

theorem map_fst_rowOf (h : cells.length = names.length) :
    (rowOf names cells).map Prod.fst = names.eraseDups := by
  unfold rowOf
  rw [Json.map_fst_merge, List.map_fst_zip (by simp [h])]

theorem lookup_rowOf {before after : List String} {name : String} (h : name ∉ after)
    (hlength : cells.length = (before ++ name :: after).length) :
    Json.lookup name (rowOf (before ++ name :: after) cells) =
      cells[before.length]?.map Cell.toJson := by
  have hwidth : before.length < cells.length := by
    rw [hlength, List.length_append, List.length_cons]
    omega
  -- The cells are parted where the names are.
  have hcells : cells = cells.take before.length ++ cells[before.length] ::
      cells.drop (before.length + 1) := by
    rw [List.getElem_cons_drop, List.take_append_drop]
  have hbefore : before.length = ((cells.take before.length).map Cell.toJson).length := by
    rw [List.length_map, List.length_take, Nat.min_eq_left (Nat.le_of_lt hwidth)]
  unfold rowOf
  rw [List.getElem?_eq_getElem hwidth, Option.map_some]
  conv_lhs =>
    rw [hcells, List.map_append, List.map_cons, List.zip_append hbefore, List.zip_cons_cons]
  refine Json.lookup_merge_of_last (fun hmem => h ?_) _
  obtain ⟨m, hm, rfl⟩ := List.mem_map.mp hmem
  exact (List.of_mem_zip hm).1

/-- A plan makes rows of the cells that its columns have. -/
theorem outputRow_of_cells {p : Plan} {g : Group}
    (h : p.outputs.mapM (fun o => o.value g) = .ok cells) :
    p.outputRow g = .ok (rowOf (p.outputs.map (·.name)) cells) := by
  have hnamed : p.outputs.mapM (fun o => do return (o.name, (← o.value g).toJson)) =
      .ok ((p.outputs.map (·.name)).zip (cells.map Cell.toJson)) := by
    rw [mapM_eq_ok_iff] at h ⊢
    generalize p.outputs = outputs at h ⊢
    induction h with
    | nil => exact .nil
    | cons hcell _ ih => exact .cons (bind_eq_ok_iff.mpr ⟨_, hcell, rfl⟩) ih
  exact bind_eq_ok_iff.mpr ⟨_, hnamed, rfl⟩

/-! ### The names of a result -/

theorem outputRow_names {p : Plan} {g : Group} {row : Row} (h : p.outputRow g = .ok row) :
    row.map Prod.fst = (p.outputs.map (·.name)).eraseDups := by
  obtain ⟨members, hmembers, hrow⟩ := bind_eq_ok_iff.mp h
  cases hrow
  have hnames : members.map Prod.fst = p.outputs.map (·.name) := by
    refine map_eq_map_of_forall₂ (mapM_eq_ok_iff.mp hmembers) fun o m hm => ?_
    obtain ⟨cell, _, hm⟩ := bind_eq_ok_iff.mp hm
    cases hm
    rfl
  rw [Json.map_fst_merge, hnames]

theorem resultRows_names {p : Plan} {needed : Option Nat} {rows : List Row}
    (h : p.resultRows needed = .ok rows) :
    ∀ row ∈ rows, row.map Prod.fst = (p.outputs.map (·.name)).eraseDups := by
  intro row hrow
  obtain ⟨groups, _, h⟩ := bind_eq_ok_iff.mp h
  split at h
  next =>
    obtain ⟨g, _, hg⟩ := exists_mem_left_of_forall₂ (mapM_eq_ok_iff.mp h) hrow
    exact outputRow_names hg
  next =>
    obtain ⟨keyed, hkeyed, h⟩ := bind_eq_ok_iff.mp h
    cases h
    obtain ⟨entry, hentry, rfl⟩ := List.mem_map.mp hrow
    rw [List.mem_mergeSort] at hentry
    obtain ⟨g, _, hg⟩ := exists_mem_left_of_forall₂ (mapM_eq_ok_iff.mp hkeyed) hentry
    obtain ⟨shown, hshown, hg⟩ := bind_eq_ok_iff.mp hg
    obtain ⟨key, _, hg⟩ := bind_eq_ok_iff.mp hg
    cases hg
    exact outputRow_names hshown

theorem statementRows_names {db : Database} {s : Statement} {rows : List Row}
    (h : statementRows db s = .ok rows) : ∃ names, ∀ row ∈ rows, row.map Prod.fst = names := by
  obtain ⟨p, _, h⟩ := bind_eq_ok_iff.mp h
  refine ⟨(p.outputs.map (·.name)).eraseDups, fun row hrow => ?_⟩
  dsimp only at h
  split at h
  next =>
    obtain ⟨all, hall, h⟩ := bind_eq_ok_iff.mp h
    cases h
    exact resultRows_names hall row (List.mem_of_mem_drop hrow)
  next =>
    cases h
    cases hrow
  next =>
    obtain ⟨part, hpart, h⟩ := bind_eq_ok_iff.mp h
    cases h
    exact resultRows_names hpart row (List.mem_of_mem_drop (List.mem_of_mem_take hrow))

/-- All rows that a database answers a query with have the same names. -/
theorem rows_names {db : Database} {q : Query} {rows : List Row} (h : db.rows q = .ok rows) :
    ∃ names, ∀ row ∈ rows, row.map Prod.fst = names := by
  cases q with
  | rows s => exact statementRows_names h
  | count q =>
    obtain ⟨n, _, h⟩ := bind_eq_ok_iff.mp h
    cases h
    exact ⟨["COUNT(*)"], fun row hrow => by rw [List.mem_singleton.mp hrow]; rfl⟩

/-! ### Rows as text -/

/-- The texts of the values under the names of the columns. -/
def shown (names : List String) (cells : List Cell) : List String :=
  names.eraseDups.map fun n => Csv.fieldText (Json.member n (.record (rowOf names cells)))

theorem shown_eq_map (h : cells.length = names.length) :
    shown names cells = (rowOf names cells).map fun m => Csv.fieldText m.2 := by
  unfold shown
  rw [← map_fst_rowOf h]
  exact Json.map_member Csv.fieldText Json.nodup_merge

theorem eraseDups_ne_nil (h : names ≠ []) : names.eraseDups ≠ [] := by
  obtain ⟨n, rest, rfl⟩ := List.exists_cons_of_ne_nil h
  rw [List.eraseDups_cons]
  exact List.cons_ne_nil _ _

/-- Rows of the same columns have a text, which is read back as the names of the columns and the
texts of the values. -/
theorem read?_ofRows {results : List (List Cell)} (hnames : names ≠ []) (hresults : results ≠ [])
    (hwidth : ∀ cells ∈ results, cells.length = names.length) :
    ∃ content, Csv.ofRows (results.map (rowOf names)) = .ok content ∧
      Csv.read? content = some (names.eraseDups :: results.map (shown names)) := by
  have hsame : ∀ row ∈ results.map (rowOf names), row.map Prod.fst = names.eraseDups := by
    intro row hrow
    obtain ⟨cells, hcells, rfl⟩ := List.mem_map.mp hrow
    exact map_fst_rowOf (hwidth cells hcells)
  refine ⟨_, Csv.ofRows_of_same_names (by simpa using hresults) hsame, ?_⟩
  have hshown : ((results.map (rowOf names)).map fun row => row.map fun m => Csv.fieldText m.2) =
      results.map (shown names) := by
    rw [List.map_map]
    exact List.map_congr_left fun cells hcells => (shown_eq_map (hwidth cells hcells)).symm
  rw [hshown]
  refine Csv.read?_join fun fs hfs => ?_
  rcases List.mem_cons.mp hfs with rfl | hfs
  · exact eraseDups_ne_nil hnames
  · obtain ⟨cells, _, rfl⟩ := List.mem_map.mp hfs
    simpa [shown] using eraseDups_ne_nil hnames

/-- The rows that a plan makes of cells name each of its columns once, in the order in which the
names first come, and hold the value of the last column of a name. They have a text of
comma-separated values, which is empty without rows. A reader finds in it the names and, for each
row in order, the text of each value under the name of its column. -/
theorem columns_read_back {results : List (List Cell)} (hnames : names ≠ [])
    (hresults : results ≠ []) (hwidth : ∀ cells ∈ results, cells.length = names.length) :
    (∀ (p : Plan) (groups : List Group), p.outputs.map (·.name) = names →
      List.Forall₂ (fun g cells => p.outputs.mapM (fun o => o.value g) = .ok cells)
        groups results →
      groups.mapM p.outputRow = .ok (results.map (rowOf names))) ∧
    (∀ cells ∈ results, (rowOf names cells).map Prod.fst = names.eraseDups ∧
      ∀ before name after, names = before ++ name :: after → name ∉ after →
        Json.lookup name (rowOf names cells) = cells[before.length]?.map Cell.toJson) ∧
    (∃ content, Csv.ofRows (results.map (rowOf names)) = .ok content ∧
      Csv.read? content = some (names.eraseDups :: results.map fun cells =>
        names.eraseDups.map fun n =>
          Csv.fieldText (Json.member n (.record (rowOf names cells))))) ∧
    Csv.ofRows [] = .ok "" := by
  refine ⟨?_, ?_, read?_ofRows hnames hresults hwidth, rfl⟩
  · rintro p groups rfl hcells
    rw [mapM_eq_ok_iff, List.forall₂_map_right_iff]
    exact hcells.imp fun _ _ => outputRow_of_cells
  · intro cells hcells
    refine ⟨map_fst_rowOf (hwidth cells hcells), ?_⟩
    rintro before name after rfl hlast
    exact lookup_rowOf hlast (hwidth cells hcells)

/-- The second column of a name that needs quotes, with line ends in a value, and none in the next
row. -/
theorem columns_read_back_repeated : ∃ content,
    Csv.ofRows ([[.integer 1, .text "a", .text "\"b\",\r\n"], [.null, .text "a", .text ""]].map
      (rowOf ["n", "x,y", "x,y"])) = .ok content ∧
    Csv.read? content = some [["n", "x,y"], ["1", "\"b\",\r\n"], ["", ""]] := by
  obtain ⟨_, _, ⟨content, htext, hread⟩, _⟩ := @columns_read_back ["n", "x,y", "x,y"]
    [[.integer 1, .text "a", .text "\"b\",\r\n"], [.null, .text "a", .text ""]]
    (by decide) (by decide) (by decide)
  exact ⟨content, htext, hread.trans (by decide +kernel)⟩

end Store

end Rollup
