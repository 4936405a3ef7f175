import TopicReplay.Proofs.Text.Blank
import TopicReplay.Proofs.Time.Layout
import TopicReplay.Store.Listing
import Mathlib.Data.List.Forall2
import Mathlib.Data.String.Basic

/-!
# The columns of a table

A column is as wide as its longest cell has bytes, and no text has more characters than
bytes. So every cell fits its column, filling it up makes it exactly as wide as the column,
and a column starts at the same place in all lines. The last cell of a line ends with a
visible character, so that cutting the line takes no more than what filled this cell up.

The main statements are `getElem?_widths`, `aligned_line` and `plain_aligned`.
-/

namespace TopicReplay.Store.Listing

open Text (EndsVisible isBlank)

/-! ## Widths -/

theorem length_le_utf8Len (cs : List Char) : cs.length ≤ String.utf8Len cs := by
  induction cs with
  | nil => exact Nat.le_refl 0
  | cons c cs ih => exact Nat.add_le_add ih c.utf8Size_pos

/-- A text has no more characters than bytes. -/
theorem length_le_utf8ByteSize (s : String) : s.length ≤ s.utf8ByteSize := by
  rw [← String.length_toList, ← String.utf8Len_toList]
  exact length_le_utf8Len s.toList

/-- The cells of a column. -/
def column (lines : List (List String)) (i : Nat) : List String :=
  lines.filterMap fun cells => cells[i]?

/-- Whether a cell has no more characters than its column is wide. -/
def Fits (width : Nat) (cell : String) : Prop := cell.length ≤ width

section Widths

variable {lines : List (List String)} {first : List String} {columns : List Nat}

theorem column_cons {cells : List String} {i : Nat} {cell : String} (here : cells[i]? = some cell) :
    column (cells :: lines) i = cell :: column lines i :=
  List.filterMap_cons_some here

theorem column_cons_of_none {cells : List String} {i : Nat} (here : cells[i]? = none) :
    column (cells :: lines) i = column lines i :=
  List.filterMap_cons_none here

theorem length_widen {cells : List String} (same : cells.length = columns.length) :
    (widen columns (cells.map String.utf8ByteSize)).length = columns.length := by
  rw [widen, List.length_zipWith, List.length_map, same, Nat.min_self]

theorem length_foldl_widen (even : ∀ cells ∈ lines, cells.length = columns.length) :
    (lines.foldl (fun columns line => widen columns (line.map String.utf8ByteSize))
      columns).length = columns.length := by
  induction lines generalizing columns with
  | nil => rfl
  | cons cells rest ih =>
      rcases List.forall_mem_cons.mp even with ⟨same, others⟩
      have widened := length_widen same
      rw [List.foldl_cons, ih fun line member => (others line member).trans widened.symm, widened]

/-- Widening columns by lines of as many cells makes each as wide as it was or as the longest of
its cells. -/
theorem getElem?_foldl_widen (even : ∀ cells ∈ lines, cells.length = columns.length) (i : Nat) :
    (lines.foldl (fun columns line => widen columns (line.map String.utf8ByteSize)) columns)[i]? =
      (columns[i]?.toList ++ (column lines i).map String.utf8ByteSize).max? := by
  induction lines generalizing columns with
  | nil =>
      rw [List.foldl_nil, column, List.filterMap_nil, List.map_nil, List.append_nil]
      cases columns[i]? <;> rfl
  | cons cells rest ih =>
      rcases List.forall_mem_cons.mp even with ⟨same, others⟩
      have widened := length_widen same
      rw [List.foldl_cons, ih fun line member => (others line member).trans widened.symm, widen,
        List.getElem?_zipWith, List.getElem?_map]
      -- The columns and the line are equally many: both have this one, or neither has.
      by_cases inside : i < columns.length
      · have here : cells[i]? = some cells[i] := List.getElem?_eq_getElem (same ▸ inside)
        rw [column_cons here, List.getElem?_eq_getElem inside, here]
        simp only [Option.map_some, Option.toList_some, List.singleton_append, List.map_cons,
          List.max?_cons', List.foldl_cons]
      · have outside := Nat.le_of_not_lt inside
        have here : cells[i]? = none := List.getElem?_eq_none (same ▸ outside)
        rw [column_cons_of_none here, List.getElem?_eq_none outside, here]

variable (even : ∀ cells ∈ lines, cells.length = first.length)
include even

theorem length_widths : (widths lines first).length = first.length := by
  rw [widths, length_foldl_widen (by simpa using even), List.length_map]

/-- A column of a table is as wide as its longest cell has bytes. -/
theorem getElem?_widths (i : Nat) :
    (widths lines first)[i]? = ((column (first :: lines) i).map String.utf8ByteSize).max? := by
  rw [widths, getElem?_foldl_widen (by simpa using even), List.getElem?_map]
  cases here : first[i]? with
  | none =>
      rw [column_cons_of_none here]
      rfl
  | some cell =>
      rw [column_cons here]
      rfl

/-- Every cell of a table fits its column. -/
theorem fits_widths {cells : List String} (member : cells ∈ first :: lines) :
    List.Forall₂ Fits (widths lines first) cells := by
  have same : cells.length = first.length := by
    rcases List.mem_cons.mp member with rfl | below
    · rfl
    · exact even cells below
  rw [List.forall₂_iff_get]
  constructor
  · rw [length_widths even, same]
  · intro i inside within
    have width := getElem?_widths even i
    rw [List.getElem?_eq_getElem inside] at width
    have among : cells[i] ∈ column (first :: lines) i :=
      List.mem_filterMap.mpr ⟨cells, member, List.getElem?_eq_getElem within⟩
    have most := (List.max?_eq_some_iff.mp width.symm).2
    -- The width counts bytes and the cell takes characters, of which there are no more.
    exact (length_le_utf8ByteSize _).trans (most _ (List.mem_map_of_mem among))

end Widths

/-! ## Lines -/

/-- The place at which a column starts: behind the columns before it and their gaps of two
characters. -/
def start (columns : List Nat) (i : Nat) : Nat := ((columns.take i).map (· + 2)).sum

theorem start_cons_succ (width : Nat) (columns : List Nat) (i : Nat) :
    start (width :: columns) (i + 1) = width + 2 + start columns i := by
  rw [start, List.take_succ_cons, List.map_cons, List.sum_cons, start]

theorem start_succ {columns : List Nat} {i width : Nat} (here : columns[i]? = some width) :
    start columns (i + 1) = start columns i + (width + 2) := by
  rw [start, List.take_add_one, here, Option.toList_some, List.map_append, List.sum_append,
    List.map_singleton, List.sum_singleton, start]

/-- The characters of a line: every cell but the last one is filled up to the width of its
column, and has a gap behind it. -/
inductive Laid : List Nat → List String → List Char → Prop where
  | last (width : Nat) (cell : String) : Laid [width] [cell] cell.toList
  | cons {width : Nat} {cell : String} {columns : List Nat} {cells : List String}
      {text : List Char} (fits : Fits width cell) (rest : Laid columns cells text) :
      Laid (width :: columns) (cell :: cells) (fill width cell ++ gap ++ text)

section Lines

variable {columns : List Nat} {cells : List String} {text : List Char}

theorem length_fill {width : Nat} {cell : String} (fits : Fits width cell) :
    (fill width cell).length = width := by
  rw [fill, List.length_append, List.length_replicate, String.length_toList]
  exact Nat.add_sub_cancel' fits

theorem fill_append_gap (width : Nat) (cell : String) :
    fill width cell ++ gap =
      cell.toList ++ List.replicate (width - cell.length + 2) ' ' := by
  rw [fill, List.append_assoc, List.replicate_add]
  rfl

theorem Laid.ne_nil (laid : Laid columns cells text) : cells ≠ [] := by
  cases laid <;> exact List.cons_ne_nil _ _

/-- Cells that fit are laid out one after the other when they are filled up and joined, but for
the blanks that fill up the last one. -/
theorem exists_laid (fits : List.Forall₂ Fits columns cells) (some_cell : cells ≠ []) :
    ∃ text blanks, Laid columns cells text ∧
      gap.intercalate (List.zipWith fill columns cells) =
        text ++ List.replicate blanks ' ' := by
  induction fits with
  | nil => exact absurd rfl some_cell
  | @cons width cell columns cells fit rest ih =>
      cases rest with
      | nil =>
          exact ⟨cell.toList, width - cell.length, .last width cell, List.intercalate_singleton⟩
      | cons next others =>
          rcases ih (List.cons_ne_nil _ _) with ⟨text, blanks, laid, joined⟩
          refine ⟨fill width cell ++ gap ++ text, blanks, .cons fit laid, ?_⟩
          rw [List.zipWith_cons_cons, List.zipWith_cons_cons, List.intercalate_cons_cons,
            ← List.zipWith_cons_cons, joined, List.append_assoc _ text]

theorem Laid.endsVisible (laid : Laid columns cells text)
    (visible : ∀ cell ∈ cells.getLast?, EndsVisible cell.toList) : EndsVisible text := by
  induction laid with
  | last width cell => exact visible cell rfl
  | @cons width cell columns cells text fits rest ih =>
      apply EndsVisible.append
      apply ih
      rwa [List.getLast?_cons_of_ne_nil rest.ne_nil] at visible

/-- What is laid out from the start of a column on are the cells from this column on. -/
theorem Laid.drop_start (laid : Laid columns cells text) {i : Nat} (inside : i < cells.length) :
    Laid (columns.drop i) (cells.drop i) (text.drop (start columns i)) := by
  induction laid generalizing i with
  | last width cell =>
      cases Nat.lt_one_iff.mp inside
      exact .last width cell
  | @cons width cell columns cells text fits rest ih =>
      cases i with
      | zero => exact .cons fits rest
      | succ i =>
          -- A cell that fits takes exactly its column and the gap, however long it is itself.
          have filled : (fill width cell ++ gap).length = width + 2 := by
            rw [List.length_append, length_fill fits]
            rfl
          rw [start_cons_succ, ← filled, List.drop_length_add_append]
          exact ih (Nat.lt_of_succ_lt_succ inside)

theorem Laid.stands {cell : String} (laid : Laid columns (cell :: cells) text) :
    cell.toList <+: text := by
  cases laid with
  | last => exact List.prefix_rfl
  | cons =>
      rw [fill_append_gap, List.append_assoc]
      exact List.prefix_append _ _

theorem Laid.eq_of_last {cell : String} (laid : Laid columns [cell] text) :
    text = cell.toList := by
  cases laid with
  | last => rfl
  | cons _ rest => exact absurd rfl rest.ne_nil

/-- A cell that is not the last one stands in front of at least two blanks, which end where the
next column starts. -/
theorem Laid.exists_blanks {cell : String} (laid : Laid columns (cell :: cells) text)
    (followed : cells ≠ []) :
    ∃ width blanks rest, columns.head? = some width ∧ 2 ≤ blanks ∧
      cell.length + blanks = width + 2 ∧
      text = cell.toList ++ List.replicate blanks ' ' ++ rest := by
  cases laid with
  | last => exact absurd rfl followed
  | @cons width _ _ _ rest fits =>
      refine ⟨width, width - cell.length + 2, rest, rfl, Nat.le_add_left 2 _, ?_, ?_⟩
      · rw [← Nat.add_assoc, Nat.add_sub_cancel' fits]
      · rw [fill_append_gap]

theorem Laid.mem (laid : Laid columns cells text) {c : Char} (member : c ∈ text) :
    c = ' ' ∨ ∃ cell ∈ cells, c ∈ cell.toList := by
  induction laid with
  | last width cell => exact .inr ⟨cell, List.mem_singleton_self cell, member⟩
  | @cons width cell columns cells text fits rest ih =>
      rw [fill_append_gap, List.append_assoc, List.mem_append, List.mem_append] at member
      rcases member with own | blank | later
      · exact .inr ⟨cell, List.mem_cons_self, own⟩
      · exact .inl (List.eq_of_mem_replicate blank)
      · rcases ih later with blank | ⟨other, among, inside⟩
        · exact .inl blank
        · exact .inr ⟨other, List.mem_cons_of_mem _ among, inside⟩

/-- How cells stand in a line of a table with these widths of its columns. -/
structure Aligned (columns : List Nat) (cells : List String) (text : List Char) : Prop where
  /-- The whole text of a cell stands where its column starts. -/
  stands : ∀ i cell, cells[i]? = some cell → cell.toList <+: text.drop (start columns i)
  /-- Between a cell and the start of the next column there are blanks alone, at least two. -/
  apart : ∀ i cell, cells[i]? = some cell → i + 1 < cells.length →
    ∃ blanks, 2 ≤ blanks ∧ start columns i + cell.length + blanks = start columns (i + 1) ∧
      List.replicate blanks ' ' <+: text.drop (start columns i + cell.length)
  /-- Nothing stands behind the last cell. -/
  ends : ∀ i cell, cells[i]? = some cell → i + 1 = cells.length →
    text.drop (start columns i) = cell.toList
  /-- Of the filled and joined cells nothing has been cut but blanks at the end. -/
  cut : ∃ blanks, gap.intercalate (List.zipWith fill columns cells) =
    text ++ List.replicate blanks ' '

section Cells

variable {i : Nat} {cell : String}

/-- A cell is the first one of what is laid out from the start of its column on. -/
theorem Laid.drop_start_cons (laid : Laid columns cells text) (here : cells[i]? = some cell) :
    Laid (columns.drop i) (cell :: cells.drop (i + 1)) (text.drop (start columns i)) := by
  rcases List.getElem?_eq_some_iff.mp here with ⟨inside, rfl⟩
  rw [List.getElem_cons_drop]
  exact laid.drop_start inside

theorem Laid.apart (laid : Laid columns cells text) (here : cells[i]? = some cell)
    (inner : i + 1 < cells.length) :
    ∃ blanks, 2 ≤ blanks ∧ start columns i + cell.length + blanks = start columns (i + 1) ∧
      List.replicate blanks ' ' <+: text.drop (start columns i + cell.length) := by
  have followed : cells.drop (i + 1) ≠ [] := fun none_left =>
    Nat.not_le_of_lt inner (List.drop_eq_nil_iff.mp none_left)
  rcases (laid.drop_start_cons here).exists_blanks followed with
    ⟨width, blanks, rest, column_width, two, sum, text_eq⟩
  rw [List.head?_drop] at column_width
  refine ⟨blanks, two, ?_, ?_⟩
  · rw [start_succ column_width, Nat.add_assoc, sum]
  · rw [← List.drop_drop, text_eq, List.append_assoc, ← String.length_toList, List.drop_left]
    exact List.prefix_append _ _

theorem Laid.ends (laid : Laid columns cells text) (here : cells[i]? = some cell)
    (final : i + 1 = cells.length) : text.drop (start columns i) = cell.toList := by
  have onward := laid.drop_start_cons here
  rw [List.drop_eq_nil_of_le (Nat.le_of_eq final.symm)] at onward
  exact onward.eq_of_last

end Cells

/-- Whether cells make a line with columns of these widths: each fits its column, and the last one
ends with a visible character. -/
structure Suits (columns : List Nat) (cells : List String) : Prop where
  fits : List.Forall₂ Fits columns cells
  some_cell : cells ≠ []
  visible : ∀ cell ∈ cells.getLast?, EndsVisible cell.toList

theorem Suits.laid (suits : Suits columns cells) :
    Laid columns cells (line columns cells).toList ∧
      ∃ blanks, gap.intercalate (List.zipWith fill columns cells) =
        (line columns cells).toList ++ List.replicate blanks ' ' := by
  rcases exists_laid suits.fits suits.some_cell with ⟨text, blanks, laid, joined⟩
  have trimmed : (line columns cells).toList = text := by
    rw [line, String.toList_ofList, joined]
    apply (laid.endsVisible suits.visible).trimRight_append
    intro c blank
    rw [List.eq_of_mem_replicate blank]
    rfl
  rw [trimmed]
  exact ⟨laid, blanks, joined⟩

/-- In a line of cells that suit its columns all of them are aligned. -/
theorem aligned_line (suits : Suits columns cells) :
    Aligned columns cells (line columns cells).toList := by
  rcases suits.laid with ⟨laid, cut⟩
  exact ⟨fun _ _ here => (laid.drop_start_cons here).stands, fun _ _ here => laid.apart here,
    fun _ _ here => laid.ends here, cut⟩

theorem eq_blank_or_mem_of_mem_line (suits : Suits columns cells) {c : Char}
    (member : c ∈ (line columns cells).toList) : c = ' ' ∨ ∃ cell ∈ cells, c ∈ cell.toList :=
  suits.laid.1.mem member

end Lines

/-! ## Tables -/

/-- A text is solid if it is not empty and has no white space in it. -/
structure Solid (s : String) : Prop where
  not_empty : s.toList ≠ []
  visible : ∀ c ∈ s.toList, isBlank c = false

section Cells

variable {s : String}

theorem solid_of_any (not_empty : s.toList ≠ []) (visible : s.toList.any isBlank = false) :
    Solid s :=
  ⟨not_empty, Text.visible_of_any visible⟩

theorem Solid.endsVisible (solid : Solid s) : EndsVisible s.toList :=
  Text.endsVisible_of_forall solid.not_empty solid.visible

theorem Solid.unbroken (solid : Solid s) : '\n' ∉ s.toList := fun broken =>
  absurd (solid.visible '\n' broken) (by decide)

theorem solid_absent : Solid absent := solid_of_any (by decide) (by decide)

theorem solid_integerString (n : Int) : Solid (Text.integerString n) := by
  constructor
  · rw [Text.integerString, String.toList_ofList]
    rcases (Text.denotes_integer n).exists_digit with ⟨c, member, -⟩
    exact List.ne_nil_of_mem member
  · rw [Text.integerString, String.toList_ofList]
    exact fun _ => Time.isBlank_of_mem_integer

theorem solid_time (t : Instant) : Solid (String.ofList (t.text .seconds .letter)) := by
  constructor
  · rw [String.toList_ofList]
    exact List.append_ne_nil_of_right_ne_nil _ (List.cons_ne_nil 'Z' [])
  · rw [String.toList_ofList]
    exact Time.visible_text .seconds .letter t

/-- What is shown of an optional value is solid if that is so of every value. -/
theorem solid_getD {α : Type} {shown : α → String} (solid : ∀ value, Solid (shown value))
    (value : Option α) : Solid ((value.map shown).getD absent) := by
  cases value with
  | none => exact solid_absent
  | some value => exact solid value

theorem unbroken_remote (remote : Option RemoteOffset) :
    '\n' ∉ ((remote.map RemoteOffset.display).getD absent).toList := by
  cases remote with
  | none => exact solid_absent.unbroken
  | some remote =>
      cases remote with
      | known offset => exact (solid_integerString offset).unbroken
      | unknown => exact (by decide : '\n' ∉ "unknown".toList)
      | notFound => exact (by decide : '\n' ∉ "not found".toList)

end Cells

/-- The cells of the lines of a table, the header first, with or without remote offsets. -/
def grid (lag : Bool) (rows : List Row) : List (List String) :=
  (titles ++ if lag then lagTitles else []) ::
    rows.map fun row => cells row ++ if lag then lagCells row else []

section Tables

variable {lag : Bool} {rows : List Row}

theorem withLag_iff : withLag rows = true ↔ ∃ row ∈ rows, row.remote ≠ none := by
  simp only [withLag, List.any_eq_true, Option.isSome_iff_ne_none]

theorem header_cons_body (rows : List Row) :
    header rows :: body rows = grid (withLag rows) rows := by
  unfold header body grid
  cases withLag rows
  · simp
  · simp

theorem length_of_mem_grid {line : List String} (member : line ∈ grid lag rows) :
    line.length = (titles ++ if lag then lagTitles else []).length := by
  rcases List.mem_cons.mp member with rfl | below
  · rfl
  · rcases List.mem_map.mp below with ⟨row, -, rfl⟩
    cases lag <;> rfl

/-- The last cell of every line is solid. -/
theorem solid_of_mem_grid {line : List String} (member : line ∈ grid lag rows) :
    ∀ cell ∈ line.getLast?, Solid cell := by
  intro cell last
  rcases List.mem_cons.mp member with rfl | below
  · cases lag with
    | false =>
        obtain rfl : "UPDATED" = cell := Option.some.inj last
        exact solid_of_any (by decide) (by decide)
    | true =>
        obtain rfl : "LAG" = cell := Option.some.inj last
        exact solid_of_any (by decide) (by decide)
  · rcases List.mem_map.mp below with ⟨row, -, rfl⟩
    cases lag with
    | false =>
        rw [← Option.some.inj last]
        exact solid_getD solid_time row.updatedAt
    | true =>
        rw [← Option.some.inj last]
        exact solid_getD solid_integerString row.lag

/-- Where environments and topics have no line break, no cell has. -/
theorem unbroken_of_mem_grid
    (unbroken : ∀ row ∈ rows, '\n' ∉ row.environment.toList ∧ '\n' ∉ row.topic.toList)
    {line : List String} (member : line ∈ grid lag rows) : ∀ cell ∈ line, '\n' ∉ cell.toList := by
  rcases List.mem_cons.mp member with rfl | below
  · cases lag <;> decide
  · rcases List.mem_map.mp below with ⟨row, among, rfl⟩
    rcases unbroken row among with ⟨environment, topic⟩
    rw [List.forall_mem_append]
    constructor
    · simp only [cells, List.forall_mem_cons]
      exact ⟨environment, topic, (solid_integerString row.partition).unbroken,
        (solid_integerString row.offset).unbroken, (solid_getD solid_time row.updatedAt).unbroken,
        List.forall_mem_nil _⟩
    · cases lag with
      | false => exact List.forall_mem_nil _
      | true =>
          simp only [if_true, lagCells, List.forall_mem_cons]
          exact ⟨unbroken_remote row.remote, (solid_getD solid_integerString row.lag).unbroken,
            List.forall_mem_nil _⟩

/-- The widths of the columns of the table of rows. -/
def columnsOf (rows : List Row) : List Nat := widths (body rows) (header rows)

theorem even_body (rows : List Row) : ∀ cells ∈ body rows, cells.length = (header rows).length := by
  have even := fun line (member : line ∈ header rows :: body rows) =>
    length_of_mem_grid (header_cons_body rows ▸ member)
  intro cells member
  rw [even cells (List.mem_cons_of_mem _ member), even _ List.mem_cons_self]

theorem getElem?_columnsOf (rows : List Row) (i : Nat) :
    (columnsOf rows)[i]? =
      ((column (grid (withLag rows) rows) i).map String.utf8ByteSize).max? := by
  rw [← header_cons_body]
  exact getElem?_widths (even_body rows) i

/-- The text of a table is its lines, joined by line breaks. -/
theorem toList_plain (some_row : rows ≠ []) :
    (plain false rows).toList = ['\n'].intercalate
      ((grid (withLag rows) rows).map fun cells => (line (columnsOf rows) cells).toList) := by
  have not_empty : rows.isEmpty = false := List.isEmpty_eq_false_iff.mpr some_row
  rw [plain, not_empty, ← header_cons_body]
  simp only [Bool.false_eq_true, if_false, Text.Style.apply_false, String.toList_intercalate,
    List.map_cons, List.map_map]
  rfl

theorem suits_of_mem_grid {cells : List String} (member : cells ∈ grid (withLag rows) rows) :
    Suits (columnsOf rows) cells := by
  constructor
  · rw [← header_cons_body] at member
    exact fits_widths (even_body rows) member
  · have some_title : titles ++ (if withLag rows then lagTitles else []) ≠ [] :=
      List.append_ne_nil_of_left_ne_nil (List.cons_ne_nil _ _) _
    rw [← List.length_pos_iff, length_of_mem_grid member]
    exact List.length_pos_iff.mpr some_title
  · exact fun cell last => (solid_of_mem_grid member cell last).endsVisible

/-- Where environments and topics have no line break, the text of a table splits into its lines. -/
theorem splitOn_plain (some_row : rows ≠ [])
    (unbroken : ∀ row ∈ rows, '\n' ∉ row.environment.toList ∧ '\n' ∉ row.topic.toList) :
    (plain false rows).toList.splitOn '\n' =
      (grid (withLag rows) rows).map fun cells => (line (columnsOf rows) cells).toList := by
  rw [toList_plain some_row]
  apply List.splitOn_intercalate
  · intro text member broken
    rcases List.mem_map.mp member with ⟨cells, inside, rfl⟩
    rcases eq_blank_or_mem_of_mem_line (suits_of_mem_grid inside) broken with
      blank | ⟨cell, among, broken⟩
    · exact absurd blank (by decide)
    · exact unbroken_of_mem_grid unbroken inside cell among broken
  · exact List.cons_ne_nil _ _

end Tables

/-- The table of rows, where no environment and no topic has a line break: there is a line for the
header and then one for each row, in order. Every column is as wide as its longest cell has bytes,
and in every line all cells stand in these columns. The columns of remote offsets and lags are
there in all lines if some row has a remote offset, and in none if no row has. -/
theorem plain_aligned {rows : List Row} (some_row : rows ≠ [])
    (unbroken : ∀ row ∈ rows, '\n' ∉ row.environment.toList ∧ '\n' ∉ row.topic.toList) :
    ∃ (lag : Bool) (columns : List Nat),
      (lag = true ↔ ∃ row ∈ rows, row.remote ≠ none) ∧
      (∀ i, columns[i]? = ((column (grid lag rows) i).map String.utf8ByteSize).max?) ∧
      List.Forall₂ (Aligned columns) (grid lag rows) ((plain false rows).toList.splitOn '\n') := by
  refine ⟨withLag rows, columnsOf rows, withLag_iff, getElem?_columnsOf rows, ?_⟩
  rw [splitOn_plain some_row unbroken, List.forall₂_map_right_iff, List.forall₂_same]
  exact fun cells member => aligned_line (suits_of_mem_grid member)

/-- Rows with names that have more bytes than characters, white space at their ends and other
control characters than line breaks. The broker has been asked for the end of one partition. -/
def wideRows : List Row :=
  [{ environment := "größe ", topic := "注文", partition := 12, offset := 1000000007
     updatedAt := none },
   { environment := " \t", topic := "b\r", partition := 0, offset := -1
     updatedAt := some ⟨1435708799, 1000500000, by decide⟩, remote := some .notFound }]

/-- In the table of these rows all cells are aligned, remote offsets and lags among them. -/
theorem plain_aligned_wide :
    wideRows ≠ [] ∧
      (∀ row ∈ wideRows, '\n' ∉ row.environment.toList ∧ '\n' ∉ row.topic.toList) ∧
      ∃ columns : List Nat,
        (∀ i, columns[i]? = ((column (grid true wideRows) i).map String.utf8ByteSize).max?) ∧
        List.Forall₂ (Aligned columns) (grid true wideRows)
          ((plain false wideRows).toList.splitOn '\n') := by
  have some_row : wideRows ≠ [] := List.cons_ne_nil _ _
  have unbroken : ∀ row ∈ wideRows,
      '\n' ∉ row.environment.toList ∧ '\n' ∉ row.topic.toList := by decide
  rcases plain_aligned some_row unbroken with ⟨lag, columns, remote, wide, aligned⟩
  obtain rfl : lag = true := remote.mpr (by decide)
  exact ⟨some_row, unbroken, columns, wide, aligned⟩

example : plain false wideRows = "\n".intercalate [
    "ENVIRONMENT  TOPIC   PARTITION  OFFSET      UPDATED               REMOTE     LAG",
    "größe        注文      12         1000000007  -                     -          -",
    " \t           b\r      0          -1          2015-06-30T23:59:60Z  not found  -"] := by
  decide +kernel

end TopicReplay.Store.Listing
