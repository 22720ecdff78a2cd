import EnumTables.Console.Grid
import EnumTables.Proofs.Console.Escape
import EnumTables.Proofs.Table.WellFormed

/-!
# Tables that are drawn

The title and the cells of a table are escaped before they are rendered, and its headings are of fixed
wording.  Main statement: the table of an enum can always be drawn, whatever its title and its cells
hold, and its title stands above it as it is if it can be escaped.
-/

namespace EnumTables

open Markup

namespace Console

/-- A cell is rendered whatever it holds. -/
theorem exists_cellText (s : String) : ∃ cs, cellText s = .ok cs := by
  obtain ⟨t, rendered⟩ := exists_render_escape s
  exact ⟨t.toList, map_eq_ok_iff.mpr ⟨t, rendered, rfl⟩⟩

/-- The heading of a column with a name of fixed wording. -/
theorem heading_eq {f : Field} (inert : Inert f.name.toList) :
    heading f = .ok (f.name ++ "\n" ++ f.type.name).toList := by
  have style : "muted".toList ∈ styles := by decide
  have type : Inert f.type.name.toList := by
    cases f.type <;> rfl
  have begun : Inert (f.name.toList ++ ['\n']) := inert.append rfl
  have spelled : (s!"{f.name}\n[muted]{f.type.name}[/]").toList =
      styled (f.name.toList ++ ['\n']) "muted".toList f.type.name.toList [] := by
    simp only [styled, String.toList_append, List.append_assoc]
    rfl
  have rendered := (render_styled_iff style (begun.not_mem rfl) (begun.not_mem rfl) begun.visible
    spelled).mpr ⟨type.isLiteral, type.getLast?_ne, by decide⟩
  rw [heading, rendered]
  refine congrArg Except.ok ?_
  simp [String.toList_append]

/-- A table with headings of fixed wording is drawn below its title. -/
theorem exists_drawTable {t : EnumTable} (inert : ∀ f ∈ t.fields, Inert f.name.toList) :
    ∃ title total rest, cellText s!"{t.tableId} ({t.rowCount} rows)" = .ok title ∧
      drawTable t = .ok (layout .centre .fold total title ++ rest) := by
  obtain ⟨title, titled⟩ := exists_cellText s!"{t.tableId} ({t.rowCount} rows)"
  have headed : ∃ headings, t.fields.mapM heading = .ok headings :=
    exists_mapM_eq_ok fun f member ↦ ⟨_, heading_eq (inert f member)⟩
  obtain ⟨headings, headed⟩ := headed
  have cells (row : Row) : ∃ cs, (t.fields.mapM fun f ↦ cellText ((row.get? f.name).getD "")) =
      .ok cs := exists_mapM_eq_ok fun f _ ↦ exists_cellText _
  have filled : ∃ rows, t.rows.mapM (fun row ↦
      t.fields.mapM fun f ↦ cellText ((row.get? f.name).getD "")) = .ok rows :=
    exists_mapM_eq_ok fun row _ ↦ cells row
  obtain ⟨rows, filled⟩ := filled
  -- The lines of the title come first.
  have drawn : ∃ total rest, drawTable t = .ok (layout .centre .fold total title ++ rest) := by
    simp only [drawTable, titled, headed, filled, bind, Except.bind, pure, Except.pure,
      List.append_assoc]
    exact ⟨_, _, rfl⟩
  obtain ⟨total, rest, drawn⟩ := drawn
  exact ⟨title, total, rest, titled, drawn⟩

end Console

/-- The columns of an enum's table have names of fixed wording. -/
theorem inert_of_mem_tablesOf {sources : List String} {t : EnumTable} (h : t ∈ tablesOf sources) :
    ∀ f ∈ t.fields, Inert f.name.toList := by
  obtain ⟨source, -, d, -, -, rfl⟩ := exists_declaration_of_mem_tablesOf h
  have names : ∀ name ∈ enumColumns, Inert name.toList := by decide
  intro f member
  obtain ⟨⟨name, type⟩, paired, rfl⟩ := List.mem_map.mp member
  exact names name (List.of_mem_zip paired).1

end EnumTables
