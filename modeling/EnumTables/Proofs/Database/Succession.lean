import EnumTables.Proofs.Database.Success
import EnumTables.Proofs.Table.WellFormed

/-!
# Tables of one name

A database tells tables apart by their names alone, and to load a table is to replace the one of its
name.  Main statement: after a load without faults, of tables without percent signs in their names, a
name stands for the last of the tables that have it.  So a table is reported as loaded though its
rows are gone, if a later one has its name.
-/

namespace EnumTables

variable {schema : String} {t : EnumTable} {ts : List EnumTable} {n m : String}

/-- What a database holds of a table. -/
def EnumTable.stored (t : EnumTable) : StoredTable := ⟨Sql.keptColumns t, t.records⟩

/-! ## What a name stands for -/

/-- The last of the tables that have a name. -/
def lastNamed (ts : List EnumTable) (name : String) : Option EnumTable :=
  ts.findRev? fun t ↦ t.tableId = name

theorem lastNamed_cons :
    lastNamed (t :: ts) m = (lastNamed ts m).or (if t.tableId = m then some t else none) := by
  rw [lastNamed, List.findRev?, lastNamed]
  cases ts.findRev? fun t ↦ t.tableId = m with
  | some u => rfl
  | none => simp

theorem lastNamed_eq_none_iff : lastNamed ts m = none ↔ m ∉ ts.map EnumTable.tableId := by
  induction ts with
  | nil => simp [lastNamed]
  | cons t ts ih =>
    rw [lastNamed_cons, Option.or_eq_none_iff, ih, List.map_cons, List.mem_cons, not_or, and_comm]
    refine and_congr_left' ?_
    by_cases same : t.tableId = m
    · simp [same]
    · simp [same, Ne.symm same]

theorem lastNamed_append (ts us : List EnumTable) :
    lastNamed (ts ++ us) m = (lastNamed us m).or (lastNamed ts m) := by
  induction ts with
  | nil => exact Option.or_none.symm
  | cons t ts ih => rw [List.cons_append, lastNamed_cons, ih, lastNamed_cons, Option.or_assoc]

theorem lastNamed_append_cons {earlier later : List EnumTable}
    (last : ∀ u ∈ later, u.tableId ≠ t.tableId) :
    lastNamed (earlier ++ t :: later) t.tableId = some t := by
  have others : lastNamed later t.tableId = none := by
    refine lastNamed_eq_none_iff.mpr fun named ↦ ?_
    obtain ⟨u, member, name⟩ := List.mem_map.mp named
    exact last u member name
  rw [lastNamed_append, lastNamed_cons, others, if_pos rfl, Option.none_or, Option.some_or]

namespace Store

variable {st : Store}

theorem replaceAll_cons_of_fits (fits : Sql.fits t.tableId = true) :
    st.replaceAll schema (t :: ts) = (st.withRows schema t t.records).replaceAll schema ts := by
  rw [replaceAll, fitting_cons_of_fits fits, List.foldl_cons]
  rfl

theorem replaceAll_cons_of_not_fits (long : ¬ Sql.fits t.tableId = true) :
    st.replaceAll schema (t :: ts) = st.replaceAll schema ts := by
  rw [replaceAll, fitting_cons_of_not_fits long]
  rfl

/-- A store with tables put in place has the last ones of each name. -/
theorem table?_replaceAll : (st.replaceAll schema ts).table? (Sql.kept schema) m =
    ((lastNamed (fitting ts) m).map EnumTable.stored).or (st.table? (Sql.kept schema) m) := by
  induction ts generalizing st with
  | nil => rfl
  | cons t ts ih =>
    by_cases fits : Sql.fits t.tableId = true
    · rw [replaceAll_cons_of_fits fits, ih, fitting_cons_of_fits fits, lastNamed_cons,
        Option.map_or, Option.or_assoc, withRows, Sql.kept_of_fits fits]
      congr 1
      by_cases same : t.tableId = m
      · rw [if_pos same, ← same, table?_setTable_self]
        rfl
      · rw [if_neg same, table?_setTable_of_ne fun h ↦ same h.2.symm, table?_addSchema]
        rfl
    · rw [replaceAll_cons_of_not_fits fits, ih, fitting_cons_of_not_fits fits]

/-- Tables are put in place in one schema only. -/
theorem table?_replaceAll_of_ne_schema (h : n ≠ Sql.kept schema) :
    (st.replaceAll schema ts).table? n m = st.table? n m := by
  induction ts generalizing st with
  | nil => rfl
  | cons t ts ih =>
    by_cases fits : Sql.fits t.tableId = true
    · rw [replaceAll_cons_of_fits fits, ih, withRows, table?_setTable_of_ne fun same ↦ h same.1,
        table?_addSchema]
    · rw [replaceAll_cons_of_not_fits fits, ih]

/-- A name stands for the last of the tables that have it. -/
theorem table?_replaceAll_append_cons {earlier later : List EnumTable}
    (fits : Sql.fits t.tableId = true) (last : ∀ u ∈ later, u.tableId ≠ t.tableId) :
    (st.replaceAll schema (earlier ++ t :: later)).table? (Sql.kept schema) t.tableId =
      some t.stored := by
  have others : ∀ u ∈ fitting later, u.tableId ≠ t.tableId :=
    fun u member ↦ last u (List.mem_filter.mp member).1
  rw [table?_replaceAll, fitting_append, fitting_cons_of_fits fits, lastNamed_append_cons others]
  rfl

end Store

/-! ## Loads without faults -/

variable {w : World} {past : Trace} {S : DatabaseServer} {s : S.State}

/-- The tables of a load that meets no fault are put in place one after the other, but for those
whose names are too long. -/
theorem loadTables_of_calm (lawful : S.Lawful) (free : ∀ t ∈ ts, t.IsPercentFree schema)
    (storable : ∀ t ∈ ts, t.IsStorable)
    (calm : w.raised past ((loadTables schema ts).run w past).events = []) :
    ((loadTables schema ts).run w past).result = .ok (ts.map EnumTable.reported) ∧
      S.committed (S.replay w past s ((loadTables schema ts).run w past).events) =
        (S.committed s).replaceAll schema ts := by
  obtain ⟨results, -, placed⟩ := loadTables_without_faults (s := s) lawful free calm
  exact ⟨results, placed fun t member _ ↦ storable t member⟩

/-! ## The last table of a name -/

/-- A table is the last of its name, or there is a last one behind it. -/
theorem exists_last {i : Nat} (h : ts[i]? = some t) : ∃ earlier u later,
    ts = earlier ++ u :: later ∧ i ≤ earlier.length ∧ u.tableId = t.tableId ∧
      ∀ v ∈ later, v.tableId ≠ t.tableId := by
  induction ts generalizing i t with
  | nil => nomatch h
  | cons v ts ih =>
    cases i with
    | zero =>
      obtain rfl := Option.some.inj h
      by_cases again : ∃ u ∈ ts, u.tableId = v.tableId
      · obtain ⟨u, member, same⟩ := again
        obtain ⟨k, place⟩ := List.mem_iff_getElem?.mp member
        obtain ⟨earlier, u', later, rfl, -, name, last⟩ := ih place
        rw [same] at name last
        exact ⟨v :: earlier, u', later, rfl, Nat.zero_le _, name, last⟩
      · exact ⟨[], v, ts, rfl, Nat.zero_le _, rfl, fun u member same ↦ again ⟨u, member, same⟩⟩
    | succ i =>
      obtain ⟨earlier, u, later, rfl, behind, name, last⟩ := ih h
      exact ⟨v :: earlier, u, later, rfl, Nat.succ_le_succ behind, name, last⟩

/-- The columns of the tables of sources. -/
theorem columnNames_of_mem_tablesOf {sources : List String} (h : t ∈ tablesOf sources) :
    t.columnNames = ["key", "code"] ∨ t.columnNames = ["key", "code", "label"] :=
  (wellFormed_of_mem_tablesOf h).columns

/-- A database accepts the tables of sources. -/
theorem isStorable_of_mem_tablesOf {sources : List String} (h : t ∈ tablesOf sources) :
    t.IsStorable := by
  have named := columnNames_of_mem_tablesOf h
  refine t.isStorable_of_columns (fun none ↦ ?_) ?_
  · have unnamed : t.columnNames = [] := congrArg (List.map Field.name) none
    rcases named with names | names <;> nomatch unnamed.symm.trans names
  · rcases named with names | names
    · rw [names]
      decide
    · rw [names]
      decide

/-- The tables of sources have percent signs in their own names alone. -/
theorem isPercentFree_tablesOf {sources : List String} (there : Sql.PercentFree schema)
    (own : ∀ t ∈ tablesOf sources, Sql.PercentFree t.tableId) :
    ∀ t ∈ tablesOf sources, t.IsPercentFree schema := by
  intro t member
  refine ⟨there, own t member, ?_⟩
  rcases columnNames_of_mem_tablesOf member with names | names
  · rw [names]
    decide
  · rw [names]
    decide

/-- After a load without faults of the tables of sources, of which none has a percent sign in its
name, every table has reported its rows, or that its name is too long, and the name of a table that
has reported its rows stands for the last table that has it. -/
theorem committed_last (lawful : S.Lawful) (sources : List String) (schema : String) (w : World)
    (past : Trace) (s : S.State) :
    let ts := tablesOf sources
    let r := (loadTables schema ts).run w past
    let after := S.committed (S.replay w past s r.events)
    Sql.PercentFree schema → (∀ t ∈ ts, Sql.PercentFree t.tableId) → w.raised past r.events = [] →
      r.result = .ok (ts.map EnumTable.reported) ∧
      ∀ i name n, (ts.map EnumTable.reported)[i]? = some ⟨name, .loaded n⟩ →
        ∃ earlier t later, ts = earlier ++ t :: later ∧ i ≤ earlier.length ∧ t.tableId = name ∧
          (∀ u ∈ later, u.tableId ≠ name) ∧
          after.table? (Sql.kept schema) name = some t.stored := by
  intro ts r after there own calm
  obtain ⟨results, placed⟩ := loadTables_of_calm (s := s) lawful
    (isPercentFree_tablesOf there own) (fun t member ↦ isStorable_of_mem_tablesOf member) calm
  refine ⟨results, fun i name n report ↦ ?_⟩
  rw [List.getElem?_map] at report
  obtain ⟨t, place, reported⟩ := Option.map_eq_some_iff.mp report
  obtain ⟨named, outcome⟩ := LoadResult.mk.inj reported
  have fits : Sql.fits name = true := by
    rw [named] at outcome
    split at outcome
    · assumption
    · nomatch outcome
  obtain ⟨earlier, u, later, split, behind, same, last⟩ := exists_last place
  rw [named] at same last
  refine ⟨earlier, u, later, split, behind, same, last, ?_⟩
  change (S.committed (S.replay w past s r.events)).table? (Sql.kept schema) name = _
  change tablesOf sources = earlier ++ u :: later at split
  rw [← same] at fits last ⊢
  rw [placed, split]
  exact Store.table?_replaceAll_append_cons fits last

/-- Of two enums of one name the second is there in the end. -/
theorem committed_last_colour :
    let sources := ["enum Colour \x7b RED; \x7d", "enum Colour \x7b BLUE; \x7d"]
    let calm : World := .withFaults fun _ _ ↦ none
    let r := (loadTables "enums" (tablesOf sources)).run calm []
    let empty : Store := ⟨fun _ ↦ false, fun _ _ ↦ none⟩
    let after := DatabaseServer.inMemory.committed
      (DatabaseServer.inMemory.replay calm [] (empty, empty) r.events)
    calm.raised [] r.events = [] ∧ r.result = .ok [⟨"colour", .loaded 1⟩, ⟨"colour", .loaded 1⟩] ∧
      after.table? "enums" "colour" =
        some ⟨[("key", "TEXT"), ("code", "BIGINT")], [[some "BLUE", some "0"]]⟩ := by
  intro sources calm r empty after
  have built : tablesOf sources = [.ofConstant "colour" "RED", .ofConstant "colour" "BLUE"] := by
    decide +kernel
  have quiet : calm.raised [] r.events = [] := World.raised_calm ..
  have reported : (tablesOf sources).map EnumTable.reported =
      [⟨"colour", .loaded 1⟩, ⟨"colour", .loaded 1⟩] := by
    rw [built]
    rfl
  have own : ∀ t ∈ tablesOf sources, Sql.PercentFree t.tableId := by
    rw [built]
    decide
  obtain ⟨results, last⟩ := committed_last DatabaseServer.inMemory_lawful sources "enums" calm []
    (empty, empty) (by decide) own quiet
  rw [reported] at results last
  obtain ⟨earlier, t, later, split, behind, -, -, content⟩ := last 1 "colour" 1 rfl
  refine ⟨quiet, results, ?_⟩
  -- The second result is that of the last table, since there are only two.
  have blue : t = .ofConstant "colour" "BLUE" := by
    rw [built] at split
    rcases earlier with - | ⟨red, - | ⟨u, earlier⟩⟩
    · nomatch behind
    · exact (List.cons.inj (List.cons.inj split).2).1.symm
    · have short := congrArg List.length split
      simp at short
  have stored : t.stored = ⟨[("key", "TEXT"), ("code", "BIGINT")], [[some "BLUE", some "0"]]⟩ := by
    rw [blue]
    decide +kernel
  rw [Sql.kept_of_fits (by decide), stored] at content
  exact content

/-- Not every table that is reported as loaded is there in the end: of two enums of one name the
first is not. -/
theorem loaded_table_replaced : ¬ ∀ (sources : List String) (schema : String) (w : World)
    (S : DatabaseServer) (s : S.State), S.Lawful →
      let ts := tablesOf sources
      let r := (loadTables schema ts).run w []
      w.raised [] r.events = [] → ∀ results : List LoadResult, r.result = .ok results →
        ∀ (i : Nat) (name : String) (n : Nat) (t : EnumTable),
          results[i]? = some ⟨name, .loaded n⟩ → ts[i]? = some t →
            ∃ content, (S.committed (S.replay w [] s r.events)).table? (Sql.kept schema) name =
                some content ∧ content.rows = t.records := by
  intro claim
  let sources := ["enum Colour \x7b RED; \x7d", "enum Colour \x7b BLUE; \x7d"]
  let empty : Store := ⟨fun _ ↦ false, fun _ _ ↦ none⟩
  have built : tablesOf sources = [.ofConstant "colour" "RED", .ofConstant "colour" "BLUE"] := by
    decide +kernel
  have quiet : World.calm.raised [] ((loadTables "enums" (tablesOf sources)).run .calm []).events =
      [] := World.raised_calm ..
  have own : ∀ t ∈ tablesOf sources, Sql.PercentFree t.tableId := by
    rw [built]
    decide
  obtain ⟨results, placed⟩ := loadTables_of_calm (s := (empty, empty))
    DatabaseServer.inMemory_lawful
    (isPercentFree_tablesOf (by decide) own) (fun t member ↦ isStorable_of_mem_tablesOf member) quiet
  obtain ⟨content, there, red⟩ := claim sources "enums" .calm DatabaseServer.inMemory (empty, empty)
    DatabaseServer.inMemory_lawful quiet _ results 0 "colour" 1 (.ofConstant "colour" "RED")
    (by rw [built]; rfl) (by rw [built]; rfl)
  have split : tablesOf sources =
      [.ofConstant "colour" "RED"] ++ .ofConstant "colour" "BLUE" :: [] := built
  have last : ((DatabaseServer.inMemory.committed (empty, empty)).replaceAll "enums"
      ([.ofConstant "colour" "RED"] ++ .ofConstant "colour" "BLUE" :: [])).table?
        (Sql.kept "enums") "colour" = some (EnumTable.ofConstant "colour" "BLUE").stored :=
    Store.table?_replaceAll_append_cons (by decide) fun u member ↦ nomatch member
  rw [placed, split] at there
  obtain rfl := Option.some.inj (last.symm.trans there)
  exact absurd red (by decide)

end EnumTables
