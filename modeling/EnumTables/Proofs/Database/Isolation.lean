import EnumTables.Proofs.Database.Replace

/-!
# Loads of several tables

In a load of several tables each table has a part of its own: what it does and what comes of it are
those of the table alone, after what was done before.  An error of the database ends only the part
of its table.  Every other fault ends the load, and then no later table has a part in it.
-/

namespace EnumTables

variable {schema : String} {w : World} {past : Trace} {t : EnumTable}

/-! ## The part of one table -/

/-- The part of a table in a load: what it does after what was done before, and its result. -/
inductive LoadPart (schema : String) (w : World) (past : Trace) (t : EnumTable) :
    Trace → LoadResult → Prop
  /-- A table is left out if its name is too long. -/
  | skipped (record : Record) (long : 63 < t.tableId.utf8ByteSize) :
    LoadPart schema w past t [.log record]
      ⟨t.tableId, .failed s!"table name {Text.quoted t.tableId} exceeds 63 bytes"⟩
  /-- A table that was replaced reports the number of its rows. -/
  | loaded (record : Record) {n : Nat} (short : t.tableId.utf8ByteSize ≤ 63)
      (returned : ((replaceTable schema t).run w past).result = .ok n) :
    LoadPart schema w past t (((replaceTable schema t).run w past).events ++ [.log record])
      ⟨t.tableId, .loaded t.rows.length⟩
  /-- A table that met an error of the database reports it. -/
  | failed (record : Record) {e : Fault} (short : t.tableId.utf8ByteSize ≤ 63)
      (raised : ((replaceTable schema t).run w past).result = .error e)
      (reported : e.isDatabase = true) :
    LoadPart schema w past t (((replaceTable schema t).run w past).events ++ [.log record])
      ⟨t.tableId, .failed (Text.trim e.message)⟩

/-- The replacement of a table stops the load. -/
structure StopsLoad (schema : String) (w : World) (past : Trace) (t : EnumTable) (e : Fault) :
    Prop where
  short : t.tableId.utf8ByteSize ≤ 63
  raised : ((replaceTable schema t).run w past).result = .error e
  unreported : e.isDatabase = false

theorem tooLongMessage_eq (name : String) :
    Sql.tooLongMessage name = s!"table name {Text.quoted name} exceeds 63 bytes" := by
  have bytes : " exceeds " ++ (toString Sql.maxIdentifierBytes ++ " bytes") =
      " exceeds 63 bytes" := by decide
  calc Sql.tooLongMessage name
    _ = "table name " ++ Text.quoted name ++ " exceeds " ++ toString Sql.maxIdentifierBytes ++
          " bytes" := rfl
    _ = "table name " ++ Text.quoted name ++
          (" exceeds " ++ (toString Sql.maxIdentifierBytes ++ " bytes")) := by
        rw [String.append_assoc, String.append_assoc]
    _ = _ := by
        rw [bytes]
        rfl

theorem identifierError?_of_long (h : 63 < t.tableId.utf8ByteSize) :
    Sql.identifierError? t.tableId =
      some s!"table name {Text.quoted t.tableId} exceeds 63 bytes" := by
  have long : Sql.fits t.tableId = false := decide_eq_false (Nat.not_le.mpr h)
  rw [Sql.identifierError?, long, ← tooLongMessage_eq]
  rfl

/-- To load a table either gives its part or stops the load. -/
theorem loadTable_part_or_stops (schema : String) (w : World) (past : Trace) (t : EnumTable) :
    (∃ own r, (loadTable schema t).run w past = ⟨own, .ok r⟩ ∧ LoadPart schema w past t own r) ∨
    ∃ e, StopsLoad schema w past t e ∧ (loadTable schema t).run w past =
      ⟨((replaceTable schema t).run w past).events, .error e⟩ := by
  rw [loadTable]
  rcases Nat.lt_or_ge 63 t.tableId.utf8ByteSize with long | short
  · rw [identifierError?_of_long long]
    exact .inl ⟨_, _, rfl, .skipped _ long⟩
  rw [Sql.identifierError?_eq_none_iff.mpr short]
  have tried := Act.run_attempt (replaceTable schema t) w past
  simp only
  rw [Act.run_bind_of_ok (congrArg Run.result tried), tried]
  cases h : ((replaceTable schema t).run w past).result with
  | ok n =>
    obtain rfl := eq_length_of_replaceTable h
    exact .inl ⟨_, _, rfl, .loaded _ short h⟩
  | error e =>
    cases reported : e.isDatabase with
    | true =>
      simp only [reported]
      exact .inl ⟨_, _, rfl, .failed _ short h reported⟩
    | false =>
      refine .inr ⟨e, ⟨short, h, reported⟩, ?_⟩
      simp [reported]

/-- The fault with which a replacement fails is met by one of its commands. -/
theorem mem_raised_of_replaceTable {e : Fault}
    (h : ((replaceTable schema t).run w past).result = .error e) :
    e ∈ w.raised past ((replaceTable schema t).run w past).events := by
  rw [run_replaceTable] at h ⊢
  rw [map_eq_error_iff] at h
  refine List.mem_of_getLast? ?_
  refine (lifecycle_withConnection w past none _).getLast?_raised (fun e' failed ↦ ?_) h
  rw [replaceStatements_eq] at failed ⊢
  exact Act.getLast?_raised_giveAll failed

/-- What stops a load has no part in it. -/
theorem StopsLoad.run_loadTable {e : Fault} (h : StopsLoad schema w past t e) :
    (loadTable schema t).run w past = ⟨((replaceTable schema t).run w past).events, .error e⟩ := by
  rcases loadTable_part_or_stops schema w past t with ⟨own, r, -, part⟩ | ⟨e', stops, ran⟩
  · cases part with
    | skipped record long => exact absurd h.short (Nat.not_le.mpr long)
    | loaded record short returned => nomatch h.raised.symm.trans returned
    | failed record short raised reported =>
      obtain rfl := Except.error.inj (h.raised.symm.trans raised)
      nomatch h.unreported.symm.trans reported
  · obtain rfl := Except.error.inj (h.raised.symm.trans stops.raised)
    exact ran

/-! ## The parts together -/

variable {ts : List EnumTable} {own : Trace} {r : LoadResult} {e : Fault}

theorem run_loadTables_cons_of_ok (h : (loadTable schema t).run w past = ⟨own, .ok r⟩) :
    (loadTables schema (t :: ts)).run w past =
      ⟨own ++ ((loadTables schema ts).run w (past ++ own)).events,
        ((loadTables schema ts).run w (past ++ own)).result.map (r :: ·)⟩ := by
  rw [loadTables, Act.run_bind_of_ok (congrArg Run.result h), h]
  simp only
  cases rest : ((loadTables schema ts).run w (past ++ own)).result with
  | ok rs =>
    rw [Act.run_bind_of_ok rest, Act.run_pure, List.append_nil]
    rfl
  | error e =>
    rw [Act.run_bind_of_error rest]
    rfl

theorem run_loadTables_cons_of_error (h : (loadTable schema t).run w past = ⟨own, .error e⟩) :
    (loadTables schema (t :: ts)).run w past = ⟨own, .error e⟩ := by
  rw [loadTables, Act.run_bind_of_error (congrArg Run.result h), h]

/-- The parts of the tables of a load: one trace and one result for each, in the order of the
tables, and each part after the parts before it. -/
structure LoadParts (schema : String) (w : World) (past : Trace) (ts : List EnumTable)
    (own : List Trace) (results : List LoadResult) : Prop where
  length_own : own.length = ts.length
  length_results : results.length = ts.length
  part : ∀ i t, ts[i]? = some t → ∃ trace r, own[i]? = some trace ∧ results[i]? = some r ∧
    LoadPart schema w (past ++ (own.take i).flatten) t trace r

theorem LoadParts.cons {traces : List Trace} {results : List LoadResult}
    (first : LoadPart schema w past t own r)
    (rest : LoadParts schema w (past ++ own) ts traces results) :
    LoadParts schema w past (t :: ts) (own :: traces) (r :: results) where
  length_own := congrArg (· + 1) rest.length_own
  length_results := congrArg (· + 1) rest.length_results
  part
  | 0, _, rfl => by
    refine ⟨own, r, rfl, rfl, ?_⟩
    rw [List.take_zero, List.flatten_nil, List.append_nil]
    exact first
  | i + 1, t, h => by
    rw [List.take_succ_cons, List.flatten_cons, ← List.append_assoc]
    exact rest.part i t h

/-- A load whose commands meet only errors of the database consists of the parts of its tables. -/
theorem loadTables_parts
    (h : ∀ e ∈ w.raised past ((loadTables schema ts).run w past).events, e.isDatabase = true) :
    ∃ own results, (loadTables schema ts).run w past = ⟨own.flatten, .ok results⟩ ∧
      LoadParts schema w past ts own results := by
  induction ts generalizing past with
  | nil => exact ⟨[], [], rfl, rfl, rfl, nofun⟩
  | cons t ts ih =>
    rcases loadTable_part_or_stops schema w past t with ⟨own, r, ran, part⟩ | ⟨e, stops, ran⟩
    · rw [run_loadTables_cons_of_ok ran] at h ⊢
      rw [World.raised_append] at h
      obtain ⟨traces, results, later, parts⟩ := ih fun e he ↦ h e (List.mem_append_right _ he)
      refine ⟨own :: traces, r :: results, ?_, parts.cons part⟩
      rw [later]
      rfl
    · rw [run_loadTables_cons_of_error ran] at h
      exact absurd (h e (mem_raised_of_replaceTable stops.raised)) (by simp [stops.unreported])

/-- The tables before the one that stops a load have their parts as in a load of their own, and
those after it have none. -/
theorem run_loadTables_of_stopsLoad {earlier later : List EnumTable} {results : List LoadResult}
    (returned : ((loadTables schema earlier).run w past).result = .ok results)
    (stops : StopsLoad schema w (past ++ ((loadTables schema earlier).run w past).events) t e) :
    (loadTables schema (earlier ++ t :: later)).run w past =
      ⟨((loadTables schema earlier).run w past).events ++ ((replaceTable schema t).run w
        (past ++ ((loadTables schema earlier).run w past).events)).events, .error e⟩ := by
  -- The past grows with the parts of the earlier tables, hence it is general.
  induction earlier generalizing past results with
  | nil =>
    have none_before : ((loadTables schema []).run w past).events = [] := rfl
    rw [none_before, List.append_nil] at stops ⊢
    exact run_loadTables_cons_of_error stops.run_loadTable
  | cons first earlier ih =>
    rcases loadTable_part_or_stops schema w past first with ⟨own, r, ran, -⟩ | ⟨e', -, ran⟩
    · rw [run_loadTables_cons_of_ok ran] at returned stops ⊢
      obtain ⟨rs, rest, -⟩ := map_eq_ok_iff.mp returned
      rw [← List.append_assoc] at stops
      rw [List.cons_append, run_loadTables_cons_of_ok ran, ih rest stops]
      simp only [List.append_assoc]
      rfl
    · rw [run_loadTables_cons_of_error ran] at returned
      nomatch returned

/-- A load that fails was stopped by one of its tables. -/
theorem exists_stopsLoad (h : ((loadTables schema ts).run w past).result = .error e) :
    ∃ earlier t later results, ts = earlier ++ t :: later ∧
      ((loadTables schema earlier).run w past).result = .ok results ∧
      StopsLoad schema w (past ++ ((loadTables schema earlier).run w past).events) t e := by
  induction ts generalizing past with
  | nil => nomatch h
  | cons t ts ih =>
    rcases loadTable_part_or_stops schema w past t with ⟨own, r, ran, -⟩ | ⟨e', stops, ran⟩
    · rw [run_loadTables_cons_of_ok ran, map_eq_error_iff] at h
      obtain ⟨earlier, t', later, results, rfl, returned, stops⟩ := ih h
      refine ⟨t :: earlier, t', later, r :: results, rfl, ?_, ?_⟩
      · rw [run_loadTables_cons_of_ok ran, returned]
        rfl
      · rw [run_loadTables_cons_of_ok ran, ← List.append_assoc]
        exact stops
    · rw [run_loadTables_cons_of_error ran] at h
      obtain rfl := Except.error.inj h
      refine ⟨[], t, ts, [], rfl, rfl, ?_⟩
      have none_before : ((loadTables schema []).run w past).events = [] := rfl
      rw [none_before, List.append_nil]
      exact stops

/-- The tables of a load do not interfere.  If its commands meet only errors of the database, the
load consists of the parts of its tables.  If the replacement of a table meets another fault, the
load ends there with that fault, and the tables before it do what they do in a load of their own.
There is no other way for a load to fail. -/
theorem loadTables_isolated (schema : String) (w : World) (past : Trace) (ts : List EnumTable) :
    let r := (loadTables schema ts).run w past
    ((∀ e ∈ w.raised past r.events, e.isDatabase = true) →
      ∃ own results, r = ⟨own.flatten, .ok results⟩ ∧ LoadParts schema w past ts own results) ∧
    (∀ earlier t later results e,
      let cut := (loadTables schema earlier).run w past
      ts = earlier ++ t :: later → cut.result = .ok results →
      StopsLoad schema w (past ++ cut.events) t e →
      r = ⟨cut.events ++ ((replaceTable schema t).run w (past ++ cut.events)).events, .error e⟩) ∧
    (∀ e, r.result = .error e → ∃ earlier t later results,
      let cut := (loadTables schema earlier).run w past
      ts = earlier ++ t :: later ∧ cut.result = .ok results ∧
      StopsLoad schema w (past ++ cut.events) t e) := by
  intro r
  refine ⟨loadTables_parts, ?_, fun e ↦ exists_stopsLoad⟩
  rintro earlier t later results e cut rfl returned stops
  exact run_loadTables_of_stopsLoad returned stops

/-- When the database refuses the first of two connections, the second table is loaded
nevertheless. -/
theorem loadTables_colours_refused :
    let refusal := Fault.database .operational "refused"
    let w : World := .withFaults fun site n ↦ if site = .connect ∧ n = 0 then some refusal else none
    let r := (loadTables "enums" [colours, colours]).run w []
    w.raised [] r.events = [refusal] ∧
    ∃ own results, r = ⟨own.flatten, .ok results⟩ ∧
      LoadParts "enums" w [] [colours, colours] own results := by
  intro refusal w r
  have raised : w.raised [] r.events = [refusal] := by decide +kernel
  have reported : ∀ e ∈ w.raised [] r.events, e.isDatabase = true := by
    rw [raised]
    intro e he
    rw [List.mem_singleton.mp he]
    rfl
  have isolated := loadTables_isolated "enums" w [] [colours, colours]
  exact ⟨raised, isolated.1 reported⟩

end EnumTables
