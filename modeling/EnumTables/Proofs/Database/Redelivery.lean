import EnumTables.Proofs.Database.Succession

/-!
# Loads that are repeated

A delivery may come twice, and nothing fixes the order in which the sources of a commit are listed.
Main statements, for tables without percent signs in their names: to load tables again changes
nothing; and tables of distinct names can be loaded in any order.  Both rest on what a database holds
after a load: under each name the last of the tables that have it, whatever it held before, and under
every other name what it held before.
-/

namespace EnumTables

variable {schema : String} {t : EnumTable} {ts us : List EnumTable} {n m : String}

/-! ## Stores -/

theorem isEmpty_iff_lastNamed : ts.isEmpty = true ↔ ∀ m, lastNamed ts m = none := by
  simp only [lastNamed_eq_none_iff, ← List.eq_nil_iff_forall_not_mem, List.map_eq_nil_iff,
    List.isEmpty_iff]

/-- Among tables of distinct names the last one of a name is the only one. -/
theorem lastNamed_eq_some_iff (distinct : (ts.map EnumTable.tableId).Nodup) :
    lastNamed ts m = some t ↔ t ∈ ts ∧ t.tableId = m := by
  induction ts with
  | nil => simp [lastNamed]
  | cons u ts ih =>
    obtain ⟨fresh, distinct⟩ := List.nodup_cons.mp distinct
    rw [lastNamed_cons, List.mem_cons]
    by_cases same : u.tableId = m
    · subst same
      rw [lastNamed_eq_none_iff.mpr fresh, if_pos rfl, Option.none_or, Option.some_inj]
      constructor
      · rintro rfl
        exact ⟨.inl rfl, rfl⟩
      · rintro ⟨rfl | member, name⟩
        · rfl
        · exact absurd (List.mem_map.mpr ⟨t, member, name⟩) fresh
    · rw [if_neg same, Option.or_none, ih distinct]
      refine and_congr_left fun name ↦ (or_iff_right ?_).symm
      rintro rfl
      exact same name

/-- Of tables of distinct names the last ones do not depend on the order. -/
theorem lastNamed_perm (distinct : (ts.map EnumTable.tableId).Nodup) (perm : us.Perm ts) :
    lastNamed us m = lastNamed ts m := by
  refine Option.ext fun t ↦ ?_
  rw [lastNamed_eq_some_iff distinct, lastNamed_eq_some_iff, perm.mem_iff]
  exact ((perm.map _).nodup_iff).mpr distinct

theorem tableId_fitting_sublist :
    ((fitting ts).map EnumTable.tableId).Sublist (ts.map EnumTable.tableId) :=
  List.filter_sublist.map _

namespace Store

variable {st : Store}

/-- The schema is there as soon as there is a table to put in place. -/
theorem hasSchema_replaceAll : (st.replaceAll schema ts).hasSchema n =
    ((n = Sql.kept schema && !(fitting ts).isEmpty) || st.hasSchema n) := by
  induction ts generalizing st with
  | nil => simp [replaceAll, fitting]
  | cons t ts ih =>
    by_cases fits : Sql.fits t.tableId = true
    · rw [replaceAll_cons_of_fits fits, ih, fitting_cons_of_fits fits, withRows,
        hasSchema_setTable, addSchema]
      by_cases there : n = Sql.kept schema
      · simp [there]
      · simp [there]
    · rw [replaceAll_cons_of_not_fits fits, ih, fitting_cons_of_not_fits fits]

/-- Only the last table of each name counts. -/
theorem replaceAll_congr (same : ∀ m, lastNamed (fitting ts) m = lastNamed (fitting us) m) :
    st.replaceAll schema ts = st.replaceAll schema us := by
  have empty : (fitting ts).isEmpty = (fitting us).isEmpty := by
    rw [Bool.eq_iff_iff, isEmpty_iff_lastNamed, isEmpty_iff_lastNamed]
    simp only [same]
  ext1
  · funext n
    rw [hasSchema_replaceAll, hasSchema_replaceAll, empty]
  · funext n m
    by_cases there : n = Sql.kept schema
    · rw [there, table?_replaceAll, table?_replaceAll, same]
    · rw [table?_replaceAll_of_ne_schema there, table?_replaceAll_of_ne_schema there]

/-- To put tables in place again changes nothing. -/
theorem replaceAll_replaceAll :
    (st.replaceAll schema ts).replaceAll schema ts = st.replaceAll schema ts := by
  ext1
  · funext n
    rw [hasSchema_replaceAll, hasSchema_replaceAll, ← Bool.or_assoc, Bool.or_self]
  · funext n m
    by_cases there : n = Sql.kept schema
    · rw [there, table?_replaceAll, table?_replaceAll, ← Option.or_assoc, Option.or_self]
    · rw [table?_replaceAll_of_ne_schema there]

/-- Nothing has changed but the tables of these names in a schema, and whether it is there. -/
structure AgreesOutside (schema : String) (names : List String) (before after : Store) : Prop where
  other_tables : ∀ n m, ¬ (n = Sql.kept schema ∧ m ∈ names) → after.table? n m = before.table? n m
  other_schemas : ∀ n, n ≠ Sql.kept schema → after.hasSchema n = before.hasSchema n

theorem agreesOutside_replaceAll :
    AgreesOutside schema (ts.map EnumTable.tableId) st (st.replaceAll schema ts) where
  other_tables n m outside := by
    by_cases there : n = Sql.kept schema
    · have unnamed : lastNamed (fitting ts) m = none :=
        lastNamed_eq_none_iff.mpr fun member ↦
          outside ⟨there, tableId_fitting_sublist.subset member⟩
      rw [there, table?_replaceAll, unnamed]
      rfl
    · exact table?_replaceAll_of_ne_schema there
  other_schemas n other := by
    rw [hasSchema_replaceAll, decide_eq_false other]
    rfl

end Store

/-! ## Repeated and reordered loads -/

/-- To load tables twice leaves what to load them once leaves, and tables of distinct names leave
the same in every order; in both cases nothing changes outside the tables.  No table may have a
percent sign in a name. -/
theorem committed_redelivery {S : DatabaseServer} (lawful : S.Lawful) (schema : String)
    (ts : List EnumTable) (free : ∀ t ∈ ts, t.IsPercentFree schema) (s : S.State) :
    let names := ts.map EnumTable.tableId
    (∀ once first twice, S.Loads schema ts s once → S.Loads schema ts s first →
      S.Loads schema ts first twice → S.committed twice = S.committed once ∧
        Store.AgreesOutside schema names (S.committed s) (S.committed twice)) ∧
    (names.Nodup → ∀ us once other, us.Perm ts → S.Loads schema ts s once →
      S.Loads schema us s other → S.committed other = S.committed once ∧
        Store.AgreesOutside schema names (S.committed s) (S.committed other)) := by
  intro names
  constructor
  · intro once first twice load load' again
    rw [again.committed lawful free, load'.committed lawful free, load.committed lawful free,
      Store.replaceAll_replaceAll]
    exact ⟨rfl, Store.agreesOutside_replaceAll⟩
  · intro distinct us once other perm load load'
    have same : (S.committed s).replaceAll schema us = (S.committed s).replaceAll schema ts :=
      Store.replaceAll_congr fun m ↦
        lastNamed_perm (distinct.sublist tableId_fitting_sublist) (perm.filter _)
    have free' : ∀ u ∈ us, u.IsPercentFree schema :=
      fun u member ↦ free u (perm.mem_iff.mp member)
    rw [load'.committed lawful free', load.committed lawful free, same]
    exact ⟨rfl, Store.agreesOutside_replaceAll⟩

/-- Two tables that are loaded, loaded again, and loaded in the other order. -/
theorem committed_redelivery_colour_shape :
    let sources := ["enum Colour \x7b RED; \x7d", "enum Shape \x7b CUBE; \x7d"]
    let S := DatabaseServer.inMemory
    let empty : Store := ⟨fun _ ↦ false, fun _ _ ↦ none⟩
    let ts := tablesOf sources
    (ts.map EnumTable.tableId).Nodup ∧ ∃ once twice other,
      S.Loads "enums" ts (empty, empty) once ∧ S.Loads "enums" ts once twice ∧
      S.Loads "enums" ts.reverse (empty, empty) other ∧
      S.committed twice = S.committed once ∧ S.committed other = S.committed once := by
  intro sources S empty ts
  have built : tablesOf sources = [.ofConstant "colour" "RED", .ofConstant "shape" "CUBE"] := by
    decide +kernel
  have distinct : ((tablesOf sources).map EnumTable.tableId).Nodup := by
    rw [built]
    decide
  have free : ∀ t ∈ ts, t.IsPercentFree "enums" := by
    refine isPercentFree_tablesOf (by decide) ?_
    rw [built]
    decide
  have free' : ∀ t ∈ ts.reverse, t.IsPercentFree "enums" :=
    fun t member ↦ free t (List.mem_reverse.mp member)
  have loadable : ∀ t ∈ ts, t.IsLoadable := fun t member _ ↦ isStorable_of_mem_tablesOf member
  have backwards : ∀ t ∈ ts.reverse, t.IsLoadable :=
    fun t member ↦ loadable t (List.mem_reverse.mp member)
  obtain ⟨once, load⟩ : ∃ once, S.Loads "enums" ts (empty, empty) once :=
    (exists_loads_iff DatabaseServer.inMemory_lawful free).mpr loadable
  obtain ⟨twice, again⟩ : ∃ twice, S.Loads "enums" ts once twice :=
    (exists_loads_iff DatabaseServer.inMemory_lawful free).mpr loadable
  obtain ⟨other, reversed⟩ : ∃ other, S.Loads "enums" ts.reverse (empty, empty) other :=
    (exists_loads_iff DatabaseServer.inMemory_lawful free').mpr backwards
  obtain ⟨repeated, reordered⟩ :=
    committed_redelivery DatabaseServer.inMemory_lawful "enums" ts free (empty, empty)
  exact ⟨distinct, once, twice, other, load, again, reversed,
    (repeated once once twice load load again).1,
    (reordered distinct ts.reverse once other ts.reverse_perm load reversed).1⟩

/-- A table with two percent signs in its name that is loaded twice: its row is added twice to the
table with one. -/
theorem redelivery_percent :
    let ts := tablesOf ["enum A%%B \x7b X; \x7d"]
    let S := DatabaseServer.inMemory
    let s := DatabaseServer.holding (.withEmpty "a%_b")
    ∃ once twice, S.Loads "enums" ts s once ∧ S.Loads "enums" ts once twice ∧
      ((S.committed once).table? "enums" "a%_b").map StoredTable.rows =
        some [[some "X", some "0"]] ∧
      ((S.committed twice).table? "enums" "a%_b").map StoredTable.rows =
        some [[some "X", some "0"], [some "X", some "0"]] := by
  intro ts S s
  refine ⟨_, _, ⟨.calm, [], ⟨World.raised_calm .., ?_⟩, rfl⟩,
    ⟨.calm, [], ⟨World.raised_calm .., ?_⟩, rfl⟩, ?_, ?_⟩
  · decide +kernel
  · decide +kernel
  · decide +kernel
  · decide +kernel

end EnumTables
