import EnumTables.Proofs.Database.Redelivery
import Mathlib.Logic.Relation

/-!
# Loads that take turns

Deliveries are answered by several threads, so the loads of two commits may run at the same time.
Each table is replaced in one transaction, but nothing orders the transactions of one load with
respect to those of the other.  Main statements: what two loads leave is what one load of their
tables leaves, in the order in which the turns were taken; so every table is as one of the two loads
leaves it when it comes last, but two tables that both loads have may come from different loads.
-/

namespace EnumTables

variable {S : DatabaseServer} {w : World} {schema : String} {t : EnumTable}
  {ts us vs : List EnumTable} {past past' : Trace} {s s' : S.State} {m : String}

/-! ## Turns -/

/-- Two loads at the same time: the tables that each of them still has to load, what was done
before, and the database that they share. -/
structure TwoLoads (S : DatabaseServer) where
  left : List EnumTable
  right : List EnumTable
  past : Trace
  database : S.State

/-- One of two loads goes on with its next table, without failures. -/
inductive Turn (w : World) (schema : String) : TwoLoads S → TwoLoads S → Prop
  | left {t : EnumTable} {ts us : List EnumTable} {past : Trace} {s : S.State}
      (well : S.GoesWell w past s ((loadTable schema t).run w past).events) :
    Turn w schema ⟨t :: ts, us, past, s⟩
      ⟨ts, us, past ++ ((loadTable schema t).run w past).events,
        S.replay w past s ((loadTable schema t).run w past).events⟩
  | right {u : EnumTable} {ts us : List EnumTable} {past : Trace} {s : S.State}
      (well : S.GoesWell w past s ((loadTable schema u).run w past).events) :
    Turn w schema ⟨ts, u :: us, past, s⟩
      ⟨ts, us, past ++ ((loadTable schema u).run w past).events,
        S.replay w past s ((loadTable schema u).run w past).events⟩

/-- Turns one after the other. -/
abbrev Turns (w : World) (schema : String) : TwoLoads S → TwoLoads S → Prop :=
  Relation.ReflTransGen (Turn w schema)

/-- The first table of a load that meets no fault does not stop it. -/
theorem events_loadTables_cons
    (calm : w.raised past ((loadTables schema (t :: ts)).run w past).events = [] ∨
      w.raised past ((loadTable schema t).run w past).events = []) :
    let own := ((loadTable schema t).run w past).events
    ((loadTables schema (t :: ts)).run w past).events =
      own ++ ((loadTables schema ts).run w (past ++ own)).events := by
  rcases loadTable_part_or_stops schema w past t with ⟨own, r, ran, -⟩ | ⟨e, stops, ran⟩
  · rw [run_loadTables_cons_of_ok ran, ran]
  · have met := mem_raised_of_replaceTable stops.raised
    rw [run_loadTables_cons_of_error ran, ran, or_self] at calm
    rw [calm] at met
    nomatch met

/-- A load with no other beside it is the load of its tables. -/
theorem turns_alone_iff : Turns w schema ⟨ts, [], past, s⟩ ⟨[], [], past', s'⟩ ↔
    S.GoesWell w past s ((loadTables schema ts).run w past).events ∧
      past' = past ++ ((loadTables schema ts).run w past).events ∧
      s' = S.replay w past s ((loadTables schema ts).run w past).events := by
  induction ts generalizing past s with
  | nil =>
    constructor
    · intro turns
      rcases turns.cases_head with same | ⟨c, turn, -⟩
      · cases same
        exact ⟨⟨rfl, trivial⟩, (List.append_nil _).symm, rfl⟩
      · nomatch turn
    · rintro ⟨-, rfl, rfl⟩
      have none : ((loadTables schema []).run w past).events = [] := rfl
      rw [none, List.append_nil]
  | cons t ts ih =>
    constructor
    · intro turns
      rcases turns.cases_head with same | ⟨c, turn, later⟩
      · nomatch same
      · cases turn with
        | left well =>
          obtain ⟨well', rest⟩ := ih.mp later
          rw [events_loadTables_cons (.inr well.calm), ← List.append_assoc,
            DatabaseServer.replay_append, DatabaseServer.goesWell_append]
          exact ⟨⟨well, well'⟩, rest⟩
    · rintro ⟨well, rest⟩
      have events := events_loadTables_cons (.inl well.calm)
      rw [events] at well rest
      rw [← List.append_assoc, DatabaseServer.replay_append] at rest
      obtain ⟨first, later⟩ := DatabaseServer.goesWell_append.mp well
      exact .head (.left first) (ih.mpr ⟨later, rest⟩)

/-! ## Merged lists -/

/-- The third list has the elements of the first two, those of each in their order. -/
inductive Merge {α : Type} : List α → List α → List α → Prop
  | nil : Merge [] [] []
  | left (x : α) {xs ys zs : List α} (rest : Merge xs ys zs) : Merge (x :: xs) ys (x :: zs)
  | right (y : α) {xs ys zs : List α} (rest : Merge xs ys zs) : Merge xs (y :: ys) (y :: zs)

namespace Merge

variable {α : Type} {xs ys zs : List α}

theorem symm (merge : Merge xs ys zs) : Merge ys xs zs := by
  induction merge with
  | nil => exact .nil
  | left x _ ih => exact .right x ih
  | right y _ ih => exact .left y ih

theorem perm (merge : Merge xs ys zs) : zs.Perm (xs ++ ys) := by
  induction merge with
  | nil => exact .nil
  | left x _ ih => exact ih.cons x
  | right y _ ih => exact (ih.cons y).trans List.perm_middle.symm

theorem forall_mem (merge : Merge xs ys zs) {p : α → Prop} (left : ∀ x ∈ xs, p x)
    (right : ∀ y ∈ ys, p y) : ∀ z ∈ zs, p z := fun z member ↦
  (List.mem_append.mp (merge.perm.mem_iff.mp member)).elim (left z) (right z)

/-- What is kept of a merged list is merged of what is kept of the two. -/
theorem filter (merge : Merge xs ys zs) (p : α → Bool) :
    Merge (xs.filter p) (ys.filter p) (zs.filter p) := by
  induction merge with
  | nil => exact .nil
  | left x _ ih =>
    rw [List.filter_cons, List.filter_cons]
    split
    · exact .left x ih
    · exact ih
  | right y _ ih =>
    rw [List.filter_cons, List.filter_cons]
    split
    · exact .right y ih
    · exact ih

end Merge

theorem lastNamed_cons_of_or (t : EnumTable) (h : lastNamed vs m = lastNamed (ts ++ us) m ∨
    lastNamed vs m = lastNamed (us ++ ts) m) :
    lastNamed (t :: vs) m = lastNamed (t :: ts ++ us) m ∨
      lastNamed (t :: vs) m = lastNamed (us ++ t :: ts) m := by
  rw [lastNamed_cons, List.cons_append, lastNamed_cons, lastNamed_append us, lastNamed_cons]
  rcases h with same | same
  · exact .inl (by rw [same])
  · rw [same, lastNamed_append, lastNamed_append]
    cases lastNamed ts m with
    | some u => exact .inr rfl
    | none =>
      rw [Option.none_or, Option.or_none]
      exact .inl rfl

/-- The last table of a name in a merged list is the last one in either order of the two. -/
theorem Merge.lastNamed_or (merge : Merge ts us vs) (m : String) :
    lastNamed vs m = lastNamed (ts ++ us) m ∨ lastNamed vs m = lastNamed (us ++ ts) m := by
  induction merge with
  | nil => exact .inl rfl
  | left t _ ih => exact lastNamed_cons_of_or t ih
  | right u _ ih => exact (lastNamed_cons_of_or u ih.symm).symm

/-- Two lists of tables have at most one name in common. -/
def ShareAtMostOne (ts us : List EnumTable) : Prop :=
  ∀ m ∈ ts.map EnumTable.tableId, m ∈ us.map EnumTable.tableId →
    ∀ m' ∈ ts.map EnumTable.tableId, m' ∈ us.map EnumTable.tableId → m = m'

theorem ShareAtMostOne.fitting (share : ShareAtMostOne ts us) :
    ShareAtMostOne (fitting ts) (fitting us) := by
  intro m left right m' left' right'
  exact share m (tableId_fitting_sublist.subset left) (tableId_fitting_sublist.subset right)
    m' (tableId_fitting_sublist.subset left') (tableId_fitting_sublist.subset right')

/-- The order of two lists matters only to the names that they share. -/
theorem lastNamed_append_comm
    (h : ¬ (m ∈ ts.map EnumTable.tableId ∧ m ∈ us.map EnumTable.tableId)) :
    lastNamed (ts ++ us) m = lastNamed (us ++ ts) m := by
  rw [lastNamed_append, lastNamed_append]
  by_cases named : m ∈ ts.map EnumTable.tableId
  · rw [lastNamed_eq_none_iff.mpr fun shared ↦ h ⟨named, shared⟩, Option.none_or, Option.or_none]
  · rw [lastNamed_eq_none_iff.mpr named, Option.none_or, Option.or_none]

namespace Store

variable {st : Store}

theorem hasSchema_replaceAll_perm (perm : us.Perm ts) :
    (st.replaceAll schema us).hasSchema = (st.replaceAll schema ts).hasSchema := by
  have kept : (fitting us).Perm (fitting ts) := perm.filter _
  funext n
  rw [hasSchema_replaceAll, hasSchema_replaceAll, kept.isEmpty_eq]

/-- Every table of a merged list is in place as after one of the two orders. -/
theorem table?_replaceAll_merge (merge : Merge ts us vs) (n m : String) :
    (st.replaceAll schema vs).table? n m = (st.replaceAll schema (ts ++ us)).table? n m ∨
      (st.replaceAll schema vs).table? n m = (st.replaceAll schema (us ++ ts)).table? n m := by
  have kept : Merge (fitting ts) (fitting us) (fitting vs) := merge.filter _
  by_cases there : n = Sql.kept schema
  · rw [there, table?_replaceAll, table?_replaceAll, table?_replaceAll, fitting_append,
      fitting_append]
    exact (kept.lastNamed_or m).imp (fun same ↦ by rw [same]) fun same ↦ by rw [same]
  · rw [table?_replaceAll_of_ne_schema there, table?_replaceAll_of_ne_schema there]
    exact .inl rfl

/-- If the two lists share at most one name, this name decides which of the two orders a merged list
amounts to. -/
theorem replaceAll_merge (merge : Merge ts us vs) (share : ShareAtMostOne ts us) :
    st.replaceAll schema vs = st.replaceAll schema (ts ++ us) ∨
      st.replaceAll schema vs = st.replaceAll schema (us ++ ts) := by
  have kept : Merge (fitting ts) (fitting us) (fitting vs) := merge.filter _
  have share := share.fitting
  by_cases first : ∀ m, lastNamed (fitting vs) m = lastNamed (fitting ts ++ fitting us) m
  · exact .inl (replaceAll_congr fun m ↦ by rw [first, fitting_append])
  · refine .inr (replaceAll_congr fun m ↦ ?_)
    rw [fitting_append]
    obtain ⟨k, differs⟩ := Classical.not_forall.mp first
    have second : lastNamed (fitting vs) k = lastNamed (fitting us ++ fitting ts) k :=
      (kept.lastNamed_or k).resolve_left differs
    by_cases shared : m ∈ (fitting ts).map EnumTable.tableId ∧ m ∈ (fitting us).map EnumTable.tableId
    · -- The name that tells the two orders apart is shared, so it is this one.
      have both : k ∈ (fitting ts).map EnumTable.tableId ∧
          k ∈ (fitting us).map EnumTable.tableId :=
        Classical.byContradiction fun other ↦
          differs (second.trans (lastNamed_append_comm other).symm)
      rw [share m shared.1 shared.2 k both.1 both.2]
      exact second
    · exact (kept.lastNamed_or m).elim (·.trans (lastNamed_append_comm shared)) id

end Store

/-! ## What turns leave -/

/-- A turn puts its table in place, unless its name is too long. -/
theorem committed_turn (lawful : S.Lawful) (free : t.IsPercentFree schema)
    (well : S.GoesWell w past s ((loadTable schema t).run w past).events) : t.IsLoadable ∧
      S.committed (S.replay w past s ((loadTable schema t).run w past).events) =
        (S.committed s).replaceAll schema [t] := by
  obtain ⟨-, accepted, placed⟩ := loadTable_without_faults (s := s) lawful free well.calm
  have loadable := accepted.mp well.accepted
  exact ⟨loadable, placed loadable⟩

/-- What two loads come to that take turns until both are done: the database accepts their tables,
and holds what one load of these leaves, in the order of the turns. -/
theorem exists_merge (lawful : S.Lawful) {c : TwoLoads S}
    (turns : Turns w schema c ⟨[], [], past', s'⟩) (free : ∀ t ∈ c.left, t.IsPercentFree schema)
    (free' : ∀ u ∈ c.right, u.IsPercentFree schema) : ∃ vs, Merge c.left c.right vs ∧
      (∀ t ∈ vs, t.IsLoadable) ∧
      S.committed s' = (S.committed c.database).replaceAll schema vs := by
  induction turns using Relation.ReflTransGen.head_induction_on with
  | refl => exact ⟨[], .nil, nofun, rfl⟩
  | head turn later ih =>
    cases turn with
    | @left t ts us past s well =>
      obtain ⟨own, others⟩ := List.forall_mem_cons.mp free
      obtain ⟨vs, merge, loadables, placed⟩ := ih others free'
      obtain ⟨loadable, first⟩ := committed_turn lawful own well
      refine ⟨t :: vs, .left t merge, List.forall_mem_cons.mpr ⟨loadable, loadables⟩, ?_⟩
      rw [placed, first, ← Store.replaceAll_cons]
    | @right u ts us past s well =>
      obtain ⟨own, others⟩ := List.forall_mem_cons.mp free'
      obtain ⟨vs, merge, loadables, placed⟩ := ih free others
      obtain ⟨loadable, first⟩ := committed_turn lawful own well
      refine ⟨u :: vs, .right u merge, List.forall_mem_cons.mpr ⟨loadable, loadables⟩, ?_⟩
      rw [placed, first, ← Store.replaceAll_cons]

/-- Without faults a table that can be loaded is loaded without failures. -/
theorem goesWell_calm (lawful : S.Lawful) (free : t.IsPercentFree schema)
    (loadable : t.IsLoadable) (past : Trace) (s : S.State) :
    S.GoesWell .calm past s ((loadTable schema t).run .calm past).events :=
  have calm := World.raised_calm past _
  ⟨calm, (loadTable_without_faults lawful free calm).2.1.mpr loadable⟩

/-- The tables of the sources of two commits are accepted. -/
theorem Merge.isLoadable_tablesOf {sources sources' : List String}
    (merge : Merge (tablesOf sources) (tablesOf sources') vs) : ∀ t ∈ vs, t.IsLoadable := by
  intro t member _
  rcases List.mem_append.mp (merge.perm.mem_iff.mp member) with first | second
  · exact isStorable_of_mem_tablesOf first
  · exact isStorable_of_mem_tablesOf second

/-- Without faults two loads can take turns in any order. -/
theorem exists_turns (lawful : S.Lawful) (merge : Merge ts us vs)
    (free : ∀ t ∈ vs, t.IsPercentFree schema) (loadable : ∀ t ∈ vs, t.IsLoadable) (past : Trace)
    (s : S.State) : ∃ past' s', Turns .calm schema ⟨ts, us, past, s⟩ ⟨[], [], past', s'⟩ ∧
      S.committed s' = (S.committed s).replaceAll schema vs := by
  induction merge generalizing past s with
  | nil => exact ⟨past, s, .refl, rfl⟩
  | left t rest ih =>
    obtain ⟨own, others⟩ := List.forall_mem_cons.mp free
    obtain ⟨first, later⟩ := List.forall_mem_cons.mp loadable
    have well : S.GoesWell .calm past s ((loadTable schema t).run .calm past).events :=
      goesWell_calm lawful own first past s
    obtain ⟨past', s', turns, placed⟩ := ih others later _ (S.replay .calm past s _)
    refine ⟨past', s', .head (.left well) turns, ?_⟩
    rw [placed, (committed_turn lawful own well).2, ← Store.replaceAll_cons]
  | right u rest ih =>
    obtain ⟨own, others⟩ := List.forall_mem_cons.mp free
    obtain ⟨first, later⟩ := List.forall_mem_cons.mp loadable
    have well : S.GoesWell .calm past s ((loadTable schema u).run .calm past).events :=
      goesWell_calm lawful own first past s
    obtain ⟨past', s', turns, placed⟩ := ih others later _ (S.replay .calm past s _)
    refine ⟨past', s', .head (.right well) turns, ?_⟩
    rw [placed, (committed_turn lawful own well).2, ← Store.replaceAll_cons]

/-! ## One load after the other -/

/-- One load of tables and then another lead from one state of a database to another. -/
def DatabaseServer.LoadsBoth (S : DatabaseServer) (schema : String) (ts us : List EnumTable)
    (s s' : S.State) : Prop := ∃ mid, S.Loads schema ts s mid ∧ S.Loads schema us mid s'

theorem DatabaseServer.LoadsBoth.committed (lawful : S.Lawful)
    (free : ∀ t ∈ ts, t.IsPercentFree schema) (free' : ∀ u ∈ us, u.IsPercentFree schema)
    (h : S.LoadsBoth schema ts us s s') :
    S.committed s' = (S.committed s).replaceAll schema (ts ++ us) := by
  obtain ⟨mid, load, load'⟩ := h
  rw [load'.committed lawful free', load.committed lawful free, Store.replaceAll_append]

/-- Two loads can be taken one after the other, if the database accepts their tables. -/
theorem exists_loadsBoth (s : S.State) (lawful : S.Lawful)
    (free : ∀ t ∈ ts, t.IsPercentFree schema) (free' : ∀ u ∈ us, u.IsPercentFree schema)
    (loadable : ∀ t ∈ ts ++ us, t.IsLoadable) : ∃ s', S.LoadsBoth schema ts us s s' := by
  obtain ⟨first, second⟩ := List.forall_mem_append.mp loadable
  obtain ⟨mid, load⟩ : ∃ mid, S.Loads schema ts s mid := (exists_loads_iff lawful free).mpr first
  obtain ⟨s', load'⟩ : ∃ s', S.Loads schema us mid s' := (exists_loads_iff lawful free').mpr second
  exact ⟨s', mid, load, load'⟩

/-! ## Two commits -/

/-- The sources of a commit with an enum of colours and one of shapes. -/
def sourcesOf (colour shape : String) : List String :=
  ["enum Colour \x7b " ++ colour ++ "; \x7d", "enum Shape \x7b " ++ shape ++ "; \x7d"]

/-- Two loads that take turns until both are done leave every table as one of them leaves it when it
comes last, and the same schemas as either order of the two; and the whole is what one of the two
orders leaves, if at most one name is shared.  Both orders can be taken without failures.  No table
may have a percent sign in a name. -/
theorem turns_amount_to_orders (lawful : S.Lawful) (free : ∀ t ∈ ts, t.IsPercentFree schema)
    (free' : ∀ u ∈ us, u.IsPercentFree schema)
    (turns : Turns w schema ⟨ts, us, past, s⟩ ⟨[], [], past', s'⟩) :
    (∃ a, S.LoadsBoth schema ts us s a) ∧ (∃ b, S.LoadsBoth schema us ts s b) ∧
    ∀ a b, S.LoadsBoth schema ts us s a → S.LoadsBoth schema us ts s b →
      let final := S.committed s'
      let first := S.committed a
      let second := S.committed b
      final.hasSchema = first.hasSchema ∧ final.hasSchema = second.hasSchema ∧
      (∀ n m, final.table? n m = first.table? n m ∨ final.table? n m = second.table? n m) ∧
      (ShareAtMostOne ts us → final = first ∨ final = second) := by
  obtain ⟨vs, merge, loadable, placed⟩ := exists_merge lawful turns free free'
  refine ⟨?_, ?_, ?_⟩
  · exact exists_loadsBoth s lawful free free' fun t member ↦
      loadable t (merge.perm.mem_iff.mpr member)
  · exact exists_loadsBoth s lawful free' free fun t member ↦
      loadable t (merge.symm.perm.mem_iff.mpr member)
  intro a b order order'
  rw [placed, order.committed lawful free free', order'.committed lawful free' free]
  exact ⟨Store.hasSchema_replaceAll_perm merge.perm,
    Store.hasSchema_replaceAll_perm merge.symm.perm,
    Store.table?_replaceAll_merge merge, Store.replaceAll_merge merge⟩

/-- A commit with colours alone takes its turn between the colours and the shapes of another one.
The two share one name, so this amounts to one of the two orders. -/
theorem turns_amount_to_orders_colour :
    let S := DatabaseServer.inMemory
    let empty : Store := ⟨fun _ ↦ false, fun _ _ ↦ none⟩
    let ts := tablesOf (sourcesOf "RED" "CUBE")
    let us := tablesOf ["enum Colour \x7b BLUE; \x7d"]
    ∃ past' s' a b, Turns .calm "enums" (⟨ts, us, [], (empty, empty)⟩ : TwoLoads S)
        ⟨[], [], past', s'⟩ ∧
      S.LoadsBoth "enums" ts us (empty, empty) a ∧ S.LoadsBoth "enums" us ts (empty, empty) b ∧
      ShareAtMostOne ts us ∧ (S.committed s' = S.committed a ∨ S.committed s' = S.committed b) := by
  intro S empty ts us
  have built : tablesOf (sourcesOf "RED" "CUBE") =
      [.ofConstant "colour" "RED", .ofConstant "shape" "CUBE"] := by decide +kernel
  have built' : tablesOf ["enum Colour \x7b BLUE; \x7d"] = [.ofConstant "colour" "BLUE"] := by
    decide +kernel
  have free : ∀ t ∈ ts, t.IsPercentFree "enums" := by
    refine isPercentFree_tablesOf (by decide) ?_
    rw [built]
    decide
  have free' : ∀ u ∈ us, u.IsPercentFree "enums" := by
    refine isPercentFree_tablesOf (by decide) ?_
    rw [built']
    decide
  have merge : Merge ts us [.ofConstant "colour" "RED", .ofConstant "colour" "BLUE",
      .ofConstant "shape" "CUBE"] := by
    change Merge (tablesOf _) (tablesOf _) _
    rw [built, built']
    exact .left _ (.right _ (.left _ .nil))
  have share : ShareAtMostOne ts us := by
    change ShareAtMostOne (tablesOf _) (tablesOf _)
    rw [built, built', ShareAtMostOne]
    decide
  obtain ⟨past', s', turns, -⟩ := exists_turns DatabaseServer.inMemory_lawful merge
    (merge.forall_mem free free') merge.isLoadable_tablesOf [] (empty, empty)
  obtain ⟨⟨a, order⟩, ⟨b, order'⟩, orders⟩ :=
    turns_amount_to_orders DatabaseServer.inMemory_lawful free free' turns
  exact ⟨past', s', a, b, turns, order, order', share, (orders a b order order').2.2.2 share⟩

/-- Turns that leave the colours of one commit with the shapes of the other. -/
theorem turns_mix_commits : ¬ ∀ (S : DatabaseServer) (w : World) (schema : String)
    (sources sources' : List String) (past past' : Trace) (s s' a b : S.State), S.Lawful →
      let ts := tablesOf sources
      let us := tablesOf sources'
      Turns w schema ⟨ts, us, past, s⟩ ⟨[], [], past', s'⟩ →
      S.LoadsBoth schema ts us s a → S.LoadsBoth schema us ts s b →
      S.committed s' = S.committed a ∨ S.committed s' = S.committed b := by
  intro claim
  let empty : Store := ⟨fun _ ↦ false, fun _ _ ↦ none⟩
  have first : tablesOf (sourcesOf "RED" "CUBE") =
      [.ofConstant "colour" "RED", .ofConstant "shape" "CUBE"] := by decide +kernel
  have second : tablesOf (sourcesOf "BLUE" "DISC") =
      [.ofConstant "colour" "BLUE", .ofConstant "shape" "DISC"] := by decide +kernel
  have free : ∀ t ∈ tablesOf (sourcesOf "RED" "CUBE"), t.IsPercentFree "enums" := by
    refine isPercentFree_tablesOf (by decide) ?_
    rw [first]
    decide
  have free' : ∀ u ∈ tablesOf (sourcesOf "BLUE" "DISC"), u.IsPercentFree "enums" := by
    refine isPercentFree_tablesOf (by decide) ?_
    rw [second]
    decide
  -- The second commit takes both of its turns between those of the first.
  let merged : List EnumTable := [.ofConstant "colour" "RED", .ofConstant "colour" "BLUE",
    .ofConstant "shape" "DISC", .ofConstant "shape" "CUBE"]
  have merge : Merge (tablesOf (sourcesOf "RED" "CUBE")) (tablesOf (sourcesOf "BLUE" "DISC"))
      merged := by
    rw [first, second]
    exact .left _ (.right _ (.right _ (.left _ .nil)))
  have accepted := merge.isLoadable_tablesOf
  obtain ⟨past', s', turns, placed⟩ := exists_turns DatabaseServer.inMemory_lawful merge
    (merge.forall_mem free free') accepted [] (empty, empty)
  obtain ⟨a, order⟩ := exists_loadsBoth (empty, empty) DatabaseServer.inMemory_lawful free free'
    fun t member ↦ accepted t (merge.perm.mem_iff.mpr member)
  obtain ⟨b, order'⟩ := exists_loadsBoth (empty, empty) DatabaseServer.inMemory_lawful free' free
    fun t member ↦ accepted t (merge.symm.perm.mem_iff.mpr member)
  rcases claim DatabaseServer.inMemory .calm "enums" (sourcesOf "RED" "CUBE")
    (sourcesOf "BLUE" "DISC") [] past' (empty, empty) s' a b DatabaseServer.inMemory_lawful turns
    order order' with same | same
  · rw [placed, order.committed DatabaseServer.inMemory_lawful free free', first, second] at same
    have shapes := congrArg (fun st ↦ st.table? "enums" "shape") same
    exact absurd shapes (by decide +kernel)
  · rw [placed, order'.committed DatabaseServer.inMemory_lawful free' free, first, second] at same
    have colours := congrArg (fun st ↦ st.table? "enums" "colour") same
    exact absurd colours (by decide +kernel)

end EnumTables
