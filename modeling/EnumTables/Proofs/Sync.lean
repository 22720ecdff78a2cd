import EnumTables.Proofs.Hosting.Fetch
import EnumTables.Sync

/-!
# Fetching comes before loading

A sync has two parts: the fetch, which tells the database nothing, and the load, which asks the
hosting service for nothing.  Main statement: the load begins only when all sources are read, and
what it does is a matter of their texts.
-/

namespace EnumTables

/-! ## What a load is made of -/

section Load

open Act

variable {p : Event → Prop} {schema : String}

theorem madeOf_connectionString (db : Option DatabaseSettings) :
    (connectionString db).MadeOf p := by
  cases db with
  | none => exact (MadeOf.read _).bind fun _ ↦ .pure _
  | some db => exact .pure _

variable (commands : ∀ c, p (.database c))

include commands

theorem madeOf_rollBackAfter (e : Fault) : (rollBackAfter e).MadeOf p := by
  rw [rollBackAfter]
  split
  · exact .pure _
  · refine (MadeOf.command (commands _)).attempt.bind fun outcome ↦ ?_
    cases outcome <;> exact .pure _

theorem madeOf_withConnection {α : Type} (db : Option DatabaseSettings) {body : Act α}
    (h : body.MadeOf p) : (withConnection db body).MadeOf p := by
  refine (madeOf_connectionString db).bind fun dsn ↦ ?_
  refine (MadeOf.command (commands _)).bind fun _ ↦ ?_
  have work : (do let a ← body; command .commit; pure a).MadeOf p :=
    h.bind fun a ↦ (MadeOf.command (commands _)).bind fun _ ↦ .pure a
  refine work.attempt.bind fun outcome ↦ ?_
  cases outcome with
  | ok a => exact (MadeOf.command (commands _)).bind fun _ ↦ .pure a
  | error e =>
    refine (madeOf_rollBackAfter commands e).bind fun e' ↦ ?_
    exact (MadeOf.command (commands _)).bind fun _ ↦ .throw e'

theorem madeOf_replaceTable (t : EnumTable) : (replaceTable schema t).MadeOf p := by
  have statements : (replaceStatements schema t).MadeOf p := by
    refine (MadeOf.command (commands _)).bind fun _ ↦ ?_
    refine (MadeOf.command (commands _)).bind fun _ ↦ ?_
    refine (MadeOf.command (commands _)).bind fun _ ↦ ?_
    split
    · exact .command (commands _)
    · exact .pure _
  exact (madeOf_withConnection commands none statements).bind fun _ ↦ .pure _

variable (logs : ∀ record, p (.log record))

include logs

theorem madeOf_loadTable (t : EnumTable) : (loadTable schema t).MadeOf p := by
  rw [loadTable]
  split
  · exact (MadeOf.emit (logs _)).bind fun _ ↦ .pure _
  · refine (madeOf_replaceTable commands t).attempt.bind fun outcome ↦ ?_
    cases outcome with
    | ok rows => exact (MadeOf.emit (logs _)).bind fun _ ↦ .pure _
    | error e =>
      dsimp only
      split
      · exact (MadeOf.emit (logs _)).bind fun _ ↦ .pure _
      · exact .throw e

/-- A load consists of commands and log records. -/
theorem madeOf_loadTables (ts : List EnumTable) : (loadTables schema ts).MadeOf p := by
  induction ts with
  | nil => exact .pure _
  | cons t ts ih => exact (madeOf_loadTable commands logs t).bind fun _ ↦ ih.bind fun _ ↦ .pure _

end Load

/-- A load asks for nothing. -/
theorem requests_loadTables (schema : String) (ts : List EnumTable) (w : World) (past : Trace) :
    ((loadTables schema ts).run w past).events.requests = [] :=
  List.filterMap_eq_nil_iff.mpr
    ((madeOf_loadTables (p := (·.request? = none)) (fun _ ↦ rfl) (fun _ ↦ rfl) ts).emitsOnly w past)

/-! ## The two parts of a sync -/

variable {settings : Settings} {client : Hosting.Client} {commit : Hosting.Commit} {w : World}
  {past : Trace}

/-- The tables are built with nothing but records in the log. -/
theorem madeOf_buildTables {p : Event → Prop} (logs : ∀ record, p (.log record))
    (sources : List String) : (buildTables sources).MadeOf p := by
  have logged (rs : List Record) : (logAll rs).MadeOf p := by
    induction rs with
    | nil => exact .pure ()
    | cons r rs ih => exact (Act.MadeOf.emit (logs r)).bind fun _ ↦ ih
  exact (logged _).bind fun _ ↦ .pure _

theorem onlyLogs_buildTables (sources : List String) (w : World) (past : Trace) :
    ((buildTables sources).run w past).events.OnlyLogs :=
  (madeOf_buildTables (fun record ↦ ⟨record, rfl⟩) sources).emitsOnly w past

/-- What a sync does behind the fetch: some records in the log, and the load. -/
theorem exists_run_syncCommit_of_ok {texts : List String}
    (h : ((Hosting.sources client commit settings.sourcePattern).run w past).result = .ok texts) :
    ∃ logs : Trace, logs.OnlyLogs ∧
      let before :=
        ((Hosting.sources client commit settings.sourcePattern).run w past).events ++ logs
      let load := (loadTables settings.targetSchema (tablesOf texts)).run w (past ++ before)
      (syncCommit settings client commit).run w past = ⟨before ++ load.events, load.result⟩ := by
  let fetch := (Hosting.sources client commit settings.sourcePattern).run w past
  refine ⟨((buildTables texts).run w (past ++ fetch.events)).events ++ [.log ⟨.info, .sync,
    s!"{(tablesOf texts).length} of {texts.length} sources declare enums"⟩],
    (onlyLogs_buildTables texts w _).append (.singleton _), ?_⟩
  rw [syncCommit, Act.run_bind_of_ok h, Act.run_bind_of_ok (result_buildTables texts w _),
    Act.run_bind_of_ok (a := ()) rfl]
  simp only [List.append_assoc]
  rfl

/-- A sync asks for nothing but what is fetched. -/
theorem requests_syncCommit (settings : Settings) (client : Hosting.Client)
    (commit : Hosting.Commit) (w : World) (past : Trace) :
    ((syncCommit settings client commit).run w past).events.requests =
      ((Hosting.sources client commit settings.sourcePattern).run w past).events.requests := by
  cases fetched : ((Hosting.sources client commit settings.sourcePattern).run w past).result with
  | error e => rw [syncCommit, Act.run_bind_of_error fetched]
  | ok texts =>
    obtain ⟨logs, onlyLogs, run⟩ := exists_run_syncCommit_of_ok fetched
    rw [run, Trace.requests_append, Trace.requests_append, onlyLogs.requests_eq_nil,
      requests_loadTables, List.append_nil, List.append_nil]

/-- A sync asks for the tree, judges all its entries and asks for all sources before it tells the
database anything.  There is one thing only that the answers let it do: the first fault on the way
ends it; else what follows is the load of the tables of all texts, in their order. -/
theorem syncCommit_fetches_first (settings : Settings) (client : Hosting.Client)
    (commit : Hosting.Commit) (w : World) (past : Trace) :
    let r := (syncCommit settings client commit).run w past
    let fetches := Hosting.Fetches w client commit settings.sourcePattern
    ∃ requests fetched, fetches requests fetched ∧
      (∀ requests' fetched', fetches requests' fetched' →
        requests' = requests ∧ fetched' = fetched) ∧
      match fetched with
      | .error e => r.result = .error e ∧ r.events.requests = requests ∧ r.events.commands = []
      | .ok texts => ∃ before : Trace, before.requests = requests ∧ before.commands = [] ∧
          let load := (loadTables settings.targetSchema (tablesOf texts)).run w (past ++ before)
          load.events.requests = [] ∧ r = ⟨before ++ load.events, load.result⟩ := by
  intro r
  obtain ⟨requests, fetched, fetches⟩ :=
    Hosting.exists_fetches w client commit settings.sourcePattern
  refine ⟨requests, fetched, fetches, fun _ _ other ↦ other.unique fetches, ?_⟩
  obtain ⟨result, asked, told⟩ := fetches.run_sources past
  cases fetched with
  | error e =>
    have ended : r = ⟨_, .error e⟩ := Act.run_bind_of_error result
    rw [ended]
    exact ⟨rfl, asked, told⟩
  | ok texts =>
    obtain ⟨logs, onlyLogs, run⟩ := exists_run_syncCommit_of_ok result
    refine ⟨_, ?_, ?_, requests_loadTables .., run⟩
    · rw [Trace.requests_append, asked, onlyLogs.requests_eq_nil, List.append_nil]
    · rw [Trace.commands_append, told, onlyLogs.commands_eq_nil, List.append_nil]

/-- A world with three sources in every tree, the second of which is cut short. -/
def brokenSecond : World where
  environment := []
  files _ := none
  respond url :=
    if url = "https://api.github.com/repos/acme/shop/git/trees/1a2b" then
      .ok ⟨url, 200, "OK", "\x7b\"tree\":[\x7b\"type\":\"blob\",\"path\":\"A.java\"\x7d," ++
        "\x7b\"type\":\"blob\",\"path\":\"b\"\x7d,\x7b\"type\":\"blob\",\"path\":\"B.java\"\x7d," ++
        "\x7b\"type\":\"blob\",\"path\":\"C.java\"\x7d]\x7d"⟩
    else if url = "https://api.github.com/repos/acme/shop/contents/B.java" then
      .ok ⟨url, 200, "OK", "\x7b\"content\":\"ZW51\\nbSB\"\x7d"⟩
    else .ok ⟨url, 200, "OK", "\x7b\"content\":\"ZW51bSBBIHsgWDsgfQ==\\n\"\x7d"⟩
  failure _ _ := none

/-- The second of three sources is not base64: the third is not asked for, and the database, in which
the first could be loaded, is told nothing. -/
theorem syncCommit_fetches_first_broken :
    let settings : Settings := { sourcePattern := "\\.java$" }
    let client := Hosting.Client.ofSettings settings
    let commit : Hosting.Commit := ⟨"acme", "shop", "1a2b"⟩
    let urls := ["https://api.github.com/repos/acme/shop/git/trees/1a2b",
      "https://api.github.com/repos/acme/shop/contents/A.java",
      "https://api.github.com/repos/acme/shop/contents/B.java"]
    let r := (syncCommit settings client commit).run brokenSecond []
    Hosting.HasText brokenSecond client commit "A.java" "enum A { X; }" ∧
      Hosting.LacksText brokenSecond client commit "B.java" (.base64 .incorrectPadding) ∧
      Hosting.HasText brokenSecond client commit "C.java" "enum A { X; }" ∧
      r.result = .error (.base64 .incorrectPadding) ∧
      r.events.requests.map Request.url = urls ∧ r.events.commands = [] := by
  intro settings client commit urls r
  let fetch := (Hosting.sources client commit settings.sourcePattern).run brokenSecond []
  obtain ⟨requests, fetched, fetches, -, ended⟩ :=
    syncCommit_fetches_first settings client commit brokenSecond []
  obtain ⟨result, asked, -⟩ := fetches.run_sources []
  have ⟨fault, addressed⟩ : fetch.result = .error (.base64 .incorrectPadding) ∧
      fetch.events.requests.map Request.url = urls := by decide +kernel
  obtain rfl := result.symm.trans fault
  obtain ⟨failed, sent, told⟩ := ended
  refine ⟨?_, ?_, ?_, failed, ?_, told⟩
  · exact Hosting.textAt_eq_ok_iff.mp (by decide +kernel)
  · exact Hosting.textAt_eq_error_iff.mp (by decide +kernel)
  · exact Hosting.textAt_eq_ok_iff.mp (by decide +kernel)
  · rw [sent, ← asked]
    exact addressed

end EnumTables
