import EnumTables.Proofs.CommandLine.Messages
import EnumTables.Proofs.Sync

/-!
# The command and the sync

The command that syncs a commit goes through the steps of a sync one by one and prints what comes of
them.  Main statement: it sends the same requests and gives the same commands to the database as a
sync with the settings of the environment, and it ends as that sync does; a dry run sends the same
requests and gives no commands.
-/

namespace EnumTables.CommandLine

/-! ## The command in step with the sync -/

section Sync

open Act

variable {w : World} {past past' : Trace}

/-- How the command ends, by what came of the fetch and of the whole sync. -/
def ending (fetched : Except Fault (List String)) (synced : Except Fault (List LoadResult)) :
    Except Fault Nat :=
  match fetched, synced with
  | .error e, _ => if e.isTransport then .ok 1 else .error e
  | .ok _, .error e => .error e
  | .ok _, .ok results => .ok (if results.all LoadResult.isLoaded then 0 else 1)

/-- What the command ends with is as it should be, if its messages can be printed. -/
def EndsAs (schema : String) (fetched : Except Fault (List String)) (code : Except Fault Nat)
    (synced : Except Fault (List LoadResult)) : Prop :=
  (∀ s ∈ reported schema fetched synced, Plain s) → code = ending fetched synced

/-- All tables are loaded if and only if none failed. -/
theorem all_isLoaded_iff (results : List LoadResult) :
    results.all LoadResult.isLoaded = true ↔ results.countP (fun r ↦ !r.isLoaded) = 0 := by
  rw [List.all_eq_true, List.countP_eq_zero]
  simp only [Bool.not_eq_true', Bool.not_eq_false]

/-- The load and what is printed of it are in step with the load. -/
theorem inStep_runLoad (schema : String) (tables : List EnumTable) (sources : List String) :
    InStep (EndsAs schema (.ok sources)) w past past' (runLoad schema tables)
      (loadTables schema tables) := by
  have made : (loadTables schema tables).MadeOf fun _ ↦ True :=
    madeOf_loadTables (fun _ ↦ trivial) (fun _ ↦ trivial) tables
  have printed (s : String) : (say s).MadeOf (·.isEffect = false) := madeOf_say (fun _ ↦ rfl) s
  rw [← bind_pure (loadTables schema tables)]
  refine InStep.bind (f := fun _ ↦ _) made (fun _ _ _ ↦ rfl) fun results _ past past' ↦ ?_
  have complete := all_isLoaded_iff results
  -- What is printed has no effects even if it cannot be rendered; the exit code needs that it can.
  refine InStep.of_effects_eq_nil (MadeOf.effects_eq_nil ?_) rfl fun plain ↦ ?_
  · refine (madeOf_reportResults (fun _ ↦ rfl) results).bind fun _ ↦ ?_
    dsimp only
    split
    · exact (printed _).bind fun _ ↦ .pure _
    · exact (printed _).bind fun _ ↦ .pure _
  · refine ((silent_reportResults plain).bind ?_ past).2
    dsimp only
    split
    · rename_i none
      rw [if_pos (complete.mpr none)]
      exact (silent_message .complete (List.forall_mem_nil _)).bind (silent_pure 0)
    · rename_i some
      rw [if_neg (mt complete.mp some)]
      exact (silent_message (.incomplete _) (List.forall_mem_nil _)).bind (silent_pure 1)

/-- What is announced before the fetch may be left out. -/
theorem inStep_announce {α β : Type} {R : Except Fault α → Except Fault β → Prop}
    {settings : Settings} {commit : Hosting.Commit}
    (told : ∀ m ∈ announcement settings commit, Silent w (say m.markup) ()) {x : Act α} {y : Act β}
    (rest : ∀ past, InStep R w past past' x y) :
    InStep R w past past' (do
      say s!"\n[info]Syncing:[/] {commit.display}"
      say s!"[muted]Pattern: {settings.sourcePattern}[/]"
      x) y := by
  simp only [announcement, List.forall_mem_cons] at told
  obtain ⟨syncing, pattern, -⟩ := told
  exact InStep.skip_left syncing fun past ↦ InStep.skip_left pattern rest

/-- The command is in step with the sync, and ends as it should if its messages can be printed. -/
theorem inStep_runSync_of_announced (past : Trace) (commit : Hosting.Commit)
    (told : ∀ m ∈ announcement (.ofEnvironment w.environment) commit,
      Silent w (say m.markup) ()) :
    let settings := Settings.ofEnvironment w.environment
    let client := Hosting.Client.ofSettings settings
    let fetch := (Hosting.sources client commit settings.sourcePattern).run w []
    InStep (EndsAs settings.targetSchema fetch.result) w past [] (runSync commit false)
      (syncCommit settings client commit) := by
  intro settings client fetch
  have made : (Hosting.sources client commit settings.sourcePattern).MadeOf fun _ ↦ True :=
    Hosting.madeOf_sources (fun _ ↦ trivial) (fun _ ↦ trivial) _
  refine InStep.skip_left silent_environment fun past ↦ inStep_announce told fun past ↦ ?_
  refine InStep.attempt_bind made ?_ ?_
  · intro e failed past past'
    rw [show fetch.result = .error e from failed]
    dsimp only
    split
    · rename_i transport
      have printed := madeOf_say (p := (·.isEffect = false)) (fun _ ↦ rfl)
        s!"[error]Failed to fetch sources: {e.message}[/]"
      refine InStep.of_effects_eq_nil (printed.bind fun _ ↦ .pure 1).effects_eq_nil rfl ?_
      intro plain
      rw [reported, if_pos transport] at plain
      rw [ending, if_pos transport]
      have told := silent_message (w := w) (.unfetched e.message) plain
      exact (told.bind (f := fun _ ↦ pure 1) (silent_pure 1) past).2
    · rename_i other
      refine InStep.of_effects_eq_nil rfl rfl fun _ ↦ ?_
      rw [ending, if_neg other]
      rfl
  · intro sources returned past past'
    rw [show fetch.result = .ok sources from returned]
    have built := madeOf_buildTables (p := fun _ ↦ True) (fun _ ↦ trivial) sources
    refine InStep.bind built (fun e failed ↦ ?_) fun tables _ past past' ↦ ?_
    · cases (result_buildTables sources w past').symm.trans failed
    · have told := silent_message (w := w) (.declared tables.length sources.length)
        (List.forall_mem_nil _)
      refine InStep.skip_left told fun past ↦ ?_
      refine InStep.skip_right (silent_log _ _ _) fun past' ↦ ?_
      exact inStep_runLoad settings.targetSchema tables sources

/-- It is so if no bracket opens in the texts that are announced. -/
theorem inStep_runSync (past : Trace) (commit : Hosting.Commit)
    (plain : ∀ s ∈ announced (.ofEnvironment w.environment) commit, Plain s) :
    let settings := Settings.ofEnvironment w.environment
    let client := Hosting.Client.ofSettings settings
    let fetch := (Hosting.sources client commit settings.sourcePattern).run w []
    InStep (EndsAs settings.targetSchema fetch.result) w past [] (runSync commit false)
      (syncCommit settings client commit) :=
  inStep_runSync_of_announced past commit (silent_announcement plain)

/-- A dry run is in step with the fetch alone. -/
theorem inStep_runSync_dry_of_announced (past past' : Trace) (commit : Hosting.Commit)
    (told : ∀ m ∈ announcement (.ofEnvironment w.environment) commit,
      Silent w (say m.markup) ()) :
    let settings := Settings.ofEnvironment w.environment
    InStep (fun _ _ ↦ True) w past past' (runSync commit true)
      (Hosting.sources (.ofSettings settings) commit settings.sourcePattern) := by
  intro settings
  have made : (Hosting.sources (.ofSettings settings) commit settings.sourcePattern).MadeOf
      fun _ ↦ True := Hosting.madeOf_sources (fun _ ↦ trivial) (fun _ ↦ trivial) _
  have printed (s : String) : (say s).MadeOf (·.isEffect = false) := madeOf_say (fun _ ↦ rfl) s
  rw [← bind_pure (Hosting.sources _ _ _)]
  refine InStep.skip_left silent_environment fun past ↦ inStep_announce told fun past ↦ ?_
  refine InStep.attempt_bind made ?_ ?_
  · intro e _ past past'
    refine InStep.of_effects_eq_nil (MadeOf.effects_eq_nil ?_) rfl trivial
    dsimp only
    split
    · exact (printed _).bind fun _ ↦ .pure 1
    · exact .throw e
  · intro sources _ past past'
    refine InStep.of_effects_eq_nil (MadeOf.effects_eq_nil ?_) rfl trivial
    refine (madeOf_buildTables (fun _ ↦ rfl) sources).bind fun tables ↦ ?_
    refine (printed _).bind fun _ ↦ (madeOf_showTables (fun _ ↦ rfl) tables).bind fun _ ↦ ?_
    exact (printed _).bind fun _ ↦ .pure 0

/-- It is so if no bracket opens in the texts that are announced. -/
theorem inStep_runSync_dry (past past' : Trace) (commit : Hosting.Commit)
    (plain : ∀ s ∈ announced (.ofEnvironment w.environment) commit, Plain s) :
    let settings := Settings.ofEnvironment w.environment
    InStep (fun _ _ ↦ True) w past past' (runSync commit true)
      (Hosting.sources (.ofSettings settings) commit settings.sourcePattern) :=
  inStep_runSync_dry_of_announced past past' commit (silent_announcement plain)

end Sync

/-! ## The whole program -/

section Program

variable {w : World} {arguments : List String}

/-- A command is carried out as it is, and an interruption of it ends with a notice. -/
theorem run_runGuarded {command : Command} {past : Trace} {r : Run Nat}
    (ran : command.run.run w past = r) :
    (runGuarded command).run w past =
      match r.result with
      | .ok code => ⟨r.events, .ok code⟩
      | .error e =>
        if e.isInterrupt then ⟨r.events ++ [.complaint "\nAborted!\n"], .ok 1⟩
        else ⟨r.events, .error e⟩ := by
  have tried : (Act.attempt command.run).run w past = ⟨r.events, .ok r.result⟩ := by
    rw [Act.run_attempt, ran]
  rw [runGuarded, Act.run_bind_of_ok (congrArg Run.result tried), tried]
  cases r.result with
  | ok code =>
    dsimp only
    rw [Act.run_pure, List.append_nil]
  | error e =>
    dsimp only
    split
    · rfl
    · rw [Act.run_throw, List.append_nil]

/-- A command ends the program with its code, and a fault that it meets leaves the program unless it
is an interruption. -/
theorem execute_of_read {i : Invocation} (asked : readInvocation w.files arguments = .ok i) :
    let r := i.command.run.run w []
    let o := execute w arguments
    o.trace.effects = r.events.effects ∧
    match r.result with
    | .ok code => o.exitCode = code ∧ o.raised = none
    | .error e => o.exitCode = 1 ∧ o.raised = if e.isInterrupt then none else some e := by
  intro r o
  have invoked : invoke w.files arguments = (i.verbose, runGuarded i.command) := by
    rw [invoke, asked]
  have ran : (runGuarded i.command).run w [] = _ := run_runGuarded (r := r) rfl
  cases h : r.result with
  | ok code =>
    rw [h] at ran
    simp only [o, execute, invoked, ran, and_self]
  | error e =>
    rw [h] at ran
    dsimp only at ran
    by_cases interrupt : e.isInterrupt = true
    · rw [if_pos interrupt] at ran
      simp only [o, execute, invoked, ran, if_pos interrupt, Trace.effects_append, and_self,
        and_true]
      exact List.append_nil _
    · rw [if_neg interrupt] at ran
      simp only [o, execute, invoked, ran, if_neg interrupt, and_self]

end Program

/-! ## Asking for a sync -/

/-- The options of `sync`. -/
def syncOptions : List OptionSpec :=
  [.valued "--owner", .valued "--repo", .valued "--sha", .flag "--dry-run" none]

/-- An option of `sync` with a value takes it from the next argument, whatever that is. -/
theorem readArguments_valued {name : String} (known : name ∈ ["--owner", "--repo", "--sha"])
    (value : String) (rest : List String) :
    readArguments (helpOption :: syncOptions) true (name :: value :: rest) =
      (readArguments (helpOption :: syncOptions) true rest).map
        (·.addOptions [(name, some value)]) := by
  simp only [List.mem_cons, List.not_mem_nil, or_false] at known
  rcases known with rfl | rfl | rfl
  all_goals
    rw [readArguments]
    rfl

/-- The last argument of `sync` may ask for a dry run. -/
theorem readArguments_dryRun (dryRun : Bool) :
    readArguments (helpOption :: syncOptions) true (if dryRun then ["--dry-run"] else []) =
      .ok ⟨if dryRun then [("--dry-run", none)] else [], []⟩ := by
  have nothing : readArguments (helpOption :: syncOptions) true [] = .ok ⟨[], []⟩ := by
    rw [readArguments]
  cases dryRun with
  | false => exact nothing
  | true =>
    have read (rest : List String) :
        readArguments (helpOption :: syncOptions) true ("--dry-run" :: rest) =
          (readArguments (helpOption :: syncOptions) true rest).map
            (·.addOptions [("--dry-run", none)]) := by
      rw [readArguments]
      rfl
    rw [if_pos rfl, read, nothing]
    rfl

/-- A sync of any commit can be asked for. -/
theorem readInvocation_sync (files : Files) (commit : Hosting.Commit) (dryRun : Bool) :
    readInvocation files ("sync" :: "--owner" :: commit.owner :: "--repo" :: commit.repository ::
      "--sha" :: commit.sha :: if dryRun then ["--dry-run"] else []) =
      .ok ⟨false, .sync commit.owner commit.repository commit.sha dryRun⟩ := by
  have program (rest : List String) : readProgram ("sync" :: rest) = .ok ⟨[], "sync" :: rest⟩ := by
    rw [readProgram, readPage, readArguments]
    rfl
  have command (rest : List String) : readInvocation files ("sync" :: rest) =
      (readSync rest).map (⟨false, ·⟩) := by
    rw [readInvocation, List.isEmpty_cons, if_neg (by decide), program]
    rfl
  have page : readPage .sync syncOptions true ("--owner" :: commit.owner :: "--repo" ::
      commit.repository :: "--sha" :: commit.sha :: if dryRun then ["--dry-run"] else []) =
        .ok ⟨("--owner", some commit.owner) :: ("--repo", some commit.repository) ::
          ("--sha", some commit.sha) :: if dryRun then [("--dry-run", none)] else [], []⟩ := by
    rw [readPage, readArguments_valued (by decide), readArguments_valued (by decide),
      readArguments_valued (by decide), readArguments_dryRun]
    cases dryRun <;> rfl
  rw [command, readSync]
  change Except.map _ (readPage .sync syncOptions true _ >>= _) = _
  rw [page]
  cases dryRun <;> rfl

/-! ## Agreement -/

/-- How the program ends that syncs a commit, by what came of the fetch and of the whole sync. -/
structure Outcome.Reflects (o : Outcome) (fetched : Except Fault (List String))
    (synced : Except Fault (List LoadResult)) : Prop where
  success : o.exitCode = 0 ↔ ∃ results, synced = .ok results ∧ ∀ r ∈ results, r.isLoaded = true
  failure : ∀ results, synced = .ok results → (∃ r ∈ results, r.isLoaded = false) →
    o.exitCode = 1 ∧ o.raised = none
  unfetched : ∀ e, fetched = .error e → e.isTransport = true → o.exitCode = 1 ∧ o.raised = none
  /-- Every other fault leaves the program, unless it is an interruption. -/
  escaped : ∀ e, synced = .error e → ¬ (fetched = .error e ∧ e.isTransport = true) →
    o.exitCode = 1 ∧ o.raised = if e.isInterrupt then none else some e

theorem Outcome.reflects_of_ending {o : Outcome} {fetched : Except Fault (List String)}
    {synced : Except Fault (List LoadResult)} (stops : ∀ e, fetched = .error e → synced = .error e)
    (ended : match ending fetched synced with
      | .ok code => o.exitCode = code ∧ o.raised = none
      | .error e => o.exitCode = 1 ∧ o.raised = if e.isInterrupt then none else some e) :
    o.Reflects fetched synced := by
  -- An exit code of one without success, whatever else is known.
  have unsuccessful (code : o.exitCode = 1) (failed : ∀ results, synced = .ok results →
      ∃ r ∈ results, r.isLoaded = false) : o.exitCode = 0 ↔
        ∃ results, synced = .ok results ∧ ∀ r ∈ results, r.isLoaded = true := by
    rw [code]
    refine ⟨nofun, ?_⟩
    rintro ⟨results, returned, loaded⟩
    obtain ⟨r, member, unloaded⟩ := failed results returned
    nomatch unloaded.symm.trans (loaded r member)
  cases fetched with
  | error e =>
    obtain rfl := stops e rfl
    by_cases transport : e.isTransport = true
    · rw [ending, if_pos transport] at ended
      refine ⟨unsuccessful ended.1 nofun, nofun, fun _ _ _ ↦ ended, fun e' same other ↦ ?_⟩
      obtain rfl := Except.error.inj same
      exact absurd ⟨rfl, transport⟩ other
    · rw [ending, if_neg transport] at ended
      refine ⟨unsuccessful ended.1 nofun, nofun, fun e' same transport' ↦ ?_, fun e' same _ ↦ ?_⟩
      · obtain rfl := Except.error.inj same
        exact absurd transport' transport
      · obtain rfl := Except.error.inj same
        exact ended
  | ok texts =>
    cases synced with
    | error e =>
      refine ⟨unsuccessful ended.1 nofun, nofun, nofun, fun e' same _ ↦ ?_⟩
      obtain rfl := Except.error.inj same
      exact ended
    | ok results =>
      rw [ending] at ended
      cases loaded : results.all LoadResult.isLoaded with
      | true =>
        rw [if_pos loaded] at ended
        have every := List.all_eq_true.mp loaded
        refine ⟨⟨fun _ ↦ ⟨results, rfl, every⟩, fun _ ↦ ended.1⟩, ?_, nofun, nofun⟩
        rintro results' same ⟨r, member, unloaded⟩
        obtain rfl := Except.ok.inj same
        nomatch unloaded.symm.trans (every r member)
      | false =>
        rw [if_neg (Bool.eq_false_iff.mp loaded)] at ended
        obtain ⟨r, member, unloaded⟩ := List.all_eq_false.mp loaded
        refine ⟨unsuccessful ended.1 fun results' same ↦ ?_, fun _ _ _ ↦ ended, nofun, nofun⟩
        obtain rfl := Except.ok.inj same
        exact ⟨r, member, Bool.eq_false_iff.mpr unloaded⟩

/-- The program that is asked to sync a commit agrees with the sync of that commit under the settings
of the environment.  It sends the same requests and gives the database the same commands, in the
same order, and its end reflects what came of the sync.  In a dry run it sends the same requests and
gives no commands. -/
theorem execute_agrees_syncCommit (w : World) (arguments : List String) (verbose dryRun : Bool)
    (commit : Hosting.Commit) (asked : readInvocation w.files arguments =
      .ok ⟨verbose, .sync commit.owner commit.repository commit.sha dryRun⟩)
    (plain : ∀ s ∈ announced (.ofEnvironment w.environment) commit, Plain s) :
    let settings := Settings.ofEnvironment w.environment
    let client := Hosting.Client.ofSettings settings
    let fetch := (Hosting.sources client commit settings.sourcePattern).run w []
    let sync := (syncCommit settings client commit).run w []
    let o := execute w arguments
    (dryRun = false → o.trace.effects = sync.events.effects ∧
      ((∀ s ∈ reported settings.targetSchema fetch.result sync.result, Plain s) →
        o.Reflects fetch.result sync.result)) ∧
    (dryRun = true → o.trace.requests = sync.events.requests ∧ o.trace.commands = []) := by
  intro settings client fetch sync o
  obtain ⟨effects, ended⟩ := execute_of_read asked
  refine ⟨?_, ?_⟩
  · rintro rfl
    obtain ⟨same, endsAs⟩ := inStep_runSync [] commit plain rfl
    refine ⟨effects.trans same, fun plain' ↦ Outcome.reflects_of_ending ?_ ?_⟩
    · exact fun e failed ↦ congrArg Run.result (Act.run_bind_of_error failed)
    · rw [← endsAs plain']
      exact ended
  · rintro rfl
    obtain ⟨same, -⟩ := inStep_runSync_dry [] [] commit plain rfl
    have fetched : o.trace.effects = fetch.events.effects := effects.trans same
    constructor
    · rw [← Trace.requests_effects, fetched, Trace.requests_effects]
      exact (requests_syncCommit settings client commit w []).symm
    · rw [← Trace.commands_effects, fetched, Trace.commands_effects]
      exact Hosting.commands_sources w [] client commit settings.sourcePattern

/-- A world with one source in a commit and a database that meets no faults. -/
def oneSource : World where
  environment := [("ENUM_SOURCE_PATTERN", "F")]
  files _ := none
  respond url :=
    if url = "https://api.github.com/repos/a/b/git/trees/c" then
      .ok ⟨url, 200, "OK", "\x7b\"tree\":[\x7b\"type\":\"blob\",\"path\":\"F\"\x7d]\x7d"⟩
    else if url = "https://api.github.com/repos/a/b/contents/F" then
      .ok ⟨url, 200, "OK", "\x7b\"content\":\"ZW51bSBGbGFnIHsgT047IH0=\"\x7d"⟩
    else .error (.transport (.connection "no route"))
  failure _ _ := none

/-- The source declares an enum of one constant. -/
theorem execute_agrees_syncCommit_flag :
    let settings := Settings.ofEnvironment oneSource.environment
    let sync := (syncCommit settings (.ofSettings settings) ⟨"a", "b", "c"⟩).run oneSource []
    let o := execute oneSource ["sync", "--owner", "a", "--repo", "b", "--sha", "c"]
    sync.result = .ok [⟨"flag", .loaded 1⟩] ∧ o.exitCode = 0 ∧
      o.trace.effects = sync.events.effects := by
  intro settings sync o
  have returned : sync.result = .ok [⟨"flag", .loaded 1⟩] := eq_ok_of_toOption (by decide +kernel)
  have asked := readInvocation_sync oneSource.files ⟨"a", "b", "c"⟩ false
  obtain ⟨effects, reflects⟩ := (execute_agrees_syncCommit oneSource
    ["sync", "--owner", "a", "--repo", "b", "--sha", "c"] false false ⟨"a", "b", "c"⟩ asked
    (by decide +kernel)).1 rfl
  have success := (reflects (by decide +kernel)).success
  exact ⟨returned, success.mpr ⟨_, returned, by decide⟩, effects⟩

end EnumTables.CommandLine
