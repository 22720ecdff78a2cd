import EnumTables.Proofs.CommandLine.Agreement
import EnumTables.Proofs.Console.Grid

/-!
# The transcript of a sync

What the command prints from its beginning to its end.  A transcript is a list of messages and tables
that are printed one after the other, up to the first one that cannot be rendered.  Main statement:
the command prints its transcript and ends as the sync does unless a message cannot be rendered; if
the texts from outside can be shown, all messages stand as they are worded.
-/

namespace EnumTables

/-- What a trace prints on the standard output. -/
def Trace.output (t : Trace) : String := String.join (t.map CommandLine.outputOf)

theorem Trace.output_append (s t : Trace) : output (s ++ t) = output s ++ output t := by
  rw [output, List.map_append, String.join_append]
  rfl

/-- A trace of events that print nothing prints nothing. -/
theorem Trace.output_eq_empty {t : Trace} (h : ∀ e ∈ t, CommandLine.outputOf e = "") :
    output t = "" := by
  induction t with
  | nil => rfl
  | cons e t ih =>
    obtain ⟨first, rest⟩ := List.forall_mem_cons.mp h
    change String.join (CommandLine.outputOf e :: t.map CommandLine.outputOf) = ""
    rw [String.join_cons, first, String.empty_append]
    exact ih rest

namespace CommandLine

open Act Markup

/-! ## Transcripts -/

/-- Lines on the console, each with a line feed. -/
def onConsole (lines : List (List Char)) : String := String.ofList (lines.flatMap (· ++ ['\n']))

/-- A text on the console, where it is broken into lines. -/
def printed (s : String) : String :=
  onConsole (Console.layout .free .fold consoleWidth s.toList)

/-- A part of what a sync prints. -/
inductive Item where
  | message (m : Message)
  | table (t : EnumTable)

/-- What is printed of an item. -/
def Item.shown : Item → Except Markup.Error String
  | .message m => (render m.markup).map printed
  | .table t => (Console.drawTable t).map onConsole

/-- What is printed of items one after the other, up to the first one that cannot be rendered, and
what is wrong with that one. -/
def play : List Item → String × Option Markup.Error
  | [] => ("", none)
  | x :: items =>
    match x.shown with
    | .ok s => (s ++ (play items).1, (play items).2)
    | .error e => ("", some e)

/-- A result, unless what was printed before it is wrong. -/
def resultAfter {α : Type} (wrong : Option Markup.Error) (r : Except Fault α) : Except Fault α :=
  match wrong with
  | some e => .error (.markup e)
  | none => r

theorem play_append_of_none {items items' : List Item} (right : (play items).2 = none) :
    play (items ++ items') = ((play items).1 ++ (play items').1, (play items').2) := by
  induction items with
  | nil => rw [play, String.empty_append]; rfl
  | cons x items ih =>
    rw [List.cons_append, play]
    rw [play] at right ⊢
    cases h : x.shown with
    | ok s =>
      rw [h] at right
      dsimp only at right ⊢
      rw [ih right, String.append_assoc]
    | error e =>
      rw [h] at right
      nomatch right

theorem play_append_of_some {items items' : List Item} {e : Markup.Error}
    (wrong : (play items).2 = some e) : play (items ++ items') = play items := by
  induction items with
  | nil => nomatch wrong
  | cons x items ih =>
    rw [List.cons_append, play]
    rw [play] at wrong ⊢
    cases h : x.shown with
    | ok s =>
      rw [h] at wrong
      dsimp only at wrong ⊢
      rw [ih wrong]
    | error e => rfl

/-- The message after the load of all tables. -/
def closing (results : List LoadResult) : Message :=
  let failed := results.countP fun r ↦ !r.isLoaded
  if failed = 0 then .complete else .incomplete failed

/-- What is printed of a load. -/
def reports (schema : String) : Except Fault (List LoadResult) → List Item
  | .error _ => []
  | .ok results => (results.map fun r ↦ .message (report schema r)) ++ [.message (closing results)]

/-- What a sync prints behind its announcement, by what came of the fetch and of the load.  A dry run
shows the tables and loads nothing. -/
def outcome (schema : String) (dryRun : Bool) (fetched : Except Fault (List String))
    (loaded : Except Fault (List LoadResult)) : List Item :=
  match fetched with
  | .error e => if e.isTransport then [.message (.unfetched e.message)] else []
  | .ok sources =>
    .message (.declared (tablesOf sources).length sources.length) ::
      if dryRun then (tablesOf sources).map .table ++ [.message .dryRun]
      else reports schema loaded

/-- What a sync prints. -/
def transcript (settings : Settings) (commit : Hosting.Commit) (dryRun : Bool)
    (fetched : Except Fault (List String)) (loaded : Except Fault (List LoadResult)) : List Item :=
  (announcement settings commit).map .message ++
    outcome settings.targetSchema dryRun fetched loaded

/-! ## Acts that print -/

section Printing

variable {α β : Type} {w : World} {past : Trace} {x : Act α} {f : α → Act β}
  {items items' : List Item} {a : α} {r : Except Fault β}

/-- Behind what was done before, an act prints items and comes to a result. -/
structure Plays (w : World) (past : Trace) (x : Act α) (items : List Item) (r : Except Fault α) :
    Prop where
  output : (x.run w past).events.output = (play items).1
  result : (x.run w past).result = resultAfter (play items).2 r

/-- An act only prints items and returns a value. -/
structure Says (w : World) (x : Act α) (items : List Item) (a : α) : Prop where
  plays : ∀ past, Plays w past x items (.ok a)
  untold : ∀ past, (x.run w past).events.commands = []

/-- A bind goes on with what its first act returns, unless that act could not print its items. -/
theorem Plays.bind (first : Plays w past x items (.ok a))
    (rest : ∀ past', past'.commands = past.commands ++ (x.run w past).events.commands →
      Plays w past' (f a) items' r) :
    Plays w past (x >>= f) (items ++ items') r := by
  have last := rest _ (Trace.commands_append past (x.run w past).events)
  obtain ⟨output, result⟩ := first
  cases wrong : (play items).2 with
  | none =>
    rw [wrong] at result
    have ran := run_bind_of_ok (f := f) result
    constructor
    · rw [ran, Trace.output_append, output, last.output, play_append_of_none wrong]
    · rw [ran, last.result, play_append_of_none wrong]
  | some e =>
    rw [wrong] at result
    have ran := run_bind_of_error (f := f) result
    constructor
    · rw [ran, output, play_append_of_some wrong]
    · rw [ran, play_append_of_some wrong, wrong]
      rfl

/-- A bind whose first act fails prints what that act does. -/
theorem Plays.bind_error {e : Fault} (first : Plays w past x items (.error e)) :
    Plays w past (x >>= f) items (.error e) := by
  obtain ⟨output, result⟩ := first
  cases wrong : (play items).2 with
  | none | some _ =>
    rw [wrong] at result
    have ran := run_bind_of_error (f := f) result
    constructor
    · rw [ran, output]
    · rw [ran, wrong]
      rfl

/-- Behind an act that only prints, nothing more was told to the database. -/
theorem Says.bind_plays (first : Says w x items a)
    (rest : ∀ past', past'.commands = past.commands → Plays w past' (f a) items' r) :
    Plays w past (x >>= f) (items ++ items') r := by
  refine (first.plays past).bind fun past' told ↦ rest past' ?_
  rw [told, first.untold, List.append_nil]

theorem Says.bind {b : β} (first : Says w x items a) (rest : Says w (f a) items' b) :
    Says w (x >>= f) (items ++ items') b where
  plays past := first.bind_plays fun past' _ ↦ rest.plays past'
  untold past := by
    have said := first.untold past
    obtain ⟨-, result⟩ := first.plays past
    cases wrong : (play items).2 with
    | none =>
      rw [wrong] at result
      rw [run_bind_of_ok result, Trace.commands_append, said, rest.untold]
      rfl
    | some e =>
      rw [wrong] at result
      rw [run_bind_of_error result, said]

/-- An act that prints nothing plays nothing. -/
theorem plays_nil {x : Act α} {r : Except Fault α} (silent : x.EmitsOnly (outputOf · = ""))
    (result : (x.run w past).result = r) : Plays w past x [] r :=
  ⟨Trace.output_eq_empty (silent w past), result⟩

theorem says_pure (a : α) : Says w (pure a) [] a :=
  ⟨fun _ ↦ plays_nil (emitsOnly_pure a) rfl, fun _ ↦ rfl⟩

theorem says_environment : Says w environment [] w.environment :=
  ⟨fun _ ↦ ⟨rfl, rfl⟩, fun _ ↦ rfl⟩

/-- An item is said by rendering it and then printing it. -/
theorem says_item {y : Except Markup.Error α} {g : α → String} {item : Item}
    (shown : item.shown = y.map g) :
    Says w (do
      let a ← ofExcept (y.mapError .markup)
      emit (.output (g a))) [item] () := by
  cases y with
  | ok a =>
    have played : play [item] = (g a ++ "", none) := by
      rw [play, shown]
      rfl
    refine ⟨fun past ↦ ⟨?_, ?_⟩, fun past ↦ rfl⟩
    · rw [played]
      exact String.join_cons
    · rw [played]
      rfl
  | error e =>
    have played : play [item] = ("", some e) := by
      rw [play, shown]
      rfl
    refine ⟨fun past ↦ ⟨?_, ?_⟩, fun past ↦ rfl⟩
    · rw [played]
      rfl
    · rw [played]
      rfl

theorem says_message (m : Message) : Says w (say m.markup) [.message m] () :=
  says_item (y := render m.markup) (g := printed) rfl

theorem says_showTables (tables : List EnumTable) :
    Says w (showTables tables) (tables.map .table) () := by
  induction tables with
  | nil => exact says_pure ()
  | cons t tables ih => exact (says_item rfl).bind (f := fun _ ↦ _) ih

theorem says_buildTables (sources : List String) :
    Says w (buildTables sources) [] (tablesOf sources) where
  plays past := by
    refine plays_nil (fun w past e member ↦ ?_) (result_buildTables sources w past)
    obtain ⟨record, rfl⟩ := onlyLogs_buildTables sources w past e member
    rfl
  untold past := (onlyLogs_buildTables sources w past).commands_eq_nil

/-! ## The load -/

theorem says_reportResults (schema : String) (results : List LoadResult) :
    Says w (reportResults schema results)
      (results.map fun r ↦ .message (report schema r)) () := by
  induction results with
  | nil => exact says_pure ()
  | cons r results ih =>
    rw [reportResults, reportResult_eq]
    exact (says_message _).bind (f := fun _ ↦ _) ih

/-- The end of a load is said in one message. -/
theorem says_closing (results : List LoadResult) :
    Says w (if results.countP (fun r ↦ !r.isLoaded) = 0 then do
        say Message.complete.markup
        return 0
      else do
        say (Message.incomplete (results.countP fun r ↦ !r.isLoaded)).markup
        return 1) [.message (closing results)]
      (if results.all LoadResult.isLoaded then 0 else 1) := by
  rw [closing]
  split
  · rename_i none
    rw [if_pos ((all_isLoaded_iff results).mpr none)]
    exact (says_message .complete).bind (says_pure 0)
  · rename_i some
    rw [if_neg (mt (all_isLoaded_iff results).mp some)]
    exact (says_message (.incomplete _)).bind (says_pure 1)

/-- A load prints nothing, and what came of it is reported table by table. -/
theorem plays_runLoad {schema : String} {tables : List EnumTable} (sources : List String)
    {loaded : Except Fault (List LoadResult)}
    (result : ((loadTables schema tables).run w past).result = loaded) :
    Plays w past (runLoad schema tables) (reports schema loaded) (ending (.ok sources) loaded) := by
  have silent : (loadTables schema tables).EmitsOnly (outputOf · = "") :=
    (madeOf_loadTables (fun _ ↦ rfl) (fun _ ↦ rfl) tables).emitsOnly
  have load := plays_nil silent result
  cases loaded with
  | error e => exact load.bind_error
  | ok results =>
    have reported := (says_reportResults (w := w) schema results).bind (f := fun _ ↦ _)
      (says_closing results)
    exact load.bind fun past' _ ↦ reported.plays past'

end Printing

/-! ## The whole sync -/

section Sync

variable {w : World} {past : Trace} {settings : Settings} {commit : Hosting.Commit}

/-- A fetch prints nothing and comes to the same result whatever was printed before. -/
theorem plays_fetch (client : Hosting.Client) (pattern : String) (untold : past.commands = []) :
    Plays w past (attempt (Hosting.sources client commit pattern)) []
      (.ok ((Hosting.sources client commit pattern).run w []).result) := by
  have silent : (attempt (Hosting.sources client commit pattern)).EmitsOnly (outputOf · = "") :=
    (Hosting.madeOf_sources (fun _ ↦ rfl) (fun _ ↦ rfl) pattern).emitsOnly
  have made : (Hosting.sources client commit pattern).MadeOf fun _ ↦ True :=
    Hosting.madeOf_sources (fun _ ↦ trivial) (fun _ ↦ trivial) pattern
  have same : (Hosting.sources client commit pattern).run w past =
      (Hosting.sources client commit pattern).run w [] := made.run_congr untold
  refine plays_nil silent ?_
  rw [run_attempt, same]

/-- Behind a fetch the load comes to the result of the whole sync. -/
theorem result_loadTables (client : Hosting.Client) {sources : List String}
    (fetched : ((Hosting.sources client commit settings.sourcePattern).run w []).result =
      .ok sources) (untold : past.commands = []) :
    ((loadTables settings.targetSchema (tablesOf sources)).run w past).result =
      ((syncCommit settings client commit).run w []).result := by
  obtain ⟨logs, onlyLogs, ran⟩ := exists_run_syncCommit_of_ok fetched
  have told := Hosting.commands_sources w [] client commit settings.sourcePattern
  have made : (loadTables settings.targetSchema (tablesOf sources)).MadeOf fun _ ↦ True :=
    madeOf_loadTables (fun _ ↦ trivial) (fun _ ↦ trivial) _
  rw [ran]
  change _ = ((loadTables settings.targetSchema (tablesOf sources)).run w _).result
  refine congrArg Run.result (made.run_congr ?_)
  rw [untold, List.nil_append, Trace.commands_append, told, onlyLogs.commands_eq_nil]
  rfl

/-- What is printed behind the fetch. -/
theorem plays_outcome (client : Hosting.Client) (dryRun : Bool)
    {fetched : Except Fault (List String)}
    (fetch : ((Hosting.sources client commit settings.sourcePattern).run w []).result = fetched)
    (untold : past.commands = []) :
    let loaded := if dryRun then .ok [] else ((syncCommit settings client commit).run w []).result
    Plays w past (match fetched with
      | .error e =>
        if e.isTransport then do
          say (Message.unfetched e.message).markup
          return 1
        else Act.throw e
      | .ok sources => do
        let tables ← buildTables sources
        say (Message.declared tables.length sources.length).markup
        if dryRun then
          showTables tables
          say Message.dryRun.markup
          return 0
        else runLoad settings.targetSchema tables)
      (outcome settings.targetSchema dryRun fetched loaded) (ending fetched loaded) := by
  intro loaded
  cases fetched with
  | error e =>
    by_cases transport : e.isTransport = true
    · have told : Says w (do
          say (Message.unfetched e.message).markup
          return 1) [.message (.unfetched e.message)] 1 :=
        (says_message _).bind (f := fun _ ↦ pure 1) (says_pure 1)
      simp only [outcome, ending, if_pos transport]
      exact told.plays past
    · simp only [outcome, ending, if_neg transport]
      exact plays_nil (emitsOnly_throw e) rfl
  | ok sources =>
    refine (says_buildTables sources).bind_plays fun past' untold' ↦ ?_
    refine (says_message (.declared _ _)).bind_plays fun past'' untold'' ↦ ?_
    cases dryRun with
    | true =>
      have last : Says w (do
          say Message.dryRun.markup
          return 0) [.message .dryRun] 0 :=
        (says_message .dryRun).bind (f := fun _ ↦ pure 0) (says_pure 0)
      exact ((says_showTables (tablesOf sources)).bind (f := fun _ ↦ _) last).plays past''
    | false =>
      have result := result_loadTables client fetch (untold''.trans (untold'.trans untold))
      exact plays_runLoad sources result

/-- The command prints its transcript and ends as the sync does, unless a message cannot be
rendered. -/
theorem plays_runSync (commit : Hosting.Commit) (dryRun : Bool) :
    let settings := Settings.ofEnvironment w.environment
    let client := Hosting.Client.ofSettings settings
    let fetched := ((Hosting.sources client commit settings.sourcePattern).run w []).result
    let loaded := if dryRun then .ok [] else ((syncCommit settings client commit).run w []).result
    Plays w [] (runSync commit dryRun) (transcript settings commit dryRun fetched loaded)
      (ending fetched loaded) := by
  intro settings client fetched loaded
  refine says_environment.bind_plays fun past untold ↦ ?_
  refine (says_message (.syncing commit)).bind_plays fun past' untold' ↦ ?_
  refine (says_message (.pattern settings.sourcePattern)).bind_plays fun past'' untold'' ↦ ?_
  have silent : past''.commands = [] := untold''.trans (untold'.trans untold)
  refine (plays_fetch client settings.sourcePattern silent).bind fun past told ↦ ?_
  refine plays_outcome client dryRun rfl ?_
  rw [told, silent]
  exact Hosting.commands_sources w past'' client commit settings.sourcePattern

end Sync

/-! ## Texts that are shown -/

/-- The title of a table on the console. -/
def title (t : EnumTable) : String := s!"{t.tableId} ({t.rowCount} rows)"

/-- All that is said in a message is shown, and a table is shown below what is rendered of its
title. -/
inductive Item.ShownAs : Item → String → Prop
  | message (m : Message) : ShownAs (.message m) (printed m.text)
  | table {t : EnumTable} {cs : List Char} (titled : Console.cellText (title t) = .ok cs)
      (total : Nat) (rest : List (List Char)) :
      ShownAs (.table t) (onConsole (Console.layout .centre .fold total cs ++ rest))

/-- A message is shown if the texts in it can be. -/
theorem exists_shown_message {m : Message} (shows : m.Shows) :
    ∃ s, (Item.message m).shown = .ok s ∧ (Item.message m).ShownAs s :=
  ⟨_, map_eq_ok_iff.mpr ⟨_, Message.render_markup shows, rfl⟩, .message m⟩

/-- The table of an enum is always shown. -/
theorem exists_shown_table {sources : List String} {t : EnumTable} (member : t ∈ tablesOf sources) :
    ∃ s, (Item.table t).shown = .ok s ∧ (Item.table t).ShownAs s := by
  obtain ⟨cs, total, rest, titled, drawn⟩ :=
    Console.exists_drawTable (inert_of_mem_tablesOf member)
  exact ⟨_, map_eq_ok_iff.mpr ⟨_, drawn, rfl⟩, .table titled total rest⟩

/-- The title of a table stands as it is exactly if it can be escaped. -/
theorem cellText_title_iff (t : EnumTable) :
    Console.cellText (title t) = .ok (title t).toList ↔ IsEscapable (title t).toList := by
  have ends : (title t).toList.getLast? ≠ some '\\' := by
    have trail : Inert " rows)".toList := rfl
    rw [title, String.toList_append]
    exact trail.getLast?_append_ne (by decide)
  rw [← render_escape_iff ends, Console.cellText, map_eq_ok_iff]
  constructor
  · rintro ⟨s, rendered, same⟩
    rwa [String.toList_injective same] at rendered
  · exact fun rendered ↦ ⟨_, rendered, rfl⟩

/-- Items that can all be shown are printed one after the other. -/
theorem exists_play_eq_join {items : List Item}
    (h : ∀ x ∈ items, ∃ s, x.shown = .ok s ∧ x.ShownAs s) :
    ∃ texts, List.Forall₂ Item.ShownAs items texts ∧ play items = (String.join texts, none) := by
  induction items with
  | nil => exact ⟨[], .nil, rfl⟩
  | cons x items ih =>
    obtain ⟨first, others⟩ := List.forall_mem_cons.mp h
    obtain ⟨s, shown, asIs⟩ := first
    obtain ⟨texts, rest, played⟩ := ih others
    refine ⟨s :: texts, .cons asIs rest, ?_⟩
    rw [play, shown, played, String.join_cons]

/-- What is shown of messages is what they say. -/
theorem eq_of_shownAs_messages {messages : List Message} {texts : List String}
    (h : List.Forall₂ Item.ShownAs (messages.map .message) texts) :
    texts = messages.map fun m ↦ printed m.text := by
  induction messages generalizing texts with
  | nil =>
    cases h
    rfl
  | cons m messages ih =>
    cases h with
    | cons first rest =>
      cases first
      rw [ih rest]
      rfl

/-- A sync only shows the tables of its sources. -/
theorem exists_of_table_mem {settings : Settings} {commit : Hosting.Commit} {dryRun : Bool}
    {fetched : Except Fault (List String)} {loaded : Except Fault (List LoadResult)} {t : EnumTable}
    (member : .table t ∈ transcript settings commit dryRun fetched loaded) :
    ∃ sources, t ∈ tablesOf sources := by
  cases fetched with
  | error e =>
    simp only [transcript, announcement, outcome, List.map_cons, List.cons_append, List.mem_cons,
      reduceCtorEq, false_or] at member
    split at member <;> simp at member
  | ok sources =>
    cases dryRun with
    | true => exact ⟨sources, by simpa [transcript, announcement, outcome] using member⟩
    | false => cases loaded <;> simp [transcript, announcement, outcome, reports] at member

/-! ## The whole program -/

/-- A program ends with the exit code of its command; a fault that is no interruption leaves it. -/
def Outcome.EndsWith (o : Outcome) : Except Fault Nat → Prop
  | .ok code => o.exitCode = code ∧ o.raised = none
  | .error e => o.exitCode = 1 ∧ o.raised = if e.isInterrupt then none else some e

section Program

variable {w : World} {arguments : List String}

/-- The program prints on the standard output what its command prints. -/
theorem standardOutput_of_read {i : Invocation}
    (asked : readInvocation w.files arguments = .ok i) :
    (execute w arguments).standardOutput = (i.command.run.run w []).events.output := by
  have invoked : invoke w.files arguments = (i.verbose, runGuarded i.command) := by
    rw [invoke, asked]
  have ran : (runGuarded i.command).run w [] = _ := run_runGuarded rfl
  simp only [execute, invoked, ran]
  split
  · rfl
  · split
    · change Trace.output (_ ++ [Event.complaint "\nAborted!\n"]) = _
      rw [Trace.output_append]
      exact String.append_empty
    · rfl

/-- What has the effects of the fetch sends the requests of the sync and gives no commands. -/
theorem requests_of_effects_eq {t : Trace} {settings : Settings} {client : Hosting.Client}
    {commit : Hosting.Commit} (fetched : t.effects =
      ((Hosting.sources client commit settings.sourcePattern).run w []).events.effects) :
    t.requests = ((syncCommit settings client commit).run w []).events.requests ∧
      t.commands = [] := by
  constructor
  · rw [← Trace.requests_effects, fetched, Trace.requests_effects]
    exact (requests_syncCommit settings client commit w []).symm
  · rw [← Trace.commands_effects, fetched, Trace.commands_effects]
    exact Hosting.commands_sources w [] client commit settings.sourcePattern

/-- The program that is asked to sync a commit prints the transcript of that sync, up to the first
message that cannot be rendered, and that message alone can make it end otherwise than the sync.  What
it does outside is what the sync does, or the fetch alone in a dry run, once the commit and the pattern
are announced.

If the texts from outside can be shown in the messages, nothing stops the transcript and every message
stands in it as it is worded.  Nothing less will do for a message in which nothing needs escaping; a
table is always drawn, and its title stands as it is exactly if it can be escaped. -/
theorem execute_plays_transcript (w : World) (arguments : List String) (verbose dryRun : Bool)
    (commit : Hosting.Commit) (asked : readInvocation w.files arguments =
      .ok ⟨verbose, .sync commit.owner commit.repository commit.sha dryRun⟩) :
    let settings := Settings.ofEnvironment w.environment
    let client := Hosting.Client.ofSettings settings
    let fetched := ((Hosting.sources client commit settings.sourcePattern).run w []).result
    let sync := (syncCommit settings client commit).run w []
    let loaded := if dryRun then .ok [] else sync.result
    let items := transcript settings commit dryRun fetched loaded
    let o := execute w arguments
    (o.standardOutput = (play items).1 ∧
      o.EndsWith (resultAfter (play items).2 (ending fetched loaded))) ∧
    ((∀ m ∈ announcement settings commit, m.Shows) →
      (dryRun = false → o.trace.effects = sync.events.effects) ∧
      (dryRun = true → o.trace.requests = sync.events.requests ∧ o.trace.commands = [])) ∧
    ((∀ m, .message m ∈ items → m.Shows) →
      ∃ texts, List.Forall₂ Item.ShownAs items texts ∧ play items = (String.join texts, none)) ∧
    (∀ m, .message m ∈ items → (∀ name reason, m = .failed name reason → Inert reason.toList) →
      (render m.markup = .ok m.text ↔ m.Shows)) ∧
    ∀ t, .table t ∈ items →
      (Console.cellText (title t) = .ok (title t).toList ↔ IsEscapable (title t).toList) := by
  intro settings client fetched sync loaded items o
  obtain ⟨output, result⟩ := plays_runSync (w := w) commit dryRun
  obtain ⟨effects, ended⟩ := execute_of_read asked
  refine ⟨⟨?_, ?_⟩, fun shows ↦ ?_, fun shows ↦ ?_, fun m _ ↦ Message.render_markup_iff,
    fun t _ ↦ cellText_title_iff t⟩
  · exact (standardOutput_of_read asked).trans output
  · change o.EndsWith ((runSync commit dryRun).run w []).result at ended
    rwa [result] at ended
  · have told : ∀ m ∈ announcement settings commit, Silent w (say m.markup) () :=
      fun m member ↦ silent_say ⟨_, Message.render_markup (shows m member)⟩
    constructor
    · rintro rfl
      exact effects.trans (inStep_runSync_of_announced [] commit told rfl).1
    · rintro rfl
      exact requests_of_effects_eq
        (effects.trans (inStep_runSync_dry_of_announced [] [] commit told rfl).1)
  · refine exists_play_eq_join fun x member ↦ ?_
    cases x with
    | message m => exact exists_shown_message (shows m member)
    | table t =>
      obtain ⟨sources, member⟩ := exists_of_table_mem member
      exact exists_shown_table member

end Program

/-- The world of `oneSource` with another environment. -/
def oneSourceIn (environment : Environment) : World := { oneSource with environment }

/-- A class of upper-case letters in the source pattern is no markup. -/
theorem execute_plays_transcript_upperCase :
    let o := execute (oneSourceIn [("ENUM_SOURCE_PATTERN", "[A-Z]")])
      ["sync", "--owner", "a", "--repo", "b", "--sha", "c"]
    o.standardOutput = "\nSyncing: a/b@c\nPattern: [A-Z]\n1 of 1 files declare enums\n\n" ++
      "  o enums.flag: 1 rows\n\nSync complete\n" ∧ o.exitCode = 0 ∧ o.raised = none := by
  intro o
  let w := oneSourceIn [("ENUM_SOURCE_PATTERN", "[A-Z]")]
  let commit : Hosting.Commit := ⟨"a", "b", "c"⟩
  have asked := readInvocation_sync w.files commit false
  obtain ⟨⟨output, ended⟩, -, verbatim, -, -⟩ := execute_plays_transcript w
    ["sync", "--owner", "a", "--repo", "b", "--sha", "c"] false false commit asked
  have fetched : ((Hosting.sources (.ofSettings (.ofEnvironment w.environment)) commit
      (Settings.ofEnvironment w.environment).sourcePattern).run w []).result =
      .ok ["enum Flag { ON; }"] := eq_ok_of_toOption (by decide +kernel)
  have loaded : ((syncCommit (.ofEnvironment w.environment)
      (.ofSettings (.ofEnvironment w.environment)) commit).run w []).result =
      .ok [⟨"flag", .loaded 1⟩] := eq_ok_of_toOption (by decide +kernel)
  rw [if_neg Bool.false_ne_true] at output ended verbatim
  rw [fetched, loaded] at output ended verbatim
  let messages : List Message :=
    [.syncing commit, .pattern "[A-Z]", .declared 1 1, .loaded "enums.flag" 1, .complete]
  have items : transcript (.ofEnvironment w.environment) commit false (.ok ["enum Flag { ON; }"])
      (.ok [⟨"flag", .loaded 1⟩]) = messages.map .message := by
    have tables : (tablesOf ["enum Flag { ON; }"]).length = 1 := by decide +kernel
    rw [transcript, outcome, tables]
    rfl
  have shows : ∀ m ∈ messages, m.Shows := by
    simp only [messages, List.forall_mem_cons]
    have commit : IsLiteral commit.display.toList := by decide +kernel
    have pattern : IsLiteral "[A-Z]".toList := by decide +kernel
    have name : IsLiteral "enums.flag".toList := by decide +kernel
    exact ⟨commit, ⟨pattern, by decide +kernel⟩, trivial, name, trivial, List.forall_mem_nil _⟩
  rw [items] at output ended verbatim
  obtain ⟨texts, shownAs, played⟩ := verbatim fun m member ↦ by
    obtain ⟨_, listed, same⟩ := List.mem_map.mp member
    cases same
    exact shows m listed
  rw [played] at output ended
  refine ⟨output.trans ?_, ended⟩
  rw [eq_of_shownAs_messages shownAs]
  decide +kernel

/-- A class of lower-case letters in the source pattern is taken for a tag and left out, and a schema
that is taken for a closing tag stops the program when its tables are loaded already. -/
theorem execute_takes_text_for_markup :
    let dry := execute (oneSourceIn [("ENUM_SOURCE_PATTERN", "enums/[a-z]+\\.java")])
      ["sync", "--owner", "a", "--repo", "b", "--sha", "c", "--dry-run"]
    let live := execute (oneSourceIn [("ENUM_SOURCE_PATTERN", "F"), ("ENUM_SCHEMA", "[/x]")])
      ["sync", "--owner", "a", "--repo", "b", "--sha", "c"]
    dry.standardOutput = "\nSyncing: a/b@c\nPattern: enums/+\\.java\n" ++
      "0 of 0 files declare enums\n\n\nDry run - no data loaded\n" ∧
    .commit ∈ live.trace.commands ∧ live.exitCode = 1 ∧
    live.raised = some (.markup (.notOpen "/x" 16)) := by
  decide +kernel

end CommandLine

end EnumTables
