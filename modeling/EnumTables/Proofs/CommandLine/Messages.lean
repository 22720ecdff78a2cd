import EnumTables.Proofs.CommandLine.Wording
import EnumTables.Proofs.InStep

/-!
# Messages of the command

What the command that syncs a commit prints.  Printing has no effects outside, and it fails only on
markup.  Main statement: if no bracket opens in the texts from outside that are put into a message,
the message is printed.
-/

namespace EnumTables.CommandLine

open Markup

/-! ## Printing -/

section Printing

variable {w : World} {p : Event → Prop} {schema : String}

/-- Text that is rendered is printed and nothing else is done. -/
theorem silent_say {markup : String} (h : ∃ text, render markup = .ok text) :
    Act.Silent w (say markup) () := by
  obtain ⟨text, rendered⟩ := h
  rw [say, rendered]
  exact fun _ ↦ ⟨rfl, rfl⟩

variable (outputs : ∀ text, p (.output text))

include outputs

theorem madeOf_say (markup : String) : (say markup).MadeOf p :=
  (Act.MadeOf.ofExcept _).bind fun _ ↦ .emit (outputs _)

theorem madeOf_showTables (ts : List EnumTable) : (showTables ts).MadeOf p := by
  induction ts with
  | nil => exact .pure _
  | cons t ts ih =>
    have shown : (showTable t).MadeOf p :=
      (Act.MadeOf.ofExcept _).bind fun _ ↦ .emit (outputs _)
    exact shown.bind fun _ ↦ ih

theorem madeOf_reportResults (results : List LoadResult) :
    (reportResults schema results).MadeOf p := by
  induction results with
  | nil => exact .pure _
  | cons r results ih =>
    have reported : (reportResult schema r).MadeOf p := by
      rw [reportResult]
      split
      · exact madeOf_say outputs _
      · exact madeOf_say outputs _
    exact reported.bind fun _ ↦ ih

end Printing

/-! ## Messages -/

/-- A text without opening brackets, in which there can be no tag. -/
def Plain (s : String) : Prop := '[' ∉ s.toList

instance (s : String) : Decidable (Plain s) := inferInstanceAs (Decidable (¬ _))

namespace Plain

variable {s t : String}

theorem append (hs : Plain s) (ht : Plain t) : Plain (s ++ t) := by
  intro member
  rw [String.toList_append] at member
  rcases List.mem_append.mp member with member | member
  · exact hs member
  · exact ht member

theorem nat (n : Nat) : Plain (toString n) := (inert_nat n).not_mem rfl

theorem escape (hs : Plain s) : Plain (Markup.escape s) := not_mem_escape hs

theorem qualifiedName (hs : Plain s) (ht : Plain t) : Plain (qualifiedName s t) :=
  (hs.append (t := ".") (by decide)).append ht

theorem display {c : Hosting.Commit} (owner : Plain c.owner) (repository : Plain c.repository)
    (sha : Plain c.sha) : Plain c.display :=
  (((owner.append (t := "/") (by decide)).append repository).append (t := "@") (by decide)).append
    sha

end Plain

/-- The texts from outside that are put into a message. -/
def Message.texts : Message → List String
  | .syncing commit => [commit.owner, commit.repository, commit.sha]
  | .pattern s | .unfetched s => [s]
  | .loaded name _ => [name]
  | .failed name reason => [name, reason]
  | .declared .. | .dryRun | .complete | .incomplete _ => []

/-- No bracket opens in the parts of a message if none opens in its texts. -/
theorem plain_parts {m : Message} (plain : ∀ s ∈ m.texts, Plain s) :
    Plain m.inside ∧ Plain m.after := by
  have nothing : Plain "" := by decide
  cases m with
  | syncing commit =>
    have plain : ∀ s ∈ [commit.owner, commit.repository, commit.sha], Plain s := plain
    simp only [List.forall_mem_cons] at plain
    obtain ⟨owner, repository, sha, -⟩ := plain
    have fixed : Plain "Syncing:" := by decide
    exact ⟨fixed, .append (by decide) (.display owner repository sha)⟩
  | pattern s | unfetched s =>
    have plain : Plain s := plain s List.mem_cons_self
    exact ⟨.append (by decide) plain, nothing⟩
  | declared tables sources =>
    have counted : Plain (toString sources ++ " files declare enums") :=
      .append (.nat sources) (by decide)
    have trail : Plain "\n" := by decide
    exact ⟨.append (.nat tables) (.append (by decide) counted), trail⟩
  | loaded name rows =>
    have plain : Plain name := plain name List.mem_cons_self
    have counted : Plain (toString rows ++ " rows") := .append (.nat rows) (by decide)
    have fixed : Plain "o" := by decide
    exact ⟨fixed, .append (by decide) (.append plain (.append (by decide) counted))⟩
  | failed name reason =>
    have named : Plain name := plain name List.mem_cons_self
    have given : Plain reason := plain reason (List.mem_cons_of_mem _ List.mem_cons_self)
    exact ⟨.append (by decide) (.append named (.append (by decide) given.escape)), nothing⟩
  | dryRun =>
    have fixed : Plain "Dry run - no data loaded" := by decide
    exact ⟨fixed, nothing⟩
  | complete =>
    have fixed : Plain "Sync complete" := by decide
    exact ⟨fixed, nothing⟩
  | incomplete tables => exact ⟨.append (.nat tables) (by decide), nothing⟩

/-- A message is printed and nothing else is done if no bracket opens in its texts. -/
theorem silent_message {w : World} (m : Message) (plain : ∀ s ∈ m.texts, Plain s) :
    Act.Silent w (say m.markup) () := by
  have begun := m.inert_before
  obtain ⟨inside, after⟩ := plain_parts plain
  exact silent_say (exists_render (isStyle_of_mem m.style_mem) m.toList_markup
    (begun.not_mem rfl) (begun.not_mem rfl) inside after)

/-! ## Texts from outside -/

/-- What is said before the fetch. -/
def announcement (settings : Settings) (commit : Hosting.Commit) : List Message :=
  [.syncing commit, .pattern settings.sourcePattern]

/-- The texts from outside that are printed before the fetch. -/
def announced (settings : Settings) (commit : Hosting.Commit) : List String :=
  [commit.owner, commit.repository, commit.sha, settings.sourcePattern]

theorem silent_announcement {w : World} {settings : Settings} {commit : Hosting.Commit}
    (plain : ∀ s ∈ announced settings commit, Plain s) :
    ∀ m ∈ announcement settings commit, Act.Silent w (say m.markup) () := by
  have plain : ∀ s ∈ (announcement settings commit).flatMap Message.texts, Plain s := plain
  intro m member
  exact silent_message m fun s text ↦ plain s (List.mem_flatMap.mpr ⟨m, member, text⟩)

/-- The texts from outside in the message about a table. -/
def textsOf (schema : String) (r : LoadResult) : List String :=
  match r.outcome with
  | .loaded _ => [schema, r.tableId]
  | .failed message => [schema, r.tableId, message]

/-- The texts from outside that are printed after the fetch or, if it succeeds, after the load. -/
def reported (schema : String) (fetched : Except Fault (List String))
    (synced : Except Fault (List LoadResult)) : List String :=
  match fetched, synced with
  | .error e, _ => if e.isTransport then [e.message] else []
  | .ok _, .error _ => []
  | .ok _, .ok results => results.flatMap (textsOf schema)

/-- The message about the load of a table. -/
def report (schema : String) (r : LoadResult) : Message :=
  let name := qualifiedName schema r.tableId
  match r.outcome with
  | .loaded rows => .loaded name rows
  | .failed reason => .failed name reason

section Reports

variable {w : World} {schema : String}

theorem reportResult_eq (schema : String) (r : LoadResult) :
    reportResult schema r = say (report schema r).markup := by
  obtain ⟨tableId, outcome⟩ := r
  cases outcome <;> rfl

theorem silent_reportResult {r : LoadResult} (plain : ∀ s ∈ textsOf schema r, Plain s) :
    Act.Silent w (reportResult schema r) () := by
  rw [reportResult_eq]
  refine silent_message (report schema r) ?_
  obtain ⟨tableId, outcome⟩ := r
  have named : Plain (qualifiedName schema tableId) := by
    refine .qualifiedName (plain schema ?_) (plain tableId ?_) <;> cases outcome <;> simp [textsOf]
  cases outcome with
  | loaded rows => exact List.forall_mem_singleton.mpr named
  | failed reason =>
    have given : Plain reason := plain reason (by simp [textsOf])
    exact List.forall_mem_cons.mpr ⟨named, List.forall_mem_singleton.mpr given⟩

theorem silent_reportResults {results : List LoadResult}
    (plain : ∀ s ∈ results.flatMap (textsOf schema), Plain s) :
    Act.Silent w (reportResults schema results) () := by
  induction results with
  | nil => exact Act.silent_pure ()
  | cons r results ih =>
    rw [List.flatMap_cons, List.forall_mem_append] at plain
    exact (silent_reportResult plain.1).bind (ih plain.2)

end Reports

end EnumTables.CommandLine
