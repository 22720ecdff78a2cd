import EnumTables.CommandLine.Run
import EnumTables.Proofs.Console.Escape

/-!
# The wording of messages

The messages about a sync are spelled with markup: a style for a part of each, and texts from outside
put in as they are.  Main statement: such a message shows its texts exactly if they are literal, and
end without a backslash where the end of the style follows.  Only the reason for which a table is
not loaded is escaped.
-/

namespace EnumTables.CommandLine

open Markup

/-- The messages about a sync. -/
inductive Message where
  | syncing (commit : Hosting.Commit)
  | pattern (regex : String)
  /-- The sources were not fetched. -/
  | unfetched (reason : String)
  /-- How many of the sources declare enums. -/
  | declared (tables sources : Nat)
  | dryRun
  /-- The table of this name was loaded. -/
  | loaded (name : String) (rows : Nat)
  /-- The table of this name was not loaded. -/
  | failed (name reason : String)
  | complete
  /-- How many tables were not loaded. -/
  | incomplete (tables : Nat)
deriving DecidableEq, Repr

namespace Message

/-- The text with markup that the command prints. -/
def markup : Message → String
  | .syncing commit => s!"\n[info]Syncing:[/] {commit.display}"
  | .pattern regex => s!"[muted]Pattern: {regex}[/]"
  | .unfetched reason => s!"[error]Failed to fetch sources: {reason}[/]"
  | .declared tables sources => s!"[info]{tables} of {sources} files declare enums[/]\n"
  | .dryRun => "\n[muted]Dry run - no data loaded[/]"
  | .loaded name rows => s!"  [success]o[/] {name}: {rows} rows"
  | .failed name reason => s!"  [error]! {name}: {escape reason}[/]"
  | .complete => "\n[success]Sync complete[/]"
  | .incomplete tables => s!"\n[error]{tables} table(s) failed to load[/]"

/-- What the message says. -/
def text : Message → String
  | .syncing commit => s!"\nSyncing: {commit.display}"
  | .pattern regex => s!"Pattern: {regex}"
  | .unfetched reason => s!"Failed to fetch sources: {reason}"
  | .declared tables sources => s!"{tables} of {sources} files declare enums\n"
  | .dryRun => "\nDry run - no data loaded"
  | .loaded name rows => s!"  o {name}: {rows} rows"
  | .failed name reason => s!"  ! {name}: {reason}"
  | .complete => "\nSync complete"
  | .incomplete tables => s!"\n{tables} table(s) failed to load"

/-! ## The parts of a message -/

/-- What comes before the style. -/
def before : Message → String
  | .syncing _ | .dryRun | .complete | .incomplete _ => "\n"
  | .loaded .. | .failed .. => "  "
  | .pattern _ | .unfetched _ | .declared .. => ""

/-- The style of a part of the message. -/
def style : Message → String
  | .syncing _ | .declared .. => "info"
  | .pattern _ | .dryRun => "muted"
  | .loaded .. | .complete => "success"
  | .unfetched _ | .failed .. | .incomplete _ => "error"

/-- What is in the style. -/
def inside : Message → String
  | .syncing _ => "Syncing:"
  | .pattern regex => "Pattern: " ++ regex
  | .unfetched reason => "Failed to fetch sources: " ++ reason
  | .declared tables sources =>
    toString tables ++ (" of " ++ (toString sources ++ " files declare enums"))
  | .dryRun => "Dry run - no data loaded"
  | .loaded .. => "o"
  | .failed name reason => "! " ++ (name ++ (": " ++ escape reason))
  | .complete => "Sync complete"
  | .incomplete tables => toString tables ++ " table(s) failed to load"

/-- What comes behind the style. -/
def after : Message → String
  | .syncing commit => " " ++ commit.display
  | .declared .. => "\n"
  | .loaded name rows => " " ++ (name ++ (": " ++ (toString rows ++ " rows")))
  | .pattern _ | .unfetched _ | .dryRun | .failed .. | .complete | .incomplete _ => ""

theorem toList_markup (m : Message) :
    m.markup.toList = styled m.before.toList m.style.toList m.inside.toList m.after.toList := by
  cases m with
  | syncing commit =>
    change (s!"\n[info]Syncing:[/] {commit.display}").toList =
      styled "\n".toList "info".toList "Syncing:".toList (" " ++ commit.display).toList
    simp only [styled, String.toList_append]
    rfl
  | pattern regex =>
    change (s!"[muted]Pattern: {regex}[/]").toList =
      styled "".toList "muted".toList ("Pattern: " ++ regex).toList "".toList
    simp only [styled, String.toList_append, List.append_assoc]
    rfl
  | unfetched reason =>
    change (s!"[error]Failed to fetch sources: {reason}[/]").toList =
      styled "".toList "error".toList ("Failed to fetch sources: " ++ reason).toList "".toList
    simp only [styled, String.toList_append, List.append_assoc]
    rfl
  | declared tables sources =>
    change (s!"[info]{tables} of {sources} files declare enums[/]\n").toList =
      styled "".toList "info".toList
        (toString tables ++ (" of " ++ (toString sources ++ " files declare enums"))).toList
        "\n".toList
    simp only [styled, String.toList_append, List.append_assoc]
    rfl
  | dryRun => rfl
  | loaded name rows =>
    change (s!"  [success]o[/] {name}: {rows} rows").toList =
      styled "  ".toList "success".toList "o".toList
        (" " ++ (name ++ (": " ++ (toString rows ++ " rows")))).toList
    simp only [styled, String.toList_append, List.append_assoc]
    rfl
  | failed name reason =>
    change (s!"  [error]! {name}: {escape reason}[/]").toList =
      styled "  ".toList "error".toList ("! " ++ (name ++ (": " ++ escape reason))).toList "".toList
    simp only [styled, String.toList_append, List.append_assoc]
    rfl
  | complete => rfl
  | incomplete tables =>
    change (s!"\n[error]{tables} table(s) failed to load[/]").toList =
      styled "\n".toList "error".toList (toString tables ++ " table(s) failed to load").toList
        "".toList
    simp only [styled, String.toList_append, List.append_assoc]
    rfl

theorem inert_before (m : Message) : Inert m.before.toList := by
  have fixed : ∀ s ∈ ["\n", "  ", ""], Inert s.toList := by decide
  exact fixed _ (by cases m <;> simp [before])

theorem style_mem (m : Message) : m.style.toList ∈ styles := by
  have known : ∀ s ∈ ["info", "muted", "success", "error"], s.toList ∈ styles := by decide
  exact known _ (by cases m <;> simp [style])

end Message

/-! ## Messages without escaped texts -/

theorem inert_nat (n : Nat) : Inert (toString n).toList := by
  refine List.all_eq_true.mpr fun c member ↦ ?_
  have digit := Nat.isDigit_of_mem_toDigits (by decide) (by decide) (Nat.toList_repr ▸ member)
  have other {d : Char} (bad : d.isDigit = false) : c ≠ d := by
    rintro rfl
    nomatch bad.symm.trans digit
  simp [isInert, isStripped, other]

theorem inert_append {s t : String} (hs : Inert s.toList) (ht : Inert t.toList) :
    Inert (s ++ t).toList := by
  rw [String.toList_append]
  exact hs.append ht

theorem isLiteral_append_iff {lead : String} (inert : Inert lead.toList) (s : String) :
    IsLiteral (lead ++ s).toList ↔ IsLiteral s.toList := by
  rw [String.toList_append, inert.isLiteral_append_iff]

theorem append_isLiteral_iff {trail : String} (inert : Inert trail.toList) (s : String) :
    IsLiteral (s ++ trail).toList ↔ IsLiteral s.toList := by
  rw [String.toList_append, inert.append_isLiteral_iff]

namespace Message

variable {m : Message}

/-- What must hold of the texts from outside for the message to show them. -/
def Shows : Message → Prop
  | .syncing commit => IsLiteral commit.display.toList
  | .pattern s | .unfetched s => IsLiteral s.toList ∧ s.toList.getLast? ≠ some '\\'
  | .loaded name _ => IsLiteral name.toList
  | .failed name reason =>
    IsLiteral name.toList ∧
      (∀ ds, ds <:+ name.toList → opensTag (ds ++ (": " ++ reason).toList) = false) ∧
      IsEscapable reason.toList ∧ ¬ ['\\', '\\'] <:+ reason.toList
  | .declared .. | .dryRun | .complete | .incomplete _ => True

/-- Where nothing needs escaping the message says what is spelled. -/
theorem text_eq (inert : ∀ name reason, m = failed name reason → Inert reason.toList) :
    m.text = m.before ++ (m.inside ++ m.after) := by
  cases m with
  | syncing commit =>
    change s!"\nSyncing: {commit.display}" = "\n" ++ ("Syncing:" ++ (" " ++ commit.display))
    simp only [← String.append_assoc]
    rfl
  | pattern regex =>
    change s!"Pattern: {regex}" = "" ++ ("Pattern: " ++ regex ++ "")
    rw [String.empty_append, String.append_empty]
    rfl
  | unfetched reason =>
    change s!"Failed to fetch sources: {reason}" = "" ++ ("Failed to fetch sources: " ++ reason ++ "")
    rw [String.empty_append, String.append_empty]
    rfl
  | declared tables sources =>
    change s!"{tables} of {sources} files declare enums\n" =
      "" ++ (toString tables ++ (" of " ++ (toString sources ++ " files declare enums")) ++ "\n")
    rw [String.empty_append]
    simp only [String.append_assoc]
    rfl
  | dryRun => rfl
  | loaded name rows =>
    change s!"  o {name}: {rows} rows" =
      "  " ++ ("o" ++ (" " ++ (name ++ (": " ++ (toString rows ++ " rows")))))
    simp only [← String.append_assoc]
    rfl
  | failed name reason =>
    change s!"  ! {name}: {reason}" = "  " ++ ("! " ++ (name ++ (": " ++ escape reason)) ++ "")
    rw [escape_eq_self (inert name reason rfl), String.append_empty]
    simp only [← String.append_assoc]
    rfl
  | complete => rfl
  | incomplete tables =>
    change s!"\n{tables} table(s) failed to load" =
      "\n" ++ (toString tables ++ " table(s) failed to load" ++ "")
    rw [String.append_empty]
    simp only [← String.append_assoc]
    rfl

/-- Such a message is shown exactly if its parts are literal and no backslash comes before the end of
the style. -/
theorem render_markup_iff_isLiteral (worded : m.text = m.before ++ (m.inside ++ m.after)) :
    render m.markup = .ok m.text ↔
      IsLiteral m.inside.toList ∧ m.inside.toList.getLast? ≠ some '\\' ∧ IsLiteral m.after.toList := by
  have begun := m.inert_before
  have whole : String.ofList (m.before.toList ++ (m.inside.toList ++ m.after.toList)) = m.text := by
    rw [worded, ← String.toList_append, ← String.toList_append, String.ofList_toList]
  rw [← whole]
  exact render_styled_iff m.style_mem (begun.not_mem rfl) (begun.not_mem rfl) begun.visible
    m.toList_markup

/-- Where a reason needs no escaping the name before it alone matters. -/
theorem shows_failed_iff {name reason : String} (inert : Inert reason.toList) :
    (failed name reason).Shows ↔ IsLiteral name.toList := by
  refine ⟨fun shows ↦ shows.1, fun literal ↦ ⟨literal, ?_, inert.isEscapable, ?_⟩⟩
  · have trail : Inert (": " ++ reason).toList := inert_append rfl inert
    have whole := trail.append_isLiteral_iff.mpr literal
    rintro ds ⟨before, split⟩
    refine whole.tagless _ ⟨before, ?_⟩
    rw [← List.append_assoc, split]
  · intro slashes
    exact inert.not_mem rfl (slashes.subset List.mem_cons_self)

/-- The parts are literal exactly if the texts in them can be shown. -/
theorem isLiteral_parts_iff (inert : ∀ name reason, m = failed name reason → Inert reason.toList) :
    (IsLiteral m.inside.toList ∧ m.inside.toList.getLast? ≠ some '\\' ∧
      IsLiteral m.after.toList) ↔ m.Shows := by
  have nothing : IsLiteral "".toList := Inert.isLiteral rfl
  -- Fixed wording before a text in the style.
  have led {lead s : String} (fixed : Inert lead.toList) :
      (IsLiteral (lead ++ s).toList ∧ (lead ++ s).toList.getLast? ≠ some '\\' ∧
        IsLiteral "".toList) ↔ IsLiteral s.toList ∧ s.toList.getLast? ≠ some '\\' := by
    rw [isLiteral_append_iff fixed, String.toList_append, ne_eq, fixed.getLast?_append_iff]
    exact and_congr_right fun _ ↦ and_iff_left nothing
  have worded {inside after : String} (fixed : Inert inside.toList) :
      (IsLiteral inside.toList ∧ inside.toList.getLast? ≠ some '\\' ∧ IsLiteral after.toList) ↔
        IsLiteral after.toList :=
    ⟨fun h ↦ h.2.2, fun h ↦ ⟨fixed.isLiteral, fixed.getLast?_ne, h⟩⟩
  cases m with
  | syncing commit =>
    have fixed : Inert "Syncing:".toList := rfl
    have lead : Inert " ".toList := rfl
    exact (worded fixed).trans (isLiteral_append_iff lead commit.display)
  | pattern s | unfetched s => exact led rfl
  | declared tables sources =>
    have fixed : Inert (toString tables ++ (" of " ++
        (toString sources ++ " files declare enums"))).toList :=
      inert_append (inert_nat tables) (inert_append rfl (inert_append (inert_nat sources) rfl))
    have trail : Inert "\n".toList := rfl
    exact (worded fixed).trans (iff_true_intro trail.isLiteral)
  | loaded name rows =>
    have fixed : Inert "o".toList := rfl
    have lead : Inert " ".toList := rfl
    have trail : Inert (": " ++ (toString rows ++ " rows")).toList :=
      inert_append rfl (inert_append (inert_nat rows) rfl)
    exact (worded fixed).trans
      ((isLiteral_append_iff lead _).trans (append_isLiteral_iff trail name))
  | dryRun =>
    have fixed : Inert "Dry run - no data loaded".toList := rfl
    exact (worded fixed).trans (iff_true_intro nothing)
  | complete =>
    have fixed : Inert "Sync complete".toList := rfl
    exact (worded fixed).trans (iff_true_intro nothing)
  | incomplete tables =>
    have fixed : Inert (toString tables ++ " table(s) failed to load").toList :=
      inert_append (inert_nat tables) rfl
    exact (worded fixed).trans (iff_true_intro nothing)
  | failed name reason =>
    have fixed := inert name reason rfl
    have trail : Inert (": " ++ reason).toList := inert_append rfl fixed
    have ends : (name ++ (": " ++ reason)).toList.getLast? ≠ some '\\' := by
      rw [String.toList_append]
      exact trail.getLast?_append_ne (by simp)
    have unescaped : (failed name reason).inside = "! " ++ (name ++ (": " ++ reason)) := by
      change "! " ++ (name ++ (": " ++ escape reason)) = _
      rw [escape_eq_self fixed]
    have lead : Inert "! ".toList := rfl
    rw [unescaped, shows_failed_iff fixed, ← append_isLiteral_iff trail name]
    exact (led lead).trans (and_iff_left ends)

/-! ## The message with an escaped text -/

/-- No more tags begin in a text than behind a name in which none begins. -/
theorem tagCount_append_of_forall {cs ds : List Char}
    (outside : ∀ es, es <:+ cs → opensTag (es ++ ds) = false) :
    tagCount (cs ++ ds) = tagCount ds := by
  induction cs with
  | nil => rfl
  | cons c cs ih =>
    have first : opensTag (c :: (cs ++ ds)) = false := outside (c :: cs) List.suffix_rfl
    rw [List.cons_append, tagCount_cons, first,
      ih fun es suffix ↦ outside es (suffix.trans (List.suffix_cons c cs))]
    rfl

/-- The reason for which a table is not loaded is shown behind a literal name. -/
theorem render_failed {name reason : String} (shows : (failed name reason).Shows) :
    render (failed name reason).markup = .ok (failed name reason).text := by
  obtain ⟨literal, outside, escapable, ends⟩ := shows
  have first : Inert "! ".toList := rfl
  have last : Inert ": ".toList := rfl
  have lead : IsLiteral ("! " ++ (name ++ ": ")).toList := by
    rw [isLiteral_append_iff first, append_isLiteral_iff last]
    exact literal
  obtain ⟨-, unescaped, visible⟩ := isLiteral_iff.mp lead
  have blank : ("! " ++ (name ++ ": ")).toList.getLast? ≠ some '\\' := by
    rw [String.toList_append, String.toList_append, ← List.append_assoc]
    exact last.getLast?_append_ne (by decide)
  have tagless : tagCount (("! " ++ (name ++ ": ")).toList ++ reason.toList) =
      tagCount reason.toList := by
    rw [String.toList_append, String.toList_append, List.append_assoc, List.append_assoc,
      tagCount_append_of_not_mem (first.not_mem rfl), ← String.toList_append,
      tagCount_append_of_forall outside, String.toList_append,
      tagCount_append_of_not_mem (last.not_mem rfl)]
  have begun : Inert "  ".toList := rfl
  have style : "error".toList ∈ styles := by decide
  have shown := render_styled_escape style (begun.not_mem rfl) (begun.not_mem rfl) unescaped blank
    tagless escapable ends (List.forall_mem_append.mpr ⟨begun.visible, visible⟩)
    (s := (failed name reason).markup) ?_
  · rw [shown]
    refine congrArg Except.ok (String.toList_injective ?_)
    change _ = (s!"  ! {name}: {reason}").toList
    simp only [String.toList_ofList, String.toList_append, List.append_assoc]
    rfl
  · refine (toList_markup _).trans ?_
    change styled _ _ ("! " ++ (name ++ (": " ++ escape reason))).toList [] = _
    simp only [String.toList_append, List.append_assoc]
    rfl

/-- A message in which nothing needs escaping is shown exactly if its texts can be shown. -/
theorem render_markup_iff (inert : ∀ name reason, m = failed name reason → Inert reason.toList) :
    render m.markup = .ok m.text ↔ m.Shows :=
  (render_markup_iff_isLiteral (text_eq inert)).trans (isLiteral_parts_iff inert)

/-- What the message says is what is shown of it, if its texts can be shown. -/
theorem render_markup (shows : m.Shows) : render m.markup = .ok m.text := by
  cases m with
  | failed name reason => exact render_failed shows
  | syncing | pattern | unfetched | declared | dryRun | loaded | complete | incomplete =>
    refine (render_markup_iff fun name reason same ↦ ?_).mpr shows
    cases same

end Message

end EnumTables.CommandLine
