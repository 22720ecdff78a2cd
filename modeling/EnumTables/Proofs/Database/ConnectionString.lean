import EnumTables.Settings
import Mathlib.Algebra.Order.BigOperators.Group.List
import Mathlib.Algebra.Order.Ring.Nat
import Mathlib.Data.List.Nodup
import Mathlib.Data.List.Perm.Subperm

/-!
# Reading connection strings

A connection string is read as a list of settings, each a keyword and a value with an equals sign
between them.  A value ends with a blank, unless it stands between quotes, and a backslash makes the
character behind it a part of the value.  Main statement: the connection string says what was
configured if and only if the database is named and every value can be written as it is.
-/

namespace EnumTables.ConnectionString

/-- A keyword and its value. -/
abbrev Setting := String × String

/-! ## The reader -/

/-- The blanks between settings, which are those of ASCII. -/
def isBlank (c : Char) : Bool :=
  c = ' ' || c = '\t' || c = '\n' || c = '\x0b' || c = '\x0c' || c = '\r'

/-- A value that ends with a blank or with the text, and the text behind it. -/
def bareValue : List Char → List Char × List Char
  | [] | ['\\'] => ([], [])
  | '\\' :: c :: cs => (c :: (bareValue cs).1, (bareValue cs).2)
  | c :: cs => if isBlank c then ([], cs) else (c :: (bareValue cs).1, (bareValue cs).2)

/-- A value up to the quote that ends it, and the text behind it. -/
def quotedValue? : List Char → Option (List Char × List Char)
  | [] | ['\\'] => none
  | '\\' :: c :: cs => (quotedValue? cs).map fun (v, rest) ↦ (c :: v, rest)
  | c :: cs =>
    if c = '\'' then some ([], cs)
    else (quotedValue? cs).map fun (v, rest) ↦ (c :: v, rest)

/-- The value at the head of a text, and the text behind it. -/
def value? : List Char → Option (List Char × List Char)
  | '\'' :: cs => quotedValue? cs
  | cs => some (bareValue cs)

/-- Whether a character is one of a keyword. -/
def isKeyword (c : Char) : Bool := !isBlank c && c ≠ '='

/-- The setting at the head of a text, and the text behind it. -/
def setting? (cs : List Char) : Option (Setting × List Char) :=
  match (cs.dropWhile isKeyword).dropWhile isBlank with
  | '=' :: rest =>
    (value? (rest.dropWhile isBlank)).map fun (v, rest) ↦
      ((String.ofList (cs.takeWhile isKeyword), String.ofList v), rest)
  | _ => none

/-! ## What it takes to write a setting -/

/-- Whether a character of a value can be written as it is. -/
def isOrdinary (c : Char) : Bool := !isBlank c && c ≠ '\\'

/-- Whether a value can be written as it is: its characters can, and it begins with no quote. -/
def isPlain (v : List Char) : Bool := v.all isOrdinary && v.head? ≠ some '\''

/-- At least `n` characters of `cs` stand before `rest`, and another one if there is a rest. -/
def Takes (n : Nat) (cs rest : List Char) : Prop :=
  n + rest.length ≤ cs.length ∧ (rest ≠ [] → n + rest.length < cs.length)

/-- How many characters it takes at least to write a setting and to separate it from the next. -/
def size (p : Setting) : Nat :=
  p.1.length + p.2.length + 2 + (!isPlain p.2.toList).toNat

variable {cs v rest : List Char} {c d : Char} {n : Nat} {p : Setting} {ps : List Setting}

theorem Takes.cons (h : Takes n cs rest) : Takes (n + 1) (c :: cs) rest := by
  obtain ⟨fits, apart⟩ := h
  simp only [Takes, List.length_cons]
  exact ⟨by omega, fun more ↦ by have := apart more; omega⟩

theorem Takes.mono {m : Nat} (h : Takes n cs rest) (fewer : m ≤ n) : Takes m cs rest := by
  obtain ⟨fits, apart⟩ := h
  exact ⟨by omega, fun more ↦ by have := apart more; omega⟩

/-- A value without quotes around it takes as many characters as it has, and one more for a blank or
a backslash in it and for a quote that begins it but does not stand at the head of the text. -/
theorem takes_bareValue (cs : List Char) :
    Takes ((bareValue cs).1.length + (!(bareValue cs).1.all isOrdinary).toNat) cs
      (bareValue cs).2 ∧
    (cs.head? ≠ some '\'' → Takes ((bareValue cs).1.length + (!isPlain (bareValue cs).1).toNat) cs
      (bareValue cs).2) := by
  fun_induction bareValue cs with
  | case1 | case2 => simp [Takes, isPlain]
  | case3 c cs ih =>
    -- the backslash makes up for whatever its character is
    have escaped (b : Bool) : Takes ((c :: (bareValue cs).1).length + b.toNat) ('\\' :: c :: cs)
        (bareValue cs).2 := by
      refine ih.1.cons.cons.mono ?_
      have := b.toNat_le
      rw [List.length_cons]
      omega
    exact ⟨escaped _, fun _ ↦ escaped _⟩
  | case4 c cs _ _ blank => simp [Takes, isPlain]
  | case5 c cs ended escape blank ih =>
    have proper : c ≠ '\\' := by
      rintro rfl
      cases cs with
      | nil => exact ended rfl rfl
      | cons d ds => exact escape d ds rfl rfl
    have ordinary : (c :: (bareValue cs).1).all isOrdinary = (bareValue cs).1.all isOrdinary := by
      simp [isOrdinary, blank, proper]
    have taken : Takes ((c :: (bareValue cs).1).length +
        (!(c :: (bareValue cs).1).all isOrdinary).toNat) (c :: cs) (bareValue cs).2 := by
      refine ih.1.cons.mono ?_
      rw [ordinary, List.length_cons]
      omega
    refine ⟨taken, fun bare ↦ ?_⟩
    have plain : isPlain (c :: (bareValue cs).1) = (c :: (bareValue cs).1).all isOrdinary := by
      rw [List.head?_cons] at bare
      simp [isPlain, bare]
    rw [plain]
    exact taken

theorem length_quotedValue? (h : quotedValue? cs = some (v, rest)) :
    v.length + 1 + rest.length ≤ cs.length := by
  fun_induction quotedValue? cs generalizing v with
  | case1 | case2 => cases h
  | case4 =>
    cases h
    simp only [List.length_nil, List.length_cons]
    omega
  | case3 c cs ih | case5 c cs _ _ _ ih =>
    obtain ⟨⟨v', rest'⟩, read, same⟩ := Option.map_eq_some_iff.mp h
    cases same
    have := ih read
    simp only [List.length_cons]
    omega

theorem takes_value? (h : value? cs = some (v, rest)) :
    Takes (v.length + (!isPlain v).toNat) cs rest := by
  unfold value? at h
  split at h
  · -- the two quotes are more than the blank and the extra character together
    have read := length_quotedValue? h
    have := (!isPlain v).toNat_le
    simp only [Takes, List.length_cons]
    omega
  · rename_i noQuote
    obtain ⟨rfl, rfl⟩ := Prod.mk.inj (Option.some.inj h)
    refine (takes_bareValue cs).2 fun head ↦ ?_
    obtain ⟨cs, rfl⟩ := List.head?_eq_some_iff.mp head
    exact noQuote cs rfl

/-- A setting takes its characters, and the blank behind it if there is a rest. -/
theorem takes_setting? (h : setting? cs = some (p, rest)) : Takes (size p - 1) cs rest := by
  unfold setting? at h
  split at h
  · rename_i behind found
    obtain ⟨⟨v, rest'⟩, read, same⟩ := Option.map_eq_some_iff.mp h
    cases same
    have keyword := congrArg List.length
      (List.takeWhile_append_dropWhile (p := isKeyword) (l := cs))
    have blanks := (List.dropWhile_suffix (l := cs.dropWhile isKeyword) isBlank).length_le
    have blanks' := (List.dropWhile_suffix (l := behind) isBlank).length_le
    rw [found, List.length_cons] at blanks
    rw [List.length_append] at keyword
    obtain ⟨fits, apart⟩ := takes_value? read
    have length : size (String.ofList (cs.takeWhile isKeyword), String.ofList v) - 1 =
        (cs.takeWhile isKeyword).length + v.length + 1 + (!isPlain v).toNat := by
      simp only [size, String.length_ofList, String.toList_ofList]
      omega
    rw [length]
    exact ⟨by omega, fun more ↦ by have := apart more; omega⟩
  · cases h

/-- The settings of a text, if it is a connection string. -/
def settings? : List Char → Option (List Setting)
  | [] => some []
  | c :: cs =>
    if isBlank c then settings? cs
    else
      match _h : setting? (c :: cs) with
      | some (p, rest) => (settings? rest).map (p :: ·)
      | none => none
termination_by cs => cs.length
decreasing_by
  · simp
  · have := (takes_setting? _h).1
    simp only [size] at this
    omega

/-- A connection string is at least as long as what it takes to write its settings. -/
theorem sum_size_le (h : settings? cs = some ps) : (ps.map size).sum ≤ cs.length + 1 := by
  fun_induction settings? cs generalizing ps with
  | case1 =>
    cases h
    simp
  | case2 c cs blank ih =>
    have := ih h
    simp only [List.length_cons]
    omega
  | case3 c cs proper p rest read ih =>
    obtain ⟨ps, others, rfl⟩ := Option.map_eq_some_iff.mp h
    have later := ih others
    obtain ⟨fits, apart⟩ := takes_setting? read
    rw [List.map_cons, List.sum_cons]
    cases rest with
    | nil =>
      rw [settings?] at others
      cases others
      simp only [List.map_nil, List.sum_nil, List.length_cons, List.length_nil] at *
      omega
    | cons b more =>
      have apart := apart (List.cons_ne_nil b more)
      simp only [List.length_cons] at *
      omega
  | case4 => cases h

/-! ## Reading what is written -/

/-- A setting as it is written. -/
def spell (p : Setting) : List Char := p.1.toList ++ '=' :: p.2.toList

/-- Settings as they are written, with blanks between them. -/
def spellAll (ps : List Setting) : List Char := [' '].intercalate (ps.map spell)

/-- The keyword can be one and the value is there and can be written as it is. -/
structure IsWritable (p : Setting) : Prop where
  keyword : ∀ c ∈ p.1.toList, isKeyword c = true
  given : p.2 ≠ ""
  plain : isPlain p.2.toList = true

theorem bareValue_append (ordinary : ∀ c ∈ v, isOrdinary c = true)
    (ends : ∀ b ∈ rest.head?, isBlank b = true) : bareValue (v ++ rest) = (v, rest.tail) := by
  induction v with
  | nil =>
    cases rest with
    | nil => rfl
    | cons b rest =>
      have blank : isBlank b = true := ends b rfl
      have proper : b ≠ '\\' := by
        rintro rfl
        exact absurd blank (by decide)
      rw [List.nil_append, bareValue, if_pos blank, List.tail_cons]
      · exact fun backslash _ ↦ proper backslash
      · exact fun _ _ backslash _ ↦ proper backslash
  | cons c v ih =>
    obtain ⟨first, ordinary⟩ := List.forall_mem_cons.mp ordinary
    obtain ⟨blank, proper⟩ : isBlank c = false ∧ c ≠ '\\' := by simpa [isOrdinary] using first
    rw [List.cons_append, bareValue, if_neg (by simp [blank]), ih ordinary]
    · exact fun backslash _ ↦ proper backslash
    · exact fun _ _ backslash _ ↦ proper backslash

/-- The keyword of a setting is read whatever the value is. -/
theorem setting?_spell_append (keyword : ∀ c ∈ p.1.toList, isKeyword c = true)
    (rest : List Char) : setting? (spell p ++ rest) =
      (value? ((p.2.toList ++ rest).dropWhile isBlank)).map fun (v, rest) ↦
        ((p.1, String.ofList v), rest) := by
  have first : ((p.1.toList ++ '=' :: (p.2.toList ++ rest)).takeWhile isKeyword) = p.1.toList := by
    rw [List.takeWhile_append_of_pos keyword, List.takeWhile_cons_of_neg (by decide),
      List.append_nil]
  have behind :
      ((p.1.toList ++ '=' :: (p.2.toList ++ rest)).dropWhile isKeyword).dropWhile isBlank =
        '=' :: (p.2.toList ++ rest) := by
    rw [List.dropWhile_append_of_pos keyword, List.dropWhile_cons_of_neg (by decide),
      List.dropWhile_cons_of_neg (by decide)]
  rw [spell, List.append_assoc, List.cons_append, setting?, first, behind, String.ofList_toList]
  rfl

/-- A setting is read back in front of a blank or at the end of a text. -/
theorem setting?_append (h : IsWritable p) (ends : ∀ b ∈ rest.head?, isBlank b = true) :
    setting? (spell p ++ rest) = some (p, rest.tail) := by
  obtain ⟨ordinary, bare⟩ :
      (∀ c ∈ p.2.toList, isOrdinary c = true) ∧ p.2.toList.head? ≠ some '\'' := by
    simpa [isPlain] using h.plain
  have value : value? ((p.2.toList ++ rest).dropWhile isBlank) = some (p.2.toList, rest.tail) := by
    have read := bareValue_append ordinary ends
    have given : p.2.toList ≠ [] := fun none ↦ h.given (String.toList_eq_nil_iff.mp none)
    obtain ⟨c, cs, chars⟩ := List.exists_cons_of_ne_nil given
    rw [chars] at read ordinary bare ⊢
    have proper : isBlank c = false := by
      have first := ordinary c List.mem_cons_self
      simp only [isOrdinary, Bool.and_eq_true] at first
      simpa using first.1
    rw [List.cons_append] at read ⊢
    rw [List.dropWhile_cons_of_neg (by simp [proper]), value?, read]
    rintro ds same
    obtain ⟨rfl, -⟩ := List.cons.inj same
    exact bare rfl
  simp only [setting?_spell_append h.keyword, value, Option.map_some, String.ofList_toList]

/-- A setting does not begin with a blank. -/
theorem exists_mem_head?_spell (h : ∀ c ∈ p.1.toList, isKeyword c = true) :
    ∃ c ∈ (spell p ++ rest).head?, isBlank c = false := by
  cases keyword : p.1.toList with
  | nil => exact ⟨'=', by simp [spell, keyword], by decide⟩
  | cons c cs =>
    have proper := h c (by simp [keyword])
    simp only [isKeyword, Bool.and_eq_true] at proper
    exact ⟨c, by simp [spell, keyword], by simpa using proper.1⟩

/-- Where a text does not begin with a blank, its first setting is read and then the others. -/
theorem settings?_eq_bind (first : ∃ c ∈ cs.head?, isBlank c = false) :
    settings? cs = (setting? cs).bind fun (p, rest) ↦ (settings? rest).map (p :: ·) := by
  obtain ⟨c, head, proper⟩ := first
  obtain ⟨cs, rfl⟩ := List.head?_eq_some_iff.mp head
  rw [settings?, if_neg (by simp [proper])]
  split <;> simp [*]

/-- Settings in front of another text. -/
theorem spellAll_cons (p : Setting) (ps : List Setting) : spellAll (p :: ps) =
    spell p ++ if ps.isEmpty then [] else ' ' :: spellAll ps := by
  cases ps with
  | nil => simp [spellAll]
  | cons q ps =>
    rw [spellAll, List.map_cons, List.map_cons, List.intercalate_cons_cons, List.append_assoc]
    rfl

/-- Settings that can be written as they are are read back. -/
theorem settings?_spellAll (h : ∀ p ∈ ps, IsWritable p) : settings? (spellAll ps) = some ps := by
  induction ps with
  | nil => rw [spellAll, List.map_nil, List.intercalate_nil, settings?]
  | cons p ps ih =>
    obtain ⟨writable, others⟩ := List.forall_mem_cons.mp h
    rw [spellAll_cons, settings?_eq_bind (exists_mem_head?_spell writable.keyword),
      setting?_append writable, Option.bind_some]
    · cases ps with
      | nil => simp [settings?]
      | cons q ps => simp [ih others]
    · cases ps <;> simp [isBlank]

/-- The first setting of a text is read with its keyword, whatever its value is. -/
theorem mem_keywords_of_settings? (keyword : ∀ c ∈ p.1.toList, isKeyword c = true)
    {read : List Setting} (h : settings? (spellAll (p :: ps)) = some read) :
    p.1 ∈ read.map Prod.fst := by
  rw [spellAll_cons, settings?_eq_bind (exists_mem_head?_spell keyword),
    setting?_spell_append keyword] at h
  obtain ⟨⟨q, rest⟩, first, later⟩ := Option.bind_eq_some_iff.mp h
  obtain ⟨⟨v, rest'⟩, -, same⟩ := Option.map_eq_some_iff.mp first
  cases same
  obtain ⟨qs, -, rfl⟩ := Option.map_eq_some_iff.mp later
  exact List.mem_cons_self

/-! ## What a text says -/

/-- The value of a keyword, of which the last setting counts. -/
def valueOf? (keyword : String) (ps : List Setting) : Option String := ps.reverse.lookup keyword

/-- The text is a connection string that gives keywords the same values as these settings. -/
def Says (text : List Char) (ps : List Setting) : Prop :=
  ∃ read, settings? text = some read ∧ ∀ keyword, valueOf? keyword read = valueOf? keyword ps

theorem mem_of_valueOf? {keyword value : String} (h : valueOf? keyword ps = some value) :
    (keyword, value) ∈ ps := by
  obtain ⟨before, behind, split, -⟩ := List.lookup_eq_some_iff.mp h
  rw [← List.mem_reverse, split]
  exact List.mem_append_right _ List.mem_cons_self

theorem valueOf?_eq_none_iff {keyword : String} :
    valueOf? keyword ps = none ↔ keyword ∉ ps.map Prod.fst := by
  rw [valueOf?, List.lookup_eq_none_iff, List.mem_map]
  constructor
  · rintro unnamed ⟨p, member, rfl⟩
    simpa using unnamed p (List.mem_reverse.mpr member)
  · intro unnamed p member
    refine bne_iff_ne.mpr fun same ↦ unnamed ⟨p, List.mem_reverse.mp member, same.symm⟩

/-- A setting counts if it is the only one of its keyword. -/
theorem valueOf?_of_mem (distinct : (ps.map Prod.fst).Nodup) (h : p ∈ ps) :
    valueOf? p.1 ps = some p.2 := by
  have named : valueOf? p.1 ps ≠ none := fun none ↦
    valueOf?_eq_none_iff.mp none (List.mem_map_of_mem h)
  obtain ⟨v, found⟩ := Option.ne_none_iff_exists'.mp named
  have same := List.inj_on_of_nodup_map distinct (mem_of_valueOf? found) h rfl
  rw [found, ← same]

/-- How long a text is in which settings are written as they are. -/
theorem length_spellAll (h : ps ≠ []) :
    (spellAll ps).length + 1 = (ps.map fun p ↦ p.1.length + p.2.length + 2).sum := by
  have alone (p : Setting) : (spell p).length + 1 = p.1.length + p.2.length + 2 := by
    simp only [spell, List.length_append, List.length_cons, String.length_toList]
    omega
  induction ps with
  | nil => exact absurd rfl h
  | cons p ps ih =>
    rw [spellAll_cons, List.length_append, List.map_cons, List.sum_cons, ← alone]
    cases ps with
    | nil => simp
    | cons q ps =>
      rw [← ih (List.cons_ne_nil q ps)]
      simp
      omega

/-- Settings of different keywords are said if and only if their values can be written as they
are. -/
theorem says_spellAll_iff (distinct : (ps.map Prod.fst).Nodup)
    (keywords : ∀ p ∈ ps, ∀ c ∈ p.1.toList, isKeyword c = true) (given : ∀ p ∈ ps, p.2 ≠ "") :
    Says (spellAll ps) ps ↔ ∀ p ∈ ps, isPlain p.2.toList = true := by
  constructor
  · rintro ⟨read, reads, same⟩ p member
    -- every setting is read somewhere, so the text is long enough for all of them
    have included : ps ⊆ read := fun q hq ↦
      mem_of_valueOf? ((same q.1).trans (valueOf?_of_mem distinct hq))
    obtain ⟨qs, perm, sublist⟩ := (List.Nodup.of_map Prod.fst distinct).subperm included
    have long : (ps.map size).sum ≤ (spellAll ps).length + 1 :=
      calc (ps.map size).sum
        _ = (qs.map size).sum := (perm.map size).sum_nat.symm
        _ ≤ (read.map size).sum := (sublist.map size).sum_le_sum fun _ _ ↦ Nat.zero_le _
        _ ≤ (spellAll ps).length + 1 := sum_size_le reads
    rw [length_spellAll (List.ne_nil_of_mem member)] at long
    have extra : (ps.map size).sum = (ps.map fun p ↦ p.1.length + p.2.length + 2).sum +
        (ps.map fun p ↦ (!isPlain p.2.toList).toNat).sum := List.sum_map_add
    have none : (!isPlain p.2.toList).toNat ≤ 0 :=
      calc (!isPlain p.2.toList).toNat
        _ ≤ (ps.map fun p ↦ (!isPlain p.2.toList).toNat).sum :=
            List.le_sum_of_mem (List.mem_map_of_mem member)
        _ ≤ 0 := by omega
    simpa using none
  · intro plain
    exact ⟨ps, settings?_spellAll fun p member ↦
      ⟨keywords p member, given p member, plain p member⟩, fun _ ↦ rfl⟩

end EnumTables.ConnectionString

namespace EnumTables.DatabaseSettings

open ConnectionString

/-- What is configured: the values that are not empty, by the keywords that stand for them. -/
def configured (db : DatabaseSettings) : List Setting :=
  [("dbname", db.name), ("user", db.user), ("password", db.password), ("host", db.host),
    ("port", db.port)].filter fun p ↦ p.2 ≠ ""

/-- The keywords that stand for values. -/
def keywords : List String := ["dbname", "user", "password", "host", "port"]

theorem isKeyword_of_mem_keywords : ∀ k ∈ keywords, ∀ c ∈ k.toList, isKeyword c = true := by
  intro k member
  have all : keywords.all (fun k ↦ k.toList.all isKeyword) = true := rfl
  exact List.all_eq_true.mp (List.all_eq_true.mp all k member)

variable (db : DatabaseSettings)

theorem keywords_sublist : (db.configured.map Prod.fst).Sublist keywords :=
  List.filter_sublist.map Prod.fst

/-- What is written in the connection string: the name of the database in any case. -/
def written (db : DatabaseSettings) : List Setting :=
  ("dbname", db.name) :: [("user", db.user), ("password", db.password), ("host", db.host),
    ("port", db.port)].filter fun p ↦ p.2 ≠ ""

/-- The database is named, and every value can be written as it is. -/
def IsPlain (db : DatabaseSettings) : Prop :=
  db.name ≠ "" ∧ ∀ p ∈ db.configured, isPlain p.2.toList = true

instance instDecidableIsPlain (db : DatabaseSettings) : Decidable db.IsPlain :=
  inferInstanceAs (Decidable (_ ∧ _))

theorem toList_dsn : db.dsn.toList = spellAll db.written := by
  have chars (p : Setting) : (p.1 ++ "=" ++ p.2).toList = spell p := by
    simp [spell]
  simp only [dsn, written, spellAll, String.toList_intercalate, List.map_map, Function.comp_def,
    chars]
  rfl

theorem configured_eq_written (named : db.name ≠ "") : db.configured = db.written :=
  List.filter_cons_of_pos (by simpa using named)

theorem isKeyword_of_mem_configured {p : Setting} (member : p ∈ db.configured) :
    ∀ c ∈ p.1.toList, isKeyword c = true :=
  isKeyword_of_mem_keywords p.1 (db.keywords_sublist.subset (List.mem_map_of_mem member))

/-- The connection string says what was configured if and only if the database is named and every
value can be written as it is; then it has these settings and no others. -/
theorem says_dsn_iff : (Says db.dsn.toList db.configured ↔ db.IsPlain) ∧
    (db.IsPlain → settings? db.dsn.toList = some db.configured) := by
  have given : ∀ p ∈ db.configured, p.2 ≠ "" := fun p member ↦ by
    simpa using (List.mem_filter.mp member).2
  have asNamed (named : db.name ≠ "") : Says db.dsn.toList db.configured ↔ db.IsPlain := by
    rw [toList_dsn, ← db.configured_eq_written named,
      says_spellAll_iff (db.keywords_sublist.nodup (by decide))
        (fun _ ↦ db.isKeyword_of_mem_configured) given, IsPlain, and_iff_right named]
  refine ⟨⟨fun said ↦ ?_, fun plain ↦ (asNamed plain.1).mpr plain⟩, fun plain ↦ ?_⟩
  · by_cases named : db.name = ""
    · -- without a name something else is read as the name
      obtain ⟨read, reads, same⟩ := said
      rw [toList_dsn, written] at reads
      have name := mem_keywords_of_settings?
        (isKeyword_of_mem_keywords "dbname" List.mem_cons_self) reads
      have unnamed : "dbname" ∉ db.configured.map Prod.fst := by
        simp [configured, named]
      exact absurd name (valueOf?_eq_none_iff.mp
        ((same "dbname").trans (valueOf?_eq_none_iff.mpr unnamed)))
    · exact (asNamed named).mp said
  · rw [toList_dsn, ← db.configured_eq_written plain.1]
    exact settings?_spellAll fun p member ↦
      ⟨db.isKeyword_of_mem_configured member, given p member, plain.2 p member⟩

/-- A connection over the network. -/
theorem says_dsn_network :
    let db : DatabaseSettings :=
      { name := "lookup", user := "loader", password := "o'neill", host := "localhost",
        port := "5433" }
    db.IsPlain ∧ Says db.dsn.toList db.configured ∧
      settings? db.dsn.toList = some [("dbname", "lookup"), ("user", "loader"),
        ("password", "o'neill"), ("host", "localhost"), ("port", "5433")] := by
  intro db
  have plain : db.IsPlain := by decide +kernel
  exact ⟨plain, db.says_dsn_iff.1.mpr plain, db.says_dsn_iff.2 plain⟩

/-- Without a name the user is read as the name; a password with a blank in it makes the text none
that can be read, or sets what was not configured. -/
theorem dsn_misread :
    settings? (dsn { name := "", user := "loader" }).toList = some [("dbname", "user=loader")] ∧
    settings? (dsn { password := "a b" }).toList = none ∧
    settings? (dsn { password := "x host=elsewhere" }).toList =
      some [("dbname", "enumwarp"), ("password", "x"), ("host", "elsewhere")] ∧
    ¬ ∀ db : DatabaseSettings, Says db.dsn.toList db.configured := by
  have unnamed : settings? (dsn { name := "", user := "loader" }).toList =
      some [("dbname", "user=loader")] := by decide +kernel
  refine ⟨unnamed, by decide +kernel, by decide +kernel, fun said ↦ ?_⟩
  obtain ⟨read, reads, same⟩ := said { name := "", user := "loader" }
  obtain rfl := Option.some.inj (unnamed.symm.trans reads)
  exact absurd (same "user") (by decide +kernel)

end EnumTables.DatabaseSettings
