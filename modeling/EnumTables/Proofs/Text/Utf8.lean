import EnumTables.Text.Utf8

/-!
# Texts in UTF-8

The bytes of a text are read back as the text.  A character of more than one byte has a first byte,
which says how many follow, and continuation bytes of six bits each.  The decoder takes from the
first byte its bits and the bounds of the byte behind it.  These shut out overlong forms, surrogates
and values that are too large, none of which a character is written as.
-/

namespace EnumTables.Text.Utf8

variable {bytes seen : List UInt8} {low high : UInt8} {owed code d : Nat}

/-! ## First bytes -/

/-- The first of two bytes holds five bits, and not only the last of them. -/
theorem begin_two (least : 2 ≤ d) (below : d < 32) :
    begin (UInt8.ofNat (d + 192)) = (none, .pending 0 0x80 0xBF d [UInt8.ofNat (d + 192)]) := by
  have byte := UInt8.toNat_ofNat_of_lt' (show d + 192 < 0x100 by omega)
  simp only [begin, UInt8.lt_iff_toNat_lt, byte, UInt8.reduceToNat]
  rw [if_neg (by omega), if_neg (by omega), if_pos (by omega), Nat.add_sub_cancel]

/-- The first of three bytes holds four bits. -/
theorem begin_three (below : d < 16) : ∃ low high,
    begin (UInt8.ofNat (d + 224)) = (none, .pending 1 low high d [UInt8.ofNat (d + 224)]) ∧
      low.toNat = (if d = 0 then 0xA0 else 0x80) ∧
      high.toNat = if d = 13 then 0x9F else 0xBF := by
  have byte := UInt8.toNat_ofNat_of_lt' (show d + 224 < 0x100 by omega)
  refine ⟨if d = 0 then 0xA0 else 0x80, if d = 13 then 0x9F else 0xBF, ?_, ?_, ?_⟩
  · simp only [begin, UInt8.lt_iff_toNat_lt, ← UInt8.toNat_inj, byte, UInt8.reduceToNat,
      Nat.reduceEqDiff]
    rw [if_neg (by omega), if_neg (by omega), if_neg (by omega), if_pos (by omega),
      Nat.add_sub_cancel]
  · split <;> rfl
  · split <;> rfl

/-- The first of four bytes holds three bits. -/
theorem begin_four (below : d < 5) : ∃ low high,
    begin (UInt8.ofNat (d + 240)) = (none, .pending 2 low high d [UInt8.ofNat (d + 240)]) ∧
      low.toNat = (if d = 0 then 0x90 else 0x80) ∧
      high.toNat = if d = 4 then 0x8F else 0xBF := by
  have byte := UInt8.toNat_ofNat_of_lt' (show d + 240 < 0x100 by omega)
  refine ⟨if d = 0 then 0x90 else 0x80, if d = 4 then 0x8F else 0xBF, ?_, ?_, ?_⟩
  · simp only [begin, UInt8.lt_iff_toNat_lt, ← UInt8.toNat_inj, byte, UInt8.reduceToNat,
      Nat.reduceEqDiff]
    rw [if_neg (by omega), if_neg (by omega), if_neg (by omega), if_neg (by omega),
      if_pos (by omega), Nat.add_sub_cancel]
  · split <;> rfl
  · split <;> rfl

theorem piecesFrom_start_of_begin {b : UInt8} {next : State} (h : begin b = (none, next)) :
    piecesFrom .start (b :: bytes) = piecesFrom next bytes := by
  rw [piecesFrom_cons, step, h]
  rfl

/-! ## Continuation bytes -/

theorem step_inside {b : UInt8} (inside : low ≤ b ∧ b ≤ high) :
    step (.pending owed low high code seen) b =
      match owed with
      | 0 => ([.char (Char.ofNat (code * 64 + (b.toNat - 0x80)))], .start)
      | owed + 1 => ([], .pending owed 0x80 0xBF (code * 64 + (b.toNat - 0x80)) (b :: seen)) := by
  cases owed <;> simp only [step, if_pos inside]

/-- A byte that cannot continue the character under way is read as a first byte. -/
theorem step_outside {b : UInt8} (outside : ¬ (low ≤ b ∧ b ≤ high)) :
    step (.pending owed low high code seen) b =
      (.malformed .invalidContinuation seen.reverse :: (begin b).1.toList, (begin b).2) := by
  rw [step, if_neg outside]

/-- A continuation byte within the bounds. -/
theorem step_pending (below : d < 64) (least : low.toNat ≤ d + 128) (most : d + 128 ≤ high.toNat) :
    step (.pending owed low high code seen) (UInt8.ofNat (d + 128)) =
      match owed with
      | 0 => ([.char (Char.ofNat (code * 64 + d))], .start)
      | owed + 1 =>
        ([], .pending owed 0x80 0xBF (code * 64 + d) (UInt8.ofNat (d + 128) :: seen)) := by
  have byte := UInt8.toNat_ofNat_of_lt' (show d + 128 < 0x100 by omega)
  have inside : low ≤ UInt8.ofNat (d + 128) ∧ UInt8.ofNat (d + 128) ≤ high := by
    rw [UInt8.le_iff_toNat_le, UInt8.le_iff_toNat_le, byte]
    exact ⟨least, most⟩
  rw [step_inside inside, byte, Nat.add_sub_cancel]

/-- The byte behind a first byte. -/
theorem piecesFrom_second (below : d < 64) (least : low.toNat ≤ d + 128)
    (most : d + 128 ≤ high.toNat) :
    piecesFrom (.pending (owed + 1) low high code seen) (UInt8.ofNat (d + 128) :: bytes) =
      piecesFrom (.pending owed 0x80 0xBF (code * 64 + d) (UInt8.ofNat (d + 128) :: seen))
        bytes := by
  rw [piecesFrom_cons, step_pending below least most]
  rfl

/-- A byte with bytes before and behind it. -/
theorem piecesFrom_inner (below : d < 64) :
    piecesFrom (.pending (owed + 1) 0x80 0xBF code seen) (UInt8.ofNat (d + 128) :: bytes) =
      piecesFrom (.pending owed 0x80 0xBF (code * 64 + d) (UInt8.ofNat (d + 128) :: seen)) bytes :=
  piecesFrom_second below (Nat.le_add_left ..) (by change _ ≤ 0xBF; omega)

/-- The last byte of a character. -/
theorem piecesFrom_last (below : d < 64) :
    piecesFrom (.pending 0 0x80 0xBF code seen) (UInt8.ofNat (d + 128) :: bytes) =
      .char (Char.ofNat (code * 64 + d)) :: piecesFrom .start bytes := by
  have most : d + 128 ≤ UInt8.toNat 0xBF := by change _ ≤ 0xBF; omega
  rw [piecesFrom_cons, step_pending below (Nat.le_add_left ..) most]
  rfl

/-! ## Characters -/

section Characters

variable {v : Nat}

theorem piecesFrom_one (below : v < 0x80) :
    piecesFrom .start (UInt8.ofNat v :: bytes) =
      .char (Char.ofNat v) :: piecesFrom .start bytes := by
  have byte := UInt8.toNat_ofNat_of_lt' (show v < 0x100 by omega)
  have ascii : UInt8.ofNat v < 0x80 := by
    rw [UInt8.lt_iff_toNat_lt, byte]
    exact below
  rw [piecesFrom_cons, step, begin_of_lt ascii, byte]
  rfl

theorem piecesFrom_two (least : 0x80 ≤ v) (below : v < 0x800) :
    piecesFrom .start (UInt8.ofNat (v / 64 % 32 + 192) :: UInt8.ofNat (v % 64 + 128) :: bytes) =
      .char (Char.ofNat v) :: piecesFrom .start bytes := by
  have whole : v / 64 % 32 * 64 + v % 64 = v := by omega
  rw [piecesFrom_start_of_begin (begin_two (by omega) (by omega)), piecesFrom_last (by omega),
    whole]

theorem piecesFrom_three (least : 0x800 ≤ v) (below : v < 0x10000)
    (valid : v < 0xD800 ∨ 0xDFFF < v) :
    piecesFrom .start (UInt8.ofNat (v / 4096 % 16 + 224) :: UInt8.ofNat (v / 64 % 64 + 128) ::
      UInt8.ofNat (v % 64 + 128) :: bytes) = .char (Char.ofNat v) :: piecesFrom .start bytes := by
  have whole : (v / 4096 % 16 * 64 + v / 64 % 64) * 64 + v % 64 = v := by omega
  obtain ⟨low, high, begun, low_eq, high_eq⟩ := begin_three (d := v / 4096 % 16) (by omega)
  -- The bounds are narrower behind the first bytes of overlong forms and of surrogates.
  have least : low.toNat ≤ v / 64 % 64 + 128 := by rw [low_eq]; split <;> omega
  have most : v / 64 % 64 + 128 ≤ high.toNat := by rw [high_eq]; split <;> omega
  rw [piecesFrom_start_of_begin begun, piecesFrom_second (by omega) least most,
    piecesFrom_last (by omega), whole]

theorem piecesFrom_four (least : 0x10000 ≤ v) (below : v < 0x110000) :
    piecesFrom .start (UInt8.ofNat (v / 262144 % 8 + 240) :: UInt8.ofNat (v / 4096 % 64 + 128) ::
      UInt8.ofNat (v / 64 % 64 + 128) :: UInt8.ofNat (v % 64 + 128) :: bytes) =
        .char (Char.ofNat v) :: piecesFrom .start bytes := by
  have whole : ((v / 262144 % 8 * 64 + v / 4096 % 64) * 64 + v / 64 % 64) * 64 + v % 64 = v := by
    omega
  obtain ⟨low, high, begun, low_eq, high_eq⟩ := begin_four (d := v / 262144 % 8) (by omega)
  -- The bounds are narrower behind the first bytes of overlong forms and of values too large.
  have least : low.toNat ≤ v / 4096 % 64 + 128 := by rw [low_eq]; split <;> omega
  have most : v / 4096 % 64 + 128 ≤ high.toNat := by rw [high_eq]; split <;> omega
  rw [piecesFrom_start_of_begin begun, piecesFrom_second (by omega) least most,
    piecesFrom_inner (by omega), piecesFrom_last (by omega), whole]

/-- The bytes of a character are read as the character. -/
theorem piecesFrom_utf8EncodeChar_append (c : Char) :
    piecesFrom .start (String.utf8EncodeChar c ++ bytes) = .char c :: piecesFrom .start bytes := by
  have valid : c.toNat < 0xD800 ∨ 0xDFFF < c.toNat ∧ c.toNat < 0x110000 := c.valid
  have char : Piece.char c = .char (Char.ofNat c.toNat) := by rw [Char.ofNat_toNat]
  rw [char]
  change piecesFrom .start ((if c.toNat ≤ 127 then _ else if c.toNat ≤ 2047 then _ else
    if c.toNat ≤ 65535 then _ else _) ++ bytes) = _
  split
  · exact piecesFrom_one (v := c.toNat) (by omega)
  split
  · exact piecesFrom_two (v := c.toNat) (by omega) (by omega)
  split
  · exact piecesFrom_three (v := c.toNat) (by omega) (by omega) (by omega)
  · exact piecesFrom_four (v := c.toNat) (by omega) (by omega)

end Characters

/-! ## Texts -/

/-- The pieces of a text in UTF-8 are its characters. -/
theorem pieces_encode (s : String) : pieces (encode s) = s.toList.map .char := by
  rw [pieces, encode]
  induction s.toList with
  | nil => rfl
  | cons c cs ih =>
    rw [List.flatMap_cons, piecesFrom_utf8EncodeChar_append, ih]
    rfl

/-- The bytes of a text are decoded to the text, without a replacement. -/
theorem decodeReplacing_encode (s : String) : decodeReplacing (encode s) = s := by
  have chars : (s.toList.map Piece.char).map Piece.toChar = s.toList := by
    rw [List.map_map]
    exact List.map_id _
  rw [decodeReplacing, pieces_encode, chars, String.ofList_toList]

end EnumTables.Text.Utf8
