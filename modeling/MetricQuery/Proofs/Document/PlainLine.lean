import MetricQuery.Document.Lexer

/-!
# Lines without quotes

A line of printable characters is a single scalar without quotes unless a mark in it ends the scalar
before its end.  It is read word by word, with the spaces in between.

## Main definitions

* `IsPrintable` : the printable characters of the basic set.
* `hasNoMark` : no mark ends a scalar inside a text.
* `IsPlainLine` : a line that is a single scalar.

## Main results

* `exists_words` : a text is a word, or a word in front of spaces and another text.
* `plainParts_word` : how a word and what follows it are read.
* `plainParts_line` : a line without marks is one scalar.
-/

namespace MetricQuery.Document

open Lexer (indicators)

/-! ### Cursors -/

section Cursors

variable {word rest : List Char} {column line index : Nat}

theorem Cursor.advanceBy_append (hword : ∀ c ∈ word, isBreak c = false ∧ c ≠ '\ufeff') :
    Cursor.advanceBy ⟨word ++ rest, column, line, index⟩ word.length =
      ⟨rest, column + word.length, line, index + word.length⟩ := by
  induction word generalizing column index with
  | nil => rfl
  | cons c word ih =>
      obtain ⟨⟨hbreak, hmark⟩, hword⟩ := List.forall_mem_cons.1 hword
      have hadvance : Cursor.advance ⟨c :: (word ++ rest), column, line, index⟩ =
          ⟨word ++ rest, column + 1, line, index + 1⟩ := by
        simp [Cursor.advance, hbreak, hmark]
      rw [List.length_cons, List.cons_append, Cursor.advanceBy, hadvance, ih hword,
        Nat.add_assoc, Nat.add_assoc, Nat.add_comm 1]

/-- The characters up to the first one that fails a test are a word in front of it. -/
theorem Cursor.run_append {p : Char → Bool} (hword : ∀ c ∈ word, p c = true)
    (hrest : ∀ c ∈ rest.head?, p c = false) :
    Cursor.run ⟨word ++ rest, column, line, index⟩ p = word := by
  rw [Cursor.run, List.takeWhile_append_of_pos hword]
  cases rest with
  | nil => simp
  | cons c rest => simp [hrest c rfl]

end Cursors

/-! ### Plain lines -/

/-- No mark ends a plain scalar inside a line: a colon in front of a gap, or a space in front of a
comment or the end of the line. -/
def hasNoMark : List Char → Bool
  | [] => true
  | c :: rest =>
    !(c == ':' && endsMark rest.head?) && !(c == ' ' && rest.head?.all (· == '#')) && hasNoMark rest

theorem plainRun_append {word rest : List Char} (hword : ∀ c ∈ word, isGap c = false)
    (hmark : hasNoMark word) (hrest : plainRun false rest = []) :
    plainRun false (word ++ rest) = word := by
  induction word with
  | nil => exact hrest
  | cons c word ih =>
      obtain ⟨hc, hword⟩ := List.forall_mem_cons.1 hword
      simp only [hasNoMark, Bool.and_eq_true, Bool.not_eq_true'] at hmark
      obtain ⟨⟨hcolon, -⟩, hmark⟩ := hmark
      -- The next character is the same with and without the rest, or there is none in the word.
      have hends : (c == ':' && (endsMark (word ++ rest).head? ||
          (false && (word ++ rest).head?.any isFlowMark))) = false := by
        rw [Bool.false_and, Bool.or_false]
        cases word with
        | nil =>
            have hne : (c == ':') = false := by simpa [endsMark] using hcolon
            rw [hne, Bool.false_and]
        | cons d word => exact hcolon
      rw [List.cons_append, plainRun, hends, hc, ih hword hmark]
      rfl

/-- What is no gap is neither a space nor a break of lines. -/
theorem not_space_of_isGap {c : Char} (h : isGap c = false) :
    (c == ' ') = false ∧ isBreak c = false := by
  rw [isGap, Bool.or_eq_false_iff, Bool.or_eq_false_iff] at h
  exact ⟨h.1.1, h.2⟩

/-- The end of a line in a plain scalar is the end of the text. -/
theorem plainGap_end (column line index : Nat) :
    plainGap ⟨['\n'], column, line, index⟩ = ([' '], ⟨[], 0, line + 1, index + 1⟩, true) := by
  rfl

/-- A scalar ends at a colon without a gap in front of it. -/
theorem plainGap_colon (rest : List Char) (column line index : Nat) :
    plainGap ⟨':' :: rest, column, line, index⟩ =
      ([], ⟨':' :: rest, column, line, index⟩, false) := by
  rfl

theorem plainGap_spaces {gap rest : List Char} (hgap : ∀ c ∈ gap, c = ' ')
    (hrest : rest.head?.any fun c => !isGap c) (column line index : Nat) :
    plainGap ⟨gap ++ rest, column, line, index⟩ =
      (gap, ⟨rest, column + gap.length, line, index + gap.length⟩, false) := by
  obtain ⟨c, rest, rfl⟩ : ∃ c more, rest = c :: more := by
    cases rest with
    | nil => exact nomatch hrest
    | cons c rest => exact ⟨c, rest, rfl⟩
  have hc : isGap c = false := by simpa using hrest
  obtain ⟨hspace, hbreak⟩ := not_space_of_isGap hc
  have hrun : Cursor.run ⟨gap ++ c :: rest, column, line, index⟩ (· == ' ') = gap :=
    Cursor.run_append (fun d hd => by rw [hgap d hd]; rfl) fun d hd => Option.some.inj hd ▸ hspace
  have hadvance : Cursor.advanceBy ⟨gap ++ c :: rest, column, line, index⟩ gap.length =
      ⟨c :: rest, column + gap.length, line, index + gap.length⟩ :=
    Cursor.advanceBy_append fun d hd => by rw [hgap d hd]; decide
  rw [plainGap, hrun]
  dsimp only
  rw [hadvance, Cursor.lineBreak]
  simp [Cursor.peek, hbreak]

theorem hasNoMark_of_append {s t : List Char} (h : hasNoMark (s ++ t)) : hasNoMark t := by
  induction s with
  | nil => exact h
  | cons c s ih => exact ih (Bool.and_eq_true_iff.1 h).2

theorem hasNoMark_of_forall {s : List Char} (h : ∀ c ∈ s, c ≠ ' ' ∧ c ≠ ':') : hasNoMark s := by
  induction s with
  | nil => rfl
  | cons c s ih =>
      obtain ⟨⟨hspace, hcolon⟩, hs⟩ := List.forall_mem_cons.1 h
      simp [hasNoMark, hspace, hcolon, ih hs]

/-- A part in front of a space is no key. -/
theorem hasNoMark_of_append_left {s t : List Char} (h : hasNoMark (s ++ t))
    (hs : ∀ c ∈ s, c ≠ ' ') (ht : ∀ c ∈ t.head?, c = ' ') : hasNoMark s := by
  induction s with
  | nil => rfl
  | cons c s ih =>
      obtain ⟨hc, hs⟩ := List.forall_mem_cons.1 hs
      have hspace : (c == ' ') = false := beq_eq_false_iff_ne.2 hc
      rw [List.cons_append] at h
      simp only [hasNoMark, hspace, Bool.false_and, Bool.not_false, Bool.and_true,
        Bool.and_eq_true] at h ⊢
      refine ⟨?_, ih h.2 hs⟩
      cases s with
      | nil =>
          have hends : endsMark t.head? = true := by
            cases t with
            | nil => rfl
            | cons d t => rw [ht d rfl]; rfl
          have hne : c ≠ ':' := by simpa [hends] using h.1
          simp [hne]
      | cons d s => exact h.1

/-- A text starts with the characters that pass a test and goes on with one that does not. -/
theorem exists_front (p : Char → Bool) (s : List Char) :
    ∃ front rest, s = front ++ rest ∧ (∀ c ∈ front, p c = true) ∧
      ∀ c ∈ rest.head?, p c = false := by
  refine ⟨s.takeWhile p, s.dropWhile p, List.takeWhile_append_dropWhile.symm,
    List.all_eq_true.1 List.all_takeWhile, fun c hc => ?_⟩
  have hhead := List.head?_dropWhile_not p s
  rw [hc] at hhead
  exact hhead

/-- A text that ends in no space is a word, or a word, spaces and another such text. -/
theorem exists_words {s : List Char} (h : hasNoMark s) :
    ∃ word gap more, s = word ++ (gap ++ more) ∧ (∀ c ∈ word, c ≠ ' ') ∧ hasNoMark word ∧
      (∀ c ∈ gap, c = ' ') ∧ (gap = [] ∧ more = [] ∨
        gap ≠ [] ∧ hasNoMark more ∧ more ≠ [] ∧ ∀ c ∈ more.head?, c ≠ ' ' ∧ c ≠ '#') := by
  obtain ⟨word, rest, hs, hword, hrest⟩ := exists_front (· != ' ') s
  obtain ⟨gap, more, rfl, hgap, hmore⟩ := exists_front (· == ' ') rest
  simp only [bne_iff_ne, bne_eq_false_iff_eq] at hword hrest
  simp only [beq_iff_eq, beq_eq_false_iff_ne] at hgap hmore
  subst hs
  refine ⟨word, gap, more, rfl, hword, hasNoMark_of_append_left h hword hrest, hgap, ?_⟩
  have hbehind : hasNoMark (gap ++ more) := hasNoMark_of_append h
  rcases gap.eq_nil_or_concat with rfl | ⟨init, last, rfl⟩
  · left
    refine ⟨rfl, ?_⟩
    cases more with
    | nil => rfl
    | cons c more => exact absurd (hrest c rfl) (hmore c rfl)
  · right
    obtain rfl := hgap last (by simp)
    rw [List.concat_eq_append, List.append_assoc] at hbehind
    have hlast := hasNoMark_of_append hbehind
    rw [List.singleton_append, hasNoMark] at hlast
    simp only [Bool.and_eq_true, Bool.not_eq_true', BEq.rfl, Bool.true_and] at hlast
    refine ⟨by simp, hlast.2, ?_, fun c hc => ⟨hmore c hc, ?_⟩⟩
    · rintro rfl
      exact nomatch hlast.1.2
    · rintro rfl
      have hhead : more.head? = some '#' := hc
      rw [hhead] at hlast
      exact nomatch hlast.1.2

/-- The printable characters of the basic set. -/
def IsPrintable (c : Char) : Prop :=
  ' ' ≤ c ∧ c ≤ '~'

instance : DecidablePred IsPrintable :=
  fun c => inferInstanceAs (Decidable (' ' ≤ c ∧ c ≤ '~'))

theorem IsPrintable.isBreak {c : Char} (h : IsPrintable c) : isBreak c = false ∧ c ≠ '\ufeff' := by
  have hcode : c.toNat ≤ 126 := h.2
  have hne {d : Char} (hd : ¬ (' ' ≤ d ∧ d ≤ '~')) : c ≠ d := fun heq => hd (heq ▸ h)
  refine ⟨?_, hne (by decide)⟩
  simp [Document.isBreak, hne (d := '\n') (by decide), hne (d := '\x85') (by decide),
    hne (d := '\u2028') (by decide), hne (d := '\u2029') (by decide)]

theorem IsPrintable.isGap {c : Char} (h : IsPrintable c) (hc : c ≠ ' ') : isGap c = false := by
  have htab : c ≠ '\t' := by
    rintro rfl
    exact absurd h (by decide)
  simp [Document.isGap, hc, htab, h.isBreak.1]

/-- Letters are printable, and none is a mark. -/
theorem plain_of_isAlpha {c : Char} (h : c.isAlpha) :
    IsPrintable c ∧ c ≠ ' ' ∧ c ≠ ':' ∧ c ∉ indicators := by
  have hcode : c.toNat < 0x7B := by
    rcases (Bool.or_eq_true _ _).mp h with hupper | hlower
    · exact Nat.lt_of_le_of_lt (of_decide_eq_true hupper).2 (by decide)
    · exact Nat.lt_of_le_of_lt (of_decide_eq_true (Bool.and_eq_true_iff.1 hlower).2) (by decide)
  have hall : ∀ n < 0x7B, (Char.ofNat n).isAlpha → (' ' ≤ Char.ofNat n ∧ Char.ofNat n ≤ '~') ∧
      Char.ofNat n ≠ ' ' ∧ Char.ofNat n ≠ ':' ∧ Char.ofNat n ∉ indicators := by
    decide
  have hchar := hall c.toNat hcode
  rw [Char.ofNat_toNat] at hchar
  exact hchar h

/-- A word and the gap behind it are a plain scalar, or the rest of the scalar follows them. -/
theorem plainParts_word {word rest gap' : List Char} {behind : Cursor} {crossed' : Bool}
    {column line index : Nat} (hchars : ∀ c ∈ word, IsPrintable c ∧ c ≠ ' ') (hne : word ≠ [])
    (hmark : hasNoMark word) (hhead : ∀ c ∈ word.head?, c ≠ '#') (hrest : plainRun false rest = [])
    (hgap : plainGap ⟨rest, column + word.length, line, index + word.length⟩ =
      (gap', behind, crossed')) (indent : Int) (fuel : Nat) (gap : List Char) (crossed : Bool) :
    plainParts false indent (fuel + 1) ⟨word ++ rest, column, line, index⟩ gap crossed =
      if gap'.isEmpty || behind.peek == some '#' || decide ((behind.column : Int) < indent) then
        (gap ++ word, behind, crossed')
      else
        (gap ++ word ++ (plainParts false indent fuel behind gap' crossed').1,
          (plainParts false indent fuel behind gap' crossed').2) := by
  have hrun : plainRun false (word ++ rest) = word :=
    plainRun_append (fun c hc => (hchars c hc).1.isGap (hchars c hc).2) hmark hrest
  have hadvance : Cursor.advanceBy ⟨word ++ rest, column, line, index⟩ word.length =
      ⟨rest, column + word.length, line, index + word.length⟩ :=
    Cursor.advanceBy_append fun c hc => (hchars c hc).1.isBreak
  obtain ⟨c, word, rfl⟩ := List.exists_cons_of_ne_nil hne
  have hpeek : (Cursor.peek ⟨c :: word ++ rest, column, line, index⟩ == some '#') = false := by
    simpa [Cursor.peek] using hhead c rfl
  rw [plainParts, hpeek, if_neg Bool.false_ne_true, hrun]
  dsimp only
  rw [hadvance, hgap]
  simp

/-- A line without marks is one plain scalar.  The induction is on the length of the line, which is
read word by word. -/
theorem plainParts_line {s : List Char} (hs : s ≠ []) (hchars : ∀ c ∈ s, IsPrintable c)
    (hmark : hasNoMark s) (hhead : ∀ c ∈ s.head?, c ≠ ' ' ∧ c ≠ '#') (gap : List Char)
    (crossed : Bool) {fuel column line index : Nat} (hfuel : s.length < fuel)
    (hcolumn : 1 ≤ column) :
    plainParts false 1 fuel ⟨s ++ ['\n'], column, line, index⟩ gap crossed =
      (gap ++ s, ⟨[], 0, line + 1, index + s.length + 1⟩, true) := by
  induction fuel generalizing s gap crossed column index with
  | zero => omega
  | succ fuel ih =>
      obtain ⟨word, spaces, more, rfl, hword, hwordMark, hspaces, hmore⟩ := exists_words hmark
      obtain ⟨c, word, rfl⟩ : ∃ c rest, word = c :: rest := by
        cases word with
        | cons c word => exact ⟨c, word, rfl⟩
        | nil =>
            obtain ⟨rfl, rfl⟩ | ⟨hne, -⟩ := hmore
            · exact absurd rfl hs
            · obtain ⟨d, spaces, rfl⟩ := List.exists_cons_of_ne_nil hne
              exact absurd (hspaces d List.mem_cons_self) (hhead d rfl).1
      simp only [List.forall_mem_append] at hchars
      obtain ⟨hwordChars, -, hmoreChars⟩ := hchars
      have hwordChars : ∀ d ∈ c :: word, IsPrintable d ∧ d ≠ ' ' := fun d hd =>
        ⟨hwordChars d hd, hword d hd⟩
      have hwordHead : ∀ d ∈ (c :: word).head?, d ≠ '#' := fun d hd => (hhead d hd).2
      obtain ⟨rfl, rfl⟩ | ⟨hne, hmoreMark, hmoreNe, hmoreHead⟩ := hmore
      · have hend := plainParts_word hwordChars (List.cons_ne_nil c word) hwordMark hwordHead rfl
          (plainGap_end (column + (c :: word).length) line (index + (c :: word).length)) 1 fuel gap
          crossed
        rw [List.append_nil, List.append_nil, hend, if_pos (by simp)]
      · have hrest : plainRun false (spaces ++ (more ++ ['\n'])) = [] := by
          obtain ⟨d, spaces, rfl⟩ := List.exists_cons_of_ne_nil hne
          rw [hspaces d List.mem_cons_self]
          rfl
        have hstart : (more ++ ['\n']).head?.any fun d => !isGap d := by
          obtain ⟨d, more, rfl⟩ := List.exists_cons_of_ne_nil hmoreNe
          have hd := (hmoreChars d List.mem_cons_self).isGap (hmoreHead d rfl).1
          simp [hd]
        have hnext := plainParts_word hwordChars (List.cons_ne_nil c word) hwordMark hwordHead hrest
          (plainGap_spaces hspaces hstart (column + (c :: word).length) line
            (index + (c :: word).length)) 1 fuel gap crossed
        have hlength : more.length < fuel := by
          simp only [List.length_append, List.length_cons] at hfuel
          omega
        rw [ih hmoreNe hmoreChars hmoreMark hmoreHead spaces false hlength (by omega)] at hnext
        rw [List.append_assoc, List.append_assoc, hnext, if_neg]
        · simp only [List.append_assoc, List.length_append, Nat.add_assoc]
        · obtain ⟨d, more, rfl⟩ := List.exists_cons_of_ne_nil hmoreNe
          simp [hne, Cursor.peek, (hmoreHead d rfl).2]
          omega

/-- A line that is a single scalar without quotes wherever it stands in a block. -/
structure IsPlainLine (s : List Char) : Prop where
  printable : ∀ c ∈ s, IsPrintable c
  starts : ∃ c rest, s = c :: rest ∧ ((c ≠ ' ' ∧ c ∉ indicators) ∨
    ((c = '-' ∨ c = '?' ∨ c = ':') ∧ endsMark rest.head? = false))
  marks : hasNoMark s

theorem IsPlainLine.getLast?_ne {s : List Char} (h : IsPlainLine s) : s.getLast? ≠ some '\n' :=
  fun hlast => absurd (h.printable '\n' (List.mem_of_getLast? hlast)) (by decide)

end MetricQuery.Document
