import MetricQuery.Proofs.Document.Plain
import MetricQuery.Proofs.Document.PlainLine

/-!
# Entries on one line

A document of one line, a key and a value without quotes, is a mapping of one entry.  The lexer
makes it in four steps: the key, the colon, which makes the tokens in front of it a mapping, the
value, and the end of the text.

## Main definitions

* `Lexer.behindKey`, `Lexer.behindColon`, `Lexer.behindScalar` : the states in between.
* `IsPlainKey` : a word of letters that stands for itself.

## Main results

* `Lexer.step_of_peek`, `Lexer.step_of_end` : a step that closes no structure.
* `Lexer.tokens_entry` : the tokens of an entry.
* `Node.check_entry`, `Node.datum_entry` : the fault of an entry and its data.
* `ofDocument_entry` : an entry stands for what its value does.
-/

namespace MetricQuery.Document

/-! ### Steps of the lexer -/

namespace Lexer

section Steps

variable {l : Lexer} {c : Char} {rest : List Char}

/-- Where a plain scalar starts in a block, it is read. -/
theorem dispatch_of_startsPlain (hblock : l.inBlock) (hpeek : l.cursor.peek = some c)
    (hmarks : l.cursor.column = 0 → l.cursor.atMarks '-' = false ∧ l.cursor.atMarks '.' = false)
    (h : l.startsPlain) : l.dispatch c = l.atPlainScalar := by
  have hstart : (isGap c = false ∧ c ∉ indicators) ∨
      (endsMark (l.cursor.peekAt 1) = false ∧ (c = '-' ∨ c = '?' ∨ c = ':')) := by
    rw [startsPlain, hpeek] at h
    simpa [hblock] using h
  have hother {d : Char} (hd : d ∈ indicators ∧ d ≠ '-' ∧ d ≠ '?' ∧ d ≠ ':') : c ≠ d := by
    rintro rfl
    obtain ⟨-, hmem⟩ | ⟨-, rfl | rfl | rfl⟩ := hstart
    · exact hmem hd.1
    · exact hd.2.1 rfl
    · exact hd.2.2.1 rfl
    · exact hd.2.2.2 rfl
  have halone (hc : c = '-' ∨ c = '?' ∨ c = ':') : endsMark (l.cursor.peekAt 1) = false := by
    obtain ⟨-, hmem⟩ | ⟨hends, -⟩ := hstart
    · refine absurd ?_ hmem
      rcases hc with rfl | rfl | rfl <;> decide
    · exact hends
  have hdash : ¬ (c = '-' ∧ endsMark (l.cursor.peekAt 1) = true) := fun ⟨hc, hends⟩ =>
    absurd hends (by simp [halone (.inl hc)])
  have hquestion : ¬ (c = '?' ∧ ((!l.inBlock) = true ∨ endsMark (l.cursor.peekAt 1) = true)) :=
    fun ⟨hc, hends⟩ => absurd hends (by simp [hblock, halone (.inr (.inl hc))])
  have hcolon : ¬ (c = ':' ∧ ((!l.inBlock) = true ∨ endsMark (l.cursor.peekAt 1) = true)) :=
    fun ⟨hc, hends⟩ => absurd hends (by simp [hblock, halone (.inr (.inr hc))])
  have hmarkDash : ¬ (l.cursor.column = 0 ∧ l.cursor.atMarks '-' = true) := fun ⟨hcolumn, hmark⟩ =>
    absurd hmark (by simp [(hmarks hcolumn).1])
  have hmarkPoint : ¬ (l.cursor.column = 0 ∧ l.cursor.atMarks '.' = true) :=
    fun ⟨hcolumn, hmark⟩ => absurd hmark (by simp [(hmarks hcolumn).2])
  have hpercent : ¬ (c = '%' ∧ l.cursor.column = 0) := fun h => hother (by decide) h.1
  unfold dispatch
  dsimp only
  rw [if_neg hpercent, if_neg hmarkDash, if_neg hmarkPoint]
  split
  · exact absurd rfl (hother (by decide))
  · exact absurd rfl (hother (by decide))
  · exact absurd rfl (hother (by decide))
  · exact absurd rfl (hother (by decide))
  · exact absurd rfl (hother (by decide))
  · rw [if_neg hdash, if_neg hquestion, if_neg hcolon, if_neg (hother (by decide)),
      if_neg (hother (by decide)), if_neg (hother (by decide)),
      if_neg fun hc => hother (by decide) hc.1, if_neg fun hc => hother (by decide) hc.1,
      if_neg (hother (by decide)), if_neg (hother (by decide)), if_pos h]

theorem atPlainScalar_of_read {l' : Lexer} {text : List Char} {behind : Cursor} {crossed : Bool}
    (hsave : l.saveKey = .ok l')
    (hread : plainScalar (!l'.inBlock) (l'.indent + 1) l'.cursor = (text, behind, crossed)) :
    l.atPlainScalar = .ok { (l'.moveTo behind).push (.scalar true (String.ofList text)) with
      allowsKey := crossed } := by
  rw [atPlainScalar, hsave]
  dsimp only [bind, Except.bind]
  rw [hread]
  rfl

/-- A gap inside a line are spaces. -/
theorem skipGap_spaces (gap : List Char) {rest : List Char} {column line index : Nat}
    (hl : l.cursor = ⟨gap ++ rest, column, line, index⟩) (hgap : ∀ c ∈ gap, c = ' ')
    (hrest : ∃ c more, rest = c :: more ∧ isGap c = false ∧ c ≠ '#' ∧ c ≠ '\ufeff') :
    l.skipGap =
      { l with cursor := ⟨rest, column + gap.length, line, index + gap.length⟩ } := by
  obtain ⟨c, more, rfl, hc, hhash, hmark⟩ := hrest
  obtain ⟨hspace, hbreak⟩ := not_space_of_isGap hc
  have hfront : ¬ (index = 0 ∧ (gap ++ c :: more).head? = some '\ufeff') := by
    rintro ⟨-, hhead⟩
    cases gap with
    | nil => exact hmark (Option.some.inj hhead)
    | cons d gap =>
        have hd := (hgap d List.mem_cons_self).symm.trans (Option.some.inj hhead)
        exact absurd hd (by decide)
  have hrun : Cursor.run ⟨gap ++ c :: more, column, line, index⟩ (· == ' ') = gap :=
    Cursor.run_append (fun d hd => by rw [hgap d hd]; rfl) fun d hd => Option.some.inj hd ▸ hspace
  have hskip : Cursor.skipSpaces ⟨gap ++ c :: more, column, line, index⟩ =
      ⟨c :: more, column + gap.length, line, index + gap.length⟩ := by
    rw [Cursor.skipSpaces, Cursor.skip, hrun,
      Cursor.advanceBy_append fun d hd => by rw [hgap d hd]; decide]
  have hplace (fuel : Nat) : nextPlace (fuel + 1) ⟨gap ++ c :: more, column, line, index⟩ false =
      (⟨c :: more, column + gap.length, line, index + gap.length⟩, false) := by
    rw [nextPlace, hskip]
    simp [Cursor.skipComment, Cursor.lineBreak, Cursor.peek, hbreak, hhash]
  rw [skipGap, hl]
  dsimp only
  rw [Cursor.peek, if_neg hfront, hplace]
  simp

theorem dropStaleKeys_of_fresh (h : ∀ k ∈ l.keys, l.isStale k.2 = false) :
    l.dropStaleKeys = .ok l := by
  have hany : (l.keys.any fun k => l.isStale k.2 && k.2.isRequired) = false := by
    rw [List.any_eq_false]
    intro k hk
    simp [h k hk]
  have hfilter : (l.keys.filter fun k => !l.isStale k.2) = l.keys :=
    List.filter_eq_self.2 fun k hk => by simp [h k hk]
  unfold dropStaleKeys
  rw [hany, if_neg Bool.false_ne_true, hfilter]

theorem unwind_of_le {column : Int} (h : l.indent ≤ column) : l.unwind column = l := by
  unfold unwind closeTo
  split
  · rfl
  · exact if_neg (by simp [Int.not_lt.2 h])

section Fresh

variable {l' : Lexer} (hgap : l.skipGap = l') (hfresh : ∀ k ∈ l'.keys, l'.isStale k.2 = false)
  (hindent : l'.indent ≤ l'.column)

include hgap hfresh hindent

/-- A step in front of a character that closes no structure. -/
theorem step_of_peek (hpeek : l'.cursor.peek = some c) : l.step = l'.dispatch c := by
  rw [step, hgap, dropStaleKeys_of_fresh hfresh]
  dsimp only [bind, Except.bind]
  rw [unwind_of_le hindent, hpeek]

/-- A step at the end of a text. -/
theorem step_of_end (hpeek : l'.cursor.peek = none) : l.step = l'.atEnd := by
  rw [step, hgap, dropStaleKeys_of_fresh hfresh]
  dsimp only [bind, Except.bind]
  rw [unwind_of_le hindent, hpeek]

end Fresh

/-- There is no gap at the end of a text. -/
theorem skipGap_end {column line index : Nat} (hl : l.cursor = ⟨[], column, line, index⟩) :
    l.skipGap = l := by
  have hfront : ¬ (index = 0 ∧ Cursor.peek ⟨[], column, line, index⟩ = some '\ufeff') :=
    fun h => nomatch h.2
  have hplace : nextPlace 1 ⟨[], column, line, index⟩ false =
      (⟨[], column, line, index⟩, false) := rfl
  rw [skipGap, hl]
  dsimp only
  rw [if_neg hfront, List.length_nil, hplace]
  simp [← hl]

end Steps

/-! ### Entries of one line -/

section Entry

variable {key s : List Char}

/-- The lexer behind the key of an entry. -/
def behindKey (key rest : List Char) : Lexer where
  cursor := ⟨':' :: rest, key.length, 0, key.length⟩
  flowDepth := 0
  indent := -1
  outerIndents := []
  allowsKey := false
  keys := [(0, ⟨0, false, 0, 0, 0⟩)]
  reversed := [.scalar true (String.ofList key)]
  count := 1
  isDone := false

/-- The lexer behind the colon of an entry. -/
def behindColon (key rest : List Char) : Lexer where
  cursor := ⟨rest, key.length + 1, 0, key.length + 1⟩
  flowDepth := 0
  indent := 0
  outerIndents := [-1]
  allowsKey := false
  keys := []
  reversed := [.value, .scalar true (String.ofList key), .key, .blockMappingStart]
  count := 4
  isDone := false

/-- The lexer behind the scalar of an entry. -/
def behindScalar (key s : List Char) (index : Nat) : Lexer :=
  { behindColon key [] with
    cursor := ⟨[], 0, 1, index⟩
    allowsKey := true
    reversed := .scalar true (String.ofList s) :: (behindColon key []).reversed
    count := 5 }

theorem step_start (hkey : ∀ c ∈ key, c.isAlpha) (hne : key ≠ []) (rest : List Char) :
    (start (key ++ ':' :: ' ' :: rest)).step = .ok (behindKey key (' ' :: rest)) := by
  obtain ⟨c, more, rfl⟩ := List.exists_cons_of_ne_nil hne
  obtain ⟨hprintable, hspace, -, hindicator⟩ := plain_of_isAlpha (hkey c List.mem_cons_self)
  have hgap : isGap c = false := hprintable.isGap hspace
  have hhash : c ≠ '#' := by
    rintro rfl
    exact hindicator (by decide)
  have hdash : c ≠ '-' := by
    rintro rfl
    exact hindicator (by decide)
  have hpoint : c ≠ '.' := by
    rintro rfl
    exact absurd (hkey '.' List.mem_cons_self) (by decide)
  have hskip : (start (c :: more ++ ':' :: ' ' :: rest)).skipGap =
      start (c :: more ++ ':' :: ' ' :: rest) :=
    skipGap_spaces [] rfl (by simp) ⟨c, _, rfl, hgap, hhash, hprintable.isBreak.2⟩
  have hindent : (-1 : Int) ≤ 0 := by decide
  have hend : plainRun false (':' :: ' ' :: rest) = [] := rfl
  have hplain : ∀ d ∈ c :: more, IsPrintable d ∧ d ≠ ' ' ∧ d ≠ ':' ∧ d ∉ indicators :=
    fun d hd => plain_of_isAlpha (hkey d hd)
  have hparts := plainParts_word (fun d hd => ⟨(hplain d hd).1, (hplain d hd).2.1⟩) hne
    (hasNoMark_of_forall fun d hd => ⟨(hplain d hd).2.1, (hplain d hd).2.2.1⟩)
    (fun d hd => Option.some.inj hd ▸ hhash) hend
    (plainGap_colon (' ' :: rest) (0 + (c :: more).length) 0 (0 + (c :: more).length)) 0
    (c :: more ++ ':' :: ' ' :: rest).length [] false
  rw [step_of_peek hskip (by simp [start]) hindent rfl, dispatch_of_startsPlain rfl rfl]
  · have hread : plainScalar false 0 (Cursor.start (c :: more ++ ':' :: ' ' :: rest)) =
        (c :: more, ⟨':' :: ' ' :: rest, (c :: more).length, 0, (c :: more).length⟩, false) := by
      simp only [Nat.zero_add] at hparts
      rw [plainScalar, Cursor.start, hparts, if_pos (by simp), List.nil_append]
    have hsaved : (start (c :: more ++ ':' :: ' ' :: rest)).saveKey = .ok
        { start (c :: more ++ ':' :: ' ' :: rest) with keys := [(0, ⟨0, false, 0, 0, 0⟩)] } := rfl
    exact atPlainScalar_of_read hsaved hread
  · intro _
    constructor <;> simp [start, Cursor.atMarks, Cursor.start, hdash, hpoint]
  · simp [startsPlain, start, Cursor.start, Cursor.peek, hgap, hindicator]

theorem step_behindKey (hlength : key.length ≤ maxKeyLength) (rest : List Char) :
    (behindKey key (' ' :: rest)).step = .ok (behindColon key (' ' :: rest)) := by
  have hgap : (behindKey key (' ' :: rest)).skipGap = behindKey key (' ' :: rest) :=
    skipGap_spaces [] rfl (by simp) ⟨':', _, rfl, by decide, by decide, by decide⟩
  have hfresh : ∀ k ∈ (behindKey key (' ' :: rest)).keys,
      (behindKey key (' ' :: rest)).isStale k.2 = false := by
    refine List.forall_mem_singleton.2 ?_
    simp [isStale, behindKey, Nat.not_lt.2 hlength]
  have hindent : (-1 : Int) ≤ key.length := by omega
  rw [step_of_peek hgap hfresh hindent rfl]
  have hdash : (behindKey key (' ' :: rest)).cursor.atMarks '-' = false := rfl
  have hpoint : (behindKey key (' ' :: rest)).cursor.atMarks '.' = false := rfl
  have halone : endsMark ((behindKey key (' ' :: rest)).cursor.peekAt 1) = true := rfl
  have hvalue : (behindKey key (' ' :: rest)).dispatch ':' =
      (behindKey key (' ' :: rest)).atValue := by
    simp [dispatch, hdash, hpoint, halone]
  rw [hvalue]
  rfl

theorem step_behindColon (hs : IsPlainLine s) :
    (behindColon key (' ' :: (s ++ ['\n']))).step =
      .ok (behindScalar key s (key.length + 2 + s.length + 1)) := by
  obtain ⟨c, rest, rfl, hstart⟩ := hs.starts
  have hspace : c ≠ ' ' := by
    rintro rfl
    obtain ⟨hne, -⟩ | ⟨hmark, -⟩ := hstart
    · exact hne rfl
    · exact absurd hmark (by decide)
  have hhash : c ≠ '#' := by
    rintro rfl
    obtain ⟨-, hmem⟩ | ⟨hmark, -⟩ := hstart
    · exact hmem (by decide)
    · exact absurd hmark (by decide)
  have hprintable := hs.printable c List.mem_cons_self
  have hskip : (behindColon key (' ' :: (c :: rest ++ ['\n']))).skipGap =
      { behindColon key [] with
        cursor := ⟨c :: rest ++ ['\n'], key.length + 2, 0, key.length + 2⟩ } :=
    skipGap_spaces [' '] rfl (by simp)
      ⟨c, _, rfl, hprintable.isGap hspace, hhash, hprintable.isBreak.2⟩
  have hindent : (0 : Int) ≤ (key.length + 2 : Nat) := by omega
  rw [step_of_peek hskip (by simp [behindColon]) hindent rfl, dispatch_of_startsPlain rfl rfl]
  · have hread : plainScalar false 1 ⟨c :: rest ++ ['\n'], key.length + 2, 0, key.length + 2⟩ =
        (c :: rest, ⟨[], 0, 1, key.length + 2 + (c :: rest).length + 1⟩, true) := by
      rw [plainScalar, plainParts_line (List.cons_ne_nil c rest) hs.printable hs.marks
        (fun d hd => Option.some.inj hd ▸ ⟨hspace, hhash⟩) _ _ (by simp) (by simp)]
      rfl
    have hsaved : Lexer.saveKey { behindColon key [] with
        cursor := ⟨c :: rest ++ ['\n'], key.length + 2, 0, key.length + 2⟩ } = .ok
        { behindColon key [] with
          cursor := ⟨c :: rest ++ ['\n'], key.length + 2, 0, key.length + 2⟩ } := rfl
    exact atPlainScalar_of_read hsaved hread
  · intro hcolumn
    exact absurd hcolumn (by simp)
  · have hends : endsMark (Cursor.peekAt
        ⟨c :: rest ++ ['\n'], key.length + 2, 0, key.length + 2⟩ 1) = endsMark rest.head? := by
      cases rest with
      | nil => rfl
      | cons d rest => rfl
    have hpeek : Cursor.peek ⟨c :: rest ++ ['\n'], key.length + 2, 0, key.length + 2⟩ =
        some c := rfl
    unfold startsPlain
    dsimp only
    rw [hpeek]
    dsimp only
    rw [hends]
    obtain ⟨-, hmem⟩ | ⟨hmark, hnone⟩ := hstart
    · simp [hprintable.isGap hspace, hmem]
    · rcases hmark with rfl | rfl | rfl <;> simp [hnone, inBlock, behindColon]

/-- The end of the text closes the mapping that the entry opened. -/
theorem step_behindScalar (key s : List Char) (index : Nat) :
    ∃ l, (behindScalar key s index).step = .ok l ∧ l.isDone = true ∧
      l.reversed = .streamEnd :: .blockEnd :: (behindScalar key s index).reversed := by
  rw [step_of_end (skipGap_end rfl) (by simp [behindScalar, behindColon]) (Int.le_refl 0) rfl]
  exact ⟨_, rfl, rfl, rfl⟩

theorem run_of_step {l l' : Lexer} (hdone : l.isDone = false) (hstep : l.step = .ok l')
    (fuel : Nat) : run (fuel + 1) l = run fuel l' := by
  rw [run, hdone, if_neg Bool.false_ne_true, hstep]

theorem run_of_isDone {l : Lexer} (hdone : l.isDone = true) (fuel : Nat) :
    run fuel l = l.reversed.reverse := by
  cases fuel with
  | zero => rfl
  | succ fuel => rw [run, hdone, if_pos rfl]

/-- The tokens of an entry on a line of its own: those of a mapping of two plain scalars. -/
theorem tokens_entry (hkey : ∀ c ∈ key, c.isAlpha) (hne : key ≠ [])
    (hlength : key.length ≤ maxKeyLength) (hs : IsPlainLine s) :
    tokens (key ++ ':' :: ' ' :: (s ++ ['\n'])) =
      [.blockMappingStart, .key, .scalar true (String.ofList key), .value,
        .scalar true (String.ofList s), .blockEnd, .streamEnd] := by
  obtain ⟨l, hlast, hdone, hreversed⟩ :=
    step_behindScalar key s (key.length + 2 + s.length + 1)
  obtain ⟨fuel, hfuel⟩ : ∃ fuel, (key ++ ':' :: ' ' :: (s ++ ['\n'])).length + 2 = fuel + 4 := by
    refine ⟨key.length + s.length + 1, ?_⟩
    simp only [List.length_append, List.length_cons, List.length_nil]
    omega
  rw [tokens, hfuel, run_of_step rfl (step_start hkey hne _),
    run_of_step rfl (step_behindKey hlength _), run_of_step rfl (step_behindColon hs),
    run_of_step rfl hlast, run_of_isDone hdone, hreversed]
  rfl

end Entry

end Lexer

/-! ### The value of an entry -/

/-- The tree of an entry is a mapping of one key. -/
theorem Node.ofTokens_entry {key : String} (hkey : Tag.ofPlain key = .str) (s : String) :
    Node.ofTokens [.blockMappingStart, .key, .scalar true key, .value, .scalar true s, .blockEnd,
      .streamEnd] = .ok (.mapping .map [(.scalar .str key, .scalar (Tag.ofPlain s) s)]) := by
  rw [← hkey]
  rfl

theorem Node.single_scalar (tag : Tag) (s : String) : single tag (.scalar tag s) = tag.read s := by
  rw [single]
  cases tag <;> rfl

/-- The value of an entry is looked at on the second level. -/
theorem Node.check_entry (key s : String) {tag : Tag} (htag : tag.isStructure = false) :
    Node.check (.mapping .map [(.scalar .str key, .scalar tag s)]) =
      (tag.read s).map fun _ => () := by
  have hroot : checkPart (.item (.mapping .map [(.scalar .str key, .scalar tag s)])) =
      .ok [.mapping .map [(.scalar .str key, .scalar tag s)]] := rfl
  have hparts : Node.parts (.mapping .map [(.scalar .str key, .scalar tag s)]) =
      .ok [.key (.scalar .str key), .item (.scalar tag s)] := rfl
  have hkey : checkPart (.key (.scalar .str key)) = .ok [] := rfl
  have hvalue : checkPart (.item (.scalar tag s)) = (tag.read s).map fun _ => [] := by
    rw [checkPart]
    dsimp only [keyTag]
    rw [htag, if_neg Bool.false_ne_true, single_scalar]
  have hlevel : checkLevels 3 [.mapping .map [(.scalar .str key, .scalar tag s)]] =
      (tag.read s).map fun _ => () := by
    rw [checkLevels, List.mapM_cons, hparts]
    · dsimp only [bind, Except.bind]
      rw [List.mapM_cons, hkey]
      dsimp only [bind, Except.bind]
      rw [List.mapM_cons, hvalue]
      cases tag.read s with
      | error fault => rfl
      | ok d => rfl
    · simp
  rw [check, hroot]
  exact hlevel

theorem Node.datumWithin_scalar (fuel : Nat) {tag : Tag} {s : String} {d : Datum}
    (hread : tag.read s = .ok d) : datumWithin (fuel + 1) (.scalar tag s) = d := by
  have hsingle : single tag (.scalar tag s) = .ok d := (single_scalar tag s).trans hread
  rw [datumWithin]
  · dsimp only [keyTag]
    rw [hsingle]
  all_goals nofun

theorem Node.datum_entry (key s : String) {tag : Tag} {d : Datum} (hread : tag.read s = .ok d) :
    Node.datum (.mapping .map [(.scalar .str key, .scalar tag s)]) = .map [(.text key, d)] := by
  have hdatum : Node.datum (.mapping .map [(.scalar .str key, .scalar tag s)]) =
      .map [(datumWithin 2 (.scalar .str key), datumWithin 2 (.scalar tag s))] := rfl
  rw [hdatum, datumWithin_scalar 1 hread]
  rfl

theorem Tag.isStructure_ofPlain (s : String) : (Tag.ofPlain s).isStructure = false := by
  unfold Tag.ofPlain
  dsimp only
  split_ifs <;> rfl

/-! ### The text of an entry -/

/-- A word of letters that stands for itself. -/
structure IsPlainKey (key : String) : Prop where
  letters : ∀ c ∈ key.toList, c.isAlpha
  nonempty : key.toList ≠ []
  length_le : key.toList.length ≤ Lexer.maxKeyLength
  tag : Tag.ofPlain key = .str

/-- A text without carriage returns has line feeds only. -/
theorem normalLines_eq_self {text : List Char} (h : '\r' ∉ text) :
    Text.normalLines text = text := by
  induction text with
  | nil => rfl
  | cons c text ih =>
      rw [List.mem_cons, not_or] at h
      rw [Text.normalLines, ih h.2]
      · rintro rest rfl -
        exact h.1 rfl
      · rintro rfl
        exact h.1 rfl

theorem IsPrintable.isReadable {c : Char} (h : IsPrintable c) : isReadable c = true := by
  have hlow : 0x20 ≤ c.toNat := h.1
  have hhigh : c.toNat ≤ 0x7E := h.2
  simp [Document.isReadable, hlow, hhigh]

/-- The data of an entry on a line of its own: one key with the value of a plain scalar. -/
theorem ofDocument_entry {key s : String} (hkey : IsPlainKey key) (hs : IsPlainLine s.toList) :
    Datum.ofDocument (key ++ ": " ++ s ++ "\n") =
      ((Tag.ofPlain s).read s).map fun d => .map [(.text key, d)] := by
  have htext : (key ++ ": " ++ s ++ "\n").toList =
      key.toList ++ ':' :: ' ' :: (s.toList ++ ['\n']) := by
    simp
  have hchars : ∀ c ∈ key.toList ++ ':' :: ' ' :: (s.toList ++ ['\n']),
      IsPrintable c ∨ c = '\n' := by
    simp only [List.forall_mem_append, List.forall_mem_cons]
    refine ⟨fun c hc => .inl (plain_of_isAlpha (hkey.letters c hc)).1, .inl ⟨by decide, by decide⟩,
      .inl ⟨by decide, by decide⟩, fun c hc => .inl (hs.printable c hc), .inr trivial, nofun⟩
  have hlines : Text.normalLines (key.toList ++ ':' :: ' ' :: (s.toList ++ ['\n'])) =
      key.toList ++ ':' :: ' ' :: (s.toList ++ ['\n']) :=
    normalLines_eq_self fun hmem => absurd (hchars '\r' hmem) (by decide)
  have hreadable : (key.toList ++ ':' :: ' ' :: (s.toList ++ ['\n'])).findIdx?
      (fun c => !isReadable c) = none := by
    rw [List.findIdx?_eq_none_iff]
    intro c hc
    rcases hchars c hc with hprintable | rfl
    · rw [hprintable.isReadable]
      rfl
    · rfl
  have hnode : Node.ofText (key.toList ++ ':' :: ' ' :: (s.toList ++ ['\n'])) =
      .ok (.mapping .map [(.scalar .str key, .scalar (Tag.ofPlain s) s)]) := by
    rw [Node.ofText, Lexer.tokens_entry hkey.letters hkey.nonempty hkey.length_le hs,
      String.ofList_toList, String.ofList_toList, Node.ofTokens_entry hkey.tag]
  have hread : Datum.ofDocument (key ++ ": " ++ s ++ "\n") =
      ((Node.check (.mapping .map [(.scalar .str key, .scalar (Tag.ofPlain s) s)])).map fun _ =>
        Node.datum (.mapping .map [(.scalar .str key, .scalar (Tag.ofPlain s) s)])) := by
    rw [Datum.ofDocument, htext, hlines, hreadable]
    dsimp only
    rw [hnode]
    rfl
  rw [hread, Node.check_entry key s (Tag.isStructure_ofPlain s)]
  cases hvalue : (Tag.ofPlain s).read s with
  | error fault => rfl
  | ok d =>
      rw [Node.datum_entry key s hvalue]
      rfl

end MetricQuery.Document
