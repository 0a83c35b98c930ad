import Mathlib.Algebra.GroupWithZero.Nat
import Mathlib.Data.List.Basic
import Mathlib.Data.Nat.Basic
import MetricQuery.Text.Quoted

/-!
# Reading quoted literals

A quoted literal is read from its first quote to the same quote where it stands without an escape.
The reader is told neither how long the literal is nor what follows it.  It gives back the text that
was quoted and stops right behind the literal (`Quoted.decode_encode`).  What follows makes no
difference to what it reads (`Quoted.decode_append`), so a literal that is broken off is not read at
all (`Quoted.decode_of_prefix`): no character of a text closes the literal of the text early.

## Main definitions

* `Quoted.readHex?` : the number that a few hexadecimal digits spell.
* `Quoted.readEscape?`, `Quoted.readChar?` : one character of a quoted text.
* `Quoted.decode` : the text of the literal at the front, and what follows the literal.

## Main results

* `Quoted.readHex?_hexDigits` : hexadecimal digits are read back.
* `Quoted.readChar?_escape` : a character is read back.
* `Quoted.decode_encode` : a literal is read back, whatever follows it.
* `Quoted.decode_append`, `Quoted.decode_of_prefix` : literals that are continued or broken off.
-/

namespace MetricQuery.Text.Quoted

/-! ### Readers -/

/-- The number that `width` hexadecimal digits spell behind those of `n`, and what follows them. -/
def readHex? : (width n : Nat) → List Char → Option (Nat × List Char)
  | 0, n, s => some (n, s)
  | _ + 1, _, [] => none
  | width + 1, n, c :: rest =>
    (hexValue? c).bind fun digit => readHex? width (16 * n + digit) rest

/-- The character whose code point has `width` hexadecimal digits, and what follows them. -/
def readCode? (width : Nat) (s : List Char) : Option (Char × List Char) :=
  (readHex? width 0 s).bind fun (n, rest) =>
    if n.isValidChar then some (Char.ofNat n, rest) else none

/-- The character that an escape behind its backslash stands for, and what follows the escape. -/
def readEscape? : List Char → Option (Char × List Char)
  | '\\' :: rest => some ('\\', rest)
  | '\'' :: rest => some ('\'', rest)
  | '"' :: rest => some ('"', rest)
  | 'n' :: rest => some ('\n', rest)
  | 'r' :: rest => some ('\r', rest)
  | 't' :: rest => some ('\t', rest)
  | 'x' :: rest => readCode? 2 rest
  | 'u' :: rest => readCode? 4 rest
  | 'U' :: rest => readCode? 8 rest
  | _ => none

/-- The first character of a quoted text, and what follows it.  A line does not end inside. -/
def readChar? : List Char → Option (Char × List Char)
  | [] => none
  | '\\' :: rest => readEscape? rest
  | c :: rest => if c = '\n' ∨ c = '\r' then none else some (c, rest)

/-- A reader that has taken a value from the front of a text has not looked at what is behind. -/
def TakesFront {α : Type} (read : List Char → Option (α × List Char)) : Prop :=
  ∀ s v rest, read s = some (v, rest) →
    ∃ front, s = front ++ rest ∧ ∀ more, read (front ++ more) = some (v, more)

theorem takesFront_readHex? (width n : Nat) : TakesFront (readHex? width n) := by
  intro s v rest h
  induction width generalizing n s with
  | zero =>
      obtain ⟨rfl, rfl⟩ := Prod.mk.inj (Option.some.inj h)
      exact ⟨[], rfl, fun _ => rfl⟩
  | succ width ih =>
      cases s with
      | nil => exact nomatch h
      | cons c s =>
          obtain ⟨digit, hdigit, hrest⟩ := Option.bind_eq_some_iff.1 h
          obtain ⟨front, rfl, hfront⟩ := ih _ _ hrest
          exact ⟨c :: front, rfl,
            fun more => Option.bind_eq_some_iff.2 ⟨digit, hdigit, hfront more⟩⟩

theorem takesFront_readCode? (width : Nat) : TakesFront (readCode? width) := by
  intro s c rest hcode
  obtain ⟨⟨n, rest'⟩, hread, hc⟩ := Option.bind_eq_some_iff.1 hcode
  change (if n.isValidChar then some (Char.ofNat n, rest') else none) = some (c, rest) at hc
  split_ifs at hc with hvalid
  obtain ⟨rfl, rfl⟩ := Prod.mk.inj (Option.some.inj hc)
  obtain ⟨front, rfl, hfront⟩ := takesFront_readHex? width 0 _ _ _ hread
  refine ⟨front, rfl, fun more => Option.bind_eq_some_iff.2 ⟨(n, more), hfront more, ?_⟩⟩
  exact if_pos hvalid

theorem takesFront_readEscape? : TakesFront readEscape? := by
  intro s c rest h
  fun_cases readEscape? s with
  | case1 s | case2 s | case3 s | case4 s | case5 s | case6 s =>
      obtain ⟨rfl, rfl⟩ := Prod.mk.inj (Option.some.inj h)
      exact ⟨[_], rfl, fun _ => rfl⟩
  | case7 s | case8 s | case9 s =>
      obtain ⟨front, rfl, hfront⟩ := takesFront_readCode? _ _ _ _ h
      exact ⟨_ :: front, rfl, hfront⟩
  | case10 => simp_all [readEscape?]

theorem readChar?_cons_of_ne {c : Char} (hc : c ≠ '\\') (s : List Char) :
    readChar? (c :: s) = if c = '\n' ∨ c = '\r' then none else some (c, s) := by
  rw [readChar?]
  exact hc

theorem takesFront_readChar? : TakesFront readChar? := by
  intro s c rest h
  cases s with
  | nil => exact nomatch h
  | cons c' s =>
      by_cases hc : c' = '\\'
      · subst hc
        obtain ⟨front, rfl, hfront⟩ := takesFront_readEscape? _ _ _ h
        exact ⟨'\\' :: front, rfl, hfront⟩
      · rw [readChar?_cons_of_ne hc] at h
        split_ifs at h with hline
        obtain ⟨rfl, rfl⟩ := Prod.mk.inj (Option.some.inj h)
        refine ⟨[c'], rfl, fun more => ?_⟩
        rw [List.singleton_append, readChar?_cons_of_ne hc, if_neg hline]

theorem length_of_readChar?_eq_some {s rest : List Char} {c : Char}
    (h : readChar? s = some (c, rest)) : rest.length < s.length := by
  obtain ⟨front, rfl, hfront⟩ := takesFront_readChar? s c rest h
  cases front with
  | nil => exact nomatch hfront []
  | cons _ front =>
      rw [List.length_append, List.length_cons]
      omega

/-- The quoted text up to the closing quote, and what follows the quote. -/
def readBody? (quote : Char) (s : List Char) : Option (List Char × List Char) :=
  if s.head? = some quote then some ([], s.tail)
  else
    match _h : readChar? s with
    | none => none
    | some (c, rest) => (readBody? quote rest).map fun (text, behind) => (c :: text, behind)
termination_by s.length
decreasing_by exact length_of_readChar?_eq_some _h

/-- The text of the literal at the front, and what follows the literal. -/
def decode : List Char → Option (List Char × List Char)
  | [] => none
  | quote :: s => if quote = '\'' ∨ quote = '"' then readBody? quote s else none

/-! ### Literals that are continued or broken off -/

theorem readBody?_quote (quote : Char) (s : List Char) :
    readBody? quote (quote :: s) = some ([], s) := by
  rw [readBody?]
  simp

theorem readBody?_of_readChar? {quote c : Char} {s rest : List Char}
    (hquote : s.head? ≠ some quote) (h : readChar? s = some (c, rest)) :
    readBody? quote s = (readBody? quote rest).map fun (text, behind) => (c :: text, behind) := by
  rw [readBody?, if_neg hquote]
  split
  next hnone => exact nomatch h.symm.trans hnone
  next c' rest' hsome =>
    obtain ⟨rfl, rfl⟩ := Prod.mk.inj (Option.some.inj (hsome.symm.trans h))
    rfl

theorem takesFront_readBody? (quote : Char) : TakesFront (readBody? quote) := by
  intro s text behind h
  fun_induction readBody? quote s generalizing text behind with
  | case1 s hquote =>
      obtain ⟨rfl, rfl⟩ := Prod.mk.inj (Option.some.inj h)
      obtain ⟨s, rfl⟩ := List.head?_eq_some_iff.1 hquote
      exact ⟨[quote], rfl, readBody?_quote quote⟩
  | case2 s hquote hchar => exact nomatch h
  | case3 s hquote c rest hchar ih =>
      obtain ⟨⟨text', behind'⟩, hbody, h⟩ := Option.map_eq_some_iff.1 h
      obtain ⟨rfl, rfl⟩ := Prod.mk.inj h
      obtain ⟨front, rfl, hfront⟩ := takesFront_readChar? s c rest hchar
      obtain ⟨front', rfl, hfront'⟩ := ih text' behind' hbody
      refine ⟨front ++ front', by rw [List.append_assoc], fun more => ?_⟩
      rw [List.append_assoc, readBody?_of_readChar? ?_ (hfront (front' ++ more)), hfront']
      · rfl
      · -- Something has been taken, so the text starts as before.
        cases front with
        | nil => exact nomatch hfront []
        | cons c' front => exact hquote

theorem takesFront_decode : TakesFront decode := by
  intro s text behind h
  cases s with
  | nil => exact nomatch h
  | cons quote s =>
      rw [decode] at h
      split_ifs at h with hquote
      obtain ⟨front, rfl, hfront⟩ := takesFront_readBody? quote s text behind h
      refine ⟨quote :: front, rfl, fun more => ?_⟩
      rw [List.cons_append, decode, if_pos hquote, hfront]

/-- What follows a literal makes no difference to what is read. -/
theorem decode_append {s text behind : List Char} (h : decode s = some (text, behind))
    (more : List Char) : decode (s ++ more) = some (text, behind ++ more) := by
  obtain ⟨front, rfl, hfront⟩ := takesFront_decode s text behind h
  rw [List.append_assoc, hfront]

/-- A literal that is broken off is not read. -/
theorem decode_of_prefix {front literal text : List Char} (h : decode literal = some (text, []))
    (hfront : front <+: literal) (hne : front ≠ literal) : decode front = none := by
  obtain ⟨more, rfl⟩ := hfront
  cases hread : decode front with
  | none => rfl
  | some read =>
      obtain ⟨text', behind⟩ := read
      have hwhole := (decode_append hread more).symm.trans h
      obtain ⟨-, hbehind⟩ := Prod.mk.inj (Option.some.inj hwhole)
      obtain ⟨-, rfl⟩ := List.append_eq_nil_iff.1 hbehind
      exact absurd (List.append_nil front).symm hne

/-! ### Literals are read back -/

theorem hexValue?_hexDigit : ∀ n < 16, hexValue? (hexDigit n) = some n := by
  decide

theorem readHex?_add (width width' n : Nat) (s : List Char) :
    readHex? (width + width') n s =
      (readHex? width n s).bind fun (m, rest) => readHex? width' m rest := by
  induction width generalizing n s with
  | zero => rw [Nat.zero_add]; rfl
  | succ width ih =>
      cases s with
      | nil => rw [Nat.succ_add]; rfl
      | cons c s =>
          rw [Nat.succ_add, readHex?, readHex?, Option.bind_assoc]
          exact Option.bind_congr fun digit _ => ih _ _

/-- Hexadecimal digits are read back, the last `width` of them. -/
theorem readHex?_hexDigits (width m n : Nat) (rest : List Char) :
    readHex? width m (hexDigits width n ++ rest) =
      some (m * 16 ^ width + n % 16 ^ width, rest) := by
  induction width generalizing n rest with
  | zero => simp [readHex?, hexDigits, Nat.mod_one]
  | succ width ih =>
      have hlast : hexValue? (hexDigit (n % 16)) = some (n % 16) :=
        hexValue?_hexDigit _ (Nat.mod_lt n (by decide))
      rw [hexDigits, List.append_assoc, readHex?_add, ih]
      simp only [Option.bind_some, List.singleton_append, readHex?, hlast, Option.some.injEq,
        Prod.mk.injEq, and_true]
      rw [Nat.pow_succ, Nat.mul_comm (16 ^ width) 16, Nat.mod_mul, Nat.mul_left_comm m]
      omega

/-- The code point of a character is read back. -/
theorem readCode?_hexDigits {width : Nat} {c : Char} (h : c.toNat < 16 ^ width)
    (rest : List Char) : readCode? width (hexDigits width c.toNat ++ rest) = some (c, rest) := by
  have hread : readHex? width 0 (hexDigits width c.toNat ++ rest) = some (c.toNat, rest) := by
    rw [readHex?_hexDigits, Nat.zero_mul, Nat.zero_add, Nat.mod_eq_of_lt h]
  refine Option.bind_eq_some_iff.2 ⟨(c.toNat, rest), hread, ?_⟩
  exact (if_pos c.valid).trans (by rw [Char.ofNat_toNat])

theorem readChar?_hexEscape (c : Char) (rest : List Char) :
    readChar? (hexEscape c ++ rest) = some (c, rest) := by
  have hc : c.toNat < 16 ^ 8 := by
    have hvalid := c.valid
    simp only [UInt32.isValidChar, Nat.isValidChar] at hvalid
    change c.val.toNat < _
    omega
  rw [hexEscape]
  split_ifs with hbyte hplane
  · exact readCode?_hexDigits (Nat.lt_succ_of_le hbyte) rest
  · exact readCode?_hexDigits (Nat.lt_succ_of_le hplane) rest
  · exact readCode?_hexDigits hc rest

variable {quote : Char}

/-- A character is read back from what stands for it inside a literal. -/
theorem readChar?_escape (hquote : quote = '\'' ∨ quote = '"') (c : Char) (rest : List Char) :
    readChar? (escape quote c ++ rest) = some (c, rest) := by
  rw [escape]
  split_ifs with hself hn hr ht hprintable
  · rcases hself with rfl | rfl
    · rfl
    · rcases hquote with rfl | rfl <;> rfl
  · rw [hn]; rfl
  · rw [hr]; rfl
  · rw [ht]; rfl
  · rw [not_or] at hself
    rw [List.singleton_append, readChar?_cons_of_ne hself.1, if_neg (not_or.2 ⟨hn, hr⟩)]
  · exact readChar?_hexEscape c rest

/-- What stands for a character does not start with the quote. -/
theorem head?_escape_ne (hquote : quote = '\'' ∨ quote = '"') (c : Char) (rest : List Char) :
    (escape quote c ++ rest).head? ≠ some quote := by
  have hbackslash : some '\\' ≠ some quote := by rcases hquote with rfl | rfl <;> decide
  rw [escape]
  split_ifs with hself hn hr ht hprintable
  · exact hbackslash
  · exact hbackslash
  · exact hbackslash
  · exact hbackslash
  · exact fun h => hself (.inr (Option.some.inj h))
  · rw [hexEscape]
    split_ifs <;> exact hbackslash

theorem readBody?_escape (hquote : quote = '\'' ∨ quote = '"') (s rest : List Char) :
    readBody? quote (s.flatMap (escape quote) ++ quote :: rest) = some (s, rest) := by
  induction s with
  | nil => exact readBody?_quote quote rest
  | cons c s ih =>
      rw [List.flatMap_cons, List.append_assoc,
        readBody?_of_readChar? (head?_escape_ne hquote c _) (readChar?_escape hquote c _), ih]
      rfl

/-- **Quoted literals are read back.**  The reader gives back the quoted text and stops right behind
the literal, whatever follows it. -/
theorem decode_encode (s rest : List Char) : decode (encode s ++ rest) = some (s, rest) := by
  have hmark : mark s = '\'' ∨ mark s = '"' := by
    rw [mark]
    split_ifs
    · exact .inr rfl
    · exact .inl rfl
  simp only [encode, List.cons_append, List.append_assoc, List.nil_append]
  rw [decode, if_pos hmark, readBody?_escape hmark]

theorem encode_injective : Function.Injective encode := by
  intro s s' h
  have hread := decode_encode s []
  rw [h, decode_encode] at hread
  exact (Prod.mk.inj (Option.some.inj hread)).1.symm


end MetricQuery.Text.Quoted
