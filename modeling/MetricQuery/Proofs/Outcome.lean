import Mathlib.Data.List.Forall2

/-!
# Computations that may fail

A computation in `Except` succeeds exactly if each of its parts does.  These are the rules by which
a success is taken apart: for a sequence of two computations, for a list of values computed one by
one, and for a list of checks.  Where only the kind of an outcome matters, `Except.EndsIn` says of
what kind faults and values are, and `Except.Alike` that two computations both fail or end in
related values; both are carried along the same sequences.

## Main definitions

* `Except.EndsIn` : a computation ends in faults and values of some kind.
* `Except.Alike` : two computations both fail, or end in related values.

## Main results

* `Except.bind_eq_ok_iff`, `Except.bind_eq_error_iff`, `Except.map_eq_ok_iff` : one computation
  after another.
* `Except.EndsIn.bind`, `Except.EndsIn.mapM` : what sequences of computations end in.
* `Except.Alike.bind`, `Except.Alike.mapM` : two sequences of computations side by side.
* `List.mapM_eq_ok_iff`, `List.forM_eq_ok_iff`, `List.mapM_congr_of_mem` : computations along a
  list.
* `List.forall₂_congr_of_mem`, `List.Forall₂.exists_of_mem_right`,
  `List.Forall₂.exists_of_mem_left` : related lists and partners in them.
-/

universe u

variable {ε α β : Type u}

namespace Except

theorem bind_eq_ok_iff {x : Except ε α} {f : α → Except ε β} {b : β} :
    x >>= f = .ok b ↔ ∃ a, x = .ok a ∧ f a = .ok b := by
  cases x with
  | error e => exact ⟨(nomatch ·), fun ⟨_, h, _⟩ => nomatch h⟩
  | ok a => exact ⟨fun h => ⟨a, rfl, h⟩, fun ⟨_, rfl, h⟩ => h⟩

theorem bind_eq_error_iff {x : Except ε α} {f : α → Except ε β} {e : ε} :
    x >>= f = .error e ↔ x = .error e ∨ ∃ a, x = .ok a ∧ f a = .error e := by
  cases x with
  | error e' => exact ⟨fun h => .inl (congrArg error (error.inj h)), fun
      | .inl h => congrArg error (error.inj h)
      | .inr ⟨_, h, _⟩ => nomatch h⟩
  | ok a => exact ⟨fun h => .inr ⟨a, rfl, h⟩, fun
      | .inl h => nomatch h
      | .inr ⟨_, rfl, h⟩ => h⟩

theorem map_eq_ok_iff {x : Except ε α} {f : α → β} {b : β} :
    x.map f = .ok b ↔ ∃ a, x = .ok a ∧ f a = b := by
  cases x with
  | error e => exact ⟨(nomatch ·), fun ⟨_, h, _⟩ => nomatch h⟩
  | ok a => exact ⟨fun h => ⟨a, rfl, ok.inj h⟩, fun ⟨_, rfl, h⟩ => congrArg ok h⟩

theorem mapError_eq_ok_iff {ε' : Type u} {x : Except ε α} {f : ε → ε'} {a : α} :
    x.mapError f = .ok a ↔ x = .ok a := by
  cases x <;> simp [Except.mapError]

/-! ### What a computation ends in -/

/-- A computation ends in a fault of one kind or in a value of another. -/
def EndsIn (faults : ε → Prop) (values : α → Prop) : Except ε α → Prop
  | .error e => faults e
  | .ok a => values a

section EndsIn

variable {F : ε → Prop} {P : α → Prop} {Q : β → Prop} {x : Except ε α}

theorem endsIn_ok {a : α} (h : P a) : (ok a : Except ε α).EndsIn F P := h

theorem endsIn_error {e : ε} (h : F e) : (error e : Except ε α).EndsIn F P := h

theorem EndsIn.fault (h : x.EndsIn F P) {e : ε} (hx : x = .error e) : F e := by
  rw [hx] at h
  exact h

theorem EndsIn.value (h : x.EndsIn F P) {a : α} (hx : x = .ok a) : P a := by
  rw [hx] at h
  exact h

theorem EndsIn.mono {F' : ε → Prop} {P' : α → Prop} (h : x.EndsIn F P) (hF : ∀ e, F e → F' e)
    (hP : ∀ a, P a → P' a) : x.EndsIn F' P' := by
  cases x with
  | error e => exact hF e h
  | ok a => exact hP a h

/-- The faults that a computation ends in, whatever its values are. -/
theorem EndsIn.faults (h : x.EndsIn F P) : x.EndsIn F fun _ => True :=
  h.mono (fun _ he => he) fun _ _ => trivial

theorem EndsIn.bind {f : α → Except ε β} (hx : x.EndsIn F P) (hf : ∀ a, P a → (f a).EndsIn F Q) :
    (x >>= f).EndsIn F Q := by
  cases x with
  | error e => exact hx
  | ok a => exact hf a hx

theorem EndsIn.map {f : α → β} (hx : x.EndsIn F P) (hf : ∀ a, P a → Q (f a)) :
    (x.map f).EndsIn F Q := by
  cases x with
  | error e => exact hx
  | ok a => exact hf a hx

theorem EndsIn.mapM {f : α → Except ε β} {xs : List α} (h : ∀ x ∈ xs, (f x).EndsIn F Q) :
    (xs.mapM f).EndsIn F fun ys => ∀ y ∈ ys, Q y := by
  induction xs with
  | nil => exact endsIn_ok fun _ hy => absurd hy List.not_mem_nil
  | cons x xs ih =>
      obtain ⟨hx, hxs⟩ := List.forall_mem_cons.1 h
      rw [List.mapM_cons]
      refine hx.bind fun y hy => (ih hxs).bind fun ys hys => ?_
      exact endsIn_ok (List.forall_mem_cons.2 ⟨hy, hys⟩)

/-- A list of checks ends in the fault of one of them. -/
theorem EndsIn.forM {f : α → Except ε PUnit.{u + 1}} {xs : List α}
    (h : ∀ x ∈ xs, (f x).EndsIn F fun _ => True) : (xs.forM f).EndsIn F fun _ => True := by
  induction xs with
  | nil => exact endsIn_ok trivial
  | cons x xs ih =>
      obtain ⟨hx, hxs⟩ := List.forall_mem_cons.1 h
      rw [List.forM_eq_forM, List.forM_cons]
      exact hx.bind fun _ _ => ih hxs

end EndsIn

/-! ### Two computations side by side -/

/-- Two computations both fail, or end in related values. -/
inductive Alike (R : α → β → Prop) : Except ε α → Except ε β → Prop
  | error (e e' : ε) : Alike R (.error e) (.error e')
  | ok {a : α} {b : β} (h : R a b) : Alike R (.ok a) (.ok b)

section Alike

variable {γ δ : Type u} {R : α → β → Prop} {S : γ → δ → Prop} {x : Except ε α} {y : Except ε β}

theorem Alike.refl {R : α → α → Prop} (hR : ∀ a, R a a) (x : Except ε α) : x.Alike R x := by
  cases x with
  | error e => exact .error e e
  | ok a => exact .ok (hR a)

theorem Alike.exists_iff (h : x.Alike R y) : (∃ a, x = .ok a) ↔ ∃ b, y = .ok b := by
  cases h with
  | error e e' => simp
  | ok h => simp

theorem Alike.rel (h : x.Alike R y) {a : α} {b : β} (hx : x = .ok a) (hy : y = .ok b) :
    R a b := by
  subst hx hy
  cases h with
  | ok h => exact h

theorem Alike.of_exists_iff (h : (∃ a, x = .ok a) ↔ ∃ b, y = .ok b)
    (hR : ∀ a b, x = .ok a → y = .ok b → R a b) : x.Alike R y := by
  cases x with
  | error e =>
      cases y with
      | error e' => exact .error e e'
      | ok b => simp at h
  | ok a =>
      cases y with
      | error e' => simp at h
      | ok b => exact .ok (hR a b rfl rfl)

/-- Two computations that end in the same values are alike, whatever their faults are. -/
theorem Alike.of_eq_ok_iff {y : Except ε α} (h : ∀ a, x = .ok a ↔ y = .ok a) : x.Alike Eq y :=
  .of_exists_iff (exists_congr h) fun _ _ hx hy => ok.inj (((h _).1 hx).symm.trans hy)

theorem Alike.imp {R' : α → β → Prop} (h : x.Alike R y)
    (hR : ∀ a b, x = .ok a → y = .ok b → R a b → R' a b) : x.Alike R' y := by
  cases h with
  | error e e' => exact .error e e'
  | ok h => exact .ok (hR _ _ rfl rfl h)

theorem Alike.bind {f : α → Except ε γ} {g : β → Except ε δ} (h : x.Alike R y)
    (hfg : ∀ a b, R a b → (f a).Alike S (g b)) : (x >>= f).Alike S (y >>= g) := by
  cases h with
  | error e e' => exact .error e e'
  | ok h => exact hfg _ _ h

theorem Alike.map {f : α → γ} {g : β → δ} (h : x.Alike R y)
    (hfg : ∀ a b, R a b → S (f a) (g b)) : (x.map f).Alike S (y.map g) := by
  cases h with
  | error e e' => exact .error e e'
  | ok h => exact .ok (hfg _ _ h)

/-- Values that are computed alike from related lists one by one are related one by one. -/
theorem Alike.mapM {f : α → Except ε γ} {g : β → Except ε δ} {xs : List α} {ys : List β}
    (h : List.Forall₂ R xs ys) (hfg : ∀ x y, R x y → (f x).Alike S (g y)) :
    (xs.mapM f).Alike (List.Forall₂ S) (ys.mapM g) := by
  induction h with
  | nil => exact .ok .nil
  | cons hxy _ ih =>
      rw [List.mapM_cons, List.mapM_cons]
      exact (hfg _ _ hxy).bind fun _ _ hv => ih.bind fun _ _ hvs => .ok (.cons hv hvs)

theorem Alike.forM {f : α → Except ε PUnit.{u + 1}} {g : β → Except ε PUnit.{u + 1}}
    {xs : List α} {ys : List β} (h : List.Forall₂ R xs ys)
    (hfg : ∀ x y, R x y → (f x).Alike (fun _ _ => True) (g y)) :
    (xs.forM f).Alike (fun _ _ => True) (ys.forM g) := by
  induction h with
  | nil => exact .ok trivial
  | cons hxy _ ih =>
      rw [List.forM_eq_forM, List.forM_eq_forM, List.forM_cons, List.forM_cons]
      exact (hfg _ _ hxy).bind fun _ _ _ => ih

end Alike

end Except

namespace List

/-- The values of a list are computed one by one, each from the entry at its place. -/
theorem mapM_eq_ok_iff {f : α → Except ε β} {xs : List α} {ys : List β} :
    xs.mapM f = .ok ys ↔ Forall₂ (fun x y => f x = .ok y) xs ys := by
  induction xs generalizing ys with
  | nil => exact ⟨fun h => Except.ok.inj h ▸ .nil, fun h => by cases h; rfl⟩
  | cons x xs ih =>
      simp only [mapM_cons, Except.bind_eq_ok_iff]
      constructor
      · rintro ⟨y, hy, ys', hys', h⟩
        exact Except.ok.inj h ▸ .cons hy (ih.1 hys')
      · rintro (_ | ⟨hy, hys'⟩)
        exact ⟨_, hy, _, ih.2 hys', rfl⟩

/-- The values of a list are computed alike by two functions that agree on it. -/
theorem mapM_congr_of_mem {f g : α → Except ε β} {xs : List α} (h : ∀ x ∈ xs, f x = g x) :
    xs.mapM f = xs.mapM g := by
  induction xs with
  | nil => rfl
  | cons x xs ih =>
      obtain ⟨hx, hxs⟩ := forall_mem_cons.1 h
      rw [mapM_cons, mapM_cons, hx, ih hxs]

/-- Relations that agree on a list relate it to the same lists. -/
theorem forall₂_congr_of_mem {R S : α → β → Prop} {xs : List α} {ys : List β}
    (h : ∀ x ∈ xs, ∀ y, R x y ↔ S x y) : Forall₂ R xs ys ↔ Forall₂ S xs ys := by
  induction xs generalizing ys with
  | nil => simp
  | cons x xs ih =>
      obtain ⟨hx, hxs⟩ := forall_mem_cons.1 h
      simp only [forall₂_cons_left_iff, hx, ih hxs]

/-- Every value on the right of two related lists is related to one on the left. -/
theorem Forall₂.exists_of_mem_right {R : α → β → Prop} {xs : List α} {ys : List β}
    (h : Forall₂ R xs ys) {y : β} (hy : y ∈ ys) : ∃ x ∈ xs, R x y := by
  induction h with
  | nil => exact absurd hy not_mem_nil
  | cons hxy _ ih =>
      rcases mem_cons.1 hy with rfl | hy
      · exact ⟨_, mem_cons_self, hxy⟩
      · obtain ⟨x, hx, hxy⟩ := ih hy
        exact ⟨x, mem_cons_of_mem _ hx, hxy⟩

/-- Every value on the left of two related lists is related to one on the right. -/
theorem Forall₂.exists_of_mem_left {R : α → β → Prop} {xs : List α} {ys : List β}
    (h : Forall₂ R xs ys) {x : α} (hx : x ∈ xs) : ∃ y ∈ ys, R x y := by
  have hflip : Forall₂ (fun y x => R x y) ys xs := Forall₂.flip h
  exact hflip.exists_of_mem_right hx

theorem exists_of_mapM_eq_ok {f : α → Except ε β} {xs : List α} {ys : List β}
    (h : xs.mapM f = .ok ys) {y : β} (hy : y ∈ ys) : ∃ x ∈ xs, f x = .ok y :=
  (mapM_eq_ok_iff.1 h).exists_of_mem_right hy

/-- A list is computed if all its values are. -/
theorem exists_mapM_eq_ok {f : α → Except ε β} {xs : List α} (h : ∀ x ∈ xs, ∃ y, f x = .ok y) :
    ∃ ys, xs.mapM f = .ok ys := by
  induction xs with
  | nil => exact ⟨[], rfl⟩
  | cons x xs ih =>
      obtain ⟨⟨y, hy⟩, hxs⟩ := forall_mem_cons.1 h
      obtain ⟨ys, hys⟩ := ih hxs
      refine ⟨y :: ys, ?_⟩
      rw [mapM_cons, hy, hys]
      rfl

theorem forM_eq_ok_iff {f : α → Except ε PUnit.{u + 1}} {xs : List α} :
    xs.forM f = .ok ⟨⟩ ↔ ∀ x ∈ xs, f x = .ok ⟨⟩ := by
  induction xs with
  | nil => exact ⟨fun _ _ h => absurd h not_mem_nil, fun _ => rfl⟩
  | cons x xs ih =>
      rw [forall_mem_cons, ← ih]
      simp only [forM_eq_forM, forM_cons, Except.bind_eq_ok_iff]
      exact ⟨fun ⟨_, hx, hxs⟩ => ⟨hx, hxs⟩, fun ⟨hx, hxs⟩ => ⟨_, hx, hxs⟩⟩

end List
