import MetricQuery.Maker.Template
import MetricQuery.Proofs.Keyed
import MetricQuery.Proofs.Text.Spelling

/-!
# Literals of parameters

A template gives the literal for a parameter under one of its keys: the name of the parameter, else
its joined spelling, else the first key that spells the name with seams (`Template.TakesFrom`).  For
a name of words joined with underscores all three ways lead to keys that spell the name with seams,
so a key serves one parameter at most, and where only one key serves a parameter neither the order
of the keys nor keys for other parameters matter (`Template.literal_spelling`).

## Main definitions

* `Template.TakesFrom` : the key under which the literal for a parameter is found.
* `Template.CanSupply` : the keys under which it is found in some template.

## Main results

* `Template.literal?_eq_some_iff`, `Template.literal?_eq_none_iff` : the literal for a parameter.
* `Template.canSupply_iff` : the keys for a parameter.
* `Template.literal?_eq_get?`, `Template.literal?_eq_of_perm_append` : the literal under the only
  key for a parameter.
* `Template.literal_spelling` : keys and parameters.
-/

namespace MetricQuery

namespace Template

variable {keys : List String} {parameter key : String} {t : Template}

/-- The key under which the literal for a parameter is found: its name, else its joined spelling,
else the first key that spells it with seams. -/
inductive TakesFrom (keys : List String) (parameter : String) : String → Prop
  | own (h : parameter ∈ keys) : TakesFrom keys parameter parameter
  | joined (hown : parameter ∉ keys) (h : parameter.camelCase ∈ keys) :
      TakesFrom keys parameter parameter.camelCase
  | seamed (hown : parameter ∉ keys) (hjoined : parameter.camelCase ∉ keys)
      {before after : List String} {key : String} (hkeys : keys = before ++ key :: after)
      (h : key.snakeCase = parameter) (hbefore : ∀ k ∈ before, k.snakeCase ≠ parameter) :
      TakesFrom keys parameter key

theorem TakesFrom.mem (h : TakesFrom keys parameter key) : key ∈ keys := by
  cases h with
  | own h => exact h
  | joined _ h => exact h
  | seamed _ _ hkeys _ _ =>
      rw [hkeys]
      exact List.mem_append_right _ List.mem_cons_self

/-- A key is found unless none spells the parameter in one of the three ways. -/
theorem exists_takesFrom (keys : List String) (parameter : String) :
    (∃ key, TakesFrom keys parameter key) ∨
      parameter ∉ keys ∧ parameter.camelCase ∉ keys ∧ ∀ k ∈ keys, k.snakeCase ≠ parameter := by
  by_cases hown : parameter ∈ keys
  · exact .inl ⟨_, .own hown⟩
  by_cases hjoined : parameter.camelCase ∈ keys
  · exact .inl ⟨_, .joined hown hjoined⟩
  cases hfind : keys.find? (·.snakeCase = parameter) with
  | none => exact .inr ⟨hown, hjoined, by simpa using hfind⟩
  | some key =>
      obtain ⟨hkey, before, after, hkeys, hbefore⟩ := List.find?_eq_some_iff_append.1 hfind
      exact .inl ⟨key, .seamed hown hjoined hkeys (by simpa using hkey) (by simpa using hbefore)⟩

/-! ### Where the literal is found -/

theorem literal?_eq (t : Template) (parameter : String) :
    t.literal? parameter = (t.params.get? parameter).or ((t.params.get? parameter.camelCase).or
      ((t.params.keys.find? fun key => key.snakeCase == parameter).bind t.params.get?)) := by
  have htest (key : String) :
      (key.snakeCase == parameter) = (Text.snake key.toList == parameter.toList) := by
    rw [Bool.eq_iff_iff, beq_iff_eq, beq_iff_eq, String.snakeCase_eq_iff]
  simp only [htest, ← Keyed.find?_key]
  rfl

theorem literal?_of_takesFrom (h : TakesFrom t.params.keys parameter key) :
    t.literal? parameter = t.params.get? key := by
  rw [literal?_eq]
  cases h with
  | own h =>
      obtain ⟨value, hvalue⟩ := Keyed.exists_get?_of_mem h
      rw [hvalue, Option.some_or]
  | joined hown h =>
      obtain ⟨value, hvalue⟩ := Keyed.exists_get?_of_mem h
      rw [Keyed.get?_eq_none_iff.2 hown, Option.none_or, hvalue, Option.some_or]
  | seamed hown hjoined hkeys h hbefore =>
      have hfind : (t.params.keys.find? fun k => k.snakeCase == parameter) = some key :=
        List.find?_eq_some_iff_append.2 ⟨by simpa using h, _, _, hkeys, by simpa using hbefore⟩
      rw [Keyed.get?_eq_none_iff.2 hown, Keyed.get?_eq_none_iff.2 hjoined, hfind]
      rfl

/-- Nothing is found exactly if no key spells the parameter in one of the three ways. -/
theorem literal?_eq_none_iff :
    t.literal? parameter = none ↔
      parameter ∉ t.params.keys ∧ parameter.camelCase ∉ t.params.keys ∧
        ∀ k ∈ t.params.keys, k.snakeCase ≠ parameter := by
  constructor
  · intro hnone
    refine (exists_takesFrom t.params.keys parameter).resolve_left fun ⟨key, h⟩ => ?_
    rw [literal?_of_takesFrom h, Keyed.get?_eq_none_iff] at hnone
    exact hnone h.mem
  · rintro ⟨hown, hjoined, hseamed⟩
    have hfind : (t.params.keys.find? fun k => k.snakeCase == parameter) = none := by
      simpa using hseamed
    rw [literal?_eq, Keyed.get?_eq_none_iff.2 hown, Keyed.get?_eq_none_iff.2 hjoined, hfind]
    rfl

/-- The literal for a parameter is the one under the key that it is taken from. -/
theorem literal?_eq_some_iff {literal : String} :
    t.literal? parameter = some literal ↔
      ∃ key, TakesFrom t.params.keys parameter key ∧ t.params.get? key = some literal := by
  constructor
  · intro h
    rcases exists_takesFrom t.params.keys parameter with ⟨key, hkey⟩ | hnone
    · exact ⟨key, hkey, literal?_of_takesFrom hkey ▸ h⟩
    · rw [literal?_eq_none_iff.2 hnone] at h
      exact absurd h (by simp)
  · rintro ⟨key, hkey, hget⟩
    rw [literal?_of_takesFrom hkey, hget]

/-! ### Keys for one parameter -/

/-- A key can supply the literal for a parameter: in some template the literal is whatever stands
under the key. -/
def CanSupply (key parameter : String) : Prop :=
  ∃ t : Template, t.params.keys.Nodup ∧ key ∈ t.params.keys ∧
    ∀ value, { t with params := t.params.put key value }.literal? parameter = some value

theorem canSupply_of_takesFrom (hkeys : keys.Nodup) (h : TakesFrom keys parameter key) :
    CanSupply key parameter := by
  have hparams : Keyed.keys (keys.map fun k => (k, "")) = keys := by
    simp [Keyed.keys, Function.comp_def]
  refine ⟨⟨"", "", keys.map fun k => (k, "")⟩, hparams.symm ▸ hkeys, hparams.symm ▸ h.mem, ?_⟩
  intro value
  have hput : Keyed.keys (Keyed.put (keys.map fun k => (k, "")) key value) = keys :=
    (Keyed.keys_put_of_mem (hparams.symm ▸ h.mem) value).trans hparams
  exact (literal?_of_takesFrom (hput.symm ▸ h)).trans (Keyed.get?_put_self _ key value)

theorem CanSupply.exists_takesFrom (h : CanSupply key parameter) :
    ∃ keys, TakesFrom keys parameter key := by
  obtain ⟨t, -, hmem, hliteral⟩ := h
  have hput (value : String) : Keyed.keys (t.params.put key value) = t.params.keys :=
    Keyed.keys_put_of_mem hmem value
  obtain ⟨k, htaken, hget⟩ := literal?_eq_some_iff.1 (hliteral "a")
  refine ⟨t.params.keys, ?_⟩
  rw [hput] at htaken
  by_cases hk : k = key
  · exact hk ▸ htaken
  -- The literal under another key would not change with the value under this one.
  · have hother : some "b" = Keyed.get? (t.params.put key "b") k :=
      (hliteral "b").symm.trans (literal?_of_takesFrom ((hput "b").symm ▸ htaken))
    rw [Keyed.get?_put_of_ne hk, ← Keyed.get?_put_of_ne hk t.params "a", hget] at hother
    exact absurd hother (by decide)

/-- A key serves the parameter that it spells with seams. -/
theorem canSupply_iff (h : parameter.IsParameterName) :
    CanSupply key parameter ↔ key.snakeCase = parameter := by
  constructor
  · intro hserves
    obtain ⟨keys, htaken⟩ := hserves.exists_takesFrom
    cases htaken with
    | own _ => exact h.snakeCase_self
    | joined _ _ => exact h.snakeCase_camelCase
    | seamed _ _ _ hkey _ => exact hkey
  · intro hkey
    refine canSupply_of_takesFrom (List.nodup_singleton key) ?_
    by_cases hown : parameter ∈ [key]
    · rw [← List.mem_singleton.1 hown]
      exact .own (List.mem_singleton_self _)
    by_cases hjoined : parameter.camelCase ∈ [key]
    · rw [← List.mem_singleton.1 hjoined] at hown ⊢
      exact .joined hown (List.mem_singleton_self _)
    · have hkeys : [key] = [] ++ key :: [] := rfl
      exact .seamed hown hjoined hkeys hkey (by simp)

/-- The literal for a parameter that only one key serves. -/
theorem literal?_eq_get? (h : parameter.IsParameterName) (hkeys : t.params.keys.Nodup)
    (hkey : key ∈ t.params.keys)
    (hserves : ∀ k ∈ t.params.keys, CanSupply k parameter ↔ k = key) :
    t.literal? parameter = t.params.get? key := by
  have hsnake : key.snakeCase = parameter := (canSupply_iff h).1 ((hserves key hkey).2 rfl)
  rcases exists_takesFrom t.params.keys parameter with ⟨k, htaken⟩ | ⟨-, -, hnone⟩
  · rw [literal?_of_takesFrom htaken,
      (hserves k htaken.mem).1 (canSupply_of_takesFrom hkeys htaken)]
  · exact absurd hsnake (hnone key hkey)

/-- Neither another order nor further keys for other parameters change the literal for a parameter
that exactly one key serves. -/
theorem literal?_eq_of_perm_append (h : parameter.IsParameterName) {t' : Template}
    {more : Keyed String String} (hkeys' : t'.params.keys.Nodup)
    (hperm : t'.params.Perm (t.params ++ more))
    (hone : ∃! key, key ∈ t.params.keys ∧ CanSupply key parameter)
    (hmore : ∀ key ∈ more.keys, ¬CanSupply key parameter) :
    t'.literal? parameter = t.literal? parameter := by
  obtain ⟨key, ⟨hkey, hserves⟩, honly⟩ := hone
  have hsplit : Keyed.keys (t.params ++ more) = t.params.keys ++ more.keys := List.map_append
  have hpermKeys : t'.params.keys.Perm (t.params.keys ++ more.keys) :=
    hsplit ▸ hperm.map Prod.fst
  have hkeys : t.params.keys.Nodup := (hpermKeys.nodup_iff.1 hkeys').of_append_left
  have hmem (k : String) : k ∈ t'.params.keys ↔ k ∈ t.params.keys ∨ k ∈ more.keys := by
    rw [hpermKeys.mem_iff, List.mem_append]
  have honly' : ∀ k ∈ t'.params.keys, CanSupply k parameter ↔ k = key := by
    intro k hk
    refine ⟨fun hserve => ?_, fun heq => heq ▸ hserves⟩
    rcases (hmem k).1 hk with hk | hk
    · exact honly k ⟨hk, hserve⟩
    · exact absurd hserve (hmore k hk)
  obtain ⟨value, hvalue⟩ := Keyed.exists_get?_of_mem hkey
  calc
    t'.literal? parameter = t'.params.get? key :=
      literal?_eq_get? h hkeys' ((hmem key).2 (.inl hkey)) honly'
    _ = (t.params.get? key).or (more.get? key) := by
      rw [Keyed.get?_perm hperm hkeys', Keyed.get?_append]
    _ = t.params.get? key := by rw [hvalue, Option.some_or]
    _ = t.literal? parameter :=
      (literal?_eq_get? h hkeys hkey fun k hk => honly' k ((hmem k).2 (.inl hk))).symm

/-- **Keys and parameters.**  A name of words joined with underscores is read back from its joined
spelling.  The keys that can serve it are those that spell it with seams, so no key serves two such
names.  In any template the literal is the one under the name, else under the joined spelling, else
under the first key that spells the name with seams.  If exactly one key serves the parameter,
neither another order nor further keys for other parameters change the literal. -/
theorem literal_spelling (h : parameter.IsParameterName) :
    parameter.camelCase.snakeCase = parameter ∧
    (∀ key, CanSupply key parameter ↔ key.snakeCase = parameter) ∧
    (∀ (other key : String), other.IsParameterName → CanSupply key parameter →
      CanSupply key other → other = parameter) ∧
    (∀ (t : Template) (name : String),
      (∀ literal, t.literal? name = some literal ↔
        ∃ key, TakesFrom t.params.keys name key ∧ t.params.get? key = some literal) ∧
      (t.literal? name = none ↔
        name ∉ t.params.keys ∧ name.camelCase ∉ t.params.keys ∧
          ∀ k ∈ t.params.keys, k.snakeCase ≠ name)) ∧
    ∀ (t t' : Template) (more : Keyed String String),
      t'.params.keys.Nodup →
      t'.params.Perm (t.params ++ more) →
      (∃! key, key ∈ t.params.keys ∧ CanSupply key parameter) →
      (∀ key ∈ more.keys, ¬CanSupply key parameter) →
      t'.literal? parameter = t.literal? parameter := by
  refine ⟨h.snakeCase_camelCase, fun key => canSupply_iff h, ?_, ?_, ?_⟩
  · intro other key hother hkey hkey'
    rw [← (canSupply_iff h).1 hkey, ← (canSupply_iff hother).1 hkey']
  · exact fun t name => ⟨fun literal => literal?_eq_some_iff, literal?_eq_none_iff⟩
  · exact fun t t' more hkeys' hperm hone hmore =>
      literal?_eq_of_perm_append h hkeys' hperm hone hmore

/-- The parameter `max_rows_per_bucket` is read under its joined spelling, also behind a key for
another parameter. -/
theorem literal_spelling_maxRows :
    let t : Template := ⟨"topN", "TopMaker", [("maxRowsPerBucket", "5")]⟩
    let t' : Template := ⟨"topN", "TopMaker", [("grain", "day"), ("maxRowsPerBucket", "5")]⟩
    "max_rows_per_bucket".IsParameterName ∧
      t.literal? "max_rows_per_bucket" = some "5" ∧
      t'.literal? "max_rows_per_bucket" = some "5" := by
  intro t t'
  have hname : "max_rows_per_bucket".IsParameterName :=
    ⟨["max", "rows", "per", "bucket"].map String.toList, by simp, by simp [Text.IsWord], rfl⟩
  obtain ⟨hjoined, hserves, -, hliteral, hstable⟩ := literal_spelling hname
  have htaken : TakesFrom t.params.keys "max_rows_per_bucket" "maxRowsPerBucket" :=
    .joined (by decide) (by decide)
  have hgrain : ¬CanSupply "grain" "max_rows_per_bucket" := fun h =>
    absurd ((hserves _).1 h) (by decide)
  have hfirst : t.literal? "max_rows_per_bucket" = some "5" :=
    ((hliteral t _).1 _).2 ⟨_, htaken, rfl⟩
  refine ⟨hname, hfirst, ?_⟩
  rw [← hfirst]
  refine hstable t t' [("grain", "day")] (by decide) (.swap ..) ?_ ?_
  · exact ⟨_, ⟨htaken.mem, canSupply_of_takesFrom (by decide) htaken⟩, by simp [t, Keyed.keys]⟩
  · simpa [Keyed.keys] using hgrain

end Template

end MetricQuery
