import Handover.Failure
import Mathlib.Data.List.Forall2

/-!
# Outcomes that are values

A run is a chain of steps, each of which may refuse. The lemmas here take apart a chain that
ended in a value: every step of it ended in a value too. After them no proof looks at how
failures travel.
-/

namespace Handover

namespace Outcome

variable {ε α β : Type}

/-- A step and what follows it end in a value, whatever they may fail with. -/
theorem bind_eq_ok {x : Except ε α} {f : α → Except ε β} {b : β} :
    x >>= f = .ok b ↔ ∃ a, x = .ok a ∧ f a = .ok b := by
  cases x with
  | error e =>
    constructor
    · intro h
      cases h
    · rintro ⟨a, h, -⟩
      cases h
  | ok a =>
    constructor
    · intro h
      exact ⟨a, rfl, h⟩
    · rintro ⟨a', h, h'⟩
      cases h
      exact h'

theorem ok_bind (a : α) (f : α → Outcome β) : (Except.ok a : Outcome α) >>= f = f a := rfl

/-- Two runs of a step agree when what follows agrees on what the step comes to. -/
theorem bind_congr {x : Outcome α} {f g : α → Outcome β} (h : ∀ a, x = .ok a → f a = g a) :
    x >>= f = x >>= g := by
  cases x with
  | error e => rfl
  | ok a => exact h a rfl

@[simp] theorem pure_eq_ok {a b : α} : (pure a : Except ε α) = .ok b ↔ a = b := by
  simp [pure, Except.pure]

/-- What is made of the result of a step is there when the result is. -/
theorem exists_return_iff {x : Outcome α} {f : α → β} :
    (∃ b, (do return f (← x)) = Except.ok b) ↔ ∃ a, x = .ok a := by
  simp only [bind_eq_ok, pure_eq_ok]
  constructor
  · rintro ⟨b, a, ha, -⟩
    exact ⟨a, ha⟩
  · rintro ⟨a, ha⟩
    exact ⟨f a, a, ha, rfl⟩

theorem exists_of_isOk {x : Outcome α} (h : x.isOk = true) : ∃ a, x = .ok a := by
  cases x with
  | error e => cases h
  | ok a => exact ⟨a, rfl⟩

@[simp] theorem required_eq_ok {failure : Failure} {o : Option α} {a : α} :
    required failure o = .ok a ↔ o = some a := by
  cases o <;> simp [required]

theorem required_eq_error {failure failure' : Failure} {o : Option α} :
    required failure o = .error failure' ↔ o = none ∧ failure' = failure := by
  cases o <;> simp [required, eq_comm]

theorem map_eq_ok {f : α → β} {x : Outcome α} {b : β} :
    x.map f = .ok b ↔ ∃ a, x = .ok a ∧ f a = b := by
  cases x <;> simp [Except.map]

/-- A check in front of a step was passed when the step was reached. -/
theorem check_eq_ok {c : Prop} [Decidable c] {failure : Failure} {x : Outcome α} {a : α} :
    (if c then .error failure else x) = .ok a ↔ ¬c ∧ x = .ok a := by
  by_cases hc : c <;> simp [hc]

/-- A step over a list succeeds item by item. -/
theorem mapM_eq_ok {f : α → Except ε β} {as : List α} {bs : List β} :
    as.mapM f = .ok bs ↔ List.Forall₂ (fun a b => f a = .ok b) as bs := by
  induction as generalizing bs with
  | nil =>
    rw [List.mapM_nil, pure_eq_ok, List.forall₂_nil_left_iff]
    exact eq_comm
  | cons a as ih =>
    rw [List.mapM_cons, bind_eq_ok]
    constructor
    · rintro ⟨b, hb, h⟩
      obtain ⟨bs', hbs, h⟩ := bind_eq_ok.mp h
      obtain rfl := pure_eq_ok.mp h
      exact .cons hb (ih.mp hbs)
    · rintro (_ | ⟨hb, hbs⟩)
      exact ⟨_, hb, bind_eq_ok.mpr ⟨_, ih.mpr hbs, rfl⟩⟩

/-- A step over a list succeeds when it does for every item. -/
theorem exists_mapM_eq_ok {f : α → Outcome β} {as : List α} :
    (∃ bs, as.mapM f = .ok bs) ↔ ∀ a ∈ as, ∃ b, f a = .ok b := by
  induction as with
  | nil => simp
  | cons a as ih =>
    rw [List.forall_mem_cons, ← ih]
    constructor
    · rintro ⟨bs, h⟩
      rw [List.mapM_cons] at h
      obtain ⟨b, hb, h⟩ := bind_eq_ok.mp h
      obtain ⟨bs', hbs, -⟩ := bind_eq_ok.mp h
      exact ⟨⟨b, hb⟩, bs', hbs⟩
    · rintro ⟨⟨b, hb⟩, bs, hbs⟩
      rw [List.mapM_cons]
      exact ⟨b :: bs, bind_eq_ok.mpr ⟨b, hb, bind_eq_ok.mpr ⟨bs, hbs, rfl⟩⟩⟩

/-- A step over a list that checks its items and then maps them. -/
theorem mapM_eq_ok_map {f : α → Outcome β} {P : α → Prop} {g : α → β}
    (hf : ∀ {a b}, f a = .ok b ↔ P a ∧ b = g a) {as : List α} {bs : List β} :
    as.mapM f = .ok bs ↔ (∀ a ∈ as, P a) ∧ bs = as.map g := by
  rw [mapM_eq_ok]
  simp only [hf]
  induction as generalizing bs with
  | nil => simp
  | cons a as ih =>
    rw [List.forall₂_cons_left_iff, List.forall_mem_cons, List.map_cons]
    simp only [ih]
    constructor
    · rintro ⟨b, bs', ⟨ha, rfl⟩, ⟨has, rfl⟩, rfl⟩
      exact ⟨⟨ha, has⟩, rfl⟩
    · rintro ⟨⟨ha, has⟩, rfl⟩
      exact ⟨_, _, ⟨ha, rfl⟩, ⟨has, rfl⟩, rfl⟩

/-- A check of every item was passed when what follows it was reached. -/
theorem forM_eq_ok {f : α → Outcome Unit} {as : List α} :
    as.forM f = .ok () ↔ ∀ a ∈ as, f a = .ok () := by
  induction as with
  | nil => exact ⟨fun _ => nofun, fun _ => rfl⟩
  | cons a as ih =>
    rw [List.forall_mem_cons, ← ih]
    refine bind_eq_ok.trans ?_
    exact ⟨fun ⟨_, ha, has⟩ => ⟨ha, has⟩, fun ⟨ha, has⟩ => ⟨(), ha, has⟩⟩

theorem bind_eq_error {x : Outcome α} {f : α → Outcome β} {failure : Failure} :
    x >>= f = .error failure ↔
      x = .error failure ∨ ∃ a, x = .ok a ∧ f a = .error failure := by
  cases x with
  | error e =>
    constructor
    · intro h
      cases h
      exact .inl rfl
    · rintro (h | ⟨a, h, -⟩)
      · cases h
        rfl
      · cases h
  | ok a =>
    constructor
    · intro h
      exact .inr ⟨a, rfl, h⟩
    · rintro (h | ⟨a', h, h'⟩)
      · cases h
      · cases h
        exact h'

/-- A step over a list fails with the failure of the first item that has one. -/
theorem mapM_eq_error {f : α → Outcome β} {as : List α} {failure : Failure} :
    as.mapM f = .error failure ↔
      ∃ before a after, as = before ++ a :: after ∧ (∀ b ∈ before, ∃ c, f b = .ok c)
        ∧ f a = .error failure := by
  induction as with
  | nil =>
    constructor
    · nofun
    · rintro ⟨before, a, after, h, -⟩
      exact absurd h.symm (by simp)
  | cons a as ih =>
    rw [List.mapM_cons, bind_eq_error]
    constructor
    · rintro (h | ⟨c, hc, h⟩)
      · exact ⟨[], a, as, rfl, nofun, h⟩
      · rcases bind_eq_error.mp h with h | ⟨cs, -, h⟩
        · obtain ⟨before, a', after, rfl, hbefore, ha'⟩ := ih.mp h
          exact ⟨a :: before, a', after, rfl, List.forall_mem_cons.mpr ⟨⟨c, hc⟩, hbefore⟩, ha'⟩
        · cases h
    · rintro ⟨before, a', after, h, hbefore, ha'⟩
      cases before with
      | nil =>
        obtain ⟨rfl, rfl⟩ := List.cons.inj h
        exact .inl ha'
      | cons b before =>
        obtain ⟨rfl, hrest⟩ := List.cons.inj h
        obtain ⟨⟨c, hc⟩, hbefore⟩ := List.forall_mem_cons.mp hbefore
        have hfailed := ih.mpr ⟨before, a', after, hrest, hbefore, ha'⟩
        exact .inr ⟨c, hc, bind_eq_error.mpr (.inl hfailed)⟩

/-- A step over a list fails with the failure of an item. -/
theorem exists_of_mapM_eq_error {f : α → Outcome β} {failure : Failure} {as : List α}
    (h : as.mapM f = .error failure) : ∃ a ∈ as, f a = .error failure := by
  obtain ⟨before, a, after, rfl, -, ha⟩ := mapM_eq_error.mp h
  exact ⟨a, by simp, ha⟩

/-- Two steps that agree on every item of a list come to the same over the list. -/
theorem mapM_congr {f g : α → Outcome β} {as : List α} (h : ∀ a ∈ as, f a = g a) :
    as.mapM f = as.mapM g := by
  induction as with
  | nil => rfl
  | cons a as ih =>
    rw [List.mapM_cons, List.mapM_cons, h a List.mem_cons_self,
      ih fun a ha => h a (List.mem_cons_of_mem _ ha)]

/-- What one step keeps, a run over a list keeps. -/
theorem foldlM_keeps {f : β → α → Outcome β} {P : β → Prop}
    (step : ∀ {b a b'}, P b → f b a = .ok b' → P b') :
    ∀ {as : List α} {b b' : β}, P b → as.foldlM f b = .ok b' → P b'
  | [], _, _, hb, h => by
    obtain rfl := pure_eq_ok.mp h
    exact hb
  | a :: as, b, b', hb, h => by
    rw [List.foldlM_cons] at h
    obtain ⟨b₁, h₁, h⟩ := bind_eq_ok.mp h
    exact foldlM_keeps step (step hb h₁) h

end Outcome

/-! ## Programs that keep a state -/

/-- A program that came to a result did so step by step, each step in the state that the one
before it has left. -/
theorem run_bind_eq_ok {σ α β : Type} {program : ExceptT Failure (StateM σ) α}
    {rest : α → ExceptT Failure (StateM σ) β} {s s' : σ} {b : β} :
    StateT.run (ExceptT.run (program >>= rest)) s = (.ok b, s') ↔
      ∃ a s₁, StateT.run (ExceptT.run program) s = (.ok a, s₁)
        ∧ StateT.run (ExceptT.run (rest a)) s₁ = (.ok b, s') := by
  rw [ExceptT.run_bind, StateT.run_bind]
  rcases StateT.run (ExceptT.run program) s with ⟨failure | a, left⟩
  · constructor
    · nofun
    · rintro ⟨a, s₁, h, -⟩
      cases h
  · constructor
    · intro h
      exact ⟨a, left, rfl, h⟩
    · rintro ⟨a', s₁, h, hrest⟩
      cases h
      exact hrest

/-! ## Lists item by item -/

/-- Two lists that are related item by item are related at every number. -/
theorem getElem?_of_forall₂ {α β : Type} {R : α → β → Prop} {as : List α} {bs : List β}
    (h : List.Forall₂ R as bs) {i : Nat} {b : β} (hb : bs[i]? = some b) :
    ∃ a, as[i]? = some a ∧ R a b := by
  induction h generalizing i with
  | nil => cases hb
  | cons hr _ ih =>
    cases i with
    | zero =>
      obtain rfl := Option.some.inj hb
      exact ⟨_, rfl, hr⟩
    | succ i => exact ih hb

/-- Two lists of one length that are related at every number are related item by item. -/
theorem forall₂_of_getElem? {α β : Type} {R : α → β → Prop} {as : List α} {bs : List β}
    (hlength : as.length = bs.length)
    (h : ∀ {i : Nat} {a b}, as[i]? = some a → bs[i]? = some b → R a b) : List.Forall₂ R as bs :=
  List.forall₂_iff_get.mpr ⟨hlength, fun _ ha hb =>
    h (List.getElem?_eq_getElem ha) (List.getElem?_eq_getElem hb)⟩

/-- Two lists of one length agree at a number when no two items there differ. -/
theorem getElem?_eq_of_length_eq {α : Type} {as as' : List α} (hlength : as'.length = as.length)
    {i : Nat} (h : ∀ {a a'}, as[i]? = some a → as'[i]? = some a' → a' = a) :
    as'[i]? = as[i]? := by
  rcases ha : as[i]? with _ | a
  · rw [List.getElem?_eq_none_iff] at ha ⊢
    rwa [hlength]
  · obtain ⟨hlt, -⟩ := List.getElem?_eq_some_iff.mp ha
    rw [← hlength] at hlt
    have ha' := List.getElem?_eq_getElem hlt
    rw [ha', h ha ha']

/-- Where two relations never tell items apart, a list is related to one list only. -/
theorem eq_of_forall₂ {α β : Type} {R R' : α → β → Prop}
    (hunique : ∀ {a b b'}, R a b → R' a b' → b' = b) {as : List α} {bs bs' : List β}
    (h : List.Forall₂ R as bs) (h' : List.Forall₂ R' as bs') : bs' = bs := by
  induction h generalizing bs' with
  | nil => rw [List.forall₂_nil_left_iff.mp h']
  | cons hr _ ih =>
    obtain ⟨b', rest, hr', hrest, rfl⟩ := List.forall₂_cons_left_iff.mp h'
    rw [hunique hr hr', ih hrest]

/-- Item by item, one list is made of another whose items are all fit for it. -/
theorem forall₂_eq_map_iff {α β : Type} {f : β → α} {P : β → Prop} {as : List α} {bs : List β} :
    List.Forall₂ (fun a b => a = f b ∧ P b) as bs ↔ bs.map f = as ∧ ∀ b ∈ bs, P b := by
  induction bs generalizing as with
  | nil => simp [eq_comm]
  | cons b bs ih =>
    rw [List.forall₂_cons_right_iff, List.map_cons, List.forall_mem_cons]
    constructor
    · rintro ⟨a, as', ⟨rfl, hb⟩, hrest, rfl⟩
      obtain ⟨rfl, hbs⟩ := ih.mp hrest
      exact ⟨rfl, hb, hbs⟩
    · rintro ⟨rfl, hb, hbs⟩
      exact ⟨_, _, ⟨rfl, hb⟩, ih.mpr ⟨rfl, hbs⟩, rfl⟩

/-- Lists that differ only in items that a filter drops are the same behind it. -/
theorem filter_eq_of_forall₂ {α : Type} {p : α → Bool} {as as' : List α}
    (h : List.Forall₂ (fun a a' => a' = a ∨ (p a = false ∧ p a' = false)) as as') :
    as'.filter p = as.filter p := by
  induction h with
  | nil => rfl
  | cons hr _ ih =>
    rcases hr with rfl | ⟨ha, ha'⟩
    · rw [List.filter_cons, List.filter_cons, ih]
    · rw [List.filter_cons_of_neg (by simp [ha']), List.filter_cons_of_neg (by simp [ha]), ih]

/-- Where keys are distinct, a key selects what it finds. -/
theorem filter_eq_toList_find? {α β : Type} [DecidableEq β] {key : α → β} {b : β} :
    ∀ {as : List α}, (as.map key).Nodup →
      as.filter (key · = b) = (as.find? (key · = b)).toList
  | [], _ => rfl
  | a :: as, h => by
    obtain ⟨hnew, h⟩ := List.nodup_cons.mp h
    by_cases ha : key a = b
    · have hrest : as.filter (key · = b) = [] := by
        refine List.filter_eq_nil_iff.mpr fun a' ha' => ?_
        have hne : key a' ≠ b := fun heq => hnew (ha ▸ heq ▸ List.mem_map_of_mem ha')
        simpa using hne
      simp [ha, hrest]
    · simp [ha, filter_eq_toList_find? h]

end Handover
