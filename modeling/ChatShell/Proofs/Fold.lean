-- Runs of a step that may fail. What every step keeps, the whole run keeps, and
-- two steps that stay in line give two runs that do.

namespace ChatShell

variable {α σ τ ε δ : Type}

/-- The result with `f` on what came out and `g` on what went wrong. -/
def carried (g : ε → δ) (f : σ → τ) : Except ε σ → Except δ τ
  | .ok s => .ok (f s)
  | .error e => .error (g e)

theorem map_eq_carried (f : σ → τ) (x : Except ε σ) : x.map f = carried id f x := by
  cases x <;> rfl

/-- Two steps that stay in line give two runs that stay in line. -/
theorem foldlM_carried {step : σ → α → Except ε σ} {other : τ → α → Except δ τ} {g : ε → δ}
    {f : σ → τ} (h : ∀ s a, other (f s) a = carried g f (step s a)) (as : List α) (s : σ) :
    as.foldlM other (f s) = carried g f (as.foldlM step s) := by
  induction as generalizing s with
  | nil => rfl
  | cons a rest ih =>
    rw [List.foldlM_cons, List.foldlM_cons, h]
    cases step s a with
    | error e => rfl
    | ok t => exact ih t

/-- Two results that went the same way: `K` relates what came out, and `E` what went wrong. -/
inductive InStep (E : ε → δ → Prop) (K : σ → τ → Prop) : Except ε σ → Except δ τ → Prop
  | ok {s : σ} {t : τ} (h : K s t) : InStep E K (.ok s) (.ok t)
  | error {e : ε} {d : δ} (h : E e d) : InStep E K (.error e) (.error d)

/-- Two steps that go the same way give two runs that do. `P` may say more of the first run. -/
theorem foldlM_inStep {step : σ → α → Except ε σ} {other : τ → α → Except δ τ}
    {E : ε → δ → Prop} {K : σ → τ → Prop} {P : σ → Prop}
    (hP : ∀ s a t, P s → step s a = .ok t → P t)
    (h : ∀ s t a, P s → K s t → InStep E K (step s a) (other t a)) (as : List α) {s : σ} {t : τ}
    (hp : P s) (hk : K s t) : InStep E K (as.foldlM step s) (as.foldlM other t) := by
  induction as generalizing s t with
  | nil => exact .ok hk
  | cons a rest ih =>
    have ha := h s t a hp hk
    rw [List.foldlM_cons, List.foldlM_cons]
    generalize hs : step s a = x at ha ⊢
    generalize other t a = y at ha ⊢
    cases ha with
    | error he => exact .error he
    | ok hk' => exact ih (hP s a _ hp hs) hk'

theorem InStep.mono {E F : ε → δ → Prop} {K : σ → τ → Prop} {x : Except ε σ} {y : Except δ τ}
    (h : InStep E K x y) (hE : ∀ e d, E e d → F e d) : InStep F K x y := by
  cases h with
  | ok hk => exact .ok hk
  | error he => exact .error (hE _ _ he)

/-- Results that went the same way go the same way on. -/
theorem InStep.bind {ρ υ : Type} {E : ε → δ → Prop} {K : σ → τ → Prop} {J : ρ → υ → Prop}
    {x : Except ε σ} {y : Except δ τ} {f : σ → Except ε ρ} {g : τ → Except δ υ}
    (h : InStep E K x y) (hf : ∀ s t, K s t → InStep E J (f s) (g t)) :
    InStep E J (x >>= f) (y >>= g) := by
  cases h with
  | ok hk => exact hf _ _ hk
  | error he => exact .error he

theorem map_eq_ok_iff {f : σ → τ} {x : Except ε σ} {t : τ} :
    x.map f = .ok t ↔ ∃ s, x = .ok s ∧ f s = t := by
  cases x with
  | error e => simp [Except.map]
  | ok s => simp [Except.map]

theorem bind_eq_ok_iff {x : Except ε σ} {f : σ → Except ε τ} {t : τ} :
    (x >>= f) = .ok t ↔ ∃ s, x = .ok s ∧ f s = .ok t := by
  cases x with
  | error e => simp [bind, Except.bind]
  | ok s => simp [bind, Except.bind]

theorem foldlM_cons_ok {step : σ → α → Except ε σ} {a : α} {as : List α} {s t : σ}
    (h : (a :: as).foldlM step s = .ok t) :
    ∃ r, step s a = .ok r ∧ as.foldlM step r = .ok t := by
  rw [List.foldlM_cons] at h
  exact bind_eq_ok_iff.mp h

theorem foldlM_append_ok {step : σ → α → Except ε σ} {as bs : List α} {s t : σ}
    (h : (as ++ bs).foldlM step s = .ok t) :
    ∃ r, as.foldlM step s = .ok r ∧ bs.foldlM step r = .ok t := by
  rw [List.foldlM_append] at h
  exact bind_eq_ok_iff.mp h

/-- A run fails exactly if some step fails, after steps that did not. -/
theorem foldlM_eq_error_iff {step : σ → α → Except ε σ} {as : List α} {s : σ} {e : ε} :
    as.foldlM step s = .error e ↔
      ∃ before a after t, as = before ++ a :: after ∧ before.foldlM step s = .ok t ∧
        step t a = .error e := by
  constructor
  · intro h
    induction as generalizing s with
    | nil => cases h
    | cons a rest ih =>
      rw [List.foldlM_cons] at h
      cases ha : step s a with
      | error d =>
        rw [ha] at h
        cases h
        exact ⟨[], a, rest, s, rfl, rfl, ha⟩
      | ok t =>
        rw [ha] at h
        obtain ⟨before, b, after, r, rfl, hbefore, hb⟩ := ih h
        refine ⟨a :: before, b, after, r, rfl, ?_, hb⟩
        rw [List.foldlM_cons, ha]
        exact hbefore
  · rintro ⟨before, a, after, t, rfl, hbefore, ha⟩
    rw [List.foldlM_append, hbefore]
    show (a :: after).foldlM step t = _
    rw [List.foldlM_cons, ha]
    rfl

/-- What holds at the start and is kept by every step holds at the end. `P done s` may speak of
what has been taken so far. -/
theorem foldlM_invariant {step : σ → α → Except ε σ} {P : List α → σ → Prop}
    (h : ∀ done s a t, P done s → step s a = .ok t → P (done ++ [a]) t) (as : List α)
    {s t : σ} (hs : P [] s) (ht : as.foldlM step s = .ok t) : P as t := by
  have hall : ∀ (as done : List α) (s : σ), P done s → as.foldlM step s = .ok t →
      P (done ++ as) t := by
    intro as
    induction as with
    | nil =>
      intro done s hs ht
      cases ht
      rwa [List.append_nil]
    | cons a rest ih =>
      intro done s hs ht
      obtain ⟨r, ha, hr⟩ := foldlM_cons_ok ht
      have hnext := ih (done ++ [a]) r (h done s a r hs ha) hr
      rwa [List.append_assoc, List.singleton_append] at hnext
  exact hall as [] s hs ht

/-- A step that succeeds on every `a` with `Q a` and keeps `P` gives a run that does. -/
theorem foldlM_succeeds {step : σ → α → Except ε σ} {P : List α → σ → Prop} {Q : α → Prop}
    (h : ∀ done s a, P done s → Q a → ∃ t, step s a = .ok t ∧ P (done ++ [a]) t) {as : List α}
    {s : σ} (hs : P [] s) (hQ : ∀ a ∈ as, Q a) : ∃ t, as.foldlM step s = .ok t ∧ P as t := by
  have hall : ∀ (as done : List α) (s : σ), P done s → (∀ a ∈ as, Q a) →
      ∃ t, as.foldlM step s = .ok t ∧ P (done ++ as) t := by
    intro as
    induction as with
    | nil =>
      intro done s hs _
      exact ⟨s, rfl, by simpa using hs⟩
    | cons a rest ih =>
      intro done s hs hQ
      obtain ⟨r, hr, hP⟩ := h done s a hs (hQ a (by simp))
      obtain ⟨t, ht, hPt⟩ := ih (done ++ [a]) r hP fun b hb => hQ b (by simp [hb])
      refine ⟨t, ?_, by simpa using hPt⟩
      rw [List.foldlM_cons, hr]
      exact ht
  exact hall as [] s hs hQ

end ChatShell
