import StellarSwipe.Prog

namespace StellarSwipe.Prog
set_option autoImplicit true

section
variable {σ ε α β : Type} (I : σ → Prop) (R : σ → σ → Prop)

def SafeFrom (Q : α → σ → Prop) : Prog σ ε α → σ → Prop
  | ok a, s₀ => Q a s₀
  | err _, _ => True
  | atom u k, s₀ => ∀ s, R s₀ s → I s → I (u s) ∧ R s (u s) ∧ SafeFrom Q (k s) (u s)

/-- A store and its in-flight handlers, each safe from some store the present one `R`-follows. -/
def SafeConfig (Q : α → σ → Prop) (st : σ × List (Prog σ ε α)) : Prop :=
  I st.1 ∧ ∀ p ∈ st.2, ∃ s₀, R s₀ st.1 ∧ SafeFrom I R Q p s₀

variable {I R} {Q : α → σ → Prop} {s₀ : σ}

@[simp] theorem safeFrom_pure (a : α) : SafeFrom I R Q (pure a : Prog σ ε α) s₀ ↔ Q a s₀ := Iff.rfl

@[simp] theorem safeFrom_throw (e : ε) : SafeFrom I R Q (throw e : Prog σ ε α) s₀ ↔ True := Iff.rfl

@[simp] theorem safeFrom_atom (u : σ → σ) (k : σ → Prog σ ε α) :
    SafeFrom I R Q (atom u k) s₀ ↔ ∀ s, R s₀ s → I s → I (u s) ∧ R s (u s) ∧ SafeFrom I R Q (k s) (u s) :=
  Iff.rfl

@[simp] theorem safeFrom_read (f : σ → α) :
    SafeFrom I R Q (read f : Prog σ ε α) s₀ ↔ ∀ s, R s₀ s → I s → I s ∧ R s s ∧ Q (f s) s := Iff.rfl

@[simp] theorem safeFrom_write (u : σ → σ) {P : Unit → σ → Prop} :
    SafeFrom I R P (write u : Prog σ ε Unit) s₀ ↔ ∀ s, R s₀ s → I s → I (u s) ∧ R s (u s) ∧ P () (u s) :=
  Iff.rfl

@[simp] theorem safeFrom_tryWrite (fails : Bool) (e : ε) (u : σ → σ) {P : Unit → σ → Prop} :
    SafeFrom I R P (tryWrite fails e u : Prog σ ε Unit) s₀ ↔
      ∀ s, R s₀ s → I s → if fails then I s ∧ R s s else I (u s) ∧ R s (u s) ∧ P () (u s) := by
  cases fails <;> simp [tryWrite, SafeFrom]

@[simp] theorem safeFrom_bind (p : Prog σ ε α) (f : α → Prog σ ε β) {Q : β → σ → Prop} :
    SafeFrom I R Q (p >>= f) s₀ ↔ SafeFrom I R (fun a s => SafeFrom I R Q (f a) s) p s₀ := by
  induction p generalizing s₀ with
  | ok a => exact Iff.rfl
  | err e => exact Iff.rfl
  | atom u k ih => exact forall_congr' fun s => imp_congr_right fun _ => imp_congr_right fun _ =>
      and_congr_right' (and_congr_right' (ih s))

theorem SafeFrom.run (hrefl : ∀ s, R s s) {p : Prog σ ε α} {s : σ} (hI : I s) (h : SafeFrom I R Q p s) :
    I (p.run s).2 := by
  induction p generalizing s with
  | ok a => exact hI
  | err e => exact hI
  | atom u k ih =>
    obtain ⟨hu, -, hk⟩ := h s (hrefl s) hI
    exact ih s hu hk

variable (hrefl : ∀ s, R s s) (htrans : ∀ s₁ s₂ s₃, R s₁ s₂ → R s₂ s₃ → R s₁ s₃)
include hrefl htrans

theorem SafeConfig.stepAt {st : σ × List (Prog σ ε α)} (h : SafeConfig I R Q st) (i : Nat) :
    SafeConfig I R Q (stepAt i st) := by
  obtain ⟨s, ps⟩ := st
  obtain ⟨hI, hps⟩ := h
  simp only [Prog.stepAt]
  split
  · rename_i u k hget
    obtain ⟨s₀, hR, hsafe⟩ := hps _ (List.getElem?_mem hget)
    obtain ⟨hu, hRu, hk⟩ := hsafe s hR hI
    refine ⟨hu, fun q hq => ?_⟩
    rcases List.mem_or_eq_of_mem_set hq with hq | rfl
    · obtain ⟨s₁, hR₁, hq⟩ := hps q hq
      exact ⟨s₁, htrans _ _ _ hR₁ hRu, hq⟩
    · exact ⟨u s, hrefl _, hk⟩
  · exact ⟨hI, hps⟩

theorem SafeConfig.interleave {st : σ × List (Prog σ ε α)} (h : SafeConfig I R Q st) (sched : List Nat) :
    SafeConfig I R Q (interleave sched st) := by
  induction sched generalizing st with
  | nil => exact h
  | cons i sched ih => exact ih (h.stepAt hrefl htrans i)

theorem interleave_inv {s : σ} {ps : List (Prog σ ε α)} (hI : I s) (hps : ∀ p ∈ ps, SafeFrom I R Q p s)
    (sched : List Nat) : I (interleave sched (s, ps)).1 :=
  (SafeConfig.interleave hrefl htrans ⟨hI, fun p hp => ⟨s, hrefl s, hps p hp⟩⟩ sched).1

end

section
variable {σ ε α β : Type} {I : σ → Prop}

/-- Every atom of the handler keeps `I`, on whatever store it meets. -/
def Keeps (I : σ → Prop) : Prog σ ε α → Prop
  | ok _ => True
  | err _ => True
  | atom u k => (∀ s, I s → I (u s)) ∧ ∀ s, Keeps I (k s)

theorem keeps_pure (a : α) : Keeps I (pure a : Prog σ ε α) := trivial

theorem keeps_throw (e : ε) : Keeps I (throw e : Prog σ ε α) := trivial

theorem keeps_throw_bind (e : ε) (f : α → Prog σ ε β) : Keeps I (throw e >>= f) := trivial

theorem keeps_read (f : σ → α) : Keeps I (read f : Prog σ ε α) := ⟨fun _ h => h, fun _ => trivial⟩

theorem keeps_write {u : σ → σ} (hu : ∀ s, I s → I (u s)) : Keeps I (write u : Prog σ ε Unit) :=
  ⟨hu, fun _ => trivial⟩

theorem keeps_tryWrite (fails : Bool) (e : ε) {u : σ → σ} (hu : ∀ s, I s → I (u s)) :
    Keeps I (tryWrite fails e u : Prog σ ε Unit) := by
  cases fails
  · exact keeps_write hu
  · exact ⟨fun _ h => h, fun _ => trivial⟩

theorem keeps_ofExcept (x : Except ε α) : Keeps I (ofExcept x : Prog σ ε α) := by
  cases x <;> trivial

theorem keeps_ite {c : Prop} [Decidable c] {p q : Prog σ ε α} (hp : Keeps I p) (hq : Keeps I q) :
    Keeps I (if c then p else q) := by
  split
  · exact hp
  · exact hq

theorem Keeps.bind {p : Prog σ ε α} {f : α → Prog σ ε β} (hp : Keeps I p) (hf : ∀ a, Keeps I (f a)) :
    Keeps I (p >>= f) := by
  induction p with
  | ok a => exact hf a
  | err e => trivial
  | atom u k ih => exact ⟨hp.1, fun s => ih s (hp.2 s)⟩

theorem Keeps.tryCatch {p : Prog σ ε α} {h : ε → Prog σ ε α} (hp : Keeps I p) (hh : ∀ e, Keeps I (h e)) :
    Keeps I (tryCatch p h) := by
  induction p with
  | ok a => trivial
  | err e => exact hh e
  | atom u k ih => exact ⟨hp.1, fun s => ih s (hp.2 s)⟩

theorem Keeps.safeFrom {p : Prog σ ε α} (hp : Keeps I p) (s₀ : σ) :
    SafeFrom I (fun _ _ => True) (fun _ _ => True) p s₀ := by
  induction p generalizing s₀ with
  | ok a => trivial
  | err e => trivial
  | atom u k ih => exact fun s _ hs => ⟨hp.1 s hs, trivial, ih s (hp.2 s) _⟩

theorem Keeps.run {p : Prog σ ε α} (hp : Keeps I p) {s : σ} (hI : I s) : I (p.run s).2 :=
  SafeFrom.run (R := fun _ _ => True) (fun _ => trivial) hI (hp.safeFrom s)

theorem interleave_keeps {s : σ} {ps : List (Prog σ ε α)} (hI : I s) (hps : ∀ p ∈ ps, Keeps I p)
    (sched : List Nat) : I (interleave sched (s, ps)).1 :=
  interleave_inv (fun _ => trivial) (fun _ _ _ _ _ => trivial) hI (fun p hp => (hps p hp).safeFrom s) sched

end

end StellarSwipe.Prog
