/-!
# Triples over a state-and-exception monad

The C++ code modelled here mutates member variables and throws; a throw leaves the members as
they were at the throw, and a handler runs from that state. `EStateM ε σ` is that monad: its
error result keeps the state. `Triple P m Q E` says that a run of `m` from a state satisfying
`P` either returns `a` in a state satisfying `Q a` or raises `e` in a state satisfying `E e`.
The rules below follow the shape of the `do` blocks the models are written in, so a
specification is proved by walking the program once.

Pure code that can only fail (a `uassert`, a parse error) is modelled in `Except`; the two
`bind` equations at the end let `simp` run it.
-/

namespace Normous.Exec

variable {ε σ α β : Type}

/-- `m` run from `P` returns into `Q` or raises into `E`. -/
def Triple (P : σ → Prop) (m : EStateM ε σ α) (Q : α → σ → Prop) (E : ε → σ → Prop) :
    Prop :=
  ∀ s, P s → match m s with
    | .ok a s' => Q a s'
    | .error e s' => E e s'

namespace Triple

variable {P P' : σ → Prop} {Q Q' : α → σ → Prop} {E E' : ε → σ → Prop} {m : EStateM ε σ α}

theorem conseq (h : Triple P m Q E) (hp : ∀ s, P' s → P s) (hq : ∀ a s, Q a s → Q' a s)
    (he : ∀ e s, E e s → E' e s) : Triple P' m Q' E' := by
  intro s hs
  have := h s (hp s hs)
  split at this <;> simp_all

/-- Every program satisfies the triple that promises nothing. -/
theorem trivial : Triple P m (fun _ _ => True) (fun _ _ => True) := by
  intro s _
  split <;> exact True.intro

theorem weaken (h : Triple P m Q E) (hp : ∀ s, P' s → P s) : Triple P' m Q E :=
  fun s hs => h s (hp s hs)

theorem pre (h : ∀ s₀, P s₀ → Triple (· = s₀) m Q E) : Triple P m Q E :=
  fun s hs => h s hs s rfl

theorem pure {a : α} (h : ∀ s, P s → Q a s) : Triple P (Pure.pure a) Q E := h

theorem throw {e : ε} (h : ∀ s, P s → E e s) : Triple P (MonadExcept.throw e : EStateM ε σ α) Q E :=
  h

/-- `get` binds the current state; the continuation sees it equal to the state it runs in. -/
theorem get : Triple P (MonadState.get) (fun s' s => s' = s ∧ P s) E :=
  fun _ hs => ⟨rfl, hs⟩

theorem modify {f : σ → σ} {Q : Unit → σ → Prop} (h : ∀ s, P s → Q () (f s)) :
    Triple P (MonadState.modifyGet fun s => ((), f s)) Q E := h

theorem bind {R : β → σ → Prop} {f : α → EStateM ε σ β} (hm : Triple P m Q E)
    (hf : ∀ a, Triple (Q a) (f a) R E) : Triple P (m >>= f) R E := by
  intro s hs
  have h := hm s hs
  show match EStateM.bind m f s with | .ok a s' => R a s' | .error e s' => E e s'
  unfold EStateM.bind
  split at h <;> rename_i heq <;> simp only [heq]
  · exact hf _ _ h
  · exact h

theorem ite {c : Prop} [Decidable c] {t e : EStateM ε σ α} (ht : c → Triple P t Q E)
    (he : ¬c → Triple P e Q E) : Triple P (if c then t else e) Q E := by
  by_cases hc : c
  · simpa [hc] using ht hc
  · simpa [hc] using he hc

theorem tryCatch {h : ε → EStateM ε σ α} (hm : Triple P m Q E')
    (hh : ∀ e, Triple (E' e) (h e) Q E) : Triple P (MonadExcept.tryCatch m h) Q E := by
  intro s hs
  have hr := hm s hs
  show match EStateM.tryCatch m h s with | .ok a s' => Q a s' | .error e s' => E e s'
  unfold EStateM.tryCatch
  split at hr <;> rename_i heq <;> simp only [heq]
  · exact hr
  · exact hh _ _ hr

end Triple

@[simp] theorem except_ok_bind {α β : Type} (a : α) (f : α → Except ε β) :
    (Except.ok a >>= f) = f a := rfl

@[simp] theorem except_error_bind {α β : Type} (e : ε) (f : α → Except ε β) :
    (Except.error e >>= f) = Except.error e := rfl

end Normous.Exec
