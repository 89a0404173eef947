import Mathlib.Logic.Function.Basic
import Melibea.Library.Machine

/-! Programs that act on a shared world by atomic calls, any number of them in any order. -/

namespace Melibea.Library.Interleaving

inductive Program (Call : Type) (Answer : Call → Type) (α : Type)
  | done (a : α)
  | call (c : Call) (k : Answer c → Program Call Answer α)

namespace Program

variable {Call : Type} {Answer : Call → Type} {α β : Type}

def bind : Program Call Answer α → (α → Program Call Answer β) → Program Call Answer β
  | .done a, f => f a
  | .call c k, f => .call c fun a => (k a).bind f

instance : Monad (Program Call Answer) where
  pure := .done
  bind := .bind

def Everywhere (P : (c : Call) → (Answer c → Program Call Answer α) → Prop) :
    Program Call Answer α → Prop
  | .done _ => True
  | .call c k => P c k ∧ ∀ a, (k a).Everywhere P

variable {P : (c : Call) → (Answer c → Program Call Answer α) → Prop}

lemma Everywhere.bind {R : (c : Call) → (Answer c → Program Call Answer β) → Prop}
    {p : Program Call Answer α} {f : α → Program Call Answer β} (h : p.Everywhere P)
    (hP : ∀ c k, P c k → R c fun a => (k a).bind f) (hf : ∀ a, (f a).Everywhere R) :
    (p >>= f).Everywhere R := by
  induction p with
  | done a => exact hf a
  | call c k ih => exact ⟨hP c k h.1, fun a => ih a (h.2 a)⟩

lemma Everywhere.mono {R : (c : Call) → (Answer c → Program Call Answer α) → Prop}
    {p : Program Call Answer α} (h : p.Everywhere P) (hP : ∀ c k, P c k → R c k) :
    p.Everywhere R := by
  induction p with
  | done a => trivial
  | call c k ih => exact ⟨hP c k h.1, fun a => ih a (h.2 a)⟩

lemma everywhere_call {c : Call} {f : Answer c → Program Call Answer α} (hc : P c f)
    (hf : ∀ a, (f a).Everywhere P) : (Program.call c .done >>= f).Everywhere P :=
  ⟨hc, hf⟩

end Program

variable {ι σ ε Call α β : Type} {Answer : Call → Type}

structure Threads (ι σ Call : Type) (Answer : Call → Type) (α : Type) where
  world : σ
  threads : ι → Program Call Answer α

structure Performed (ι σ Call : Type) where
  thread : ι
  call : Call
  world : σ

structure Discipline (ι σ ε Call : Type) (Answer : Call → Type) where
  perform : ι → (c : Call) → ε → σ → Answer c × σ
  keeps : ι → σ → σ → Prop
  demands : ι → Call → σ → Prop
  allows : ι → Call → σ → Prop
  keeps_refl (i : ι) (w : σ) : keeps i w w
  keeps_trans {i : ι} {w w' w'' : σ} : keeps i w w' → keeps i w' w'' → keeps i w w''
  keeps_perform {i j : ι} {c : Call} {w : σ} (e : ε) : j ≠ i → demands i c w → allows i c w →
    keeps j w (perform i c e w).2

namespace Discipline

variable (D : Discipline ι σ ε Call Answer)

/-- From `w` on, whatever the other threads do within the discipline, each call of the program
meets its demand and the program ends with `Q`. -/
def Ensures (i : ι) (Q : α → σ → Prop) : Program Call Answer α → σ → Prop
  | .done a, w => ∀ w', D.keeps i w w' → Q a w'
  | .call c k, w => ∀ w', D.keeps i w w' → D.demands i c w' ∧
      (D.allows i c w' → ∀ e,
        Ensures i Q (k (D.perform i c e w').1) (D.perform i c e w').2)

variable {D} {i : ι} {Q : α → σ → Prop} {w w' : σ}

lemma Ensures.of_keeps {p : Program Call Answer α} (h : D.Ensures i Q p w)
    (hw : D.keeps i w w') : D.Ensures i Q p w' := by
  cases p with
  | done a => exact fun w'' hw' => h w'' (D.keeps_trans hw hw')
  | call c k => exact fun w'' hw' => h w'' (D.keeps_trans hw hw')

lemma Ensures.bind {R : β → σ → Prop} {p : Program Call Answer α}
    {f : α → Program Call Answer β} (h : D.Ensures i Q p w)
    (hf : ∀ a w, Q a w → D.Ensures i R (f a) w) : D.Ensures i R (p >>= f) w := by
  induction p generalizing w with
  | done a => exact hf a w (h w (D.keeps_refl i w))
  | call c k ih =>
    intro w' hw
    exact ⟨(h w' hw).1, fun ha e => ih _ ((h w' hw).2 ha e)⟩

lemma ensures_done {a : α} (h : ∀ w', D.keeps i w w' → Q a w') :
    D.Ensures i Q (Program.done a) w := h

lemma ensures_call {c : Call} {f : Answer c → Program Call Answer α}
    (h : ∀ w', D.keeps i w w' → D.demands i c w' ∧ (D.allows i c w' → ∀ e,
      D.Ensures i Q (f (D.perform i c e w').1) (D.perform i c e w').2)) :
    D.Ensures i Q (Program.call c .done >>= f) w := h

lemma ensures_of_everywhere {P : (c : Call) → (Answer c → Program Call Answer α) → Prop}
    {p : Program Call Answer α} (hp : p.Everywhere P)
    (hP : ∀ c k w, P c k → D.demands i c w) : D.Ensures i (fun _ _ => True) p w := by
  induction p generalizing w with
  | done a => exact fun _ _ => trivial
  | call c k ih => exact fun w' _ => ⟨hP c k w' hp.1, fun _ e => ih _ (hp.2 _)⟩

variable (D) [DecidableEq ι]

def step (s : Threads ι σ Call Answer α) (event : ι × ε) :
    Option (Performed ι σ Call) × Threads ι σ Call Answer α :=
  match s.threads event.1 with
  | .done _ => (none, s)
  | .call c k =>
    let r := D.perform event.1 c event.2 s.world
    (some ⟨event.1, c, s.world⟩, ⟨r.2, Function.update s.threads event.1 (k r.1)⟩)

def Allowed (s : Threads ι σ Call Answer α) (event : ι × ε) : Prop :=
  match s.threads event.1 with
  | .done _ => True
  | .call c _ => D.allows event.1 c s.world

variable {D} {s : Threads ι σ Call Answer α}

lemma step_done {i : ι} {e : ε} {a : α} (h : s.threads i = .done a) :
    D.step s (i, e) = (none, s) := by
  simp only [step, h]

lemma step_call {i : ι} {e : ε} {c : Call} {k : Answer c → Program Call Answer α}
    (h : s.threads i = .call c k) :
    D.step s (i, e) = (some ⟨i, c, s.world⟩, ⟨(D.perform i c e s.world).2,
      Function.update s.threads i (k (D.perform i c e s.world).1)⟩) := by
  simp only [step, h]

variable {Q : ι → α → σ → Prop}

lemma ensures_step (h : ∀ i, D.Ensures i (Q i) (s.threads i) s.world) {event : ι × ε}
    (ha : D.Allowed s event) (j : ι) :
    D.Ensures j (Q j) ((D.step s event).2.threads j) (D.step s event).2.world := by
  obtain ⟨i, e⟩ := event
  have hi := h i
  cases hp : s.threads i with
  | done a => simpa only [step_done hp] using h j
  | call c k =>
    rw [hp] at hi
    obtain ⟨hd, hk⟩ := hi s.world (D.keeps_refl i s.world)
    have hc : D.allows i c s.world := by simpa only [Allowed, hp] using ha
    rw [step_call hp]
    rcases eq_or_ne j i with rfl | hj
    · simpa only [Function.update_self] using hk hc e
    · simpa only [Function.update_of_ne hj] using (h j).of_keeps (D.keeps_perform e hj hd hc)

lemma performed_step (h : ∀ i, D.Ensures i (Q i) (s.threads i) s.world) {event : ι × ε}
    (ha : D.Allowed s event) {o : Performed ι σ Call} (ho : (D.step s event).1 = some o) :
    D.demands o.thread o.call o.world ∧ D.allows o.thread o.call o.world := by
  obtain ⟨i, e⟩ := event
  have hi := h i
  cases hp : s.threads i with
  | done a => simp only [step_done hp, reduceCtorEq] at ho
  | call c k =>
    rw [hp] at hi
    rw [step_call hp] at ho
    obtain rfl : _ = o := Option.some.inj ho
    exact ⟨(hi s.world (D.keeps_refl i s.world)).1, by simpa only [Allowed, hp] using ha⟩

theorem run_ensures (h : ∀ i, D.Ensures i (Q i) (s.threads i) s.world) {events : List (ι × ε)}
    (hevents : Machine.Meets D.step D.Allowed s events) (j : ι) :
    D.Ensures j (Q j) ((Machine.run D.step s events).threads j)
      (Machine.run D.step s events).world :=
  Machine.run_invariant_of_meets (P := fun s => ∀ i, D.Ensures i (Q i) (s.threads i) s.world)
    _ (fun _ _ h ha => ensures_step h ha) h hevents j

theorem performed_of_run (h : ∀ i, D.Ensures i (Q i) (s.threads i) s.world)
    {events : List (ι × ε)} (hevents : Machine.Meets D.step D.Allowed s events)
    {o : Performed ι σ Call} (ho : some o ∈ Machine.outputs D.step s events) :
    D.demands o.thread o.call o.world ∧ D.allows o.thread o.call o.world := by
  obtain ⟨xs, x, ys, rfl, ho'⟩ := Machine.mem_outputs _ ho
  obtain ⟨hxs, hx⟩ := (Machine.meets_append _).mp hevents
  exact performed_step (run_ensures h hxs) hx.1 ho'.symm

theorem run_everywhere {P : (c : Call) → (Answer c → Program Call Answer α) → Prop}
    (h : ∀ i, (s.threads i).Everywhere P) (events : List (ι × ε)) (j : ι) :
    ((Machine.run D.step s events).threads j).Everywhere P := by
  refine Machine.run_invariant D.step
    (P := fun s : Threads ι σ Call Answer α => ∀ i, (s.threads i).Everywhere P) ?_ h events j
  rintro s ⟨i, e⟩ h j
  have hi := h i
  cases hp : s.threads i with
  | done a => simpa only [step_done hp] using h j
  | call c k =>
    rw [hp] at hi
    rw [step_call hp]
    rcases eq_or_ne j i with rfl | hj
    · simpa only [Function.update_self] using hi.2 _
    · simpa only [Function.update_of_ne hj] using h j

omit [DecidableEq ι] in
lemma Ensures.demands {i : ι} {c : Call} {k : Answer c → Program Call Answer α}
    (h : D.Ensures i (Q i) (s.threads i) s.world) (hc : s.threads i = .call c k) :
    D.demands i c s.world := by
  rw [hc] at h
  exact (h s.world (D.keeps_refl i s.world)).1

end Discipline

end Melibea.Library.Interleaving
