import Melibea.Library.Simulation

/-! A server that takes its mail in the order in which it was put in. -/

namespace Melibea.Library

open Machine

inductive Mail (μ : Type*)
  | message (acknowledged : Bool) (message : μ)
  | shutdown
  deriving DecidableEq

namespace Mail

variable {μ : Type*}

def awaited : Mail μ → Bool
  | message acknowledged _ => acknowledged
  | shutdown => false

def message? : Mail μ → Option μ
  | message _ m => some m
  | shutdown => none

end Mail

structure Mailbox (σ μ : Type*) where
  server : σ
  queue : List (Mail μ)
  waiting : Bool
  closing : Bool
  stopped : Bool
  deriving DecidableEq

inductive Outcome (ο : Type*)
  | silent
  | refused
  | response (response : ο)
  deriving DecidableEq

def Outcome.responses {ο : Type*} : Outcome ο → List ο
  | response o => [o]
  | _ => []

namespace Mailbox

inductive Turn (ε μ : Type*)
  | call (message : μ)
  | post (message : μ)
  | serve (env : ε)
  | close

def Turn.serves {ε μ : Type*} : Turn ε μ → Bool
  | serve _ => true
  | _ => false

variable {σ ε μ ο : Type*}

def start (server : σ) : Mailbox σ μ where
  server
  queue := []
  waiting := false
  closing := false
  stopped := false

def step (respond : σ → ε × μ → ο × σ) (self : Mailbox σ μ) :
    Turn ε μ → Outcome ο × Mailbox σ μ
  | .call m =>
    if self.waiting || self.closing then (.silent, self)
    else if self.stopped then (.refused, self)
    else (.silent, { self with queue := self.queue ++ [.message true m], waiting := true })
  | .post m =>
    if self.stopped then (.silent, self)
    else (.silent, { self with queue := self.queue ++ [.message false m] })
  | .serve env =>
    if self.stopped then (.silent, self)
    else
      match self.queue with
      | [] => (.silent, self)
      | .message acknowledged m :: rest =>
        let (response, server) := respond self.server (env, m)
        (.response response,
          { self with server, queue := rest, waiting := self.waiting && !acknowledged })
      | .shutdown :: rest =>
        (if self.waiting then .refused else .silent,
          { self with queue := rest, waiting := false, stopped := true })
  | .close =>
    if self.waiting || self.closing then (.silent, self)
    else if self.stopped then (.silent, { self with closing := true })
    else (.silent, { self with queue := self.queue ++ [.shutdown], closing := true })

def put (self : Mailbox σ μ) : Turn ε μ → List (Mail μ)
  | .call m => if self.waiting || self.closing || self.stopped then [] else [.message true m]
  | .post m => if self.stopped then [] else [.message false m]
  | .serve _ => []
  | .close => if self.waiting || self.closing || self.stopped then [] else [.shutdown]

def taken (self : Mailbox σ μ) : Turn ε μ → List (Mail μ)
  | .serve _ => if self.stopped then [] else self.queue.take 1
  | _ => []

def received (self : Mailbox σ μ) : Turn ε μ → List (ε × μ)
  | .serve env =>
    if self.stopped then [] else ((self.queue.take 1).filterMap Mail.message?).map (env, ·)
  | _ => []

structure Sound (box : Mailbox σ μ) : Prop where
  waiting : box.queue.countP Mail.awaited = box.waiting.toNat
  stopped : box.stopped = true → box.closing = true
  closing : box.closing = true → box.waiting = false
  shutdown : .shutdown ∈ box.queue → box.closing = true

variable (respond : σ → ε × μ → ο × σ)

/-- What a turn puts into the box and takes out of it, what the server is given of that, and how
it ends. -/
inductive Move (self : Mailbox σ μ) :
    Turn ε μ → List (Mail μ) → List (Mail μ) → List (ε × μ) → Outcome ο × Mailbox σ μ → Prop
  | blocked {turn} (h : turn.serves → self.stopped = true ∨ self.queue = []) :
    Move self turn [] [] [] (.silent, self)
  | called {m} (hw : self.waiting = false) (hc : self.closing = false) (hs : self.stopped = false) :
    Move self (.call m) [.message true m] [] []
      (.silent, { self with queue := self.queue ++ [.message true m], waiting := true })
  | refused {m} (hc : self.closing = false) (hs : self.stopped = true) :
    Move self (.call m) [] [] [] (.refused, self)
  | posted {m} (hs : self.stopped = false) :
    Move self (.post m) [.message false m] [] []
      (.silent, { self with queue := self.queue ++ [.message false m] })
  | closed (hw : self.waiting = false) (hc : self.closing = false) (hs : self.stopped = false) :
    Move self .close [.shutdown] [] []
      (.silent, { self with queue := self.queue ++ [.shutdown], closing := true })
  | late (hw : self.waiting = false) (hc : self.closing = false) (hs : self.stopped = true) :
    Move self .close [] [] [] (.silent, { self with closing := true })
  | responded {env acknowledged m rest} (hs : self.stopped = false)
      (hq : self.queue = .message acknowledged m :: rest) :
    Move self (.serve env) [] [.message acknowledged m] [(env, m)]
      (.response (respond self.server (env, m)).1,
        { self with
          server := (respond self.server (env, m)).2
          queue := rest
          waiting := self.waiting && !acknowledged })
  | stopped {env rest} (hs : self.stopped = false) (hq : self.queue = .shutdown :: rest) :
    Move self (.serve env) [] [.shutdown] []
      (if self.waiting then .refused else .silent,
        { self with queue := rest, waiting := false, stopped := true })

lemma moved (self : Mailbox σ μ) (turn : Turn ε μ) :
    Move respond self turn (put self turn) (taken self turn) (received self turn)
      (step respond self turn) := by
  obtain ⟨server, queue, waiting, closing, stopped⟩ := self
  cases turn with
  | call m =>
    cases waiting
    · cases closing
      · cases stopped
        · exact .called rfl rfl rfl
        · exact .refused rfl rfl
      · exact .blocked (fun h => (nomatch h))
    · exact .blocked (fun h => (nomatch h))
  | post m =>
    cases stopped
    · exact .posted rfl
    · exact .blocked (fun h => (nomatch h))
  | serve env =>
    cases stopped
    · rcases queue with _ | ⟨⟨acknowledged, m⟩ | _, rest⟩
      · exact .blocked fun _ => .inr rfl
      · exact .responded rfl rfl
      · exact .stopped rfl rfl
    · exact .blocked fun _ => .inl rfl
  | close =>
    cases waiting
    · cases closing
      · cases stopped
        · exact .closed rfl rfl rfl
        · exact .late rfl rfl rfl
      · exact .blocked (fun h => (nomatch h))
    · exact .blocked (fun h => (nomatch h))

variable {respond}

namespace Move

variable {self : Mailbox σ μ} {turn : Turn ε μ} {put taken : List (Mail μ)}
  {received : List (ε × μ)} {out : Outcome ο × Mailbox σ μ}

lemma conserved (h : Move respond self turn put taken received out) :
    taken ++ out.2.queue = self.queue ++ put := by
  cases h with
  | responded _ hq | stopped _ hq => simp [hq]
  | _ => simp

lemma server (h : Move respond self turn put taken received out) :
    out.2.server = run respond self.server received := by
  cases h <;> rfl

lemma responses (h : Move respond self turn put taken received out) :
    out.1.responses = outputs respond self.server received := by
  cases h with
  | stopped => cases self.waiting <;> rfl
  | _ => rfl

lemma messages (h : Move respond self turn put taken received out) :
    taken.filterMap Mail.message? = received.map Prod.snd := by
  cases h <;> rfl

lemma idle (h : Move respond self turn put taken received out) (ht : turn.serves = false) :
    taken = [] ∧ out.2.stopped = self.stopped := by
  cases h with
  | responded | stopped => cases ht
  | _ => exact ⟨rfl, rfl⟩

lemma stopping (h : Move respond self turn put taken received out) :
    out.2.stopped = self.stopped ∧ .shutdown ∉ taken ∨
      self.stopped = false ∧ out.2.stopped = true ∧ taken = [.shutdown] := by
  cases h with
  | stopped hs hq => exact .inr ⟨hs, rfl, rfl⟩
  | _ => exact .inl ⟨rfl, by simp⟩

lemma still (h : Move respond self turn put taken received out) (hs : self.stopped = true) :
    taken = [] := by
  cases h with
  | responded hs' | stopped hs' => cases hs.symm.trans hs'
  | _ => rfl

lemma closing (h : Move respond self turn put taken received out) (hs : Sound self) :
    out.2.closing = self.closing ∧ .shutdown ∉ put ∨
      turn = .close ∧ self.closing = false ∧ self.waiting = false ∧ out.2.closing = true ∧
        put = [.shutdown] := by
  cases h with
  | closed hw hc => exact .inr ⟨rfl, hc, hw, rfl, rfl⟩
  | late hw hc hstopped => cases hc.symm.trans (hs.stopped hstopped)
  | _ => exact .inl ⟨rfl, by simp⟩

lemma closed_put (h : Move respond self turn put taken received out) (hc : self.closing = true) :
    out.2.closing = true ∧ ∀ mail ∈ put, mail.awaited = false := by
  cases h with
  | called _ hc' => cases hc.symm.trans hc'
  | refused hc' => cases hc.symm.trans hc'
  | posted => exact ⟨hc, by simp [Mail.awaited]⟩
  | closed => exact ⟨rfl, by simp [Mail.awaited]⟩
  | late => exact ⟨rfl, by simp⟩
  | _ => exact ⟨hc, by simp⟩

end Move

variable (respond)

lemma conserved (self : Mailbox σ μ) (turns : List (Turn ε μ)) :
    trace (step respond) taken self turns ++ (run (step respond) self turns).queue =
      self.queue ++ trace (step respond) put self turns :=
  trace_conserved _ (I := fun _ => True) (fun _ _ _ => trivial)
    (fun s x _ => (moved respond s x).conserved) trivial turns

lemma simulation : Simulation (step respond) respond received
    (fun self server => self.server = server) Outcome.responses (fun response => [response]) where
  matched {self server} h turn := h ▸ (moved respond self turn).server
  observed {self server} h turn := by
    rw [List.flatMap_singleton', ← h]
    exact (moved respond self turn).responses

lemma messages_taken (self : Mailbox σ μ) (turns : List (Turn ε μ)) :
    (trace (step respond) taken self turns).filterMap Mail.message? =
      (trace (step respond) received self turns).map Prod.snd := by
  induction turns generalizing self with
  | nil => rfl
  | cons turn turns ih =>
    rw [trace_cons, trace_cons, List.filterMap_append, List.map_append,
      (moved respond self turn).messages, ih]

@[simp] lemma start_queue (server : σ) : (start server : Mailbox σ μ).queue = [] := rfl

lemma sound_start (server : σ) : Sound (start server : Mailbox σ μ) :=
  ⟨rfl, fun h => (nomatch h), fun h => (nomatch h), fun h => (nomatch h)⟩

namespace Sound

variable {self : Mailbox σ μ}

variable {respond} in
lemma moved (h : Sound self) {turn : Turn ε μ} {put taken : List (Mail μ)}
    {received : List (ε × μ)} {out : Outcome ο × Mailbox σ μ}
    (hm : Move respond self turn put taken received out) : Sound out.2 ∧ out.1 ≠ .refused := by
  obtain ⟨hwaiting, hstopped, hclosing, hshutdown⟩ := h
  cases hm with
  | blocked => exact ⟨⟨hwaiting, hstopped, hclosing, hshutdown⟩, (nomatch ·)⟩
  | called hw hc hs =>
    refine ⟨⟨?_, hstopped, fun h => ?_, fun h => hshutdown (by simpa using h)⟩, (nomatch ·)⟩
    · simp [hwaiting, hw, Mail.awaited]
    · cases hc.symm.trans h
  | refused hc hs => cases hc.symm.trans (hstopped hs)
  | posted hs =>
    refine ⟨⟨?_, hstopped, hclosing, fun h => hshutdown (by simpa using h)⟩, (nomatch ·)⟩
    simp [hwaiting, Mail.awaited]
  | closed hw hc hs =>
    refine ⟨⟨?_, fun _ => rfl, fun _ => hw, fun _ => rfl⟩, (nomatch ·)⟩
    simp [hwaiting, Mail.awaited]
  | late hw hc hs => cases hc.symm.trans (hstopped hs)
  | @responded env acknowledged m rest hs hq =>
    rw [hq] at hwaiting hshutdown
    refine ⟨⟨?_, hstopped, fun h => ?_, fun h => hshutdown (List.mem_cons_of_mem _ h)⟩,
      (nomatch ·)⟩
    · rw [List.countP_cons] at hwaiting
      cases hw : self.waiting <;> cases acknowledged <;> simp_all [Mail.awaited]
    · have hw : self.waiting = false := hclosing h
      simp [hw]
  | stopped hs hq =>
    rw [hq] at hwaiting hshutdown
    have hc := hshutdown List.mem_cons_self
    have hw := hclosing hc
    refine ⟨⟨?_, fun _ => hc, fun _ => rfl, fun _ => hc⟩, by simp [hw]⟩
    simpa [hw, Mail.awaited] using hwaiting

lemma run (h : Sound self) (turns : List (Turn ε μ)) :
    Sound (Machine.run (Mailbox.step respond) self turns) :=
  run_invariant _ (fun s turn h => (h.moved (Mailbox.moved respond s turn)).1) h turns

end Sound

section Serving

variable {self : Mailbox σ μ}

lemma serves_message {acknowledged : Bool} {m : μ} {rest : List (Mail μ)}
    (hs : self.stopped = false) (hq : self.queue = .message acknowledged m :: rest) (env : ε) :
    taken self (.serve env) = [.message acknowledged m] ∧
      (step respond self (.serve env)).2.stopped = false ∧
      (step respond self (.serve env)).2.queue = rest := by
  simp [taken, step, hs, hq]

lemma turn_comes {before after : List (Mail μ)} {mail : Mail μ} (hs : self.stopped = false)
    (hq : self.queue = before ++ mail :: after) (hb : .shutdown ∉ before) {turns : List (Turn ε μ)}
    (hn : before.length < turns.countP Turn.serves) :
    ∃ ys env zs after', turns = ys ++ .serve env :: zs ∧ trace (step respond) taken self ys = before ∧
      (run (step respond) self ys).stopped = false ∧
      (run (step respond) self ys).queue = mail :: after' := by
  induction turns generalizing self before after with
  | nil => simp at hn
  | cons turn turns ih =>
    cases ht : turn.serves with
    | false =>
      obtain ⟨htaken, hstopped⟩ := (moved respond self turn).idle ht
      have hqueue := (moved respond self turn).conserved
      rw [htaken, List.nil_append, hq, List.append_assoc, List.cons_append] at hqueue
      rw [List.countP_cons_of_neg (by simp [ht])] at hn
      obtain ⟨ys, env, zs, after', rfl, hys, hrun⟩ := ih (hstopped.trans hs) hqueue hb hn
      refine ⟨turn :: ys, env, zs, after', rfl, ?_, hrun⟩
      rw [trace_cons, htaken, List.nil_append, hys]
    | true =>
      cases turn with
      | serve env =>
        rcases before with _ | ⟨⟨acknowledged, m⟩ | _, before⟩
        · exact ⟨[], env, turns, after, rfl, rfl, hs, hq⟩
        · obtain ⟨htaken, hstopped, hqueue⟩ :=
            serves_message respond hs hq env
          rw [List.countP_cons_of_pos (by exact ht), List.length_cons, Nat.add_lt_add_iff_right] at hn
          obtain ⟨ys, env', zs, after', rfl, hys, hrun⟩ :=
            ih hstopped hqueue (fun h => hb (List.mem_cons_of_mem _ h)) hn
          refine ⟨.serve env :: ys, env', zs, after', rfl, ?_, hrun⟩
          rw [trace_cons, htaken, hys, List.singleton_append]
        · exact absurd List.mem_cons_self hb
      | _ => cases ht

lemma stopped_taken (hs : self.stopped = false) (turns : List (Turn ε μ)) :
    (run (step respond) self turns).stopped = false ∧
        .shutdown ∉ trace (step respond) taken self turns ∨
      (run (step respond) self turns).stopped = true ∧ ∃ before,
        trace (step respond) taken self turns = before ++ [.shutdown] ∧ .shutdown ∉ before := by
  induction turns using List.reverseRecOn with
  | nil => exact .inl ⟨hs, List.not_mem_nil⟩
  | append_singleton turns turn ih =>
    simp only [run_append, run_cons, run_nil, trace_append, trace_cons, trace_nil, List.append_nil]
    have hm := moved respond (run (step respond) self turns) turn
    rcases ih with ⟨hnow, hnot⟩ | ⟨hnow, before, hb, hnot⟩
    · rcases hm.stopping with ⟨hnext, ht⟩ | ⟨-, hnext, ht⟩
      · exact .inl ⟨hnext.trans hnow, by simp [hnot, ht]⟩
      · exact .inr ⟨hnext, _, by rw [ht], hnot⟩
    · rcases hm.stopping with ⟨hnext, -⟩ | ⟨hs', -⟩
      · exact .inr ⟨hnext.trans hnow, before, by rw [hb, hm.still hnow, List.append_nil], hnot⟩
      · cases hnow.symm.trans hs'

end Serving

section Closing

variable {self : Mailbox σ μ}

lemma closing_put (h : Sound self) (hc : self.closing = false) (turns : List (Turn ε μ)) :
    (run (step respond) self turns).closing = false ∧
        .shutdown ∉ trace (step respond) put self turns ∨
      (run (step respond) self turns).closing = true ∧ ∃ ys zs late, turns = ys ++ .close :: zs ∧
        (run (step respond) self ys).closing = false ∧
        (run (step respond) self ys).waiting = false ∧
        trace (step respond) put self turns =
          trace (step respond) put self ys ++ .shutdown :: late ∧
        .shutdown ∉ trace (step respond) put self ys := by
  induction turns using List.reverseRecOn with
  | nil => exact .inl ⟨hc, List.not_mem_nil⟩
  | append_singleton turns turn ih =>
    have hsound : Sound (run (step respond) self turns) := h.run respond turns
    simp only [run_append, run_cons, run_nil, trace_append, trace_cons, trace_nil, List.append_nil]
    have hm := moved respond (run (step respond) self turns) turn
    rcases ih with ⟨hnow, hnot⟩ | ⟨hnow, ys, zs, late, hturns, hys, hw, hput, hnot⟩
    · rcases hm.closing hsound with ⟨hnext, hp⟩ | ⟨rfl, -, hw, hnext, hp⟩
      · exact .inl ⟨hnext.trans hnow, by simp [hnot, hp]⟩
      · exact .inr ⟨hnext, turns, [], [], rfl, hnow, hw, by rw [hp], hnot⟩
    · refine .inr ⟨(hm.closed_put hnow).1, ys, zs ++ [turn],
        late ++ put (run (step respond) self turns) turn, ?_, hys, hw, ?_, hnot⟩
      · rw [hturns, List.append_assoc, List.cons_append]
      · rw [hput, List.append_assoc, List.cons_append]

lemma first_split {α : Type*} {a : α} {xs ys zs ws : List α} (h : xs ++ a :: ys = zs ++ a :: ws)
    (hx : a ∉ xs) (hz : a ∉ zs) : xs = zs := by
  rcases List.append_eq_append_iff.mp h with ⟨_ | ⟨b, bs⟩, he, ht⟩ | ⟨_ | ⟨b, bs⟩, he, ht⟩
  · simpa using he.symm
  · obtain ⟨rfl, -⟩ := List.cons.inj ht
    exact absurd (he ▸ List.mem_append_right _ List.mem_cons_self) hz
  · simpa using he
  · obtain ⟨rfl, -⟩ := List.cons.inj ht
    exact absurd (he ▸ List.mem_append_right _ List.mem_cons_self) hx

lemma drained (server : σ) {turns : List (Turn ε μ)}
    (hs : (run (step respond) (start server) turns).stopped = true) :
    ∃ ys zs, turns = ys ++ .close :: zs ∧
      (run (step respond) (start server) ys).closing = false ∧
      (run (step respond) (start server) ys).waiting = false ∧
      trace (step respond) taken (start server) turns =
        trace (step respond) put (start server) ys ++ [.shutdown] := by
  have hsound : Sound (run (step respond) (start server) turns) := (sound_start server).run respond turns
  rcases stopped_taken respond (show (start server).stopped = false from rfl) turns with
    ⟨hnot, -⟩ | ⟨-, before, hb, hbefore⟩
  · cases hs.symm.trans hnot
  rcases closing_put respond (sound_start server) rfl turns with
    ⟨hnot, -⟩ | ⟨-, ys, zs, late, hturns, hys, hw, hput, hnot⟩
  · cases (hsound.stopped hs).symm.trans hnot
  refine ⟨ys, zs, hturns, hys, hw, ?_⟩
  have hc := conserved respond (start server) turns
  rw [hb, hput, List.append_assoc, List.singleton_append, start_queue, List.nil_append] at hc
  rw [hb, first_split hc hbefore hnot]

end Closing

end Mailbox

end Melibea.Library
