import Melibea.Coalescing
import Melibea.Connection
import Melibea.Decisions
import Melibea.Wanted

/-! A connection that is left alone comes to rest with every wanted resize done. -/

namespace Melibea

open Std Library Machine OrderedMap

namespace Controller

lemma ingested {self : Controller} (hs : self.service.running) {message : StreamMessage}
    (h : ¬ Rejected message) (io : Io) : ∃ event transition, message = .ok (some event) ∧
      (self.adapter.apply event).1 = .ok transition ∧
      (self.ingestStreamMessage io message).2.pending = follow self.pending event transition := by
  rcases message with error | _ | event
  · exact absurd (.failed error) h
  · exact absurd .closed h
  · by_cases hmin : ∃ windows, event = .minimizedWindowsChanged windows
    · obtain ⟨windows, rfl⟩ := hmin
      refine ⟨_, none, rfl, rfl, ?_⟩
      rcases self.ingestStreamMessage_cases io (.ok (some (.minimizedWindowsChanged windows)))
        with ⟨-, hp⟩ | ⟨event, transition, he, ht, -, hp⟩
      · exact hp
      · obtain rfl : .minimizedWindowsChanged windows = event := by simpa using he
        obtain rfl := Except.ok.inj ht
        exact hp
    · have hok := ingestStreamMessage_accepted hs h io
      rw [Daemon.ingestStreamMessage_event _ _ (not_exists.mp hmin)] at hok ⊢
      simp only [ingestEvent] at hok ⊢
      rcases he : self.adapter.apply event with ⟨_ | transition, adapter⟩
      · rw [he] at hok
        cases hok
      · exact ⟨event, transition, rfl, by rw [he], rfl⟩

end Controller

def Phase.waits : Phase → Bool
  | .receiving => true
  | _ => false

lemma Phase.eq_receiving {phase : Phase} (h : phase.waits) : phase = .receiving := by
  cases phase with
  | receiving => rfl
  | _ => cases h

def Phase.rank : Phase → ℕ
  | .draining false => 6
  | .polling | .sending _ => 5
  | .checking => 4
  | .draining true => 3
  | .taking => 2
  | .receiving | .returned _ => 0

namespace Connection

def lastResized (resized : List ResizeAction) (id : WindowId) : Option ResizeAction :=
  (resized.filter (·.windowId = id)).getLast?

lemma lastResized_concat (resized : List ResizeAction) (action : ResizeAction) (id : WindowId) :
    lastResized (resized ++ [action]) id =
      if action.windowId = id then some action else lastResized resized id := by
  rw [lastResized, List.filter_append]
  split_ifs with h <;> simp [lastResized, h]

/-- Every wanted resize is queued, on its way or done, and only wanted ones are queued or on their
way. -/
structure Settled (connection : Connection) (wanted : WindowId → Option ResizeAction)
    (resized : List ResizeAction) : Prop where
  queued (id : WindowId) (action : ResizeAction) :
    connection.controller.pending.pending[id]? = some action → wanted id = some action
  sending (action : ResizeAction) : connection.phase = .sending action →
    wanted action.windowId = some action
  done (id : WindowId) (action : ResizeAction) : wanted id = some action →
    connection.controller.pending.pending[id]? = some action ∨
      (connection.phase = .sending action ∧ action.windowId = id) ∨
      lastResized resized id = some action

lemma size_popNext {pending : PendingResizes} (hk : pending.Keyed) {action : ResizeAction}
    (ha : pending.popNext.1 = some action) :
    pending.popNext.2.pending.size < pending.pending.size := by
  have hlength := (PendingResizes.popNext_extraction.taken hk ha).length_eq
  rw [List.length_cons, length_values, length_values] at hlength
  exact hlength ▸ Nat.lt_succ_self _

lemma popNext_spent {pending : PendingResizes} (hk : pending.Keyed)
    (ha : pending.popNext.1 = none) : pending.popNext.2 = pending := by
  rcases PendingResizes.popNext_cases hk with ⟨-, hpop⟩ | ⟨action, hpop, -⟩
  · rw [hpop]
  · rw [hpop] at ha
    cases ha

variable {parse : String → Except String Config} {self : Connection}
  {wanted : WindowId → Option ResizeAction} {resized : List ResizeAction}

lemma Settled.ingested (h : Settled self wanted resized) (hs : Sound self) {answers : Answers}
    {message : StreamMessage} (hr : ¬ Rejected message)
    (hp : ∀ action, self.phase ≠ .sending action) {channel : List StreamMessage} {sending : Bool} :
    Settled { self with
        channel, phase := .draining sending
        controller := (self.controller.ingestStreamMessage answers.io message).2 }
      (NiriAdapter.wantedFrom (self.controller.adapter, wanted) (events [message])) resized := by
  obtain ⟨event, transition, rfl, he, hpending⟩ :=
    Controller.ingested hs.running hr answers.io
  have hwanted : NiriAdapter.wantedFrom (self.controller.adapter, wanted) (events [.ok (some event)])
      = self.controller.adapter.want wanted event := rfl
  have hqueue := fun id => (congrArg (fun pending => pending.pending[id]?) hpending).trans
    (pending_follow hs.targets he id)
  rw [hwanted]
  refine ⟨fun id action ha => ?_, fun action hq => (nomatch hq), fun id action ha => ?_⟩
  · rw [hqueue] at ha
    rcases self.controller.adapter.want_cases event id with ⟨given, hw⟩ | hw
    · rwa [hw] at ha ⊢
    · rw [hw] at ha ⊢
      exact h.queued id action ha
  · rw [hqueue]
    rcases self.controller.adapter.want_cases event id with ⟨given, hw⟩ | hw
    · rw [hw] at ha ⊢
      exact .inl ha
    · rw [hw] at ha ⊢
      rcases h.done id action ha with hdone | ⟨hdone, -⟩ | hdone
      · exact .inl hdone
      · exact absurd hdone (hp action)
      · exact .inr (.inr hdone)

lemma Settled.popped (h : Settled self wanted resized) (hs : Sound self) {action : ResizeAction}
    (ha : self.controller.pending.popNext.1 = some action)
    (hp : ∀ action, self.phase ≠ .sending action) :
    Settled { self with
      controller.pending := self.controller.pending.popNext.2, phase := .sending action }
      wanted resized := by
  rcases PendingResizes.popNext_cases hs.targets.keyed with ⟨-, hpop⟩ | ⟨popped, hpop, hget, -, hslot⟩
  · rw [hpop] at ha
    cases ha
  · obtain rfl := Option.some.inj (hpop.symm.trans ha)
    refine ⟨fun id other ho => ?_, fun other ho => ?_, fun id other ho => ?_⟩
    · exact h.queued id other (PendingResizes.pending_popNext hs.targets.keyed ho)
    · obtain rfl := Phase.sending.inj ho
      exact h.queued _ _ hget
    · rcases h.done id other ho with hq | ⟨hq, -⟩ | hq
      · by_cases hid : popped.windowId = id
        · subst hid
          obtain rfl := Option.some.inj (hget.symm.trans hq)
          exact .inr (.inl ⟨rfl, rfl⟩)
        · have hvalue := congrArg Register.value (hslot id)
          rw [if_neg hid] at hvalue
          exact .inl (hvalue.trans hq)
      · exact absurd hq (hp other)
      · exact .inr (.inr hq)

lemma Settled.sent (h : Settled self wanted resized) {action : ResizeAction}
    (hp : self.phase = .sending action) :
    Settled { self with phase := .checking } wanted (resized ++ [action]) := by
  refine ⟨h.queued, fun _ hq => (nomatch hq), fun id other ho => ?_⟩
  rw [lastResized_concat]
  rcases h.done id other ho with hq | ⟨hq, hid⟩ | hq
  · exact .inl hq
  · obtain rfl := Phase.sending.inj (hp.symm.trans hq)
    exact .inr (.inr (if_pos hid))
  · by_cases hid : action.windowId = id
    · have hw := h.sending action hp
      rw [hid, ho] at hw
      exact .inr (.inr (by rw [if_pos hid, hw]))
    · exact .inr (.inr (by rw [if_neg hid, hq]))

lemma Settled.moved (h : Settled self wanted resized) {other : Connection}
    (hpending : other.controller.pending = self.controller.pending)
    (hp : ∀ action, self.phase ≠ .sending action)
    (hq : ∀ action, other.phase ≠ .sending action) : Settled other wanted resized := by
  refine ⟨fun id action ha => ?_, fun action ha => absurd ha (hq action), fun id action ha => ?_⟩
  · rw [hpending] at ha
    exact h.queued id action ha
  · rw [hpending]
    rcases h.done id action ha with hdone | ⟨hdone, -⟩ | hdone
    · exact .inl hdone
    · exact absurd hdone (hp action)
    · exact .inr (.inr hdone)

lemma Settled.next {input : ConnectionInput} {out : Effects × Connection}
    (h : Settled self wanted resized) (hs : Sound self) (hm : Moved parse self input out)
    (hrun : out.2.Running) :
    Settled out.2
      (NiriAdapter.wantedFrom (self.controller.adapter, wanted) (events (self.received input)))
      (resized ++ out.1.resized.toList) := by
  have hother : ∀ {phase : Phase}, self.phase = phase → (∀ action, phase ≠ .sending action) →
      ∀ action, self.phase ≠ .sending action := fun hp hne action ha => hne action (hp ▸ ha)
  have hquiet : self.received input = [] → out.1.resized = none → Settled out.2 wanted resized →
      Settled out.2
        (NiriAdapter.wantedFrom (self.controller.adapter, wanted) (events (self.received input)))
        (resized ++ out.1.resized.toList) := by
    intro hr hnone hsettled
    rw [hr, hnone, Option.toList_none, List.append_nil]
    exact hsettled
  cases hm with
  | read _ | unread _ | client => exact hquiet rfl rfl ⟨h.queued, h.sending, h.done⟩
  | @ingested answers message channel sending hc hp hr =>
    have hne : ∀ action, self.phase ≠ .sending action := by
      rcases hp with ⟨hp, -⟩ | hp <;> exact hother hp (by simp)
    have hreceived : self.received (.turn answers) = [message] := by
      rcases hp with ⟨hp, -⟩ | hp <;> simp [received, hp, hc]
    rw [hreceived]
    simpa using h.ingested hs hr hne
  | rejected _ _ _ | orphaned _ _ _ | reloaded _ _ | refused _ => exact absurd rfl (hrun _)
  | ended hp => exact absurd hp (hrun _)
  | @drained answers sending hc _ hp =>
    refine hquiet (by simp [received, hp, hc]) rfl ?_
    refine h.moved rfl (hother hp (by simp)) fun action => ?_
    cases sending <;> simp
  | polled hp _ =>
    rcases hp with ⟨hp, hc, -, rfl⟩ | ⟨hp, rfl⟩
    · refine hquiet (by simp [received, hp, hc]) rfl ?_
      exact h.moved rfl (hother hp (by simp)) (by simp)
    · refine hquiet (by simp [received, hp]) rfl ?_
      exact h.moved rfl (hother hp (by simp)) (by simp)
  | idle hp _ | busy hp _ =>
    refine hquiet (by simp [received, hp]) rfl ?_
    exact h.moved rfl (hother hp (by simp)) (by simp)
  | spent hp ha =>
    refine hquiet (by simp [received, hp]) rfl ?_
    exact h.moved (popNext_spent hs.targets.keyed ha) (hother hp (by simp))
      (by simp)
  | taken hp ha =>
    refine hquiet (by simp [received, hp]) rfl ?_
    exact h.popped hs ha (hother hp (by simp))
  | @sent answers action hp =>
    have hreceived : self.received (.turn answers) = [] := by simp [received, hp]
    rw [hreceived]
    exact h.sent hp

section Run

variable (parse) (config : Config) (service : Service) (watcher : ConfigWatcher)

abbrev resizes (inputs : List ConnectionInput) : List ResizeAction :=
  trace (step parse) (fun self input => (self.step parse input).1.resized.toList)
    (connect config service watcher) inputs

lemma settled (hs : service.running) (inputs : List ConnectionInput)
    (hrun : (after parse config service watcher inputs).Running) :
    Settled (after parse config service watcher inputs)
      (NiriAdapter.wantedBy config (events (history parse config service watcher inputs)))
      (resizes parse config service watcher inputs) := by
  induction inputs using List.reverseRecOn with
  | nil =>
    refine ⟨fun id action ha => ?_, fun _ ha => (nomatch ha), fun _ _ ha => (nomatch ha)⟩
    simp [connect, Controller.connect, PendingResizes.default] at ha
  | append_singleton inputs input ih =>
    have hsound := sound parse config hs watcher inputs
    have hm := moved parse hsound.running input
    rw [after_concat] at hrun ⊢
    have hnext := (ih (hm.running hrun)).next hsound hm hrun
    rw [adapter_after hs] at hnext
    rw [history_concat, events_append, NiriAdapter.wantedBy_append]
    rwa [resizes, trace_append, trace_cons, trace_nil, List.append_nil]

end Run

def work (self : Connection) : ℕ × ℕ × ℕ :=
  (self.channel.length, self.controller.pending.pending.size, self.phase.rank)

def Idle (self : Connection) : Prop :=
  (∃ result, self.phase = .returned result) ∨ self.phase = .receiving ∧ self.channel = []

abbrev Less : ℕ × ℕ × ℕ → ℕ × ℕ × ℕ → Prop := WellFoundedRelation.rel

lemma less_channel {l l' m m' n n' : ℕ} (h : l' < l) : Less (l', m', n') (l, m, n) :=
  Prod.Lex.left _ _ h

lemma less_pending {l m m' n n' : ℕ} (h : m' < m) : Less (l, m', n') (l, m, n) :=
  Prod.Lex.right _ (Prod.Lex.left _ _ h)

lemma less_rank {l m n n' : ℕ} (h : n' < n) : Less (l, m, n') (l, m, n) :=
  Prod.Lex.right _ (Prod.Lex.right _ h)

lemma Moved.works {answers : Answers} {out : Effects × Connection} (hs : Sound self)
    (hm : Moved parse self (.turn answers) out) (hidle : ¬ Idle self) :
    Less out.2.work self.work := by
  cases hm with
  | ingested hc _ _ | rejected hc _ _ =>
    refine less_channel ?_
    rw [hc]
    exact Nat.lt_succ_self _
  | orphaned hc _ hp =>
    rcases hp with hp | ⟨sending, hp⟩
    · exact absurd (.inr ⟨hp, hc⟩) hidle
    · refine less_rank ?_
      rw [hp]
      cases sending <;> simp [Phase.rank]
  | @drained answers sending _ _ hp =>
    refine less_rank ?_
    rw [hp]
    cases sending <;> simp [Phase.rank]
  | polled hp _ =>
    rcases hp with ⟨hp, hc, -⟩ | ⟨hp, rfl⟩
    · exact absurd (.inr ⟨hp, hc⟩) hidle
    · refine less_rank ?_
      rw [hp]
      simp [Phase.rank]
  | reloaded hp _ =>
    rcases hp with ⟨hp, hc, -⟩ | hp
    · exact absurd (.inr ⟨hp, hc⟩) hidle
    · refine less_rank ?_
      rw [hp]
      simp [Phase.rank]
  | idle hp _ | busy hp _ | sent hp | refused hp =>
    refine less_rank ?_
    rw [hp]
    simp [Phase.rank]
  | spent hp ha =>
    rw [popNext_spent hs.targets.keyed ha]
    refine less_rank ?_
    rw [hp]
    simp [Phase.rank]
  | taken hp ha => exact less_pending (size_popNext hs.targets.keyed ha)
  | ended hp => exact absurd (.inl ⟨_, hp⟩) hidle

section Run

variable {config : Config} {service : Service} {watcher : ConfigWatcher}

lemma reaches_idle (h : Sound self) (answers : ℕ → Answers) :
    ∃ n, Idle (run (step parse) self ((List.range n).map (.turn ∘ answers))) := by
  refine reaches (ρ := ℕ × ℕ × ℕ) (C := fun input => ∃ answers, input = .turn answers) work
    (fun self input hs hc hidle => ?_) h fun n => ⟨answers n, rfl⟩
  obtain ⟨answers, rfl⟩ := hc
  exact ⟨hs.step parse _, (moved parse hs.running _).works hs hidle⟩

lemma delivered_turns (answers : ℕ → Answers) (ks : List ℕ) :
    trace (step parse) delivered self (ks.map (.turn ∘ answers)) = [] := by
  induction ks generalizing self with
  | nil => rfl
  | cons k ks ih => exact ih

variable (parse) in
lemma turn_of_waiting (hp : self.phase = .receiving) (hc : self.channel = [])
    (hr : self.readerStopped = false) : (self.step parse (.turn .reliable)).2 = self := by
  obtain ⟨controller, watcher, channel, stopped, phase⟩ := self
  subst hp hc hr
  rfl

lemma turn_of_returned {result : Except String Config} (hp : self.phase = .returned result)
    (answers : Answers) : (self.step parse (.turn answers)).2 = self := by
  simp only [step, turn, hp]

end Run

end Connection

open Connection

section Waiting

variable (parse : String → Except String Config) (config : Config) {service : Service}
  (watcher : ConfigWatcher) {inputs : List ConnectionInput}

lemma done_of_receiving (hs : service.running)
    (hp : (after parse config service watcher inputs).phase = .receiving) (id : WindowId)
    (action : ResizeAction)
    (hw : NiriAdapter.wantedBy config (events (history parse config service watcher inputs)) id =
      some action) :
    lastResized (resizes parse config service watcher inputs) id = some action := by
  have hrun : (after parse config service watcher inputs).Running := fun result hr => by
    rw [hp] at hr
    cases hr
  rcases (settled parse config service watcher hs inputs hrun).done id action hw with
    hq | ⟨hq, -⟩ | hq
  · have hempty := ExtTreeMap.isEmpty_iff.mp ((sound parse config hs watcher inputs).idle hp)
    rw [hempty] at hq
    simp at hq
  · rw [hp] at hq
    cases hq
  · exact hq

end Waiting

/-- While a connection runs, everything queued or being sent is wanted, and whenever it waits
for the next message every window's wanted resize is the last one carried out for it. -/
theorem wanted_resizes_done (parse : String → Except String Config) (config : Config)
    (service : Service) (hs : service.running) (watcher : ConfigWatcher)
    (inputs : List ConnectionInput) :
    let self := after parse config service watcher inputs
    let wanted := NiriAdapter.wantedBy config (events (history parse config service watcher inputs))
    (self.Running →
      (∀ (id : WindowId) (action : ResizeAction),
        self.controller.pending.pending[id]? = some action → wanted id = some action) ∧
      ∀ action, self.phase = .sending action → wanted action.windowId = some action) ∧
    (self.phase = .receiving → ∀ (id : WindowId) (action : ResizeAction),
      wanted id = some action →
        lastResized (resizes parse config service watcher inputs) id = some action) := by
  intro self wanted
  refine ⟨fun hrun => ?_, fun hp => done_of_receiving parse config watcher hs hp⟩
  have h := settled parse config service watcher hs inputs hrun
  exact ⟨h.queued, h.sending⟩

theorem wanted_resizes_done_bounce :
    let parse := fun _ => Except.ok Config.kittyAndCode
    let watcher : ConfigWatcher := .new "config.toml" ""
    let kitty : NiriWindow := ⟨10, some "window", some "kitty", true, false⟩
    let code : NiriWindow := ⟨20, some "window", some "code", false, false⟩
    let inputs := [.read (.ok (some (.windowsChanged [kitty, code]))), .turn .reliable,
      .read (.ok (some (.windowFocusChanged (some 20))))] ++ List.replicate 12 (.turn .reliable)
    lastResized (resizes parse .kittyAndCode .start watcher inputs) 10 =
      some ⟨2, 10, .unfocused, .tenth⟩ := by
  intro parse watcher kitty code inputs
  have hp : (after parse .kittyAndCode .start watcher inputs).phase = .receiving :=
    Phase.eq_receiving (by decide +kernel)
  refine (wanted_resizes_done parse .kittyAndCode .start rfl watcher inputs).2 hp 10 _ ?_
  decide +kernel

/-- Once niri falls silent, a connection ends, or comes to wait with every message delivered to it
ingested and every resize they leave wanted carried out. -/
theorem resizes_settle (parse : String → Except String Config) (config : Config)
    (service : Service) (hs : service.running) (watcher : ConfigWatcher)
    (inputs : List ConnectionInput) (answers : ℕ → Answers) :
    ∃ n, let turns := (List.range n).map (ConnectionInput.turn ∘ answers)
      let self := after parse config service watcher (inputs ++ turns)
      let messages := trace (step parse) delivered (connect config service watcher) inputs
      (∃ result, self.phase = .returned result) ∨
        (self.phase = .receiving ∧ self.channel = [] ∧
          history parse config service watcher (inputs ++ turns) = messages ∧
          ∀ (id : WindowId) (action : ResizeAction),
            NiriAdapter.wantedBy config (events messages) id = some action →
            lastResized (resizes parse config service watcher (inputs ++ turns)) id =
              some action) := by
  obtain ⟨n, hidle⟩ := reaches_idle (sound parse config hs watcher inputs) answers
  rw [← run_append] at hidle
  refine ⟨n, ?_⟩
  intro turns self messages
  refine hidle.imp_right fun ⟨hp, hc⟩ => ?_
  have hingested : history parse config service watcher (inputs ++ turns) = messages := by
    have hconserved : _ ++ self.channel = _ := history_append_channel hs (inputs ++ turns)
    rwa [hc, List.append_nil, trace_append, delivered_turns, List.append_nil] at hconserved
  refine ⟨hp, hc, hingested, fun id action hw => ?_⟩
  rw [← hingested] at hw
  exact done_of_receiving parse config watcher hs hp id action hw

theorem resizes_settle_bounce :
    let parse := fun _ => Except.ok Config.kittyAndCode
    let watcher : ConfigWatcher := .new "config.toml" ""
    let kitty : NiriWindow := ⟨10, some "window", some "kitty", true, false⟩
    let inputs : List ConnectionInput := [.read (.ok (some (.windowsChanged [kitty])))]
    ∃ n, let turns := List.replicate n (ConnectionInput.turn .reliable)
      (after parse .kittyAndCode .start watcher (inputs ++ turns)).phase = .receiving ∧
        history parse .kittyAndCode .start watcher (inputs ++ turns) =
          [.ok (some (.windowsChanged [kitty]))] ∧
        lastResized (resizes parse .kittyAndCode .start watcher (inputs ++ turns)) 10 =
          some ⟨1, 10, .focused, .half⟩ := by
  intro parse watcher kitty inputs
  obtain ⟨n, h⟩ := resizes_settle parse .kittyAndCode .start rfl watcher inputs fun _ => .reliable
  refine ⟨n, ?_⟩
  have hturns : (List.range n).map (ConnectionInput.turn ∘ fun _ => .reliable) =
      List.replicate n (.turn .reliable) := by simp [Function.comp_def]
  rw [hturns] at h
  rcases h with ⟨result, hreturned⟩ | ⟨hp, -, hingested, hdone⟩
  · set self := after parse .kittyAndCode .start watcher
      (inputs ++ List.replicate 9 (.turn .reliable)) with hself
    have hp : self.phase = .receiving := Phase.eq_receiving (by decide +kernel)
    have hreturns := run_replicate (step parse) 9 (turn_of_returned hreturned .reliable)
    have hwaits := run_replicate (step parse) n (turn_of_waiting parse hp
      (by decide +kernel) (by decide +kernel))
    rw [hself, ← run_append, List.append_assoc, List.replicate_append_replicate, add_comm] at hwaits
    rw [← run_append, List.append_assoc, List.replicate_append_replicate, hwaits] at hreturns
    rw [← hreturns, hp] at hreturned
    cases hreturned
  · exact ⟨hp, hingested.trans (by decide +kernel), hdone 10 _ (by decide +kernel)⟩

/-- Whenever a connection waits for the next message, the last resize carried out for the focused
window is the one its rule gives it under focus. -/
theorem focused_window_resized (parse : String → Except String Config) (config : Config)
    (service : Service) (hs : service.running) (watcher : ConfigWatcher)
    (inputs : List ConnectionInput)
    (hp : (after parse config service watcher inputs).phase = .receiving)
    (hf : NiriAdapter.FocusReported config
      (events (history parse config service watcher inputs)))
    (window : NiriWindow) (index : ℕ) (rule : AttentionRule) (width : Proportion)
    (hfocused : (after parse config service watcher inputs).controller.adapter.engine.focusedWindow =
      some window.id)
    (hw : (Desktop.after (events (history parse config service watcher inputs))).window window.id =
      some window)
    (hfloating : ¬ window.isFloating) (hm : config.FirstMatch window index rule)
    (hwidth : rule.policy.focused = .proportion width) :
    ∃ generation, lastResized (resizes parse config service watcher inputs) window.id =
      some ⟨generation, window.id, .focused, width⟩ := by
  set received := events (history parse config service watcher inputs) with hreceived
  rw [adapter_after hs, ← hreceived] at hfocused
  obtain ⟨generation, hwanted⟩ := NiriAdapter.wantedBy_focused hf hfocused
  refine ⟨generation, done_of_receiving parse config watcher hs hp _ _ (hwanted.trans ?_)⟩
  have hrecord := (tracks_after config received).engine window.id
  have houtcome : ((NiriAdapter.after config received).engine.decisionFor window.id
      .focused).outcome = .resize index width := by
    rw [AttentionEngine.decisionFor, hrecord, hw, NiriAdapter.after_config, Option.map_some,
      Option.elim_some, outcomeOf_firstMatch hfloating hm, AttentionRule.outcome,
      AttentionRule.width, hwidth]
  rw [FocusDecision.action, houtcome]
  rfl

theorem focused_window_resized_kitty :
    let parse := fun _ => Except.ok Config.kittyAndCode
    let watcher : ConfigWatcher := .new "config.toml" ""
    let kitty : NiriWindow := ⟨10, some "window", some "kitty", true, false⟩
    let inputs := .read (.ok (some (.windowsChanged [kitty]))) ::
      List.replicate 10 (.turn .reliable)
    ∃ generation, lastResized (resizes parse .kittyAndCode .start watcher inputs) 10 =
      some ⟨generation, 10, .focused, .half⟩ := by
  intro parse watcher kitty inputs
  have hevents : events (history parse .kittyAndCode .start watcher inputs) =
      [.windowsChanged [kitty]] := by decide +kernel
  refine focused_window_resized parse .kittyAndCode .start rfl watcher inputs
    (Phase.eq_receiving (by decide +kernel)) (fun before window rest he => ?_) kitty 0 _ .half
    (by decide +kernel) (by rw [hevents]; decide +kernel) (by decide)
    ⟨rfl, by decide, fun j other hj => absurd hj (Nat.not_lt_zero j)⟩ rfl
  rw [hevents] at he
  cases before with
  | nil => cases he
  | cons first before => cases before <;> cases he

end Melibea
