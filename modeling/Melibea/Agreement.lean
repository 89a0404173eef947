import Melibea.Generations

/-! Pending resizes against the policy evaluated on the newest metadata. -/

namespace Melibea

open Std Library OrderedMap

def Config.Gives (config : Config) (record : WindowRecord) (state : FocusState)
    (width : Proportion) : Prop :=
  record.eligibility = .managed ∧ ∃ resolved, config.resolve record.identity = some resolved ∧
    resolved.rule.policy.widthFor state.isFocused = .proportion width

/-- The policy evaluated now asks for exactly this action. -/
def ResizeAction.Agrees (action : ResizeAction) (engine : AttentionEngine) : Prop :=
  ∃ record, engine.windows[action.windowId]? = some record ∧
    engine.config.Gives record action.state action.width

def UpToDate (engine : AttentionEngine) (pending : PendingResizes) : Prop :=
  ∀ (id : WindowId) (action : ResizeAction), pending.pending[id]? = some action →
    action.Agrees engine

lemma outcomeOf_resize {config : Config} {record : WindowRecord} {state : FocusState} {index : ℕ}
    {width : Proportion} (h : AttentionEngine.outcomeOf config record state = .resize index width) :
    config.Gives record state width := by
  rw [AttentionEngine.outcomeOf] at h
  split at h
  · cases h
  next hm =>
    split at h
    · cases h
    next resolved hr =>
      split at h
      · obtain ⟨_, rfl⟩ := DecisionOutcome.resize.inj h
        exact ⟨hm, resolved, hr, by assumption⟩
      · cases h

lemma agrees_of_decisionFor {engine : AttentionEngine} {id : WindowId} {state : FocusState}
    {generation : UInt64} {action : ResizeAction}
    (h : (engine.decisionFor id state).action generation = some action) : action.Agrees engine := by
  cases hw : engine.windows[id]? with
  | none => simp [FocusDecision.action, AttentionEngine.decisionFor, hw] at h
  | some record =>
    rw [FocusDecision.action] at h
    split at h
    next index width ho =>
      obtain rfl := Option.some.inj h
      refine ⟨record, hw, ?_⟩
      have hd : AttentionEngine.outcomeOf engine.config record state = .resize index width := by
        simpa [AttentionEngine.decisionFor, hw] using ho
      exact outcomeOf_resize hd
    · cases h

lemma ResizeAction.Agrees.congr {action : ResizeAction} {engine other : AttentionEngine}
    (h : action.Agrees engine) (hc : other.config = engine.config)
    (hw : other.windows[action.windowId]? = engine.windows[action.windowId]?) :
    action.Agrees other := by
  obtain ⟨record, hr, hg⟩ := h
  exact ⟨record, hw.trans hr, hc ▸ hg⟩

namespace NiriAdapter

lemma apply_undecided {adapter : NiriAdapter} {event : NiriEvent} {t : FocusTransition}
    (he : (adapter.apply event).1 = .ok (some t))
    (hr : ∀ windows, event ≠ .windowsChanged windows) {id : WindowId}
    (hn : t.decision? id = none) :
    (adapter.apply event).2.engine.windows[id]? = adapter.engine.windows[id]? := by
  have hem := apply_emission he
  have hcurrent := (hem.undecided hr hn).2
  cases event with
  | windowsChanged windows => exact absurd rfl (hr windows)
  | windowOpenedOrChanged window =>
    by_cases hw : adapter.Relevant window
    · rw [← hem.current, apply_opened_relevant _ hw, applyFocus_eq] at hcurrent
      have hne : window.id ≠ id := fun he => hcurrent (congrArg some he)
      rw [apply_opened_relevant _ hw, applyFocus_eq]
      simp [recorded, AttentionEngine.observed, get_insert, hne]
    · rw [apply_opened_silent _ hw] at he
      cases he
  | windowFocusChanged current =>
    change (adapter.applyFocus current).2.engine.windows[id]? = _
    rw [applyFocus_eq]
    rfl
  | _ => cases he

lemma recorded_known {config : Config} {events : List NiriEvent} {window : NiriWindow}
    (hk : (after config events).knownWindows[window.id]? = some (.ofWindow window))
    (id : WindowId) :
    ((after config events).recorded window).engine.windows[id]? =
      (after config events).engine.windows[id]? := by
  have h := tracks_after config events
  rw [recorded, AttentionEngine.upsertWindow_windows, NiriWindow.intoRecord_id, get_insert]
  split_ifs with hid
  · subst hid
    rw [h.known] at hk
    obtain ⟨old, ho, hs⟩ := Option.map_eq_some_iff.mp hk
    have hid := Desktop.window_id ho
    simp only [WindowSignature.ofWindow, WindowSignature.mk.injEq] at hs
    rw [h.engine, ho, Option.map_some]
    simp [NiriWindow.intoRecord, hid, hs]
  · rfl

end NiriAdapter

namespace UpToDate

variable {adapter : NiriAdapter} {pending : PendingResizes}

lemma ingest (ht : Targets adapter pending) {event : NiriEvent} {t : FocusTransition}
    (he : adapter.Emission event t)
    (hold : ∀ (id : WindowId) (action : ResizeAction), t.decision? id = none →
      pending.pending[id]? = some action → action.Agrees (adapter.apply event).2.engine) :
    UpToDate (adapter.apply event).2.engine (pending.ingest t) := by
  intro id action ha
  rcases PendingResizes.pending_ingest_fresh id he.nodup
    (fun g hg => (ht.latest id hg).trans he.le) ha with ⟨decision, hd, hact⟩ | ⟨hn, ha⟩
  · rw [he.decided (FocusTransition.mem_of_decision hd)] at hact
    exact agrees_of_decisionFor hact
  · exact hold id action hn ha

lemma ingested {config : Config} {events : List NiriEvent}
    (ht : Targets (.after config events) pending)
    (h : UpToDate (NiriAdapter.after config events).engine pending) {event : NiriEvent}
    {adapter' : NiriAdapter} {pending' : PendingResizes}
    (hi : Ingested (.after config events) pending event adapter' pending')
    (hf : ∀ window, event = .windowOpenedOrChanged window → window.isFocused) :
    UpToDate adapter'.engine pending' := by
  cases hi with
  | snapshot he =>
    refine ingest ht.reset (NiriAdapter.apply_emission he) fun id action _ ha => ?_
    simp [PendingResizes.reset] at ha
  | report hr _ he =>
    refine ingest ht (NiriAdapter.apply_emission he) fun id action hn ha => ?_
    refine (h id action ha).congr (NiriAdapter.apply_config _ _) ?_
    rw [ht.keyed id action ha]
    exact NiriAdapter.apply_undecided he hr hn
  | @recorded window hw =>
    have hk : (NiriAdapter.after config events).knownWindows[window.id]? =
        some (.ofWindow window) := by
      rw [NiriAdapter.Relevant, not_and, not_not] at hw
      exact hw (hf window rfl)
    exact fun id action ha =>
      (h id action ha).congr rfl (NiriAdapter.recorded_known hk action.windowId)
  | closed closed =>
    intro id action ha
    obtain ⟨hne, ha⟩ := PendingResizes.pending_forgetWindow ha
    refine (h id action ha).congr rfl ?_
    rw [ht.keyed id action ha]
    simp [NiriAdapter.apply, get_erase, hne]
  | unchanged => exact h

lemma recorded_iff (ht : Targets adapter pending) (h : UpToDate adapter.engine pending)
    (window : NiriWindow) :
    UpToDate (adapter.recorded window).engine pending ↔
      ∀ action, pending.pending[window.id]? = some action →
        adapter.engine.config.Gives window.intoRecord action.state action.width := by
  have hget : ∀ id : WindowId, (adapter.recorded window).engine.windows[id]? =
      if window.id = id then some window.intoRecord else adapter.engine.windows[id]? := by
    intro id
    rw [NiriAdapter.recorded, AttentionEngine.upsertWindow_windows, NiriWindow.intoRecord_id,
      get_insert]
  constructor
  · intro hu action ha
    obtain ⟨record, hr, hg⟩ := hu window.id action ha
    rw [ht.keyed _ action ha, hget, if_pos rfl] at hr
    exact Option.some.inj hr ▸ hg
  · intro hg id action ha
    by_cases hid : window.id = id
    · subst hid
      refine ⟨window.intoRecord, ?_, hg action ha⟩
      rw [ht.keyed _ action ha, hget, if_pos rfl]
    · refine (h id action ha).congr rfl ?_
      rw [ht.keyed id action ha, hget, if_neg hid]

end UpToDate

namespace Controller

def Input.Unfocused (window : NiriWindow) (input : Input) : Prop :=
  (∃ io, input = .message io (.ok (some (.windowOpenedOrChanged window)))) ∧ ¬ window.isFocused

lemma step_upToDate (config : Config) (service : Service) (inputs : List Input) (input : Input)
    (h : UpToDate (after config service inputs).adapter.engine
      (after config service inputs).pending) :
    UpToDate ((after config service inputs).step input).2.adapter.engine
        ((after config service inputs).step input).2.pending ↔
      ∀ window action, input.Unfocused window →
        (after config service inputs).pending.pending[window.id]? = some action →
          config.Gives window.intoRecord action.state action.width := by
  have ht := after_targets config service inputs
  have hevents := adapter_after config service inputs
  have hconfig : (after config service inputs).adapter.engine.config = config := by
    rw [hevents, NiriAdapter.after_config]
  set self := after config service inputs
  by_cases hu : ∃ window, input.Unfocused window
  · obtain ⟨window, ⟨io, rfl⟩, hw⟩ := hu
    have hsilent : ¬ self.adapter.Relevant window := fun hr => hw hr.1
    have hstep : (self.step (.message io (.ok (some (.windowOpenedOrChanged window))))).2 =
        { self with adapter := self.adapter.recorded window } := by
      have he : (self.step (.message io (.ok (some (.windowOpenedOrChanged window))))).2 =
          (self.ingestEvent (.windowOpenedOrChanged window)).2 := rfl
      rw [he, ingestEvent, NiriAdapter.apply_opened_silent _ hsilent]
      rfl
    rw [hstep, UpToDate.recorded_iff ht h, hconfig]
    refine ⟨fun hg window' action hu ha => ?_, fun hg action ha => ?_⟩
    · obtain ⟨⟨io', he⟩, _⟩ := hu
      obtain ⟨_, rfl⟩ : io = io' ∧ window = window' := by simpa using he
      exact hg action ha
    · exact hg window action ⟨⟨io, rfl⟩, hw⟩ ha
  · refine iff_of_true ?_ fun window action hw => absurd ⟨window, hw⟩ hu
    cases input with
    | message io message =>
      rw [step_message]
      rcases self.ingestStreamMessage_cases io message with
        ⟨ha, hp⟩ | ⟨event, transition, rfl, he, ha, hp⟩
      · rwa [ha, hp]
      · have hi := follow_ingested self.pending he
        rw [ha, hp]
        rw [hevents] at ht h hi ⊢
        refine UpToDate.ingested ht h hi fun window hw => ?_
        subst hw
        by_contra hf
        exact hu ⟨window, ⟨io, rfl⟩, hf⟩
    | popNext => exact fun id action ha => h id action (PendingResizes.pending_popNext ht.keyed ha)

end Controller

open Controller

/-- In every state of a run of a connection the pending actions, and with them every action sent,
agree with the policy on the newest metadata, exactly when every report of an unfocused window
with pending work still asks for that work. -/
theorem resizes_agree_iff (config : Config) (service : Service) (inputs : List Input) :
    (∀ seen, seen <+: inputs →
      (∀ (id : WindowId) (action : ResizeAction),
        (after config service seen).pending.pending[id]? = some action →
          action.Agrees (after config service seen).adapter.engine) ∧
      ∀ action, ((after config service seen).step .popNext).1 = some action →
        action.Agrees (after config service seen).adapter.engine) ↔
    ∀ before input rest, inputs = before ++ input :: rest → ∀ window action,
      input.Unfocused window →
        (after config service before).pending.pending[window.id]? = some action →
          config.Gives window.intoRecord action.state action.width := by
  have hpop : ∀ seen, ((∀ (id : WindowId) (action : ResizeAction),
      (after config service seen).pending.pending[id]? = some action →
        action.Agrees (after config service seen).adapter.engine) ∧
      ∀ action, ((after config service seen).step .popNext).1 = some action →
        action.Agrees (after config service seen).adapter.engine) ↔
      UpToDate (after config service seen).adapter.engine (after config service seen).pending := by
    intro seen
    refine and_iff_left_of_imp fun h action ha => h action.windowId action ?_
    exact PendingResizes.popNext_some (after_targets config service seen).keyed ha
  simp only [hpop]
  refine Machine.forall_prefix_iff (P := fun seen => UpToDate
    (after config service seen).adapter.engine (after config service seen).pending)
    (fun id action ha => ?_) (fun seen input h => ?_) inputs
  · simp [after, connect, PendingResizes.default] at ha
  · have hstep := step_upToDate config service seen input h
    simpa [after] using hstep

-- A terminal loses the focus, becomes floating before its contraction is sent, and is contracted
-- all the same.
theorem contraction_survives_floating :
    let kitty : NiriWindow := ⟨10, some "window", some "kitty", true, false⟩
    let code : NiriWindow := ⟨20, some "window", some "code", false, false⟩
    let floating : NiriWindow := ⟨10, some "window", some "kitty", false, true⟩
    let inputs : List Input := [.windowsChanged [kitty, code], .windowFocusChanged (some 20),
      .windowOpenedOrChanged floating].map fun event => .message .reliable (.ok (some event))
    let controller := after .kittyAndCode .start inputs
    ∃ action, controller.pending.pending[(10 : WindowId)]? = some action ∧
      ¬ action.Agrees controller.adapter.engine := by
  intro kitty code floating inputs controller
  have hpending : controller.pending.pending[(10 : WindowId)]? =
      some ⟨2, 10, .unfocused, .tenth⟩ := by decide +kernel
  have hrecord : (controller.adapter.engine.windows[(10 : WindowId)]?).map (·.eligibility) =
      some (.excluded .floating) := by decide +kernel
  refine ⟨_, hpending, ?_⟩
  rintro ⟨record, hr, hm, _⟩
  rw [hr, Option.map_some, hm] at hrecord
  cases hrecord

end Melibea
