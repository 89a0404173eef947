import Melibea.Acceptance
import Melibea.Agreement

/-! An accepted configuration means exactly its source rules. -/

namespace Melibea

open Std Library OrderedMap RawAttentionRule

variable {compile : String → Except String Regex}

lemma resolve_index_iff {raw : RawConfig} {config : Config}
    (h : List.Forall₂ (Means compile) raw.attention config.attention) (window : WindowIdentity)
    (i : ℕ) : (config.resolve window).map (·.index) = some i ↔
      ∃ rule, raw.attention[i]? = some rule ∧ rule.Matched compile window ∧
        ∀ j other, j < i → raw.attention[j]? = some other → ¬ other.Matched compile window := by
  constructor
  · intro hr
    obtain ⟨resolved, hres, rfl⟩ := Option.map_eq_some_iff.mp hr
    obtain ⟨hget, hm, hfirst⟩ := Config.resolve_eq_some.mp hres
    obtain ⟨rule, hrule, hmeans⟩ := exists_left_of_getElem h hget
    refine ⟨rule, hrule, (hmeans.matches_iff window).mp hm, fun j other hj ho hmatched => ?_⟩
    obtain ⟨other', ho', hmeans'⟩ := exists_right_of_getElem h ho
    have hm' := (hmeans'.matches_iff window).mpr hmatched
    rw [hfirst j other' hj ho'] at hm'
    cases hm'
  · rintro ⟨raw, hraw, hmatched, hfirst⟩
    obtain ⟨rule, hrule, hmeans⟩ := exists_right_of_getElem h hraw
    have hres : config.resolve window = some ⟨i, rule⟩ := by
      refine Config.resolve_eq_some.mpr ⟨hrule, (hmeans.matches_iff window).mpr hmatched, ?_⟩
      intro j other hj ho
      obtain ⟨source, hs, hmeans'⟩ := exists_left_of_getElem h ho
      rw [← Bool.not_eq_true, hmeans'.matches_iff]
      exact hfirst j source hj hs
    rw [hres]
    rfl

lemma RawAttentionRule.Means.unique {raw : RawAttentionRule} {rule rule' : AttentionRule}
    (h : raw.Means compile rule) (h' : raw.Means compile rule') : rule = rule' := by
  have hc : Checks (AttentionRule.tryFromRaw compile 0 raw) (raw.Means compile) _ :=
    tryFromRaw_checks 0 raw
  have he := (hc.accepted rule).mpr h
  rw [(hc.accepted rule').mpr h'] at he
  exact (Except.ok.inj he).symm

lemma resolve_append {raws more : List RawAttentionRule} {config config' : Config}
    (h : List.Forall₂ (Means compile) raws config.attention)
    (h' : List.Forall₂ (Means compile) (raws ++ more) config'.attention)
    {window : WindowIdentity} {resolved : ResolvedRule}
    (hr : config.resolve window = some resolved) : config'.resolve window = some resolved := by
  have hkept : ∀ (j : ℕ) (rule : AttentionRule), j < raws.length →
      config'.attention[j]? = some rule → config.attention[j]? = some rule := by
    intro j rule hj hrule
    obtain ⟨raw, hraw, hmeans⟩ := exists_left_of_getElem h' hrule
    rw [List.getElem?_append_left hj] at hraw
    obtain ⟨rule', hrule', hmeans'⟩ := exists_right_of_getElem h hraw
    rwa [hmeans.unique hmeans']
  obtain ⟨hget, hm, hfirst⟩ := Config.resolve_eq_some.mp hr
  obtain ⟨raw, hraw, hmeans⟩ := exists_left_of_getElem h hget
  have hlen : resolved.index < raws.length := (List.getElem?_eq_some_iff.mp hraw).1
  refine Config.resolve_eq_some.mpr ⟨?_, hm, fun j rule hj hrule => ?_⟩
  · have hraw' : (raws ++ more)[resolved.index]? = some raw :=
      (List.getElem?_append_left hlen).trans hraw
    obtain ⟨rule, hrule, hmeans'⟩ := exists_right_of_getElem h' hraw'
    rwa [hmeans.unique hmeans']
  · exact hfirst j rule hj (hkept j rule (hj.trans hlen) hrule)

def WindowIdentity.Anonymous (window : WindowIdentity) : Prop :=
  window.appId = none ∧ window.title = none

lemma AttentionRule.not_matches_anonymous (rule : AttentionRule) {window : WindowIdentity}
    (h : window.Anonymous) : rule.matches window = false := by
  have hp := rule.hasPattern
  rw [AttentionRule.matches, h.1, h.2]
  cases ha : rule.appId with
  | some regex => simp [matchesOptionalPattern]
  | none =>
    cases ht : rule.title with
    | some regex => simp [matchesOptionalPattern]
    | none => simp [ha, ht] at hp

lemma Config.resolve_anonymous (config : Config) {window : WindowIdentity} (h : window.Anonymous) :
    config.resolve window = none :=
  resolve_eq_none.mpr fun rule _ => rule.not_matches_anonymous h

def NiriEvent.Nameless (id : WindowId) : NiriEvent → Prop
  | .windowsChanged windows => ∀ window ∈ windows, window.id = id →
    window.intoRecord.identity.Anonymous
  | .windowOpenedOrChanged window => window.id = id → window.intoRecord.identity.Anonymous
  | _ => True

lemma Desktop.nameless {events : List NiriEvent} {id : WindowId}
    (h : ∀ event ∈ events, event.Nameless id) {window : NiriWindow}
    (hw : (after events).window id = some window) : window.intoRecord.identity.Anonymous := by
  induction events using List.reverseRecOn with
  | nil => cases hw
  | append_singleton events event ih =>
    have hold := ih fun event he => h event (List.mem_append_left _ he)
    have hlast := h event (by simp)
    rw [after_concat] at hw
    cases event with
    | windowsChanged windows =>
      rw [observe] at hw
      split_ifs at hw
      · have hm := List.mem_filter.mp (List.mem_of_getLast? hw)
        exact hlast window hm.1 (by simpa using hm.2)
      · exact hold hw
    | windowOpenedOrChanged opened =>
      simp only [observe, Function.update_apply] at hw
      split_ifs at hw with hid
      · obtain rfl := Option.some.inj hw
        exact hlast hid.symm
      · exact hold hw
    | windowClosed closed =>
      simp only [observe, Function.update_apply] at hw
      split_ifs at hw
      exact hold hw
    | _ => exact hold hw

lemma NiriAdapter.nameless {config : Config} {events : List NiriEvent} {id : WindowId}
    (h : ∀ event ∈ events, event.Nameless id) {record : WindowRecord}
    (hr : (after config events).engine.windows[id]? = some record) :
    record.identity.Anonymous := by
  rw [(tracks_after config events).engine] at hr
  obtain ⟨window, hw, rfl⟩ := Option.map_eq_some_iff.mp hr
  exact Desktop.nameless h hw

lemma decisionFor_nameless {engine : AttentionEngine} {id : WindowId}
    (h : ∀ record, engine.windows[id]? = some record → record.identity.Anonymous)
    (state : FocusState) (generation : UInt64) :
    (engine.decisionFor id state).action generation = none := by
  rw [Option.eq_none_iff_forall_ne_some]
  intro action ha
  obtain ⟨_, hid, _⟩ := decisionFor_action ha
  obtain ⟨record, hr, _, resolved, hres, _⟩ := agrees_of_decisionFor ha
  rw [hid] at hr
  rw [engine.config.resolve_anonymous (h record hr)] at hres
  cases hres

lemma pending_nameless {adapter : NiriAdapter} {pending : PendingResizes} {event : NiriEvent}
    {t : FocusTransition} {id : WindowId} (he : adapter.Emission event t)
    (latest : ∀ (id : WindowId) (generation : UInt64),
      pending.latestGeneration[id]? = some generation → generation ≤ adapter.engine.generation)
    (h : ∀ record, (adapter.apply event).2.engine.windows[id]? = some record →
      record.identity.Anonymous) (hp : pending.pending[id]? = none) :
    (pending.ingest t).pending[id]? = none := by
  rw [Option.eq_none_iff_forall_ne_some]
  intro action ha
  rcases PendingResizes.pending_ingest_fresh id he.nodup
    (fun generation hg => (latest id generation hg).trans he.le) ha with ⟨d, hd, hact⟩ | ⟨_, hold⟩
  · rw [he.decided (FocusTransition.mem_of_decision hd), FocusTransition.windowId_of_decision hd,
      decisionFor_nameless h] at hact
    cases hact
  · rw [hp] at hold
    cases hold

namespace Controller

lemma ingested_nameless {adapter adapter' : NiriAdapter} {pending pending' : PendingResizes}
    {event : NiriEvent} {id : WindowId} (ht : Targets adapter pending)
    (hi : Ingested adapter pending event adapter' pending')
    (h : ∀ record, adapter'.engine.windows[id]? = some record → record.identity.Anonymous)
    (hp : pending.pending[id]? = none) : pending'.pending[id]? = none := by
  cases hi with
  | snapshot he =>
    refine pending_nameless (NiriAdapter.apply_emission he) (fun id g hg => ht.reset.latest id hg)
      h ?_
    simp [PendingResizes.reset]
  | report _ _ he =>
    exact pending_nameless (NiriAdapter.apply_emission he) (fun id g hg => ht.latest id hg) h hp
  | closed closed =>
    rw [PendingResizes.forgetWindow, get_erase]
    split_ifs
    · rfl
    · exact hp
  | _ => exact hp

lemma never_pending (config : Config) (service : Service) {inputs : List Input} {id : WindowId}
    (h : ∀ event ∈ heard inputs, event.Nameless id) :
    (after config service inputs).pending.pending[id]? = none := by
  induction inputs using List.reverseRecOn with
  | nil => simp [connect, PendingResizes.default]
  | append_singleton inputs input ih =>
    have hold := ih fun event he => h event (by
      rw [heard_concat]
      exact List.mem_append_left _ he)
    have hadapter := adapter_after config service (inputs ++ [input])
    have ht := after_targets config service inputs
    rw [after, Machine.run_append, Machine.run_cons, Machine.run_nil] at hadapter ⊢
    have hrecord : ∀ record,
        ((after config service inputs).step input).2.adapter.engine.windows[id]? = some record →
          record.identity.Anonymous := by
      intro record hr
      rw [hadapter] at hr
      exact NiriAdapter.nameless h hr
    cases input with
    | message io message =>
      rw [step_message] at hrecord ⊢
      rcases (after config service inputs).ingestStreamMessage_cases io message with
        ⟨_, hp⟩ | ⟨event, transition, _, he, ha, hp⟩
      · rwa [hp]
      · rw [hp]
        rw [ha] at hrecord
        exact ingested_nameless ht (follow_ingested _ he) hrecord hold
    | popNext =>
      rw [Option.eq_none_iff_forall_ne_some]
      intro action ha
      rw [PendingResizes.pending_popNext ht.keyed ha] at hold
      cases hold

end Controller

open Controller

/-- A configuration is accepted exactly when it has a rule and all its rules are valid, and is
otherwise refused for the earliest faulty one. Accepted, it resolves a window to the first source
rule whose every pattern is matched by a present field: a nameless window is never resized, and
rules added at the end change nothing that was resolved. -/
theorem accepted_config_is_source (compile : String → Except String Regex) (raw : RawConfig) :
    ((∃ config, Config.fromRaw compile raw = .ok config) ↔
      raw.attention ≠ [] ∧ ∀ rule ∈ raw.attention, rule.Valid compile) ∧
    (∀ error, Config.fromRaw compile raw = .error error →
      (raw.attention = [] ∧ error = .noAttentionRules) ∨
      ∃ earlier rule later message, raw.attention = earlier ++ rule :: later ∧
        (∀ r ∈ earlier, r.Valid compile) ∧ ¬ rule.Valid compile ∧
        error = .rule (earlier.length + 1) message) ∧
    ∀ config, Config.fromRaw compile raw = .ok config →
      List.Forall₂ (RawAttentionRule.Means compile) raw.attention config.attention ∧
      (∀ window i, (config.resolve window).map (·.index) = some i ↔
        ∃ rule, raw.attention[i]? = some rule ∧ rule.Matched compile window ∧
          ∀ j other, j < i → raw.attention[j]? = some other → ¬ other.Matched compile window) ∧
      (∀ window : WindowIdentity, window.appId = none → window.title = none →
        config.resolve window = none) ∧
      (∀ (engine : AttentionEngine) (id : WindowId) (record : WindowRecord) (state : FocusState),
        engine.config = config → engine.windows[id]? = some record → record.appId = none →
        record.title = none →
          ∀ index width, (engine.decisionFor id state).outcome ≠ .resize index width) ∧
      (∀ (service : Service) (inputs : List Input) (id : WindowId),
        (∀ event ∈ heard inputs, event.Nameless id) →
          (after config service inputs).pending.pending[id]? = none ∧
          ∀ action, ((after config service inputs).step .popNext).1 = some action →
            action.windowId ≠ id) ∧
      ∀ more config' window resolved,
        Config.fromRaw compile ⟨raw.attention ++ more⟩ = .ok config' →
        config.resolve window = some resolved → config'.resolve window = some resolved := by
  refine ⟨exists_config_iff, fun error he => ?_, fun config hc => ?_⟩
  · by_cases hne : raw.attention = []
    · rw [Config.fromRaw, dif_pos hne] at he
      exact .inl ⟨hne, (Except.error.inj he).symm⟩
    · obtain ⟨earlier, rule, later, hraw, hvalid, hfault, message, hm⟩ :=
        (fromRaw_checks hne).rejected he
      rw [Nat.zero_add] at hm
      exact .inr ⟨earlier, rule, later, message, hraw, hvalid, hfault, hm⟩
  · have hne : raw.attention ≠ [] := (exists_config_iff.mp ⟨config, hc⟩).1
    have hmeans := ((fromRaw_checks hne).accepted config).mp hc
    refine ⟨hmeans, resolve_index_iff hmeans, fun window ha ht => config.resolve_anonymous ⟨ha, ht⟩,
      fun engine id record state _ hr ha ht index width ho => ?_, fun service inputs id h => ?_,
      fun more config' window resolved hc' hres => ?_⟩
    · have hrecord : ∀ other, engine.windows[id]? = some other → other.identity.Anonymous := by
        intro other hother
        obtain rfl := Option.some.inj (hr.symm.trans hother)
        exact ⟨ha, ht⟩
      have hnone := decisionFor_nameless hrecord state 0
      rw [FocusDecision.action, ho] at hnone
      cases hnone
    · have hnever := never_pending config service h
      refine ⟨hnever, fun action ha hid => ?_⟩
      have hp := PendingResizes.popNext_some (after_targets config service inputs).keyed ha
      rw [hid, hnever] at hp
      cases hp
    · have hne' : (RawConfig.mk (raw.attention ++ more)).attention ≠ [] := by simp [hne]
      have hmeans' := ((fromRaw_checks hne').accepted config').mp hc'
      exact resolve_append hmeans hmeans' hres

theorem accepted_config_is_source_kitty :
    let compile (source : String) : Except String Regex :=
      if source = "^kitty$" then .ok ⟨(· == "kitty")⟩
      else if source = "^code$" then .ok ⟨(· == "code")⟩
      else .error "unclosed group"
    let kitty : RawAttentionRule := ⟨some "^kitty$", none, .text " 50%", .text "preserve"⟩
    let code : RawAttentionRule := ⟨some "^code$", none, .number Proportion.half.value, .text "50%"⟩
    let bare : RawAttentionRule := ⟨none, none, .text "50%", .text "preserve"⟩
    (∃ config, Config.fromRaw compile ⟨[kitty, code]⟩ = .ok config ∧
      (config.resolve ⟨some "code", some "main.rs"⟩).map (·.index) = some 1 ∧
      config.resolve ⟨none, none⟩ = none) ∧
    ∀ error, Config.fromRaw compile ⟨[kitty, bare]⟩ = .error error →
      ∃ message, error = .rule 2 message := by
  intro compile kitty code bare
  have hhalf : ∀ text, Decimal.trim text.toList = "50".toList ++ ['%'] →
      (RawWidth.text text).Denotes (.proportion .half) := fun text ht =>
    @RawWidth.Denotes.percent _ _ (.ofUnits false (50 * 2 ^ 1074)) _ ht (by decide +kernel)
      (by decide +kernel)
  have hpreserve : (RawWidth.text "preserve").Denotes .preserve := .preserve (by decide +kernel)
  have hkitty : kitty.Valid compile :=
    ⟨.inl rfl, by rintro source (hs | hs) <;> cases hs; exact ⟨_, rfl⟩,
      ⟨_, hhalf _ (by decide +kernel)⟩, ⟨_, hpreserve⟩⟩
  have hcode : code.Valid compile :=
    ⟨.inl rfl, by rintro source (hs | hs) <;> cases hs; exact ⟨_, rfl⟩,
      ⟨_, .number .half⟩, ⟨_, hhalf _ (by decide +kernel)⟩⟩
  have hbare : ¬ bare.Valid compile := fun h => by simpa [bare] using h.pattern
  constructor
  · have h := accepted_config_is_source compile ⟨[kitty, code]⟩
    obtain ⟨config, hc⟩ := h.1.mpr ⟨by simp, by simp [hkitty, hcode]⟩
    obtain ⟨_, hresolve, hnameless, _⟩ := h.2.2 config hc
    refine ⟨config, hc, (hresolve _ 1).mpr ⟨code, rfl, ?_, ?_⟩, hnameless _ rfl rfl⟩
    · constructor
      · rintro source ⟨⟩
        exact ⟨⟨(· == "code")⟩, "code", rfl, rfl, rfl⟩
      · rintro source ⟨⟩
    · intro j other hj ho hm
      obtain rfl : j = 0 := Nat.lt_one_iff.mp hj
      obtain rfl := Option.some.inj ho
      obtain ⟨regex, candidate, hc, hv, hmatch⟩ := hm.1 "^kitty$" rfl
      obtain rfl := Except.ok.inj hc
      obtain rfl := Option.some.inj hv
      cases hmatch
  · intro error he
    have hcases := (accepted_config_is_source compile ⟨[kitty, bare]⟩).2.1 error he
    obtain ⟨hempty, _⟩ | ⟨earlier, rule, later, message, hraw, hvalid, hfault, rfl⟩ := hcases
    · cases hempty
    · rcases earlier with _ | ⟨first, _ | ⟨second, earlier⟩⟩
      · obtain ⟨rfl, _⟩ := List.cons.inj hraw
        exact absurd hkitty hfault
      · exact ⟨message, rfl⟩
      · obtain ⟨_, hraw⟩ := List.cons.inj hraw
        obtain ⟨rfl, _⟩ := List.cons.inj hraw
        exact absurd (hvalid bare (by simp)) hbare

end Melibea
