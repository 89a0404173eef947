import Melibea.Subscription

/-! A revision names one state. -/

namespace Melibea

open Library BrokerState

namespace Broker

def publications (inputs : List (Io × BrokerMessage)) : Publications (List Window) :=
  (inputs.filterMap (·.2.command)).foldl Publications.observe .empty

def stateRevisions (messages : List Message) : List UInt64 :=
  messages.filterMap Message.stateRevision

lemma publications_concat (inputs : List (Io × BrokerMessage)) (input : Io × BrokerMessage) :
    publications (inputs ++ [input]) =
      input.2.command.elim (publications inputs) (publications inputs).observe := by
  rw [publications, List.filterMap_append, List.foldl_append]
  cases h : input.2.command <;> simp [h, publications]

lemma publications_grow (inputs : List (Io × BrokerMessage)) (input : Io × BrokerMessage) :
    (publications inputs).published <+: (publications (inputs ++ [input])).published := by
  rw [publications_concat]
  cases input.2.command with
  | none => exact List.prefix_refl _
  | some command => exact Publications.prefix_observe _ command

lemma publications_length_le {inputs more : List (Io × BrokerMessage)} (h : inputs <+: more) :
    (publications inputs).published.length ≤ (publications more).published.length := by
  obtain ⟨rest, rfl⟩ := h
  induction rest using List.reverseRecOn with
  | nil => rw [List.append_nil]
  | append_singleton rest input ih =>
    rw [← List.append_assoc]
    exact ih.trans (publications_grow _ _).length_le

lemma stateRevision_step {primary : Primary (List Window) String}
    {command : Command (List Window) String} {update : Update (List Window) _ String}
    (h : (primary.step diffWindows "" command).1 = some update) {revision : UInt64}
    (hr : (Message.ofUpdate update).stateRevision = some revision) :
    revision = (primary.step diffWindows "" command).2.revision ∧
      revision = Word64.saturatingAdd primary.revision 1 := by
  cases command with
  | publish value =>
    by_cases hsame : primary.ready ∧ primary.value = value
    · rw [Primary.step, if_pos hsame] at h
      cases h
    · rw [Primary.step, if_neg hsame] at h ⊢
      obtain rfl := Option.some.inj h
      split_ifs at hr <;> exact ⟨(Option.some.inj hr).symm, (Option.some.inj hr).symm⟩
  | withdraw reason =>
    rw [Primary.step] at h
    split_ifs at h
    obtain rfl := Option.some.inj h
    cases hr

structure Heard (broker next : Broker) (before : List Message) (message : Message) : Prop where
  mirrors : (replica (before ++ [message])).Mirrors next.state.primary ∨
    (replica (before ++ [message])).ready = false
  revision {revision} : message.stateRevision = some revision → revision = next.state.revision ∧
    (before = [] ∨ revision = Word64.saturatingAdd broker.state.revision 1)

variable {self : Broker} {writes : List Write}

lemma Follows.heard_command (h : Follows self writes) (io : Io) {message : BrokerMessage}
    (hd : DistinctIds (io, message)) {command : Command (List Window) String}
    (hc : message.command = some command) (stream : StreamId) :
    sent (self.turn (io, message)).1 stream = [] ∨
      ∃ heard, sent (self.turn (io, message)).1 stream = [heard] ∧
        Heard self (self.turn (io, message)).2 (sent writes stream) heard := by
  have hs := sent_obey self.state io command h.streams stream
  by_cases hm : stream ∈ self.state.subscribers.map (·.stream)
  · rw [if_pos hm] at hs
    obtain ⟨subscriber, hsub, rfl⟩ := List.mem_map.mp hm
    have hmirrors := h.mirrors_command io hd hc hsub
    rw [self.turn_command io hc] at hmirrors ⊢
    rw [sent_append] at hmirrors
    cases hu : (self.state.primary.step diffWindows "" command).1 with
    | none => exact .inl (by rw [hs, hu]; rfl)
    | some update =>
      have hone : sent (self.state.obey io command).1 subscriber.stream =
          [Message.ofUpdate update] := by rw [hs, hu]; rfl
      refine .inr ⟨_, hone, .inl ?_, fun hr => ?_⟩
      · rwa [hone, ← BrokerState.obey_primary] at hmirrors
      · obtain ⟨hnext, hsucc⟩ := stateRevision_step hu hr
        refine ⟨hnext.trans ?_, .inr hsucc⟩
        exact (congrArg Primary.revision (obey_primary self.state io command)).symm
  · rw [if_neg hm] at hs
    rw [self.turn_command io hc]
    exact .inl hs

lemma fold_reply (state : BrokerState) (io : Io) (request : Request) :
    (replica [state.reply io request]).Mirrors state.primary ∨
      (replica [state.reply io request]).ready = false := by
  cases request with
  | list =>
    by_cases hr : state.ready
    · rw [BrokerState.reply, if_pos hr]
      exact .inl ⟨hr.symm, rfl, fun _ => rfl⟩
    · rw [BrokerState.reply, if_neg hr]
      exact .inr rfl
  | subscribe =>
    have hg := Replica.mirrors_greeting patch (replica []) state.primary
    rw [← fold_ofUpdate, ← replica_concat] at hg
    exact .inl hg
  | _ =>
    rw [BrokerState.reply]
    split <;> exact .inr rfl

lemma stateRevision_reply {state : BrokerState} {io : Io} {request : Request} {revision : UInt64}
    (h : (state.reply io request).stateRevision = some revision) : revision = state.revision := by
  cases request with
  | list =>
    rw [BrokerState.reply] at h
    split_ifs at h
    · exact (Option.some.inj h).symm
    · cases h
  | subscribe =>
    rw [BrokerState.reply, Primary.greeting] at h
    split_ifs at h
    · exact (Option.some.inj h).symm
    · cases h
  | _ =>
    rw [BrokerState.reply] at h
    split at h <;> cases h

lemma Follows.heard_client (h : Follows self writes) (io : Io) (version : UInt32)
    (request : Request) (stream : StreamId) :
    sent (self.turn (io, .client version request)).1 stream = [] ∨
      ∃ heard, sent (self.turn (io, .client version request)).1 stream = [heard] ∧
        Heard self (self.turn (io, .client version request)).2 (sent writes stream) heard := by
  have hprimary : (self.turn (io, .client version request)).2.state.primary =
      self.state.primary := self.turn_primary _
  by_cases hs : self.accepted = stream
  · subst hs
    have hone : sent (self.turn (io, .client version request)).1 self.accepted =
        [self.state.reply io request] := by
      rw [turn_client, BrokerState.handleClient_eq]
      simp [sent]
    refine .inr ⟨_, hone, ?_, fun hr => ⟨?_, .inl (sent_eq_nil h.seen)⟩⟩
    · rw [sent_eq_nil h.seen, hprimary]
      exact fold_reply self.state io request
    · exact (stateRevision_reply hr).trans (congrArg Primary.revision hprimary).symm
  · refine .inl ?_
    rw [turn_client, BrokerState.handleClient_eq]
    simp [sent, hs]

lemma Follows.heard (h : Follows self writes) {input : Io × BrokerMessage} (hd : DistinctIds input)
    (stream : StreamId) :
    sent (self.turn input).1 stream = [] ∨ ∃ heard, sent (self.turn input).1 stream = [heard] ∧
      Heard self (self.turn input).2 (sent writes stream) heard := by
  obtain ⟨io, message⟩ := input
  cases message with
  | publish windows => exact h.heard_command io hd rfl stream
  | setUnavailable reason => exact h.heard_command io hd rfl stream
  | client version request => exact h.heard_client io version request stream

/-- The broker's counter numbers the publications, every list a client has held carries the
number of its publication, and revisions grow along every connection. -/
structure Named (broker : Broker) (writes : List Write) (publications : Publications (List Window)) :
    Prop where
  numbered : broker.state.primary.Numbered publications
  observed (stream) {seen} : seen <+: sent writes stream → (replica seen).ready →
    publications.at? (replica seen).revision = some (replica seen).value
  bounded (stream) : ∀ revision ∈ stateRevisions (sent writes stream),
    revision ≤ broker.state.revision
  increasing (stream) : (stateRevisions (sent writes stream)).Pairwise (· < ·)

lemma Named.turn {publications : Publications (List Window)} (h : Named self writes publications)
    (hf : Follows self writes) {input : Io × BrokerMessage} (hd : DistinctIds input)
    (hlt : (input.2.command.elim publications publications.observe).published.length < 2 ^ 64 - 1) :
    Named (self.turn input).2 (writes ++ (self.turn input).1)
      (input.2.command.elim publications publications.observe) := by
  set next := input.2.command.elim publications publications.observe with hnext
  have hbegin : publications.published <+: next.published := by
    rw [hnext]
    cases input.2.command with
    | none => exact List.prefix_refl _
    | some command => exact Publications.prefix_observe _ command
  have hnumbered : (self.turn input).2.state.primary.Numbered next := by
    rw [turn_primary, hnext]
    cases hc : input.2.command with
    | none => exact h.numbered
    | some command =>
      rw [hnext, hc, Option.elim_some] at hlt
      exact h.numbered.step command (by omega)
  have hold : self.state.revision.toNat = publications.published.length := h.numbered.revision
  have hnew : (self.turn input).2.state.revision.toNat = next.published.length :=
    hnumbered.revision
  have hle : self.state.revision ≤ (self.turn input).2.state.revision := by
    rw [UInt64.le_iff_toNat_le, hold, hnew]
    exact hbegin.length_le
  refine ⟨hnumbered, fun stream seen hs hr => ?_, fun stream revision hm => ?_, fun stream => ?_⟩
  all_goals
    rcases hf.heard hd stream with hn | ⟨message, hone, hheard⟩
  · rw [sent_append, hn, List.append_nil] at hs
    exact Publications.at_of_prefix hbegin (h.observed stream hs hr)
  · rw [sent_append, hone] at hs
    rcases List.prefix_concat_iff.mp hs with rfl | hs
    · rcases hheard.mirrors with hm | hm
      · have hready : (self.turn input).2.state.primary.ready := hm.ready ▸ hr
        rw [hm.revision, hm.value hready]
        exact hnumbered.at_revision hready
      · rw [hm] at hr
        cases hr
    · exact Publications.at_of_prefix hbegin (h.observed stream hs hr)
  · rw [sent_append, hn, List.append_nil] at hm
    exact (h.bounded stream revision hm).trans hle
  · rw [sent_append, hone, stateRevisions, List.filterMap_append, List.mem_append] at hm
    rcases hm with hm | hm
    · exact (h.bounded stream revision hm).trans hle
    · exact (hheard.revision (by simpa using hm)).1.le
  · rw [sent_append, hn, List.append_nil]
    exact h.increasing stream
  · rw [sent_append, hone, stateRevisions, List.filterMap_append, List.pairwise_append]
    refine ⟨h.increasing stream, ?_, fun old ho new hn => ?_⟩
    · cases hr : message.stateRevision <;> simp [hr]
    · rcases (hheard.revision (by simpa using hn)).2 with hfirst | hsucc
      · simp [hfirst] at ho
      · have hb := h.bounded stream old ho
        have hlen := hbegin.length_le
        rw [UInt64.le_iff_toNat_le] at hb
        rw [hsucc, UInt64.lt_iff_toNat_lt, Word64.toNat_saturatingAdd, UInt64.toNat_one]
        omega

lemma named (inputs : List (Io × BrokerMessage)) (hd : ∀ input ∈ inputs, DistinctIds input)
    (hlt : (publications inputs).published.length < 2 ^ 64 - 1) :
    Named (after inputs) (written inputs) (publications inputs) := by
  induction inputs using List.reverseRecOn with
  | nil =>
    refine ⟨⟨rfl, rfl, fun hr => (nomatch hr)⟩, fun stream seen hs hr => ?_, ?_, ?_⟩
    · obtain rfl : seen = [] := List.prefix_nil.mp hs
      cases hr
    · simp [written, sent, stateRevisions]
    · simp [written, sent, stateRevisions]
  | append_singleton inputs input ih =>
    have hold : ∀ x ∈ inputs, DistinctIds x := fun x hx => hd x (List.mem_append_left _ hx)
    have hle := publications_length_le (List.prefix_append inputs [input])
    rw [publications_concat] at hlt hle ⊢
    rw [after_concat, written_concat]
    exact (ih hold (by omega)).turn (follows inputs hold) (hd input (by simp)) hlt

lemma revision_of_unavailable {input : Io × BrokerMessage} {write : Write}
    (hw : write ∈ (self.turn input).1) {revision : UInt64} {reason : String}
    (he : write.message.message = .unavailable revision reason) :
    revision = self.state.revision := by
  obtain ⟨io, message⟩ := input
  cases hc : message.command with
  | some command =>
    rw [turn_command self io hc, obey] at hw
    cases command with
    | publish windows =>
      rw [Primary.step] at hw
      split_ifs at hw
      · cases hw
      all_goals
        obtain ⟨subscriber, _, rfl⟩ := List.mem_map.mp hw
        cases he
    | withdraw reason' =>
      rw [Primary.step] at hw
      split_ifs at hw
      · cases hw
      · obtain ⟨subscriber, _, rfl⟩ := List.mem_map.mp hw
        exact (Message.unavailable.inj he).1.symm
  | none =>
    obtain ⟨version, request, rfl⟩ := message.client_of_command hc
    rw [turn_client, handleClient_eq] at hw
    obtain rfl := List.mem_singleton.mp hw
    cases request with
    | subscribe =>
      simp only [BrokerState.reply, Primary.greeting] at he
      split_ifs at he
      · cases he
      · exact (Message.unavailable.inj he).1.symm
    | list =>
      simp only [BrokerState.reply] at he
      split_ifs at he
      cases he
    | _ =>
      simp only [BrokerState.reply] at he
      split at he <;> cases he

lemma revision_publish (self : Broker) (io : Io) (windows : List Window) :
    (self.turn (io, .publish windows)).2.state.revision =
      if self.state.ready ∧ self.state.windows = windows then self.state.revision
      else Word64.saturatingAdd self.state.revision 1 := by
  refine (congrArg Primary.revision (self.turn_primary (io, .publish windows))).trans ?_
  change (self.state.primary.step diffWindows "" (.publish windows)).2.revision = _
  by_cases hsame : self.state.ready ∧ self.state.windows = windows
  · have hp : self.state.primary.ready ∧ self.state.primary.value = windows := hsame
    rw [if_pos hsame, Primary.step, if_pos hp]
    rfl
  · have hp : ¬ (self.state.primary.ready ∧ self.state.primary.value = windows) := hsame
    rw [if_neg hsame, Primary.step, if_neg hp]
    rfl

lemma revision_of_not_publish (self : Broker) {input : Io × BrokerMessage}
    (h : ∀ windows, input.2 ≠ .publish windows) :
    (self.turn input).2.state.revision = self.state.revision := by
  refine (congrArg Primary.revision (self.turn_primary input)).trans ?_
  obtain ⟨io, message⟩ := input
  cases message with
  | publish windows => exact absurd rfl (h windows)
  | setUnavailable reason =>
    simp only [BrokerMessage.command, Option.elim_some, Primary.step]
    split_ifs <;> rfl
  | client version request => rfl

end Broker

open Broker

/-- In a run with fewer publications than the counter can tell apart, a revision names one list
for all clients and all times, revisions grow along every connection, an `Unavailable` carries the
number of the last publication, and only a publication of something new moves the revision. -/
theorem revision_names_state (inputs : List (Io × BrokerMessage))
    (hd : ∀ input ∈ inputs, DistinctIds input)
    (hlt : (publications inputs).published.length < 2 ^ 64 - 1) :
    (∀ stream seen stream' seen', seen <+: sent (written inputs) stream →
      seen' <+: sent (written inputs) stream' → (replica seen).ready → (replica seen').ready →
        (replica seen).revision = (replica seen').revision →
          (replica seen).value = (replica seen').value) ∧
    (∀ stream seen, seen <+: sent (written inputs) stream → (replica seen).ready →
      (publications inputs).at? (replica seen).revision = some (replica seen).value) ∧
    (∀ stream, (stateRevisions (sent (written inputs) stream)).Pairwise (· < ·)) ∧
    ∀ before input rest, inputs = before ++ input :: rest →
      let broker := after before
      let next := after (before ++ [input])
      (∀ write ∈ (broker.turn input).1, ∀ revision reason,
        write.message.message = .unavailable revision reason →
          revision.toNat = (publications before).published.length) ∧
      (∀ windows, input.2 = .publish windows →
        next.state.revision = if broker.state.ready ∧ broker.state.windows = windows then
          broker.state.revision else broker.state.revision + 1) ∧
      ((∀ windows, input.2 ≠ .publish windows) → next.state.revision = broker.state.revision) := by
  have h := named inputs hd hlt
  refine ⟨?_, fun stream seen hs hr => h.observed stream hs hr, h.increasing, ?_⟩
  · intro stream seen stream' seen' hs hs' hr hr' he
    have hv := h.observed stream hs hr
    rw [he, h.observed stream' hs' hr'] at hv
    exact (Option.some.inj hv).symm
  · rintro before input rest rfl
    have hle := publications_length_le (List.prefix_append before (input :: rest))
    have hb := named before (fun x hx => hd x (List.mem_append_left _ hx)) (by omega)
    have hrev : (after before).state.revision.toNat = (publications before).published.length :=
      hb.numbered.revision
    simp only [after_concat]
    refine ⟨fun write hw revision reason he => ?_, fun windows hw => ?_,
      revision_of_not_publish _⟩
    · rw [revision_of_unavailable hw he, hrev]
    · obtain ⟨io, message⟩ := input
      obtain rfl : message = .publish windows := hw
      rw [revision_publish, Word64.saturatingAdd_one (by omega)]

theorem revision_names_republished_state :
    let window : Window := ⟨10, some "kitty", some "window", none⟩
    let inputs : List (Io × BrokerMessage) := [.client 1 .subscribe, .publish [window],
      .setUnavailable "niri connection lost", .publish [window], .client 2 .list].map (.reliable, ·)
    stateRevisions (sent (written inputs) 0) = [1, 2] ∧
      ∀ stream, (stateRevisions (sent (written inputs) stream)).Pairwise (· < ·) := by
  intro window inputs
  have hd : ∀ input ∈ inputs, DistinctIds input := by
    intro input hi windows he
    simp only [inputs, List.map_cons, List.map_nil, List.mem_cons, List.not_mem_nil,
      or_false] at hi
    rcases hi with rfl | rfl | rfl | rfl | rfl <;> cases he <;> decide
  exact ⟨by decide +kernel, (revision_names_state inputs hd (by decide +kernel)).2.2.1⟩

end Melibea
