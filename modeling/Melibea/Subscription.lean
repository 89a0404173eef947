import Melibea.Broker
import Melibea.Library.KeyedList

/-! The broker as a primary, and its subscribers' connections as the feeds of replicas. -/

namespace Melibea

open Library

def Message.fold (replica : Replica (List Window)) : Message → Replica (List Window)
  | .snapshot revision windows => { revision, ready := true, value := windows }
  | .changes revision delta =>
    { replica with revision, value := delta.foldl WindowChange.apply replica.value }
  | .unavailable revision _ => { replica with revision, ready := false }
  | .actionResult _ | .error _ => replica

def replica (messages : List Message) : Replica (List Window) :=
  messages.foldl Message.fold { revision := 0, ready := false, value := [] }

def Message.stateRevision : Message → Option UInt64
  | .snapshot revision _ | .changes revision _ => some revision
  | _ => none

def Message.ofUpdate : Update (List Window) (List WindowChange) String → Message
  | .snapshot revision windows => .snapshot revision windows
  | .delta revision delta => .changes revision delta
  | .withdrawn revision reason => .unavailable revision reason

def patch (changes : List WindowChange) (windows : List Window) : List Window :=
  changes.foldl WindowChange.apply windows

lemma fold_ofUpdate (r : Replica (List Window)) (update : Update (List Window) _ String) :
    (Message.ofUpdate update).fold r = r.receive patch update := by
  cases update <;> rfl

lemma replica_concat (messages : List Message) (message : Message) :
    replica (messages ++ [message]) = message.fold (replica messages) := by
  rw [replica, List.foldl_append]
  rfl

def BrokerMessage.command : BrokerMessage → Option (Command (List Window) String)
  | .publish windows => some (.publish windows)
  | .setUnavailable reason => some (.withdraw reason)
  | .client .. => none

lemma BrokerMessage.client_of_command (message : BrokerMessage) (h : message.command = none) :
    ∃ version request, message = .client version request := by
  cases message with
  | client version request => exact ⟨version, request, rfl⟩
  | _ => cases h

namespace BrokerState

def primary (self : BrokerState) : Primary (List Window) String where
  revision := self.revision
  ready := self.ready
  reason := self.unavailableReason
  value := self.windows

def withPrimary (self : BrokerState) (primary : Primary (List Window) String) : BrokerState where
  revision := primary.revision
  ready := primary.ready
  unavailableReason := primary.reason
  windows := primary.value
  subscribers := self.subscribers

def obey (self : BrokerState) (io : Io) (command : Command (List Window) String) :
    List Write × BrokerState :=
  match self.primary.step diffWindows "" command with
  | (none, _) => ([], self)
  | (some update, primary) => (self.withPrimary primary).broadcast io (.ofUpdate update)

lemma publish_eq_obey (self : BrokerState) (io : Io) (windows : List Window) :
    self.publish io windows = self.obey io (.publish windows) := by
  rw [publish, obey, Primary.step]
  by_cases hsame : self.ready ∧ self.windows = windows
  · rw [if_pos hsame, if_pos (show self.primary.ready ∧ self.primary.value = windows from hsame)]
  · rw [if_neg hsame,
      if_neg (show ¬ (self.primary.ready ∧ self.primary.value = windows) from hsame)]
    cases hr : self.ready <;> simp [primary, hr, snapshotMessage, withPrimary, Message.ofUpdate]

lemma setUnavailable_eq_obey (self : BrokerState) (io : Io) (reason : String) :
    self.setUnavailable io reason = self.obey io (.withdraw reason) := by
  rw [setUnavailable, obey, Primary.step]
  by_cases hsame : !self.ready ∧ self.unavailableReason = reason
  · rw [if_pos hsame,
      if_pos (show !self.primary.ready ∧ self.primary.reason = reason from hsame)]
  · rw [if_neg hsame,
      if_neg (show ¬ (!self.primary.ready ∧ self.primary.reason = reason) from hsame)]
    rfl

def reply (self : BrokerState) (io : Io) : Request → Message
  | .list =>
    if self.ready then self.snapshotMessage else .error (.unavailable self.unavailableReason)
  | .subscribe => .ofUpdate self.primary.greeting
  | action@(.minimize ..) | action@(.restore ..) | action@(.close _) =>
    match io.execute action with
    | .ok result => .actionResult result
    | .error error => .error (.actionFailed error)

lemma handleClient_eq (self : BrokerState) (io : Io) (version : UInt32) (request : Request)
    (stream : StreamId) :
    self.handleClient io version request stream =
      ([⟨stream, version, self.reply io request⟩],
        if request = .subscribe ∧ io.writeMessage stream ∧ io.tryClone stream then
          { self with
            subscribers := (self.sweepDeparted io).subscribers ++ [⟨version, stream⟩] }
        else self) := by
  cases request with
  | subscribe =>
    have hr : (if self.ready then self.snapshotMessage
        else .unavailable self.revision self.unavailableReason) =
          Message.ofUpdate self.primary.greeting := by
      rw [Primary.greeting]
      cases h : self.ready <;> simp [primary, h, Message.ofUpdate, snapshotMessage]
    simp only [handleClient, reply, hr, Bool.and_eq_true, true_and]
    rfl
  | list => rfl
  | _ => rfl

@[simp] lemma obey_primary (self : BrokerState) (io : Io)
    (command : Command (List Window) String) :
    (self.obey io command).2.primary = (self.primary.step diffWindows "" command).2 := by
  rw [obey]
  cases hs : self.primary.step diffWindows "" command with
  | mk update primary =>
    cases update with
    | some update => rfl
    | none =>
      cases command <;> rw [Primary.step] at hs <;> split_ifs at hs <;> simp_all

lemma sent_obey (self : BrokerState) (io : Io) (command : Command (List Window) String)
    (hn : (self.subscribers.map (·.stream)).Nodup) (stream : StreamId) :
    sent (self.obey io command).1 stream =
      if stream ∈ self.subscribers.map (·.stream) then
        ((self.primary.step diffWindows "" command).1.map Message.ofUpdate).toList
      else [] := by
  rw [obey]
  cases self.primary.step diffWindows "" command with
  | mk update primary =>
    cases update with
    | none => simp [sent]
    | some update =>
      simp only [broadcast, withPrimary, sent, List.filter_map, List.map_map, Function.comp_def,
        ServerMessage.forVersion, Option.map_some, Option.toList_some]
      rcases KeyedList.filter_eq_nil_or_singleton hn stream with hf | ⟨subscriber, hf⟩
      · rw [hf, List.map_nil, if_neg fun hm => ?_]
        obtain ⟨subscriber, hs, rfl⟩ := List.mem_map.mp hm
        simpa using List.filter_eq_nil_iff.mp hf subscriber hs
      · have hm : subscriber ∈ self.subscribers.filter (·.stream = stream) := by simp [hf]
        rw [List.mem_filter, decide_eq_true_iff] at hm
        rw [hf, List.map_singleton, if_pos (List.mem_map.mpr ⟨subscriber, hm⟩)]

lemma subscribers_obey (self : BrokerState) (io : Io) (command : Command (List Window) String) :
    (self.obey io command).2.subscribers.Sublist self.subscribers := by
  rw [obey]
  cases self.primary.step diffWindows "" command with
  | mk update primary =>
    cases update with
    | none => exact List.Sublist.refl _
    | some update => exact List.filter_sublist

lemma mem_subscribers_obey {self : BrokerState} {io : Io} {command : Command (List Window) String}
    {subscriber : Subscriber} (h : subscriber ∈ self.subscribers)
    (hw : io.writeMessage subscriber.stream) :
    subscriber ∈ (self.obey io command).2.subscribers := by
  rw [obey]
  cases self.primary.step diffWindows "" command with
  | mk update primary =>
    cases update with
    | none => exact h
    | some update => exact List.mem_filter.mpr ⟨h, hw⟩

lemma mem_obey {self : BrokerState} {io : Io} {command : Command (List Window) String}
    {write : Write} (h : write ∈ (self.obey io command).1) :
    ∃ subscriber ∈ self.subscribers, ∃ message,
      write = ⟨subscriber.stream, .forVersion subscriber.version message⟩ := by
  rw [obey] at h
  cases hs : self.primary.step diffWindows "" command with
  | mk update primary =>
    rw [hs] at h
    cases update with
    | none => cases h
    | some update =>
      obtain ⟨subscriber, hm, rfl⟩ := List.mem_map.mp h
      exact ⟨subscriber, hm, .ofUpdate update, rfl⟩

lemma distinct_obey {self : BrokerState} (h : (self.windows.map Window.id).Nodup) (io : Io)
    {command : Command (List Window) String}
    (hc : ∀ windows, command = .publish windows → (windows.map Window.id).Nodup) :
    ((self.obey io command).2.windows.map Window.id).Nodup := by
  have hp := congrArg Primary.value (self.obey_primary io command)
  change (self.obey io command).2.windows = _ at hp
  rw [hp]
  cases command with
  | publish windows =>
    by_cases hsame : self.primary.ready ∧ self.primary.value = windows
    · rw [Primary.step, if_pos hsame]
      exact h
    · rw [Primary.step, if_neg hsame]
      exact hc windows rfl
  | withdraw reason =>
    rw [Primary.step]
    split_ifs <;> exact h

end BrokerState

open BrokerState

lemma replica_update (messages : List Message)
    (update : Option (Update (List Window) (List WindowChange) String)) :
    replica (messages ++ (update.map Message.ofUpdate).toList) =
      update.elim (replica messages) ((replica messages).receive patch) := by
  cases update with
  | none => simp
  | some update => exact (replica_concat _ _).trans (fold_ofUpdate _ update)

lemma sent_append (writes more : List Write) (stream : StreamId) :
    sent (writes ++ more) stream = sent writes stream ++ sent more stream := by
  simp [sent]

lemma sent_eq_nil {writes : List Write} {stream : StreamId}
    (h : ∀ write ∈ writes, write.stream < stream) : sent writes stream = [] := by
  rw [sent, List.map_eq_nil_iff, List.filter_eq_nil_iff]
  intro write hw
  simpa using (h write hw).ne

namespace Broker

lemma turn_command (self : Broker) (io : Io) {message : BrokerMessage}
    {command : Command (List Window) String} (h : message.command = some command) :
    self.turn (io, message) =
      ((self.state.obey io command).1, { self with state := (self.state.obey io command).2 }) := by
  cases message with
  | publish windows =>
    obtain rfl := Option.some.inj h
    rw [← publish_eq_obey]
    rfl
  | setUnavailable reason =>
    obtain rfl := Option.some.inj h
    rw [← setUnavailable_eq_obey]
    rfl
  | client version request => cases h

lemma turn_client (self : Broker) (io : Io) (version : UInt32) (request : Request) :
    self.turn (io, .client version request) =
      ((self.state.handleClient io version request self.accepted).1,
        { state := (self.state.handleClient io version request self.accepted).2
          accepted := self.accepted + 1 }) := rfl

lemma turn_primary (self : Broker) (input : Io × BrokerMessage) :
    (self.turn input).2.state.primary =
      input.2.command.elim self.state.primary
        fun command => (self.state.primary.step diffWindows "" command).2 := by
  obtain ⟨io, message⟩ := input
  cases hc : message.command with
  | some command => simp [turn_command self io hc]
  | none =>
    obtain ⟨version, request, rfl⟩ := message.client_of_command hc
    rw [turn_client, handleClient_eq]
    split_ifs <;> rfl

structure Apart (broker : Broker) : Prop where
  streams : (broker.state.subscribers.map (·.stream)).Nodup
  accepted : ∀ subscriber ∈ broker.state.subscribers, subscriber.stream < broker.accepted

variable {self : Broker}

lemma Apart.turn (h : Apart self) (input : Io × BrokerMessage) : Apart (self.turn input).2 := by
  obtain ⟨io, message⟩ := input
  cases hc : message.command with
  | some command =>
    rw [turn_command _ io hc]
    have hsub := self.state.subscribers_obey io command
    exact ⟨h.streams.sublist (hsub.map _), fun subscriber hm => h.accepted _ (hsub.subset hm)⟩
  | none =>
    obtain ⟨version, request, rfl⟩ := message.client_of_command hc
    rw [turn_client, handleClient_eq]
    split_ifs
    · have hsweep : (self.state.sweepDeparted io).subscribers.Sublist self.state.subscribers :=
        List.filter_sublist
      constructor
      · rw [List.map_append]
        refine (h.streams.sublist (hsweep.map _)).append (List.nodup_singleton _) ?_
        intro stream ho hn
        obtain ⟨subscriber, hm, rfl⟩ := List.mem_map.mp ho
        exact (h.accepted subscriber (hsweep.subset hm)).ne (by simpa using hn)
      · intro subscriber hm
        rcases List.mem_append.mp hm with hm | hm
        · exact (h.accepted _ (hsweep.subset hm)).trans (Nat.lt_succ_self _)
        · rw [List.mem_singleton.mp hm]
          exact Nat.lt_succ_self _
    · exact ⟨h.streams, fun subscriber hm => (h.accepted _ hm).trans (Nat.lt_succ_self _)⟩

lemma Apart.mem_turn (h : Apart self) {input : Io × BrokerMessage} {write : Write}
    (hw : write ∈ (self.turn input).1) : write.stream < (self.turn input).2.accepted := by
  obtain ⟨io, message⟩ := input
  cases hc : message.command with
  | some command =>
    rw [turn_command _ io hc] at hw ⊢
    obtain ⟨subscriber, hm, _, rfl⟩ := mem_obey hw
    exact h.accepted subscriber hm
  | none =>
    obtain ⟨version, request, rfl⟩ := message.client_of_command hc
    rw [turn_client, handleClient_eq] at hw
    rw [List.mem_singleton.mp hw]
    exact Nat.lt_succ_self _

lemma accepted_le_turn (self : Broker) (input : Io × BrokerMessage) :
    self.accepted ≤ (self.turn input).2.accepted := by
  obtain ⟨io, message⟩ := input
  cases message with
  | client version request => exact Nat.le_succ _
  | _ => exact le_rfl

lemma Apart.seen_turn (h : Apart self) {writes : List Write}
    (hs : ∀ write ∈ writes, write.stream < self.accepted) (input : Io × BrokerMessage) :
    ∀ write ∈ writes ++ (self.turn input).1, write.stream < (self.turn input).2.accepted := by
  intro write hw
  rcases List.mem_append.mp hw with hw | hw
  · exact (hs write hw).trans_le (self.accepted_le_turn input)
  · exact h.mem_turn hw

/-- The connections the broker knows are told apart, and each subscriber's replica mirrors the
public state. -/
structure Follows (broker : Broker) (writes : List Write) : Prop where
  seen : ∀ write ∈ writes, write.stream < broker.accepted
  streams : (broker.state.subscribers.map (·.stream)).Nodup
  accepted : ∀ subscriber ∈ broker.state.subscribers, subscriber.stream < broker.accepted
  mirrors : ∀ subscriber ∈ broker.state.subscribers,
    (replica (sent writes subscriber.stream)).Mirrors broker.state.primary
  distinct : (broker.state.windows.map Window.id).Nodup

lemma Follows.apart {writes : List Write} (h : Follows self writes) : Apart self :=
  ⟨h.streams, h.accepted⟩

def DistinctIds (input : Io × BrokerMessage) : Prop :=
  ∀ windows, input.2 = .publish windows → (windows.map Window.id).Nodup

variable {writes : List Write}

lemma DistinctIds.command {io : Io} {message : BrokerMessage} (hd : DistinctIds (io, message))
    {command : Command (List Window) String} (hc : message.command = some command) :
    ∀ windows, command = .publish windows → (windows.map Window.id).Nodup := by
  rintro windows rfl
  cases message with
  | publish windows' =>
    obtain rfl : windows' = windows := by simpa [BrokerMessage.command] using hc
    exact hd windows' rfl
  | _ => simp [BrokerMessage.command] at hc

lemma Follows.mirrors_command (h : Follows self writes) (io : Io) {message : BrokerMessage}
    (hd : DistinctIds (io, message)) {command : Command (List Window) String}
    (hc : message.command = some command) {subscriber : Subscriber}
    (hm : subscriber ∈ self.state.subscribers) :
    (replica (sent (writes ++ (self.turn (io, message)).1) subscriber.stream)).Mirrors
      (self.state.primary.step diffWindows "" command).2 := by
  rw [self.turn_command io hc, sent_append, sent_obey self.state io command h.streams,
    if_pos (List.mem_map_of_mem hm), replica_update]
  refine (h.mirrors subscriber hm).step command fun windows hw _ => ?_
  exact foldl_apply_diffWindows h.distinct (hd.command hc windows hw)

lemma Follows.mirrors_client (h : Follows self writes) (io : Io) (version : UInt32)
    (request : Request) {subscriber : Subscriber}
    (hm : subscriber ∈ (self.turn (io, .client version request)).2.state.subscribers) :
    (replica (sent (writes ++ (self.turn (io, .client version request)).1)
      subscriber.stream)).Mirrors self.state.primary := by
  rw [turn_client, handleClient_eq] at hm ⊢
  set reply : Write := ⟨self.accepted, version, self.state.reply io request⟩ with hreply
  have hold {subscriber : Subscriber} (hm : subscriber ∈ self.state.subscribers) :
      (replica (sent (writes ++ [reply]) subscriber.stream)).Mirrors self.state.primary := by
    have hsame : sent (writes ++ [reply]) subscriber.stream = sent writes subscriber.stream := by
      simp [sent, hreply, (h.accepted subscriber hm).ne']
    rw [hsame]
    exact h.mirrors subscriber hm
  split_ifs at hm with hs
  · rcases List.mem_append.mp hm with hm | hm
    · exact hold (List.mem_of_mem_filter hm)
    · have hnew : sent (writes ++ [reply]) self.accepted =
          [Message.ofUpdate self.state.primary.greeting] := by
        rw [sent_append, sent_eq_nil h.seen]
        simp [sent, hreply, hs.1, BrokerState.reply]
      rw [List.mem_singleton.mp hm, hnew]
      have hg := Replica.mirrors_greeting patch (replica []) self.state.primary
      rwa [← fold_ofUpdate, ← replica_concat] at hg
  · exact hold hm

lemma Follows.mirrors_turn (h : Follows self writes) {input : Io × BrokerMessage}
    (hd : DistinctIds input) {subscriber : Subscriber}
    (hm : subscriber ∈ (self.turn input).2.state.subscribers) :
    (replica (sent (writes ++ (self.turn input).1) subscriber.stream)).Mirrors
      (self.turn input).2.state.primary := by
  obtain ⟨io, message⟩ := input
  rw [turn_primary]
  cases hc : message.command with
  | some command =>
    refine h.mirrors_command io hd hc ?_
    rw [turn_command self io hc] at hm
    exact (self.state.subscribers_obey io command).subset hm
  | none =>
    obtain ⟨version, request, rfl⟩ := message.client_of_command hc
    exact h.mirrors_client io version request hm

lemma distinct_turn (h : (self.state.windows.map Window.id).Nodup) {input : Io × BrokerMessage}
    (hd : DistinctIds input) : ((self.turn input).2.state.windows.map Window.id).Nodup := by
  obtain ⟨io, message⟩ := input
  cases hc : message.command with
  | some command =>
    rw [turn_command self io hc]
    exact distinct_obey h io (hd.command hc)
  | none =>
    obtain ⟨version, request, rfl⟩ := message.client_of_command hc
    rw [turn_client, handleClient_eq]
    split_ifs <;> exact h

lemma Follows.turn (h : Follows self writes) {input : Io × BrokerMessage} (hd : DistinctIds input) :
    Follows (self.turn input).2 (writes ++ (self.turn input).1) where
  seen := h.apart.seen_turn h.seen input
  streams := (h.apart.turn input).streams
  accepted := (h.apart.turn input).accepted
  mirrors _ hm := h.mirrors_turn hd hm
  distinct := distinct_turn h.distinct hd

lemma written_concat (inputs : List (Io × BrokerMessage)) (input : Io × BrokerMessage) :
    written (inputs ++ [input]) = written inputs ++ ((after inputs).turn input).1 := by
  simp [written]

lemma after_concat (inputs : List (Io × BrokerMessage)) (input : Io × BrokerMessage) :
    after (inputs ++ [input]) = ((after inputs).turn input).2 := by
  simp

lemma follows (inputs : List (Io × BrokerMessage)) (hd : ∀ input ∈ inputs, DistinctIds input) :
    Follows (after inputs) (written inputs) := by
  induction inputs using List.reverseRecOn with
  | nil => exact ⟨by simp [written], List.nodup_nil, by simp [default, BrokerState.default],
      by simp [default, BrokerState.default], List.nodup_nil⟩
  | append_singleton inputs input ih =>
    rw [after_concat, written_concat]
    exact (ih fun x hx => hd x (List.mem_append_left _ hx)).turn (hd input (by simp))

end Broker

end Melibea
